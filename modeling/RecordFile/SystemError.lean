/-
Failures of the file system and of descriptors, with the text users see.
-/

namespace RecordFile

inductive SystemError where
  | noEntry
  | badDescriptor
  | alreadyExists
  | notDirectory
  | isDirectory
  | nameTooLong
  | invalidArgument
  /-- A length of a file that is no signed 64-bit number. -/
  | lengthTooLarge
  /-- A length of a mapping that is no signed 64-bit number. -/
  | mappingTooLarge
  /-- A mapping that there is no gap of addresses for. -/
  | outOfAddresses
  /-- A file name with a zero byte in it. -/
  | zeroInName
  /-- A failure known only by its text. -/
  | stated (text : String)
  deriving DecidableEq, Repr

namespace SystemError

def message : SystemError → String
  | noEntry => "No such file or directory (os error 2)"
  | badDescriptor => "Bad file descriptor (os error 9)"
  | alreadyExists => "File exists (os error 17)"
  | notDirectory => "Not a directory (os error 20)"
  | isDirectory => "Is a directory (os error 21)"
  | nameTooLong => "File name too long (os error 36)"
  | invalidArgument => "Invalid argument (os error 22)"
  | lengthTooLarge => "number too large to fit in target type"
  | mappingTooLarge => "memory map length overflows isize"
  | outOfAddresses => "Cannot allocate memory (os error 12)"
  | zeroInName => "file name contained an unexpected NUL byte"
  | stated text => text

end SystemError

end RecordFile
