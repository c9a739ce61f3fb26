/-
How a dictionary opens its database.
-/

import RecordFile.OpenFlags

namespace RecordFile

inductive OpenMode where
  | readOnly
  /-- Read and write an existing file. -/
  | readWrite
  /-- Read and write, creating the file if there is none. -/
  | create
  /-- As `create`, and discard all records. -/
  | truncate
  deriving DecidableEq, Repr

namespace OpenMode

def ofName? : String → Option OpenMode
  | "read_only" => some readOnly
  | "read_write" => some readWrite
  | "create" => some create
  | "truncate" => some truncate
  | _ => none

def openFlags : OpenMode → OpenFlags
  | readOnly => { readOnly := true }
  | readWrite => {}
  | create => { create := true }
  | truncate => { create := true, truncate := true }

def canWrite : OpenMode → Bool
  | readOnly => false
  | _ => true

end OpenMode

end RecordFile
