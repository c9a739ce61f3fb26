/-
Paths on a volume.

A path is a sequence of names between slashes. Empty names and single dots stay in a
directory, two dots leave it, and the top directory is its own parent. A slash at the end
asks for a directory. Nothing outside the volume exists.
-/

import RecordFile.SystemError

namespace RecordFile.Volume

abbrev Place := List String

inductive Kind where
  | directory
  | file
  deriving DecidableEq, Repr

def longestName : Nat := 255

def longestPath : Nat := 4095

def names (path : String) : List String :=
  (path.splitOn "/").filter (· != "")

/-- Follow names from a place. All but the last have to lead to directories. -/
def follow (kind? : Place → Option Kind) : Place → List String → Except SystemError Place
  | place, [] => .ok place
  | place, name :: rest =>
      match kind? place with
      | none => .error .noEntry
      | some .file => .error .notDirectory
      | some .directory =>
          if name == "." then follow kind? place rest
          else if name == ".." then follow kind? place.dropLast rest
          else if longestName < name.utf8ByteSize then .error .nameTooLong
          else follow kind? (place ++ [name]) rest

/-- Follow names that were taken from a path, if the path as a whole is one. -/
def enter (kind? : Place → Option Kind) (path : String) (names : List String) :
    Except SystemError Place :=
  if path.contains '\x00' then .error .zeroInName
  else if path.isEmpty || path.startsWith "/" then .error .noEntry
  else if longestPath < path.utf8ByteSize then .error .nameTooLong
  else follow kind? [] names

/-- The place that a path leads to. There need not be anything yet. A slash at the end stands
for a dot after it. -/
def resolve (kind? : Place → Option Kind) (path : String) : Except SystemError Place :=
  enter kind? path (names path ++ if path.endsWith "/" then ["."] else [])

def resolveName (kind? : Place → Option Kind) (path : String) : Except SystemError Place :=
  enter kind? path (names path)

def resolveParent (kind? : Place → Option Kind) (path : String) : Except SystemError Place :=
  enter kind? path ((names path).dropLast ++ ["."])

end RecordFile.Volume
