/-
Switches of a dictionary handle, and what an update does to a key that exists.
-/

namespace RecordFile

structure DictionaryFlags where
  /-- Look for terminated keys. -/
  tryTerminated : Bool := false
  /-- Look for bare keys. -/
  tryBare : Bool := false
  /-- Lowercase names before use. -/
  foldCase : Bool := false
  /-- Lock the file around every operation. -/
  lock : Bool := false
  /-- Collect writes in one transaction. -/
  bulk : Bool := false
  /-- Everybody can read the file, so it is written through the mapping. -/
  worldReadable : Bool := false
  duplicateReplace : Bool := false
  duplicateIgnore : Bool := false
  duplicateWarn : Bool := false
  deriving DecidableEq, Repr

inductive DuplicatePolicy where
  | replace
  /-- Keep the stored value. -/
  | ignore
  /-- Keep the stored value and log a warning. -/
  | warn
  /-- Fail. -/
  | fatal
  deriving DecidableEq, Repr

namespace DuplicatePolicy

def name : DuplicatePolicy → String
  | replace => "replace"
  | ignore => "ignore"
  | warn => "warn"
  | fatal => "fatal"

def overwrites : DuplicatePolicy → Bool
  | replace => true
  | _ => false

end DuplicatePolicy

namespace DictionaryFlags

def named (flags : DictionaryFlags) : List (String × Nat × Bool) :=
  [("TRY1NULL", 1, flags.tryTerminated), ("TRY0NULL", 2, flags.tryBare),
    ("FOLD_FIX", 4, flags.foldCase), ("LOCK", 8, flags.lock),
    ("BULK_UPDATE", 16, flags.bulk), ("WORLD_READ", 32, flags.worldReadable),
    ("DUP_REPLACE", 64, flags.duplicateReplace), ("DUP_IGNORE", 128, flags.duplicateIgnore),
    ("DUP_WARN", 256, flags.duplicateWarn)]

def bits (flags : DictionaryFlags) : Nat :=
  flags.named.foldl (fun bits flag => if flag.2.2 then bits + flag.2.1 else bits) 0

def names (flags : DictionaryFlags) : List String :=
  (flags.named.filter (·.2.2)).map (·.1)

def set? (flags : DictionaryFlags) : String → Option DictionaryFlags
  | "TRY1NULL" => some { flags with tryTerminated := true }
  | "TRY0NULL" => some { flags with tryBare := true }
  | "FOLD_FIX" => some { flags with foldCase := true }
  | "LOCK" => some { flags with lock := true }
  | "BULK_UPDATE" => some { flags with bulk := true }
  | "WORLD_READ" => some { flags with worldReadable := true }
  | "DUP_REPLACE" => some { flags with duplicateReplace := true }
  | "DUP_IGNORE" => some { flags with duplicateIgnore := true }
  | "DUP_WARN" => some { flags with duplicateWarn := true }
  | _ => none

def ofNames? (names : List String) : Option DictionaryFlags :=
  names.foldlM set? {}

def all (flags : DictionaryFlags) : Bool :=
  flags.named.all (·.2.2)

/-- Replacing wins over ignoring, and ignoring over warning. -/
def policy (flags : DictionaryFlags) : DuplicatePolicy :=
  if flags.duplicateReplace then .replace
  else if flags.duplicateIgnore then .ignore
  else if flags.duplicateWarn then .warn
  else .fatal

end DictionaryFlags

end RecordFile
