/-
How a database file is opened, as independent switches.
-/

namespace RecordFile

structure OpenFlags where
  /-- Open for reading only; every write is refused. -/
  readOnly : Bool := false
  /-- Write commits through the mapping. -/
  writeMap : Bool := false
  /-- Create the file if there is none. -/
  create : Bool := false
  /-- Discard all records at open. -/
  truncate : Bool := false
  deriving DecidableEq, Repr

namespace OpenFlags

def named (flags : OpenFlags) : List (String × Nat × Bool) :=
  [("READ_ONLY", 1, flags.readOnly), ("WRITE_MAP", 2, flags.writeMap),
    ("CREATE", 4, flags.create), ("TRUNCATE", 8, flags.truncate)]

def bits (flags : OpenFlags) : Nat :=
  flags.named.foldl (fun bits flag => if flag.2.2 then bits + flag.2.1 else bits) 0

def names (flags : OpenFlags) : List String :=
  (flags.named.filter (·.2.2)).map (·.1)

def set? (flags : OpenFlags) : String → Option OpenFlags
  | "READ_ONLY" => some { flags with readOnly := true }
  | "WRITE_MAP" => some { flags with writeMap := true }
  | "CREATE" => some { flags with create := true }
  | "TRUNCATE" => some { flags with truncate := true }
  | _ => none

def ofNames? (names : List String) : Option OpenFlags :=
  names.foldlM set? {}

def mapsWritable (flags : OpenFlags) : Bool :=
  flags.writeMap && !flags.readOnly

end OpenFlags

end RecordFile
