/-
Settings of dictionary handles, and their text.
-/

import RecordFile.Dictionary.Form

namespace RecordFile

structure DictionaryConfig where
  /-- Map size of a new database. -/
  mapSize : UInt64 := 8192
  /-- Log changes of the map size. -/
  verbose : Bool := false
  /-- The form that an undecided handle writes. -/
  defaultForm : Form := .bare
  /-- A source file is only reported as newer once it is this many seconds old. -/
  staleGraceSeconds : UInt64 := 100
  deriving DecidableEq, Repr

namespace DictionaryConfig

def withMapSize (config : DictionaryConfig) (size : UInt64) : DictionaryConfig :=
  { config with mapSize := size }

def withVerbose (config : DictionaryConfig) (verbose : Bool) : DictionaryConfig :=
  { config with verbose := verbose }

def withDefaultForm (config : DictionaryConfig) (form : Form) : DictionaryConfig :=
  { config with defaultForm := form }

def withStaleGrace (config : DictionaryConfig) (milliseconds : UInt64) : DictionaryConfig :=
  { config with staleGraceSeconds := milliseconds / 1000 }

/-- The grace period in nanoseconds. -/
def staleGrace (config : DictionaryConfig) : Nat :=
  config.staleGraceSeconds.toNat * 1000000000

def render (config : DictionaryConfig) : String :=
  "\x7b\"map_size\":" ++ toString config.mapSize
    ++ ",\"verbose\":" ++ (if config.verbose then "true" else "false")
    ++ ",\"default_form\":\"" ++ config.defaultForm.name
    ++ "\",\"stale_grace_secs\":" ++ toString config.staleGraceSeconds ++ "\x7d"

end DictionaryConfig

end RecordFile
