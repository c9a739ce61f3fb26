/-
Stand-ins for dictionaries that could not be opened, and handles that are one or the other.

A stand-in answers every operation with the failure of the open, so that the failure shows
where the dictionary is used. Closing it succeeds.
-/

import RecordFile.Dictionary.Basic

namespace RecordFile

structure Surrogate where
  name : String
  flags : DictionaryFlags
  /-- What every operation reports. -/
  message : String
  deriving DecidableEq, Repr

namespace Surrogate

def ofFailure (path : String) (flags : DictionaryFlags) (failure : OpenError) : Surrogate where
  name := path
  flags := flags
  message := Dictionary.labelOf path ++ " is unavailable. " ++ failure.message

def label (surrogate : Surrogate) : String :=
  Dictionary.labelOf surrogate.name

def failure (surrogate : Surrogate) : DictionaryError :=
  .unavailable surrogate.message

end Surrogate

inductive DictionaryHandle where
  | live (dict : Dictionary)
  | surrogate (surrogate : Surrogate)

namespace DictionaryHandle

def live? : DictionaryHandle → Option Dictionary
  | live dict => some dict
  | surrogate _ => none

def name : DictionaryHandle → String
  | live dict => dict.name
  | surrogate stand => stand.name

def flags : DictionaryHandle → DictionaryFlags
  | live dict => dict.currentFlags
  | surrogate stand => stand.flags

/-- A handle for what came of an open, with the line to log. Only a failure of the engine
is stood in for. -/
def ofOpen (path : String) (flags : DictionaryFlags) :
    Except OpenError Dictionary → Except OpenError DictionaryHandle × List LogLine
  | .ok dict => (.ok (.live dict), [])
  | .error failure =>
      if failure.isFatal then (.error failure, [])
      else
        let stand := Surrogate.ofFailure path flags failure
        (.ok (.surrogate stand), [⟨.warn, stand.message⟩])

end DictionaryHandle

end RecordFile
