/-
Failures of dictionary operations, and of opening a dictionary.

A failure is fatal when the host process is expected to end. A database that the engine
could not open and a bulk load that has to start over are not.
-/

import RecordFile.EngineError

namespace RecordFile

inductive EngineAction where
  | reading
  | updating
  | deletingFrom
  | seeking
  | committing
  | closing
  deriving DecidableEq, Repr

def EngineAction.text : EngineAction → String
  | reading => "reading"
  | updating => "updating"
  | deletingFrom => "deleting from"
  | seeking => "seeking"
  | committing => "committing"
  | closing => "closing"

inductive DictionaryError where
  /-- The database could not be opened; the text says why. -/
  | unavailable (text : String)
  | lock (label : String) (cause : SystemError)
  | unlock (label : String) (cause : SystemError)
  /-- The key exists, and the policy does not allow for that. -/
  | duplicate (label key : String)
  /-- The bulk transaction was discarded; the load has to start over. -/
  | retry (label : String)
  | engine (action : EngineAction) (label : String) (source : EngineError)
  deriving DecidableEq, Repr

namespace DictionaryError

def ofEngine (action : EngineAction) (label : String) (source : EngineError) : DictionaryError :=
  match source with
  | .retry => retry label
  | source => engine action label source

def message : DictionaryError → String
  | unavailable text => text
  | lock label cause => s!"{label}: lock dictionary: {cause.message}"
  | unlock label cause => s!"{label}: unlock dictionary: {cause.message}"
  | duplicate label key => label ++ ": duplicate entry: \"" ++ key ++ "\""
  | retry label => s!"{label}: bulk transaction restarted"
  | engine action label source => s!"error {action.text} {label}: {source.message}"

def isFatal : DictionaryError → Bool
  | unavailable _ => false
  | retry _ => false
  | _ => true

def isRetry : DictionaryError → Bool
  | retry _ => true
  | _ => false

end DictionaryError

inductive OpenError where
  /-- The engine could not open the file. -/
  | engine (path : String) (source : EngineError)
  | lock (path : String) (cause : SystemError)
  | metadata (path : String) (cause : SystemError)
  deriving DecidableEq, Repr

namespace OpenError

def message : OpenError → String
  | engine path source => s!"open database {path}: {source.message}"
  | lock path cause => s!"{path}: lock dictionary: {cause.message}"
  | metadata path cause => s!"{path}: fstat: {cause.message}"

def isFatal : OpenError → Bool
  | engine _ _ => false
  | _ => true

end OpenError

end RecordFile
