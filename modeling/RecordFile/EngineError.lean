/-
Failures of the store, from the file up to a session.

A failure names its cause, and `message` is its text. Only `mapFull` can be cleared by
growing the map; a session that gave up on it reports `retryLimit` around it.
-/

import RecordFile.Fault
import RecordFile.SystemError

namespace RecordFile

inductive EngineError where
  | io (cause : SystemError)
  /-- A write needs `needed` bytes, header included, and has `limit`. -/
  | mapFull (needed limit : Nat)
  | mapResized (size : UInt64)
  /-- The key is present and may not be overwritten. -/
  | keyExists
  | readOnly
  | invalid (fault : Fault)
  /-- The bulk transaction was discarded and the map has grown. -/
  | retry
  /-- The retry budget is spent; `source` is the last failure. -/
  | retryLimit (limit : Nat) (source : EngineError)
  | notOpen
  deriving DecidableEq, Repr

namespace EngineError

def message : EngineError → String
  | io cause => s!"I/O error: {cause.message}"
  | mapFull needed limit => s!"map full: {needed} bytes needed, map size {limit}"
  | mapResized size => s!"map resized by another process to {size} bytes"
  | keyExists => "key exists"
  | readOnly => "environment is read-only"
  | invalid fault => s!"invalid database: {fault.message}"
  | retry => "bulk transaction restarted after map growth"
  | retryLimit limit source => s!"retry limit {limit} exceeded: {source.message}"
  | notOpen => "session is not open"

def isMapFull : EngineError → Bool
  | mapFull _ _ => true
  | _ => false

end EngineError

end RecordFile
