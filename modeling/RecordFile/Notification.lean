/-
Changes of the map size, as they are reported to whoever listens to a session.
-/

namespace RecordFile

inductive Notification where
  | opened (limit : UInt64)
  /-- This session grew the map because a write did not fit. -/
  | mapFull (limit : UInt64)
  /-- Somebody else grew the map. -/
  | mapResized (limit : UInt64)
  /-- All reader slots are taken. A store without such slots never reports it. -/
  | readersFull
  deriving DecidableEq, Repr

end RecordFile
