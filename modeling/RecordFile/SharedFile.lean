/-
A file as all its users share it: contents, time of the last change and locks.

It also keeps a record of the engine calls that dictionaries made on it, newest first,
each with the lock that the caller's descriptor held at that moment. Nothing depends on
that record; it lets lock discipline be stated.
-/

import RecordFile.Image
import RecordFile.Lock

namespace RecordFile

inductive EngineCall where
  | get
  | put
  | delete
  | seek
  | commit
  | close
  deriving DecidableEq, Repr

structure Access where
  descriptor : Descriptor
  call : EngineCall
  /-- The lock that the descriptor held during the call. -/
  lock? : Option LockMode
  deriving DecidableEq, Repr

structure SharedFile where
  image : Image
  /-- Nanoseconds since the epoch. -/
  modified : Nat
  locks : Locks
  accesses : List Access

namespace SharedFile

def empty (now : Nat) : SharedFile where
  image := Image.empty
  modified := now
  locks := Locks.none
  accesses := []

def acquire (file : SharedFile) (descriptor : Descriptor) (mode : LockMode) : SharedFile :=
  { file with locks := file.locks.acquire descriptor mode }

def release (file : SharedFile) (descriptor : Descriptor) : SharedFile :=
  { file with locks := file.locks.release descriptor }

/-- The state after an operation, with the time of the last change if there was one. -/
def touch (before after : SharedFile) (now : Nat) : SharedFile :=
  if after.image.changes = before.image.changes then after else { after with modified := now }

def replace (file : SharedFile) (image : Image) (now : Nat) : SharedFile :=
  file.touch { file with image := image } now

end SharedFile

end RecordFile
