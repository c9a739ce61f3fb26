/-
Advisory locks on one file.

Each open descriptor holds at most one lock. Acquiring converts the lock it holds, and
releasing drops it whatever its strength. Any number of descriptors may hold shared locks,
an exclusive lock excludes all others. Whoever asks for a lock that others exclude has to
wait; `grantable` tells whether that is so, and `acquire` is the state once it is granted.
-/

namespace RecordFile

abbrev Descriptor := Nat

inductive LockMode where
  | shared
  | exclusive
  deriving DecidableEq, Repr

namespace LockMode

def name : LockMode → String
  | shared => "shared"
  | exclusive => "exclusive"

def ofName? : String → Option LockMode
  | "shared" => some shared
  | "exclusive" => some exclusive
  | _ => none

end LockMode

abbrev Locks := List (Descriptor × LockMode)

namespace Locks

def none : Locks := []

def held? (locks : Locks) (descriptor : Descriptor) : Option LockMode :=
  (locks.find? (·.1 == descriptor)).map (·.2)

def release (locks : Locks) (descriptor : Descriptor) : Locks :=
  locks.filter (·.1 != descriptor)

def acquire (locks : Locks) (descriptor : Descriptor) (mode : LockMode) : Locks :=
  (descriptor, mode) :: release locks descriptor

def grantable (locks : Locks) (descriptor : Descriptor) (mode : LockMode) : Bool :=
  (release locks descriptor).all fun other => mode == .shared && other.2 == .shared

def strongest? (locks : Locks) : Option LockMode :=
  if locks.any (·.2 == .exclusive) then some .exclusive
  else if locks.isEmpty then Option.none
  else some .shared

theorem held?_release_self (locks : Locks) (descriptor : Descriptor) :
    held? (release locks descriptor) descriptor = Option.none := by
  simp [held?, release, List.find?_filter]

theorem held?_release_of_ne (locks : Locks) {descriptor other : Descriptor}
    (different : other ≠ descriptor) :
    held? (release locks descriptor) other = held? locks other := by
  unfold held? release
  rw [List.find?_filter]
  congr 2
  funext lock
  by_cases same : lock.1 = other
  · simp [same, different]
  · simp [same]

theorem held?_acquire_self (locks : Locks) (descriptor : Descriptor) (mode : LockMode) :
    held? (acquire locks descriptor mode) descriptor = some mode := by
  simp [held?, acquire]

theorem held?_acquire_of_ne (locks : Locks) (mode : LockMode) {descriptor other : Descriptor}
    (different : other ≠ descriptor) :
    held? (acquire locks descriptor mode) other = held? locks other := by
  rw [← held?_release_of_ne locks different]
  simp [held?, acquire, different.symm]

end Locks

end RecordFile
