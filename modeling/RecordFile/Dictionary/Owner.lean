/-
Who owns a database file, and whether that is a reason to trust it.
-/

namespace RecordFile

inductive OwnerStatus where
  | trusted
  | untrusted
  deriving DecidableEq, Repr

structure Owner where
  user : Nat
  status : OwnerStatus
  deriving DecidableEq, Repr

namespace OwnerStatus

def name : OwnerStatus → String
  | trusted => "trusted"
  | untrusted => "untrusted"

end OwnerStatus

/-- The owner with a user number. Only the superuser, number zero, is trusted. -/
def Owner.ofUser (user : Nat) : Owner where
  user := user
  status := if user = 0 then .trusted else .untrusted

end RecordFile
