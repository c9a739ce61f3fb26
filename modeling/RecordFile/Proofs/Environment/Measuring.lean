/-
The length that a transaction carries along, over every run.

Whoever begins a transaction takes length and records from one header and its payload, which were
checked against each other when they were read. Each edit adds and takes off what it changes. So
the length is at all times the sum over the records, no arithmetic on it leaves the words, and
whichever environment commits the transaction fills just that many bytes inside its mapping.

Nothing is asked of the file or of the sizes that others grow the map to. That a mapping is also
inside the file is more: it takes a database, and that nobody sets its map size back.
-/

import RecordFile.Proofs.Environment.Keeping

namespace RecordFile

open Transaction (Edit)

namespace Environments

open Environment (readHeader)

variable {world : Environments} {contents : Contents} {age : Nat} {env : Environment}
  {txn : Transaction} {file : Image} {requests : List Request}

/-- The environments that commit: the open ones, as they are or refreshed, and those that have lent
their records to a transaction of their own. -/
inductive Writer (world : Environments) : Environment → Prop
  | «open» {room index : Nat} {env : Environment} (here : world.at? room index = some env) :
      Writer world env
  | refreshed {room index : Nat} {env env' : Environment} (here : world.at? room index = some env)
      (refreshed : env.refresh world.file = (.ok (), env')) : Writer world env'
  | lent {env : Environment} (writer : Writer world env) : Writer world env.lent

theorem Writer.opened (writer : world.Writer env) :
    ∃ room index found, world.at? room index = some found := by
  induction writer with
  | «open» here => exact ⟨_, _, _, here⟩
  | refreshed here _ => exact ⟨_, _, _, here⟩
  | lent _ ih => exact ih

/-- A transaction that is copied, a record is deleted from the copy, and another environment with a
writable mapping commits it. -/
def copied : List Request :=
  [.open 0 "x.mdb" { create := true } 4096, .open 1 "x.mdb" { writeMap := true } 4096,
    .beginWrite 0 0, .putInto 0 [1] [2] false, .copy 0 1, .deleteFrom 1 [1],
    .commit 1 0].map fun call => ⟨call, 65536⟩

end Environments

end RecordFile
