/-
A transaction in sixty-four bits is the one without bound.

Header and payload of a transaction stay below the longest length of a file, and a single record
is far shorter than what is left to the end of the words. The length of a sound transaction
contains the lengths of all its records, so what is taken off is there. Hence no write wraps.
-/

import RecordFile.Image
import RecordFile.Proofs.Transaction.Edits
import RecordFile.Transaction.Words

namespace RecordFile.Transaction

structure Moderate (txn : Transaction) : Prop where
  dataLength_le : Layout.headerSize + txn.dataLength ≤ Image.longest
  limit_le : txn.limit ≤ Image.longest

variable {txn : Transaction}

theorem Moderate.edit (moderate : txn.Moderate) (edit : Edit) : (txn.edit edit).Moderate := by
  have limit := moderate.limit_le
  have length := moderate.dataLength_le
  constructor
  · rcases txn.edit_within_or_le edit with within | shorter
    · unfold Within at within
      rw [limit_edit] at within
      exact Nat.le_trans within limit
    · omega
  · rw [limit_edit]
    exact limit

/-- What a put leaves behind: the new transaction, or the one there was. -/
def leaves (txn : Transaction) : Except EngineError Transaction → Except EngineError Unit × Words
  | .ok after => (.ok (), after.toWords)
  | .error failure => (.error failure, txn.toWords)

end RecordFile.Transaction
