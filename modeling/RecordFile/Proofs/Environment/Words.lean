/-
Beginning and committing do not wrap.

No environment maps more than a file can have, and what it has read lies in what it maps. So the
limit of a transaction fits into a word, and every length that its payload gets fits with room to
spare. The place that is found for a payload is inside the mapping, and the records fill it to the
last byte, so a commit comes to the same in sixty-four bits.
-/

import RecordFile.Environment.Words
import RecordFile.Proofs.Environment.Headers
import RecordFile.Proofs.Placement.Words
import RecordFile.Proofs.Records.Buffer
import RecordFile.Proofs.Transaction.Words

namespace RecordFile.Environment

open Image (Narrow)

variable {env env' : Environment} {file : Image} {header : Header} {txn : Transaction}
  {offset length : UInt64}

/-! ### Transactions -/

theorem Moderate.transaction (moderate : env.Moderate) (read : env.snapshot.generation? ≠ none) :
    env.transaction.Moderate := by
  have behind := moderate.behind read
  have inside := moderate.inside read
  have short := moderate.mapSize_le
  have room := Placement.capacity_le behind inside
  constructor
  · change Layout.headerSize + env.snapshot.dataLength ≤ Image.longest
    omega
  · change Layout.headerSize + Placement.capacity _ _ _ ≤ Image.longest
    omega

end RecordFile.Environment
