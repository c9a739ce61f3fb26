/-
Admission and placement in sixty-four bits.

The capacity saturates where a difference would be below zero or a sum too large, and the place
is none where a sum does not fit.
-/

import RecordFile.Placement
import RecordFile.Word

namespace RecordFile.Placement

def capacityWord (mapSize liveOffset liveLength : UInt64) : UInt64 :=
  if liveLength = 0 then Word.subtractSaturating mapSize Word.headerSize
  else
    max (Word.subtractSaturating liveOffset Word.headerSize)
      (Word.subtractSaturating mapSize (Word.addSaturating liveOffset liveLength))

def placeWord? (mapSize liveOffset liveLength length : UInt64) : Option UInt64 := do
  let lowStop ← Word.add? Word.headerSize length
  if liveLength = 0 ∨ lowStop ≤ liveOffset then
    if lowStop ≤ mapSize then some Word.headerSize else none
  else
    let high ← Word.subtract? mapSize length
    let liveStop ← Word.add? liveOffset liveLength
    if liveStop ≤ high then some high else none

end RecordFile.Placement
