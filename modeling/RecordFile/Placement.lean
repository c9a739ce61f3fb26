/-
Where a new payload goes beside the live one.

A commit never writes where the header in the file points, so a new payload has the gap
before the live payload and the gap after it. It goes right behind the header when it ends
before the live payload, and otherwise flush against the end of the map. An empty live
payload takes no room.
-/

import RecordFile.Layout

namespace RecordFile.Placement

/-- The largest payload for which there is room in a map beside the live payload. -/
def capacity (mapSize liveOffset liveLength : Nat) : Nat :=
  if liveLength = 0 then mapSize - Layout.headerSize
  else max (liveOffset - Layout.headerSize) (mapSize - (liveOffset + liveLength))

def place? (mapSize liveOffset liveLength length : Nat) : Option Nat :=
  if liveLength = 0 ∨ Layout.headerSize + length ≤ liveOffset then
    if Layout.headerSize + length ≤ mapSize then some Layout.headerSize else none
  else if length ≤ mapSize ∧ liveOffset + liveLength ≤ mapSize - length then
    some (mapSize - length)
  else none

end RecordFile.Placement
