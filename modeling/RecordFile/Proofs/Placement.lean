/-
Where a placed payload lies.

A place that is found lies in the map, behind the header and beside the live payload.
Admission by capacity and placement agree.
-/

import RecordFile.Placement

namespace RecordFile.Placement

variable {mapSize liveOffset liveLength length offset : Nat}

theorem headerSize_le_of_place? (behind : Layout.headerSize ≤ liveOffset)
    (placed : place? mapSize liveOffset liveLength length = some offset) :
    Layout.headerSize ≤ offset := by
  unfold place? at placed
  split at placed
  · split at placed
    · cases placed
      exact Nat.le_refl _
    · cases placed
  · split at placed
    · next high =>
        cases placed
        omega
    · cases placed

theorem stop_le_of_place? (placed : place? mapSize liveOffset liveLength length = some offset) :
    offset + length ≤ mapSize := by
  unfold place? at placed
  split at placed
  · split at placed
    · next inside =>
        cases placed
        exact inside
    · cases placed
  · split at placed
    · next high =>
        cases placed
        omega
    · cases placed

/-- A new payload ends before the live one or begins behind it. -/
theorem disjoint_of_place? (live : liveLength ≠ 0)
    (placed : place? mapSize liveOffset liveLength length = some offset) :
    offset + length ≤ liveOffset ∨ liveOffset + liveLength ≤ offset := by
  unfold place? at placed
  split at placed
  · next low =>
      split at placed
      · cases placed
        exact Or.inl (low.resolve_left live)
      · cases placed
  · split at placed
    · next high =>
        cases placed
        exact Or.inr high.2
    · cases placed

structure Free (mapSize liveOffset liveLength length offset : Nat) : Prop where
  behind : Layout.headerSize ≤ offset
  inMap : offset + length ≤ mapSize
  beside : liveLength = 0 ∨ offset + length ≤ liveOffset ∨ liveOffset + liveLength ≤ offset

theorem free_of_place? (behind : Layout.headerSize ≤ liveOffset)
    (placed : place? mapSize liveOffset liveLength length = some offset) :
    Free mapSize liveOffset liveLength length offset where
  behind := headerSize_le_of_place? behind placed
  inMap := stop_le_of_place? placed
  beside := by
    by_cases live : liveLength = 0
    · exact Or.inl live
    · exact Or.inr (disjoint_of_place? live placed)

/-- No place is found only where there is none. -/
theorem not_free_of_place? (full : place? mapSize liveOffset liveLength length = none)
    (offset : Nat) : ¬ Free mapSize liveOffset liveLength length offset := by
  intro free
  have behind := free.behind
  have inMap := free.inMap
  unfold place? at full
  split at full
  · split at full
    · cases full
    · next beyond => omega
  · next high =>
      split at full
      · cases full
      · next beyond =>
          have beside := free.beside
          omega

/-- There is a place exactly for what the capacity admits. -/
theorem place?_isSome_iff (large : Layout.headerSize ≤ mapSize)
    (behind : Layout.headerSize ≤ liveOffset) (inside : liveOffset + liveLength ≤ mapSize) :
    (place? mapSize liveOffset liveLength length).isSome = true ↔
      length ≤ capacity mapSize liveOffset liveLength := by
  unfold place? capacity
  by_cases nothing : liveLength = 0
  · rw [if_pos (Or.inl nothing), if_pos nothing]
    split
    · next fits =>
        simp only [Option.isSome_some, true_iff]
        omega
    · next full =>
        simp only [Option.isSome_none, Bool.false_eq_true, false_iff]
        omega
  · rw [if_neg nothing]
    by_cases low : Layout.headerSize + length ≤ liveOffset
    · rw [if_pos (Or.inr low), if_pos (by omega)]
      simp only [Option.isSome_some, true_iff]
      omega
    · rw [if_neg (by omega)]
      split
      · next high =>
          simp only [Option.isSome_some, true_iff]
          omega
      · next full =>
          simp only [Option.isSome_none, Bool.false_eq_true, false_iff]
          omega

theorem capacity_lt_of_place? (large : Layout.headerSize ≤ mapSize)
    (behind : Layout.headerSize ≤ liveOffset) (inside : liveOffset + liveLength ≤ mapSize)
    (full : place? mapSize liveOffset liveLength length = none) :
    capacity mapSize liveOffset liveLength < length := by
  apply Nat.lt_of_not_le
  intro fits
  have found := (place?_isSome_iff large behind inside).mpr fits
  rw [full] at found
  cases found

end RecordFile.Placement
