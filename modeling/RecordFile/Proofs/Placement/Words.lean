/-
Admission and placement agree in sixty-four bits.

Both are what the numbers without bound say: the capacity for any words at all, the place when
the live payload lies behind the header. The capacity leaves out the header and grows with the
map.
-/

import RecordFile.Placement.Words
import RecordFile.Proofs.Placement

namespace RecordFile.Placement

theorem toNat_eq_zero_iff {word : UInt64} : word.toNat = 0 ↔ word = 0 :=
  UInt64.toNat_inj (b := 0)

/-! ### Capacity -/

theorem toNat_capacityWord (mapSize liveOffset liveLength : UInt64) :
    (capacityWord mapSize liveOffset liveLength).toNat =
      capacity mapSize.toNat liveOffset.toNat liveLength.toNat := by
  have small := mapSize.toNat_lt_size
  unfold capacityWord capacity
  by_cases nothing : liveLength = 0
  · rw [if_pos nothing, if_pos (toNat_eq_zero_iff.mpr nothing)]
    simp only [Word.toNat_subtractSaturating, Word.toNat_headerSize]
  · rw [if_neg nothing, if_neg (mt toNat_eq_zero_iff.mp nothing)]
    simp only [toNat_max, Word.toNat_subtractSaturating, Word.toNat_addSaturating,
      Word.toNat_headerSize]
    omega

theorem capacity_le {mapSize liveOffset liveLength : Nat}
    (behind : Layout.headerSize ≤ liveOffset) (inside : liveOffset + liveLength ≤ mapSize) :
    capacity mapSize liveOffset liveLength ≤ mapSize - Layout.headerSize := by
  unfold capacity
  split
  · exact Nat.le_refl _
  · omega

theorem capacity_mono {mapSize larger : Nat} (enlarged : mapSize ≤ larger)
    (liveOffset liveLength : Nat) :
    capacity mapSize liveOffset liveLength ≤ capacity larger liveOffset liveLength := by
  unfold capacity
  split
  · omega
  · omega

/-! ### Placement -/

/-- The sum of header and payload that does not fit into a word lies beyond every map. -/
theorem placeWord?_eq {liveOffset : UInt64} (behind : Layout.headerSize ≤ liveOffset.toNat)
    (mapSize liveLength length : UInt64) :
    (placeWord? mapSize liveOffset liveLength length).map UInt64.toNat =
      place? mapSize.toNat liveOffset.toNat liveLength.toNat length.toNat := by
  have mapSmall := mapSize.toNat_lt_size
  have liveSmall := liveOffset.toNat_lt_size
  unfold placeWord? place?
  cases low : Word.add? Word.headerSize length with
  | none =>
      have far := Word.add?_eq_none_iff.mp low
      rw [Word.toNat_headerSize] at far
      simp only [bind, Option.bind_none, Option.map_none]
      split
      · rw [if_neg (by omega)]
      · rw [if_neg (by omega)]
  | some lowStop =>
      have stop := Word.add?_eq_some_iff.mp low
      rw [Word.toNat_headerSize] at stop
      simp only [bind, Option.bind_some, UInt64.le_iff_toNat_le, ← toNat_eq_zero_iff, stop]
      split
      · split
        · rfl
        · rfl
      · cases top : Word.subtract? mapSize length with
        | none =>
            have beyond := Word.subtract?_eq_none_iff.mp top
            rw [Option.bind_none, Option.map_none, if_neg (by omega)]
        | some high =>
            have flush := Word.subtract?_eq_some_iff.mp top
            have same : mapSize.toNat - length.toNat = high.toNat := by omega
            rw [Option.bind_some, same]
            cases summed : Word.add? liveOffset liveLength with
            | none =>
                have far := Word.add?_eq_none_iff.mp summed
                rw [Option.bind_none, Option.map_none, if_neg (by omega)]
            | some liveStop =>
                have ends := Word.add?_eq_some_iff.mp summed
                have inside : length.toNat ≤ mapSize.toNat := by omega
                rw [Option.bind_some, ends]
                simp only [inside, true_and]
                split
                · rfl
                · rfl

/-! ### One boundary -/

/-- What the words say of a map and a live payload in it: what is admitted has a place that is
free, and the capacity leaves out the header and is not less in a larger map. -/
structure Agree (mapSize liveOffset liveLength : UInt64) : Prop where
  capacity_eq : (capacityWord mapSize liveOffset liveLength).toNat =
    capacity mapSize.toNat liveOffset.toNat liveLength.toNat
  place_eq : ∀ length, (placeWord? mapSize liveOffset liveLength length).map UInt64.toNat =
    place? mapSize.toNat liveOffset.toNat liveLength.toNat length.toNat
  admits_iff : ∀ length, (placeWord? mapSize liveOffset liveLength length).isSome = true ↔
    length ≤ capacityWord mapSize liveOffset liveLength
  free : ∀ length offset, placeWord? mapSize liveOffset liveLength length = some offset →
    Free mapSize.toNat liveOffset.toNat liveLength.toNat length.toNat offset.toNat
  capacity_le : capacityWord mapSize liveOffset liveLength ≤ mapSize - Word.headerSize
  capacity_mono : ∀ larger, mapSize ≤ larger →
    capacityWord mapSize liveOffset liveLength ≤ capacityWord larger liveOffset liveLength

theorem agree {mapSize liveOffset liveLength : UInt64}
    (large : Layout.headerSize ≤ mapSize.toNat) (behind : Layout.headerSize ≤ liveOffset.toNat)
    (inside : liveOffset.toNat + liveLength.toNat ≤ mapSize.toNat) :
    Agree mapSize liveOffset liveLength := by
  have placed := placeWord?_eq behind mapSize liveLength
  constructor
  · exact toNat_capacityWord mapSize liveOffset liveLength
  · exact placed
  · intro length
    have boundary : (place? mapSize.toNat liveOffset.toNat liveLength.toNat
        length.toNat).isSome = true ↔ _ := place?_isSome_iff large behind inside
    rw [← placed length, Option.isSome_map, ← toNat_capacityWord] at boundary
    rw [boundary, UInt64.le_iff_toNat_le]
  · intro length offset found
    apply free_of_place? behind
    rw [← placed length, found, Option.map_some]
  · have header : Word.headerSize ≤ mapSize := UInt64.le_iff_toNat_le.mpr large
    rw [UInt64.le_iff_toNat_le, toNat_capacityWord, UInt64.toNat_sub_of_le _ _ header,
      Word.toNat_headerSize]
    exact Placement.capacity_le behind inside
  · intro larger enlarged
    rw [UInt64.le_iff_toNat_le] at enlarged ⊢
    rw [toNat_capacityWord, toNat_capacityWord]
    exact Placement.capacity_mono enlarged _ _

end RecordFile.Placement
