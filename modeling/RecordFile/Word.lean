/-
Sixty-four bit numbers that do not wrap.

A result that does not fit is either none or the nearest number that does.
-/

import RecordFile.Layout

namespace RecordFile

theorem toNat_max (left right : UInt64) :
    (max left right).toNat = max left.toNat right.toNat := by
  rw [Nat.max_def]
  change (if left ≤ right then right else left).toNat = _
  simp only [UInt64.le_iff_toNat_le]
  split <;> rfl

theorem left_le_max (left right : UInt64) : left ≤ max left right := by
  rw [UInt64.le_iff_toNat_le, toNat_max]
  exact Nat.le_max_left _ _

theorem right_le_max (left right : UInt64) : right ≤ max left right := by
  rw [UInt64.le_iff_toNat_le, toNat_max]
  exact Nat.le_max_right _ _

namespace Word

def headerSize : UInt64 := UInt64.ofNat Layout.headerSize

@[simp]
theorem toNat_headerSize : headerSize.toNat = Layout.headerSize := rfl

def add? (left right : UInt64) : Option UInt64 :=
  if left.toNat + right.toNat < UInt64.size then some (left + right) else none

def subtract? (left right : UInt64) : Option UInt64 :=
  if right ≤ left then some (left - right) else none

def addSaturating (left right : UInt64) : UInt64 :=
  (add? left right).getD (-1)

def subtractSaturating (left right : UInt64) : UInt64 :=
  (subtract? left right).getD 0

variable {left right result : UInt64}

theorem add?_eq_some_iff :
    add? left right = some result ↔ left.toNat + right.toNat = result.toNat := by
  unfold add?
  constructor
  · intro added
    split at added
    · next fits =>
        cases added
        rw [UInt64.toNat_add, Nat.mod_eq_of_lt fits]
    · cases added
  · intro sum
    have fits : left.toNat + right.toNat < UInt64.size := by
      rw [sum]
      exact result.toNat_lt_size
    rw [if_pos fits]
    apply congrArg some
    apply UInt64.toNat_inj.mp
    rw [UInt64.toNat_add, Nat.mod_eq_of_lt fits, sum]

theorem add?_eq_none_iff :
    add? left right = none ↔ UInt64.size ≤ left.toNat + right.toNat := by
  unfold add?
  split
  · next fits => simp [fits]
  · next large => simp [Nat.le_of_not_lt large]

theorem subtract?_eq_some_iff :
    subtract? left right = some result ↔ left.toNat = result.toNat + right.toNat := by
  unfold subtract?
  constructor
  · intro taken
    split at taken
    · next below =>
        cases taken
        rw [UInt64.toNat_sub_of_le _ _ below]
        have below := UInt64.le_iff_toNat_le.mp below
        omega
    · cases taken
  · intro sum
    have below : right ≤ left := UInt64.le_iff_toNat_le.mpr (by omega)
    rw [if_pos below]
    apply congrArg some
    apply UInt64.toNat_inj.mp
    rw [UInt64.toNat_sub_of_le _ _ below]
    omega

theorem subtract?_eq_none_iff :
    subtract? left right = none ↔ left.toNat < right.toNat := by
  unfold subtract?
  split
  · next below => simpa using UInt64.le_iff_toNat_le.mp below
  · next above =>
      have above := mt UInt64.le_iff_toNat_le.mpr above
      simpa using above

theorem toNat_addSaturating (left right : UInt64) :
    (addSaturating left right).toNat = min (left.toNat + right.toNat) (UInt64.size - 1) := by
  unfold addSaturating
  cases added : add? left right with
  | none =>
      have large := add?_eq_none_iff.mp added
      have greatest : (-1 : UInt64).toNat = UInt64.size - 1 := by decide
      rw [Option.getD_none, greatest]
      omega
  | some result =>
      have sum := add?_eq_some_iff.mp added
      have small := result.toNat_lt_size
      rw [Option.getD_some]
      omega

theorem toNat_subtractSaturating (left right : UInt64) :
    (subtractSaturating left right).toNat = left.toNat - right.toNat := by
  unfold subtractSaturating
  cases taken : subtract? left right with
  | none =>
      have below := subtract?_eq_none_iff.mp taken
      have least : (0 : UInt64).toNat = 0 := rfl
      rw [Option.getD_none, least]
      omega
  | some result =>
      have sum := subtract?_eq_some_iff.mp taken
      rw [Option.getD_some]
      omega

end Word

end RecordFile
