/-
What the operations on a file's contents do to its bytes.

Main statements: `byteAt_resize` and `byteAt_write` give every byte after a change, and
`read_eq_map_byteAt` reduces reading to single bytes. From these follow the laws used
elsewhere: a range reads back what was written to it, a disjoint range is not touched, and
two files that agree on a range read alike there.
-/

import RecordFile.Image

namespace RecordFile.Image

/-! ### Single bytes -/

theorem newest_cons (patch : Patch) (older : List Patch) (index : Nat) :
    newest (patch :: older) index = (patch.byteAt? index).getD (newest older index) := by
  unfold newest
  rw [List.findSome?_cons]
  cases patch.byteAt? index <;> rfl

theorem newest_eq_zero {patches : List Patch} {index : Nat}
    (past : ∀ patch ∈ patches, patch.stop ≤ index) : newest patches index = 0 := by
  induction patches with
  | nil => rfl
  | cons patch older ih =>
      rw [newest_cons, Patch.byteAt?_eq_none_of_stop_le (past patch List.mem_cons_self)]
      exact ih fun member belongs => past member (List.mem_cons_of_mem _ belongs)

theorem byteAt_eq_zero_of_size_le {image : Image} {index : Nat} (past : image.size ≤ index) :
    image.byteAt index = 0 :=
  newest_eq_zero fun patch member => Nat.le_trans (image.within patch member) past

/-- Forgetting patches that a newer one covers does not show. -/
theorem newest_filter_of_outside (patches : List Patch) {offset length index : Nat}
    (outside : ¬ (offset ≤ index ∧ index < offset + length)) :
    newest (patches.filter fun older => !older.liesIn offset length) index =
      newest patches index := by
  induction patches with
  | nil => rfl
  | cons patch older ih =>
      by_cases covered : patch.liesIn offset length = true
      · rw [List.filter_cons_of_neg (by simp [covered]), ih, newest_cons]
        have bounds : offset ≤ patch.offset ∧ patch.stop ≤ offset + length := by
          simpa [Patch.liesIn] using covered
        by_cases low : index < patch.offset
        · rw [Patch.byteAt?_eq_none_of_lt low, Option.getD_none]
        · rw [Patch.byteAt?_eq_none_of_stop_le (by omega), Option.getD_none]
      · rw [List.filter_cons_of_pos (by simpa using covered), newest_cons, newest_cons, ih]

theorem byteAt_splice (image : Image) (patch : Patch) (fits : patch.stop ≤ image.size)
    (index : Nat) :
    (image.splice patch fits).byteAt index = (patch.byteAt? index).getD (image.byteAt index) := by
  unfold byteAt splice
  rw [newest_cons]
  cases found : patch.byteAt? index with
  | some byte => rfl
  | none =>
      rw [Option.getD_none, Option.getD_none]
      apply newest_filter_of_outside
      rintro ⟨low, high⟩
      obtain ⟨byte, here⟩ := Patch.byteAt?_of_mem low high
      rw [found] at here
      cases here

theorem newest_cut (patches : List Patch) (limit index : Nat) :
    newest ((patches.filter (·.offset ≤ limit)).map (·.cut limit)) index =
      if index < limit then newest patches index else 0 := by
  induction patches with
  | nil => simp [newest]
  | cons patch older ih =>
      by_cases starts : patch.offset ≤ limit
      · rw [List.filter_cons_of_pos (by simpa using starts), List.map_cons, newest_cons,
          newest_cons, ih, Patch.byteAt?_cut]
        split <;> rfl
      · rw [List.filter_cons_of_neg (by simpa using starts), ih, newest_cons]
        by_cases within : index < limit
        · rw [if_pos within, if_pos within, Patch.byteAt?_eq_none_of_lt (by omega),
            Option.getD_none]
        · rw [if_neg within, if_neg within]

theorem byteAt_resize (image : Image) (size index : Nat) :
    (image.resize size).byteAt index = if index < size then image.byteAt index else 0 := by
  unfold resize
  split
  · next longer =>
      by_cases within : index < size
      · rw [if_pos within]
        rfl
      · rw [if_neg within]
        refine newest_eq_zero fun patch member => ?_
        have := image.within patch member
        omega
  · exact newest_cut _ _ _

/-- Making a file longer changes none of its bytes. -/
theorem byteAt_resize_of_le (image : Image) {size : Nat} (longer : image.size ≤ size)
    (index : Nat) : (image.resize size).byteAt index = image.byteAt index := by
  rw [byteAt_resize]
  split
  · rfl
  · exact (byteAt_eq_zero_of_size_le (by omega)).symm

theorem setLength_of_le (image : Image) {size : Nat} (fits : size ≤ longest) :
    image.setLength size = .ok (image.resize size) :=
  if_neg (Nat.not_lt_of_le fits)

theorem setLength_of_lt (image : Image) {size : Nat} (beyond : longest < size) :
    image.setLength size = .error .lengthTooLarge :=
  if_pos beyond

@[simp]
theorem write_nil (image : Image) (offset : Nat) : image.write offset [] = image := rfl

theorem size_write (image : Image) (offset : Nat) {bytes : Bytes} (nonempty : bytes ≠ []) :
    (image.write offset bytes).size = max image.size (offset + bytes.length) := by
  unfold write
  rw [if_neg (by simpa using nonempty)]
  exact size_resize _ _

theorem size_write_of_fits {image : Image} {offset : Nat} {bytes : Bytes}
    (fits : offset + bytes.length ≤ image.size) : (image.write offset bytes).size = image.size := by
  by_cases nothing : bytes = []
  · rw [nothing, write_nil]
  · rw [size_write image offset nothing]
    exact Nat.max_eq_left fits

theorem size_le_size_write (image : Image) (offset : Nat) (bytes : Bytes) :
    image.size ≤ (image.write offset bytes).size := by
  by_cases nothing : bytes = []
  · exact Nat.le_of_eq (by rw [nothing, write_nil])
  · rw [size_write image offset nothing]
    exact Nat.le_max_left _ _

/-- After a write the range holds the bytes written, and every other byte is as before. -/
theorem byteAt_write (image : Image) (offset : Nat) (bytes : Bytes) (index : Nat) :
    (image.write offset bytes).byteAt index =
      if offset ≤ index ∧ index < offset + bytes.length then bytes.getD (index - offset) 0
      else image.byteAt index := by
  unfold write
  split
  · next nothing =>
      rw [List.isEmpty_iff.mp nothing, if_neg (by simp only [List.length_nil]; omega)]
  · rw [byteAt_splice, byteAt_resize_of_le _ (Nat.le_max_left _ _)]
    by_cases inside : offset ≤ index ∧ index < offset + bytes.length
    · have found : (Patch.mk offset bytes).byteAt? index = bytes[index - offset]? :=
        if_neg (Nat.not_lt_of_le inside.1)
      rw [if_pos inside, found, List.getD_eq_getElem?_getD,
        List.getElem?_eq_getElem (by omega : index - offset < bytes.length)]
      rfl
    · have missing : (Patch.mk offset bytes).byteAt? index = none := by
        by_cases low : index < offset
        · exact Patch.byteAt?_eq_none_of_lt low
        · exact Patch.byteAt?_eq_none_of_stop_le (by unfold Patch.stop; dsimp only; omega)
      rw [if_neg inside, missing, Option.getD_none]

@[simp]
theorem size_overwrite (image : Image) (offset : Nat) (bytes : Bytes) :
    (image.overwrite offset bytes).size = image.size := by
  unfold overwrite
  by_cases nothing : bytes.take (image.size - offset) = []
  · rw [nothing, write_nil]
  · rw [size_write _ _ nothing]
    have : 0 < (bytes.take (image.size - offset)).length := List.length_pos_iff.mpr nothing
    rw [List.length_take] at this ⊢
    omega

/-- Inside the file a write through a mapping and a write at an offset are the same. -/
theorem overwrite_eq_write {image : Image} {offset : Nat} {bytes : Bytes}
    (fits : offset + bytes.length ≤ image.size) :
    image.overwrite offset bytes = image.write offset bytes := by
  unfold overwrite
  rw [List.take_of_length_le (by omega)]

/-! ### Ranges -/

theorem readPatches_eq (patches : List Patch) (offset length : Nat) :
    readPatches patches offset length =
      (List.range length).map fun index => newest patches (offset + index) := by
  induction patches generalizing offset length with
  | nil =>
      cases length with
      | zero => rfl
      | succ length =>
          apply List.ext_getElem
          · simp [readPatches]
          · intro index _ _
            simp [readPatches, newest]
  | cons patch older ih =>
      cases length with
      | zero => rfl
      | succ length =>
          simp only [readPatches, ih]
          apply List.ext_getElem
          · simp only [List.length_append, List.length_map, List.length_range,
              List.length_take, List.length_drop]
            omega
          · intro index small large
            simp only [List.length_map, List.length_range] at large
            simp only [List.getElem_append, List.getElem_map, List.getElem_range,
              List.length_append, List.length_map, List.length_range, List.length_take,
              List.length_drop, List.getElem_take, List.getElem_drop, newest_cons]
            -- An index lies inside the newest patch, in front of it or behind it.
            split
            · split
              · rw [Patch.byteAt?_eq_none_of_lt (by omega), Option.getD_none]
              · rw [Patch.byteAt?, if_neg (by omega),
                  List.getElem?_eq_getElem (by omega), Option.getD_some]
                congr 1
                omega
            · rw [Patch.byteAt?_eq_none_of_stop_le (by unfold Patch.stop; omega), Option.getD_none]
              congr 1
              omega

/-- A range is read byte by byte. -/
theorem read_eq_map_byteAt (image : Image) (offset length : Nat) :
    image.read offset length =
      (List.range length).map fun index => image.byteAt (offset + index) :=
  readPatches_eq _ _ _

@[simp]
theorem length_read (image : Image) (offset length : Nat) :
    (image.read offset length).length = length := by
  simp [read_eq_map_byteAt]

theorem getElem?_read (image : Image) (offset length index : Nat) :
    (image.read offset length)[index]? =
      if index < length then some (image.byteAt (offset + index)) else none := by
  rw [read_eq_map_byteAt, List.getElem?_map]
  by_cases within : index < length
  · rw [if_pos within, List.getElem?_range within, Option.map_some]
  · rw [if_neg within, List.getElem?_eq_none (by simpa using within), Option.map_none]

/-- Files that agree on a range read alike there. -/
theorem read_congr {left right : Image} {offset length : Nat}
    (agree : ∀ index, offset ≤ index → index < offset + length →
      left.byteAt index = right.byteAt index) :
    left.read offset length = right.read offset length := by
  rw [read_eq_map_byteAt, read_eq_map_byteAt]
  apply List.map_congr_left
  intro index member
  have := List.mem_range.mp member
  exact agree _ (by omega) (by omega)

/-- A range reads back what was written to it. -/
theorem read_write_self (image : Image) (offset : Nat) (bytes : Bytes) :
    (image.write offset bytes).read offset bytes.length = bytes := by
  apply List.ext_getElem?
  intro index
  rw [getElem?_read, byteAt_write]
  by_cases within : index < bytes.length
  · rw [if_pos within, if_pos (by omega), Nat.add_sub_cancel_left,
      List.getD_eq_getElem?_getD, List.getElem?_eq_getElem within, Option.getD_some]
  · rw [if_neg within, List.getElem?_eq_none (by omega)]

/-- A write does not touch a disjoint range. -/
theorem read_write_of_disjoint (image : Image) {offset start length : Nat} {bytes : Bytes}
    (disjoint : start + length ≤ offset ∨ offset + bytes.length ≤ start) :
    (image.write offset bytes).read start length = image.read start length := by
  apply read_congr
  intro index low high
  rw [byteAt_write, if_neg (by omega)]

/-- Bytes before both lengths survive a change of length. -/
theorem read_resize_of_le (image : Image) {size offset length : Nat}
    (kept : offset + length ≤ size) :
    (image.resize size).read offset length = image.read offset length := by
  apply read_congr
  intro index _ high
  rw [byteAt_resize, if_pos (by omega)]

end RecordFile.Image
