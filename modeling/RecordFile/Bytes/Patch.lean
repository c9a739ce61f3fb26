/-
Bytes at an offset: what is put over the bytes of a file or of a buffer.
-/

import RecordFile.Bytes

namespace RecordFile

structure Patch where
  offset : Nat
  bytes : Bytes
  deriving DecidableEq, Repr

namespace Patch

def stop (patch : Patch) : Nat :=
  patch.offset + patch.bytes.length

def byteAt? (patch : Patch) (index : Nat) : Option UInt8 :=
  if index < patch.offset then none else patch.bytes[index - patch.offset]?

def liesIn (patch : Patch) (offset length : Nat) : Bool :=
  offset ≤ patch.offset && patch.stop ≤ offset + length

def cut (patch : Patch) (limit : Nat) : Patch :=
  { patch with bytes := patch.bytes.take (limit - patch.offset) }

theorem byteAt?_eq_none_of_lt {patch : Patch} {index : Nat} (before : index < patch.offset) :
    patch.byteAt? index = none :=
  if_pos before

theorem byteAt?_eq_none_of_stop_le {patch : Patch} {index : Nat} (past : patch.stop ≤ index) :
    patch.byteAt? index = none := by
  unfold byteAt?
  unfold stop at past
  split
  · rfl
  · exact List.getElem?_eq_none (by omega)

theorem byteAt?_of_mem {patch : Patch} {index : Nat}
    (low : patch.offset ≤ index) (high : index < patch.stop) :
    ∃ byte, patch.byteAt? index = some byte := by
  unfold stop at high
  refine ⟨patch.bytes.get ⟨index - patch.offset, by omega⟩, ?_⟩
  unfold byteAt?
  rw [if_neg (by omega)]
  exact List.getElem?_eq_getElem _

theorem stop_cut_le {patch : Patch} {limit : Nat} (starts : patch.offset ≤ limit) :
    (patch.cut limit).stop ≤ limit := by
  simp only [cut, stop, List.length_take]
  omega

theorem byteAt?_cut (patch : Patch) (limit index : Nat) :
    (patch.cut limit).byteAt? index = if index < limit then patch.byteAt? index else none := by
  simp only [cut, byteAt?, List.getElem?_take]
  by_cases before : index < patch.offset
  · simp only [if_pos before, ite_self]
  · simp only [if_neg before]
    by_cases within : index < limit
    · rw [if_pos within, if_pos (by omega)]
    · rw [if_neg within, if_neg (by omega)]

end Patch

end RecordFile
