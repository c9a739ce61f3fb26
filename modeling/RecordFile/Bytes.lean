/-
Strings of bytes and their order.

A byte string is a list, compared lexicographically byte by byte with unsigned bytes;
a proper initial segment comes before its extensions. The order is total and strict, so
of two byte strings either one comes first or they are equal.
-/

namespace RecordFile

abbrev Bytes := List UInt8

namespace Bytes

theorem lt_irrefl (a : Bytes) : ¬ a < a :=
  List.lt_irrefl a

theorem lt_trans {a b c : Bytes} (first : a < b) (second : b < c) : a < c :=
  List.lt_trans first second

theorem lt_asymm {a b : Bytes} (before : a < b) : ¬ b < a :=
  List.lt_asymm before

/-- The order is total: what is not before and not equal comes after. -/
theorem lt_of_not_lt_of_ne {a b : Bytes} (notBefore : ¬ a < b) (different : a ≠ b) : b < a := by
  apply Classical.byContradiction
  intro notAfter
  exact different (List.le_antisymm (List.not_lt.mp notAfter) (List.not_lt.mp notBefore))

def ofText (text : String) : Bytes :=
  text.toByteArray.data.toList

theorem ofText_injective {left right : String} (same : ofText left = ofText right) :
    left = right :=
  String.toByteArray_inj.mp (ByteArray.ext (Array.toList_inj.mp same))

end Bytes

end RecordFile
