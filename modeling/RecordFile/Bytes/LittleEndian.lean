/-
Numbers as byte strings, least significant byte first.

Main statements: reading back what was written gives the number modulo the capacity of
the width, and writing what was read gives the same bytes.
-/

import RecordFile.Bytes

namespace RecordFile.Bytes

def ofNat : Nat → Nat → Bytes
  | 0, _ => []
  | width + 1, number => UInt8.ofNat number :: ofNat width (number / 256)

def toNat : Bytes → Nat
  | [] => 0
  | byte :: rest => byte.toNat + 256 * toNat rest

def capacity : Nat → Nat
  | 0 => 1
  | width + 1 => 256 * capacity width

@[simp]
theorem length_ofNat (width number : Nat) : (ofNat width number).length = width := by
  induction width generalizing number with
  | zero => rfl
  | succ width ih => simp [ofNat, ih]

theorem toNat_ofNat (width number : Nat) :
    toNat (ofNat width number) = number % capacity width := by
  induction width generalizing number with
  | zero => simp [ofNat, toNat, capacity, Nat.mod_one]
  | succ width ih => rw [capacity, Nat.mod_mul, ofNat, toNat, ih, UInt8.toNat_ofNat']

theorem toNat_ofNat_of_lt {width number : Nat} (fits : number < capacity width) :
    toNat (ofNat width number) = number := by
  rw [toNat_ofNat, Nat.mod_eq_of_lt fits]

theorem ofNat_toNat (bytes : Bytes) : ofNat bytes.length (toNat bytes) = bytes := by
  induction bytes with
  | nil => rfl
  | cons byte rest ih =>
      have low : UInt8.ofNat (byte.toNat + 256 * toNat rest) = byte := by
        apply UInt8.toNat_inj.mp
        rw [UInt8.toNat_ofNat']
        have := byte.toNat_lt
        omega
      have high : (byte.toNat + 256 * toNat rest) / 256 = toNat rest := by
        have := byte.toNat_lt
        omega
      simp only [List.length_cons, ofNat, toNat, low, high, ih]

theorem toNat_lt (bytes : Bytes) : toNat bytes < capacity bytes.length := by
  induction bytes with
  | nil => exact Nat.one_pos
  | cons byte rest ih =>
      have := byte.toNat_lt
      simp only [toNat, List.length_cons, capacity]
      omega

end RecordFile.Bytes
