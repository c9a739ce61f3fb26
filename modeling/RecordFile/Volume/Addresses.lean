/-
Addresses of a process, and where mappings lie among them.

There are 2 to the 47 addresses. The program, two thirds up, and the stack, at the top, are
each put at random within 2 to the 40 of them, here in the middle, and mappings lie between.
A mapping takes the upper end of the highest gap that it fits into, so what can still be
mapped depends on where the others lie, not on their sum.
-/

namespace RecordFile

structure AddressRange where
  start : Nat
  length : Nat
  deriving DecidableEq, Repr

def AddressRange.stop (range : AddressRange) : Nat :=
  range.start + range.length

abbrev Addresses := List AddressRange

namespace Addresses

def program : AddressRange := ⟨94374748045312, 4096⟩

def stack : AddressRange := ⟨140187732541440, 4096⟩

/-- The end of the nearest range below an address. -/
def floor (taken : Addresses) (address : Nat) : Nat :=
  taken.foldl (fun floor range => if range.stop ≤ address then max floor range.stop else floor) 0

/-- The free runs, each of which ends where a taken range begins. -/
def gaps (addresses : Addresses) : List AddressRange :=
  let taken := program :: stack :: addresses
  taken.map fun range => ⟨floor taken range.start, range.start - floor taken range.start⟩

def room (addresses : Addresses) : Nat :=
  addresses.gaps.foldl (fun room gap => max room gap.length) 0

/-- The range that a mapping takes, if its length is within the room that there is. -/
def place (addresses : Addresses) (length : Nat) : AddressRange :=
  let fitting := addresses.gaps.filter (length ≤ ·.length)
  ⟨fitting.foldl (fun start gap => max start (gap.stop - length)) 0, length⟩

end Addresses

end RecordFile
