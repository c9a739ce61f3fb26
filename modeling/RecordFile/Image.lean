/-
Contents of a file as a length and the patches written over zeros.

Every byte that no patch covers reads as zero, also after the file was made longer, and
so does every byte past the end. A write at an offset makes the file longer when it
reaches past the end; a write through a mapping never does, and what it would put past
the end is lost. Each operation is described by what it does to `byteAt`; the list of
patches is a representation and no statement elsewhere mentions it.

Beside the bytes the number of changes is kept, so that a change shows also when it puts
back what was there.
-/

import RecordFile.Bytes.Patch
import RecordFile.SystemError

namespace RecordFile

/-- Contents of a file. Newer patches come first, and none reaches past the end. -/
structure Image where
  size : Nat
  /-- How often bytes were written or the length was set. -/
  changes : Nat
  patches : List Patch
  within : ∀ patch ∈ patches, patch.stop ≤ size

namespace Image

/-- Longest length of a file or of a mapping: both are signed 64-bit numbers. -/
def longest : Nat := 9223372036854775807

/-! ### Bytes -/

def newest (patches : List Patch) (index : Nat) : UInt8 :=
  (patches.findSome? (·.byteAt? index)).getD 0

def byteAt (image : Image) (index : Nat) : UInt8 :=
  newest image.patches index

def readPatches : List Patch → Nat → Nat → Bytes
  | _, _, 0 => []
  | [], _, length + 1 => List.replicate (length + 1) 0
  | patch :: older, offset, length + 1 =>
      let before := min (length + 1) (patch.offset - offset)
      let inside := (patch.bytes.drop (offset - patch.offset)).take (length + 1 - before)
      let after := length + 1 - before - inside.length
      readPatches older offset before ++ inside ++
        readPatches older (offset + before + inside.length) after

/-- The bytes of a range. What lies past the end reads as zero. -/
def read (image : Image) (offset length : Nat) : Bytes :=
  readPatches image.patches offset length

def toBytes (image : Image) : Bytes :=
  image.read 0 image.size

/-! ### Changes -/

def zeros (size : Nat) : Image :=
  ⟨size, 0, [], by simp⟩

def empty : Image :=
  zeros 0

/-- Put bytes at an offset inside the file. Patches that they cover wholly are forgotten. -/
def splice (image : Image) (patch : Patch) (fits : patch.stop ≤ image.size) : Image where
  size := image.size
  changes := image.changes + 1
  patches := patch ::
    image.patches.filter (fun older => !older.liesIn patch.offset patch.bytes.length)
  within := by
    intro member belongs
    rcases List.mem_cons.mp belongs with rfl | old
    · exact fits
    · exact image.within member (List.mem_filter.mp old).1

/-- Change the length. What is cut off is gone, what is added is zero. -/
def resize (image : Image) (size : Nat) : Image :=
  if longer : image.size ≤ size then
    ⟨size, image.changes + 1, image.patches,
      fun patch member => Nat.le_trans (image.within patch member) longer⟩
  else
    ⟨size, image.changes + 1, (image.patches.filter (·.offset ≤ size)).map (·.cut size), by
      intro patch member
      rcases List.mem_map.mp member with ⟨source, kept, rfl⟩
      exact Patch.stop_cut_le (of_decide_eq_true (List.mem_filter.mp kept).2)⟩

theorem size_resize (image : Image) (size : Nat) : (image.resize size).size = size := by
  unfold resize
  split <;> rfl

def setLength (image : Image) (size : Nat) : Except SystemError Image :=
  if longest < size then .error .lengthTooLarge else .ok (image.resize size)

/-- Write at an offset, making the file longer where needed. Writing nothing changes nothing. -/
def write (image : Image) (offset : Nat) (bytes : Bytes) : Image :=
  if bytes.isEmpty then image
  else
    (image.resize (max image.size (offset + bytes.length))).splice ⟨offset, bytes⟩ (by
      rw [size_resize]
      exact Nat.le_max_right _ _)

/-- Write through a mapping: the length stays, and bytes past the end are lost. -/
def overwrite (image : Image) (offset : Nat) (bytes : Bytes) : Image :=
  image.write offset (bytes.take (image.size - offset))

end Image

end RecordFile
