/-
What a file stands for, and how one write after another changes it.

A file holds contents when its header is accepted, its payload reads as the records and it
is as long as its map. Raising the map size keeps the records; discarding them or
publishing others makes a new generation. Nothing here looks at who has the file open.
-/

import RecordFile.Environment
import RecordFile.Image.Lemmas
import RecordFile.Proofs.Header.Codec
import RecordFile.Proofs.Placement
import RecordFile.Proofs.Transaction

namespace RecordFile

structure Contents where
  header : Header
  records : Records

def Header.withMapSize (header : Header) (mapSize : UInt64) : Header :=
  { header with mapSize := mapSize }

namespace Image

open Environment (readHeader)

structure Holds (file : Image) (contents : Contents) : Prop where
  readable : readHeader file = .ok contents.header
  decoded : file.recordsOf contents.header = .ok contents.records
  covered : contents.header.mapSize.toNat ≤ file.size

variable {file other : Image} {contents : Contents} {header : Header} {records : Records}

/-! ### What the contents of a file satisfy -/

theorem Holds.unique {left right : Contents} (first : file.Holds left)
    (second : file.Holds right) : left = right := by
  obtain ⟨leftHeader, leftRecords⟩ := left
  obtain ⟨rightHeader, rightRecords⟩ := right
  have headers := first.readable.symm.trans second.readable
  cases headers
  have decoded := first.decoded.symm.trans second.decoded
  cases decoded
  rfl

theorem Holds.fits (holds : file.Holds contents) : contents.header.Fits file.size :=
  Header.fits_of_parse holds.readable

theorem Holds.headerSize_le (holds : file.Holds contents) : Layout.headerSize ≤ file.size :=
  Nat.le_trans holds.fits.headerSize_le_mapSize holds.covered

theorem Holds.size_ne_zero (holds : file.Holds contents) : file.size ≠ 0 := by
  intro nothing
  have least := holds.headerSize_le
  rw [nothing] at least
  cases least

theorem Holds.size_eq_entries (holds : file.Holds contents) :
    contents.records.size = contents.header.entries.toNat :=
  ((Records.decode_eq_ok_iff _ _ _).mp holds.decoded).2.1

theorem Holds.storable (holds : file.Holds contents) : contents.records.Storable :=
  ((Records.decode_eq_ok_iff _ _ _).mp holds.decoded).2.2

theorem Holds.payload_eq (holds : file.Holds contents) :
    file.payload contents.header = contents.records.encode :=
  ((Records.decode_eq_ok_iff _ _ _).mp holds.decoded).1

theorem Holds.dataLength_eq (holds : file.Holds contents) :
    contents.header.dataLength.toNat = contents.records.encodedLength := by
  have lengths := congrArg List.length holds.payload_eq
  rwa [payload, length_read, Records.length_encode] at lengths

theorem Holds.header_eq (holds : file.Holds contents) : file.header = .ok contents.header := by
  unfold Image.header
  rw [Nat.min_eq_left holds.headerSize_le]
  exact holds.readable

theorem Holds.committed_eq (holds : file.Holds contents) :
    file.committed = .ok contents.records := by
  unfold committed
  rw [holds.header_eq]
  exact holds.decoded

theorem Holds.records_eq_empty (holds : file.Holds contents)
    (none : contents.header.entries.toNat = 0) : contents.records = Records.empty := by
  have count := holds.size_eq_entries
  obtain ⟨_, list, ascending⟩ := contents
  rw [none] at count
  cases List.length_eq_zero_iff.mp count
  rfl

theorem recordsOf_of_nothing (file : Image) {header : Header} (length : header.dataLength = 0)
    (count : header.entries = 0) : file.recordsOf header = .ok Records.empty := by
  have nothing : file.payload header = [] := by
    apply List.length_eq_zero_iff.mp
    rw [payload, length_read, length]
    rfl
  unfold recordsOf
  rw [nothing, count]
  rfl

/-! ### Files that agree -/

/-- Files of one length that agree on the header and on the live payload hold the same. -/
theorem Holds.of_agree (holds : file.Holds contents) (size_eq : other.size = file.size)
    (head : ∀ index, index < Layout.headerSize → other.byteAt index = file.byteAt index)
    (live : ∀ index, contents.header.dataOffset.toNat ≤ index →
      index < contents.header.payloadStop → other.byteAt index = file.byteAt index) :
    other.Holds contents where
  readable := by
    have same : other.read 0 Layout.headerSize = file.read 0 Layout.headerSize :=
      read_congr fun index _ before => head index (by simpa using before)
    unfold readHeader
    rw [size_eq, same]
    exact holds.readable
  decoded := by
    have same : other.payload contents.header = file.payload contents.header :=
      read_congr live
    unfold recordsOf
    rw [same]
    exact holds.decoded
  covered := size_eq ▸ holds.covered

/-! ### Writing a header -/

theorem eq_of_readHeader_write {found : Header}
    (read : readHeader (file.write 0 header.toBytes) = .ok found) : found = header := by
  have bytes := read_write_self file 0 header.toBytes
  rw [Header.length_toBytes] at bytes
  unfold readHeader at read
  rw [bytes] at read
  obtain ⟨_, _, fields, _⟩ := (Header.parse_eq_ok_iff _ _ _).mp read
  rw [← fields]
  exact Header.ofFields_toBytes header

theorem holds_write_header (fits : header.Fits file.size)
    (decoded : file.recordsOf header = .ok records)
    (covered : header.mapSize.toNat ≤ file.size) :
    (file.write 0 header.toBytes).Holds ⟨header, records⟩ := by
  have least := fits.headerSize_le_mapSize
  have size_eq : (file.write 0 header.toBytes).size = file.size :=
    size_write_of_fits (by rw [Header.length_toBytes]; omega)
  refine ⟨?_, ?_, ?_⟩
  · have bytes := read_write_self file 0 header.toBytes
    rw [Header.length_toBytes] at bytes
    unfold readHeader
    rw [bytes, size_eq]
    exact Header.parse_toBytes_of_fits fits
  · have behind := fits.dataOffset_ge
    change (file.write 0 header.toBytes).recordsOf header = .ok records
    unfold recordsOf payload
    rw [read_write_of_disjoint file (Or.inr (by rw [Header.length_toBytes]; omega))]
    exact decoded
  · rw [size_eq]
    exact covered

end Image

/-! ### One state of a file after another -/

/-- One state of a file after another, `bumps` generations later. Without a new generation
only the map size may have changed, and it never gets smaller. The length is kept, or it is
that of a larger map. -/
structure Advances (bumps : Nat) (file : Image) (before : Contents) (file' : Image)
    (after : Contents) : Prop where
  holds : file'.Holds after
  mapSize_le : before.header.mapSize ≤ after.header.mapSize
  size_eq : (file'.size = file.size ∧ after.header.mapSize = before.header.mapSize) ∨
    (file'.size = after.header.mapSize.toNat ∧ file'.size ≤ Image.longest)
  generation_eq : after.header.generation = before.header.generation + UInt64.ofNat bumps
  header_eq : bumps = 0 →
    after.header = before.header.withMapSize after.header.mapSize
  records_eq : bumps = 0 → after.records = before.records

namespace Advances

variable {file file' file'' : Image} {before after last : Contents} {bumps more : Nat}

theorem refl (holds : file.Holds before) : Advances 0 file before file before where
  holds := holds
  mapSize_le := UInt64.le_refl _
  size_eq := Or.inl ⟨rfl, rfl⟩
  generation_eq := (UInt64.add_zero _).symm
  header_eq := fun _ => rfl
  records_eq := fun _ => rfl

theorem trans (first : Advances bumps file before file' after)
    (second : Advances more file' after file'' last) :
    Advances (bumps + more) file before file'' last where
  holds := second.holds
  mapSize_le := UInt64.le_trans first.mapSize_le second.mapSize_le
  size_eq := by
    rcases second.size_eq with ⟨sameSize, sameMap⟩ | larger
    · rcases first.size_eq with ⟨sizeEq, mapEq⟩ | exact
      · exact Or.inl ⟨sameSize.trans sizeEq, sameMap.trans mapEq⟩
      · rw [sameSize, sameMap]
        exact Or.inr exact
    · exact Or.inr larger
  generation_eq := by
    rw [second.generation_eq, first.generation_eq, UInt64.ofNat_add, UInt64.add_assoc]
  header_eq := by
    intro none
    rw [second.header_eq (by omega), first.header_eq (by omega)]
    rfl
  records_eq := fun none => (second.records_eq (by omega)).trans (first.records_eq (by omega))

end Advances

/-! ### Room -/

def Contents.capacity (contents : Contents) : Nat :=
  Placement.capacity contents.header.mapSize.toNat contents.header.dataOffset.toNat
    contents.header.dataLength.toNat

theorem Image.Holds.place?_isSome_iff {file : Image} {contents : Contents}
    (holds : file.Holds contents) (length : Nat) :
    (Placement.place? contents.header.mapSize.toNat contents.header.dataOffset.toNat
      contents.header.dataLength.toNat length).isSome = true ↔ length ≤ contents.capacity :=
  Placement.place?_isSome_iff holds.fits.headerSize_le_mapSize holds.fits.dataOffset_ge
    holds.fits.stop_le_mapSize

namespace Environment

open Image

variable {file : Image} {contents : Contents}

/-! ### Setting the map size -/

def resized (header : Header) (size : UInt64) (file : Image) : Image :=
  (file.resize size.toNat).write 0 (header.withMapSize size).toBytes

theorem setMapSize_of_lt (header : Header) {size : UInt64} (file : Image)
    (beyond : longest < size.toNat) :
    setMapSize header size file = .error (.io .lengthTooLarge) := by
  unfold setMapSize
  rw [setLength_of_lt file beyond]

theorem setMapSize_of_le (header : Header) {size : UInt64} (file : Image)
    (short : size.toNat ≤ longest) :
    setMapSize header size file = .ok (header.withMapSize size, resized header size file) := by
  unfold setMapSize
  rw [setLength_of_le file short]
  rfl

theorem size_resized (header : Header) {size : UInt64} (file : Image)
    (least : Layout.minimumMapSize ≤ size) : (resized header size file).size = size.toNat := by
  have large := UInt64.le_iff_toNat_le.mp least
  change 4096 ≤ size.toNat at large
  unfold resized
  rw [size_write_of_fits, size_resize]
  rw [size_resize, Header.length_toBytes]
  change 0 + 64 ≤ size.toNat
  omega

/-- A map size that the payload ends before gives a file that holds the same records. -/
theorem holds_resized {header : Header} {records : Records} {size : UInt64}
    (fits : (header.withMapSize size).Fits size.toNat)
    (decoded : file.recordsOf header = .ok records) :
    (resized header size file).Holds ⟨header.withMapSize size, records⟩ := by
  have stop := fits.stop_le_length
  apply holds_write_header
  · rw [size_resize]
    exact fits
  · unfold recordsOf payload at decoded ⊢
    rw [read_resize_of_le file stop]
    exact decoded
  · rw [size_resize]
    exact Nat.le_refl _

theorem advances_resized (holds : file.Holds contents) {size : UInt64}
    (larger : contents.header.mapSize ≤ size) (short : size.toNat ≤ longest) :
    Advances 0 file contents (resized contents.header size file)
      ⟨contents.header.withMapSize size, contents.records⟩ := by
  have fits := holds.fits
  have least := UInt64.le_trans fits.mapSize_ge larger
  have stop : contents.header.payloadStop ≤ size.toNat :=
    Nat.le_trans fits.stop_le_mapSize (UInt64.le_iff_toNat_le.mp larger)
  have newSize := size_resized contents.header file least
  exact
    { holds := holds_resized
        ⟨fits.version_eq, least, fits.dataOffset_ge, fits.stop_lt, stop, stop⟩ holds.decoded
      mapSize_le := larger
      size_eq := Or.inr ⟨newSize, by rw [newSize]; exact short⟩
      generation_eq := (UInt64.add_zero _).symm
      header_eq := fun _ => rfl
      records_eq := fun _ => rfl }

/-- A file without bytes gets a header without records. -/
theorem holds_initialized {size : UInt64} (least : Layout.minimumMapSize ≤ size) (file : Image) :
    (resized (Header.empty size) size file).Holds ⟨Header.empty size, Records.empty⟩ := by
  have large := UInt64.le_iff_toNat_le.mp least
  change 4096 ≤ size.toNat at large
  have fits : ((Header.empty size).withMapSize size).Fits size.toNat := by
    refine ⟨rfl, least, Nat.le_refl 64, ?_, ?_, ?_⟩
    · change 64 < UInt64.size
      decide
    · change 64 ≤ size.toNat
      omega
    · change 64 ≤ size.toNat
      omega
  exact holds_resized fits (recordsOf_of_nothing file rfl rfl)

/-! ### Discarding the records -/

theorem advances_discard (holds : file.Holds contents) (some : 0 < contents.header.entries) :
    Advances 1 file contents (discard contents.header file).2
        ⟨withoutRecords contents.header, Records.empty⟩ ∧
      (discard contents.header file).1 = withoutRecords contents.header := by
  have fits := holds.fits
  have behind := fits.dataOffset_ge
  have stop := fits.stop_le_mapSize
  have inside := fits.stop_le_length
  have small := fits.stop_lt
  have least := holds.headerSize_le
  have shape : (withoutRecords contents.header).payloadStop =
      contents.header.dataOffset.toNat := Nat.add_zero _
  unfold Header.payloadStop at stop inside small
  have newFits : (withoutRecords contents.header).Fits file.size := by
    refine ⟨fits.version_eq, fits.mapSize_ge, behind, ?_, ?_, ?_⟩
    · rw [shape]
      omega
    · rw [shape]
      change _ ≤ contents.header.mapSize.toNat
      omega
    · rw [shape]
      omega
  unfold discard
  rw [if_pos some]
  refine ⟨?_, rfl⟩
  exact
    { holds := holds_write_header newFits (recordsOf_of_nothing file rfl rfl) holds.covered
      mapSize_le := UInt64.le_refl _
      size_eq := Or.inl ⟨size_write_of_fits (by rw [Header.length_toBytes]; omega), rfl⟩
      generation_eq := rfl
      header_eq := fun none => absurd none Nat.one_ne_zero
      records_eq := fun none => absurd none Nat.one_ne_zero }

/-! ### Publishing a payload -/

/-- Inside the file it makes no difference how bytes are put into it. -/
theorem store_eq_write (flags : OpenFlags) {offset : Nat} {bytes : Bytes}
    (inside : offset + bytes.length ≤ file.size) :
    store flags file offset bytes = file.write offset bytes := by
  unfold store
  split
  · exact overwrite_eq_write inside
  · rfl

theorem publish_eq_write (flags : OpenFlags) (header : Header) {payload : Bytes}
    (inside : header.dataOffset.toNat + payload.length ≤ file.size)
    (large : Layout.headerSize ≤ file.size) :
    publish flags header payload file =
      (file.write header.dataOffset.toNat payload).write 0 header.toBytes := by
  unfold publish
  rw [store_eq_write flags inside, store_eq_write flags]
  rw [size_write_of_fits inside, Header.length_toBytes, Nat.zero_add]
  exact large

/-- What is needed for a payload to be published: the transaction is sound, and the place of its
payload in the part of the map that is mapped is inside the map. -/
structure Placed (contents : Contents) (txn : Transaction) (mapSize offset : Nat) : Prop where
  sound : txn.Sound
  place : Placement.place? mapSize contents.header.dataOffset.toNat
    contents.header.dataLength.toNat txn.dataLength = some offset
  stop_le : offset + txn.dataLength ≤ contents.header.mapSize.toNat

namespace Placed

variable {txn : Transaction} {mapSize offset : Nat}

theorem of_le {mapSize : UInt64} (sound : txn.Sound) (le : mapSize ≤ contents.header.mapSize)
    (place : Placement.place? mapSize.toNat contents.header.dataOffset.toNat
      contents.header.dataLength.toNat txn.dataLength = some offset) :
    Placed contents txn mapSize.toNat offset where
  sound := sound
  place := place
  stop_le := Nat.le_trans (Placement.stop_le_of_place? place) (UInt64.le_iff_toNat_le.mp le)

theorem stop_lt (placed : Placed contents txn mapSize offset) :
    offset + txn.dataLength < UInt64.size :=
  Nat.lt_of_le_of_lt placed.stop_le contents.header.mapSize.toNat_lt

theorem dataOffset_eq (placed : Placed contents txn mapSize offset) :
    (successor contents.header offset txn).dataOffset.toNat = offset := by
  have bound := placed.stop_lt
  exact UInt64.toNat_ofNat_of_lt' (by omega)

theorem dataLength_eq (placed : Placed contents txn mapSize offset) :
    (successor contents.header offset txn).dataLength.toNat = txn.dataLength := by
  have bound := placed.stop_lt
  exact UInt64.toNat_ofNat_of_lt' (by omega)

theorem entries_eq (placed : Placed contents txn mapSize offset) :
    (successor contents.header offset txn).entries.toNat = txn.size := by
  have bound := placed.stop_lt
  have count := txn.records.size_le_encodedLength
  rw [← placed.sound.dataLength_eq] at count
  apply UInt64.toNat_ofNat_of_lt'
  unfold Transaction.size
  omega

theorem inFile (placed : Placed contents txn mapSize offset) (holds : file.Holds contents) :
    offset + txn.records.encode.length ≤ file.size := by
  rw [placed.sound.length_encode]
  exact Nat.le_trans placed.stop_le holds.covered

theorem publish_eq (placed : Placed contents txn mapSize offset) (holds : file.Holds contents)
    (flags : OpenFlags) :
    publish flags (successor contents.header offset txn) txn.records.encode file =
      (file.write offset txn.records.encode).write 0
        (successor contents.header offset txn).toBytes := by
  have inside := placed.inFile holds
  rw [publish_eq_write flags _ (by rw [placed.dataOffset_eq]; exact inside) holds.headerSize_le,
    placed.dataOffset_eq]

/-- Publishing makes the records of the transaction the committed ones, in one new
generation and without another map size. -/
theorem advances (placed : Placed contents txn mapSize offset) (holds : file.Holds contents)
    (flags : OpenFlags) :
    Advances 1 file contents
      (publish flags (successor contents.header offset txn) txn.records.encode file)
      ⟨successor contents.header offset txn, txn.records⟩ := by
  have inside := placed.inFile holds
  have large := holds.headerSize_le
  have covered := holds.covered
  have stop := placed.stop_le
  have middleSize := size_write_of_fits inside
  have stopEq : (successor contents.header offset txn).payloadStop = offset + txn.dataLength := by
    rw [Header.payloadStop, placed.dataOffset_eq, placed.dataLength_eq]
  have fits : (successor contents.header offset txn).Fits
      (file.write offset txn.records.encode).size := by
    refine ⟨holds.fits.version_eq, holds.fits.mapSize_ge, ?_, ?_, ?_, ?_⟩
    · rw [placed.dataOffset_eq]
      exact Placement.headerSize_le_of_place? holds.fits.dataOffset_ge placed.place
    · rw [stopEq]
      exact placed.stop_lt
    · rw [stopEq]
      exact stop
    · rw [stopEq, middleSize]
      exact Nat.le_trans stop covered
  have decoded : (file.write offset txn.records.encode).recordsOf
      (successor contents.header offset txn) = .ok txn.records := by
    have written := read_write_self file offset txn.records.encode
    rw [placed.sound.length_encode] at written
    unfold recordsOf payload
    rw [placed.dataOffset_eq, placed.dataLength_eq, placed.entries_eq, written]
    exact Records.decode_encode txn.records placed.sound.storable
  rw [placed.publish_eq holds flags]
  exact
    { holds := holds_write_header fits decoded (by rw [middleSize]; exact covered)
      mapSize_le := UInt64.le_refl _
      size_eq := Or.inl ⟨by
        rw [size_write_of_fits (by rw [middleSize, Header.length_toBytes]; omega), middleSize],
        rfl⟩
      generation_eq := rfl
      header_eq := fun none => absurd none Nat.one_ne_zero
      records_eq := fun none => absurd none Nat.one_ne_zero }

end Placed

end Environment

end RecordFile
