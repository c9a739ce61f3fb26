/-
A commit copies on write.

The new payload goes into an extent that nothing refers to, and the header is written after
it. Until then the file holds the old records, whatever has got into the extent; afterwards
it holds those of the transaction. A commit that is refused writes nothing.
-/

import RecordFile.Proofs.Environment.Opening

namespace RecordFile

structure Extent where
  offset : Nat
  length : Nat

namespace Extent

def Covers (extent : Extent) (index : Nat) : Prop :=
  extent.offset ≤ index ∧ index < extent.offset + extent.length

def live (header : Header) : Extent :=
  ⟨header.dataOffset.toNat, header.dataLength.toNat⟩

end Extent

namespace Image

open Environment (Mappable openedSize)

structure DiffersIn (extent : Extent) (file other : Image) : Prop where
  size_eq : other.size = file.size
  byteAt_eq : ∀ index, ¬ extent.Covers index → other.byteAt index = file.byteAt index

/-- Every open that does not discard the records and gets its mapping finds these records,
in this generation and in a map of this size, or of a larger one that it asked for. -/
def Yields (file : Image) (generation mapSize : UInt64) (records : Records) : Prop :=
  ∀ (path : String) (flags : OpenFlags) (asked : UInt64) (room : Nat),
    flags.discards = false → Mappable room (openedSize flags asked mapSize) →
      ∃ env file', Environment.open path flags asked room file = (.ok env, file') ∧
        env.snapshot.records = records ∧ env.snapshot.generation? = some generation ∧
        env.mapSize = openedSize flags asked mapSize

def Rejected (file : Image) : Prop :=
  ∀ (path : String) (flags : OpenFlags) (asked : UInt64) (room : Nat),
    ∃ fault, Environment.open path flags asked room file = (.error (.invalid fault), file)

variable {file other : Image} {contents : Contents}

theorem Holds.yields (holds : file.Holds contents) :
    file.Yields contents.header.generation contents.header.mapSize contents.records := by
  intro path flags asked room keeps mappable
  generalize opened : Environment.open path flags asked room file = result
  have opening := Environment.open_opening holds path flags asked room
  rw [opened] at opening
  cases opening with
  | @ok env bumps file' after prepared attached =>
      have recordsEq := prepared.records_eq
      have generationEq := prepared.advances.generation_eq
      rw [keeps] at recordsEq
      rw [prepared.bumps_eq keeps] at generationEq
      refine ⟨env, file', rfl, ?_, ?_, ?_⟩
      · exact attached.shows.records_eq.trans recordsEq
      · rw [attached.current.generation?_eq, generationEq]
        exact congrArg some (UInt64.add_zero _)
      · exact attached.current.mapSize_eq.trans prepared.mapSize_eq
  | unmapped prepared far _ => exact absurd (prepared.mapSize_eq ▸ mappable) far
  | tooLong _ beyond => exact absurd mappable.1 (Nat.not_le_of_lt beyond)

theorem Holds.of_differsIn (holds : file.Holds contents) {extent : Extent}
    (free : ∀ index, extent.Covers index →
      Layout.headerSize ≤ index ∧ ¬ (Extent.live contents.header).Covers index)
    (differs : DiffersIn extent file other) : other.Holds contents := by
  apply holds.of_agree differs.size_eq
  · intro index inHeader
    apply differs.byteAt_eq
    intro covered
    exact Nat.not_le_of_lt inHeader (free index covered).1
  · intro index low high
    apply differs.byteAt_eq
    intro covered
    exact (free index covered).2 ⟨low, high⟩

end Image

namespace Environment

open Image

variable {file : Image} {contents : Contents} {txn : Transaction} {extent : Extent}

/-- What a commit writes over beside the header: an extent for the payload in the part of the map
that the environment has mapped. -/
structure CopiesOnWrite (file : Image) (contents : Contents) (txn : Transaction)
    (mapSize : UInt64) (extent : Extent) : Prop where
  place : Placement.place? mapSize.toNat contents.header.dataOffset.toNat
    contents.header.dataLength.toNat txn.dataLength = some extent.offset
  length_eq : extent.length = txn.records.encode.length
  inMap : extent.offset + extent.length ≤ mapSize.toNat
  free : ∀ index, extent.Covers index →
    Layout.headerSize ≤ index ∧ ¬ (Extent.live contents.header).Covers index
  /-- Whatever has got into the extent. -/
  torn : ∀ other, DiffersIn extent file other →
    other.Yields contents.header.generation contents.header.mapSize contents.records

structure Publishes (file : Image) (contents : Contents) (txn : Transaction) (flags : OpenFlags)
    (extent : Extent) (file' : Image) : Prop where
  passes : ∀ count,
    DiffersIn extent file (store flags file extent.offset (txn.records.encode.take count))
  written : file' = store flags (store flags file extent.offset txn.records.encode) 0
    (successor contents.header extent.offset txn).toBytes
  size_eq : file'.size = file.size
  unchanged : ∀ index, Layout.headerSize ≤ index → ¬ extent.Covers index →
    file'.byteAt index = file.byteAt index
  yields : file'.Yields (contents.header.generation + 1) contents.header.mapSize txn.records

theorem copiesOnWrite_of_place {mapSize : UInt64} {offset : Nat} (holds : file.Holds contents)
    (sound : txn.Sound)
    (place : Placement.place? mapSize.toNat contents.header.dataOffset.toNat
      contents.header.dataLength.toNat txn.dataLength = some offset) :
    CopiesOnWrite file contents txn mapSize ⟨offset, txn.dataLength⟩ := by
  have region := Placement.free_of_place? holds.fits.dataOffset_ge place
  have free : ∀ index, (Extent.mk offset txn.dataLength).Covers index →
      Layout.headerSize ≤ index ∧ ¬ (Extent.live contents.header).Covers index := by
    rintro index ⟨low, high⟩
    refine ⟨Nat.le_trans region.behind low, ?_⟩
    rintro ⟨liveLow, liveHigh⟩
    have beside := region.beside
    dsimp only [Extent.live] at low high liveLow liveHigh
    omega
  exact
    { place := place
      length_eq := sound.length_encode.symm
      inMap := region.inMap
      free := free
      torn := fun other differs => (holds.of_differsIn free differs).yields }

theorem differsIn_store (flags : OpenFlags) {bytes : Bytes}
    (inside : extent.offset + extent.length ≤ file.size) (short : bytes.length ≤ extent.length) :
    DiffersIn extent file (store flags file extent.offset bytes) := by
  have fits : extent.offset + bytes.length ≤ file.size := by omega
  rw [store_eq_write flags fits]
  refine ⟨size_write_of_fits fits, ?_⟩
  intro index uncovered
  rw [byteAt_write]
  apply if_neg
  rintro ⟨low, high⟩
  exact uncovered ⟨low, by omega⟩

theorem Placed.publishes {mapSize offset : Nat} (placed : Placed contents txn mapSize offset)
    (holds : file.Holds contents) (flags : OpenFlags) :
    Publishes file contents txn flags ⟨offset, txn.dataLength⟩
      (publish flags (successor contents.header offset txn) txn.records.encode file) := by
  have inside := placed.inFile holds
  have large := holds.headerSize_le
  have lengthEq := placed.sound.length_encode
  have middleSize := size_write_of_fits inside
  have offsetEq := placed.dataOffset_eq
  have advances := placed.advances holds flags
  exact
    { passes := by
        intro count
        apply differsIn_store flags (lengthEq ▸ inside)
        rw [List.length_take, lengthEq]
        exact Nat.min_le_right _ _
      written := by
        unfold publish
        rw [offsetEq]
      size_eq := by
        rw [placed.publish_eq holds flags]
        rw [size_write_of_fits (by rw [middleSize, Header.length_toBytes]; omega), middleSize]
      unchanged := by
        intro index behind uncovered
        rw [placed.publish_eq holds flags, byteAt_write, byteAt_write, Header.length_toBytes,
          lengthEq]
        rw [if_neg (by omega)]
        exact if_neg uncovered
      yields := advances.holds.yields }

/-! ### Beyond the map -/

/-- A header whose payload is not inside its map is taken for no header. -/
theorem rejected_of_beyond {header : Header} (large : Layout.headerSize ≤ file.size)
    (beyond : header.mapSize.toNat < header.payloadStop) :
    (file.write 0 header.toBytes).Rejected := by
  have size : (file.write 0 header.toBytes).size = file.size :=
    size_write_of_fits (by rw [Header.length_toBytes, Nat.zero_add]; exact large)
  intro path flags asked room
  unfold Environment.open openingHeader
  dsimp only
  rw [size, if_neg (by change 64 ≤ _ at large; omega), if_neg (Nat.not_lt_of_le large)]
  cases read : readHeader (file.write 0 header.toBytes) with
  | error fault => exact ⟨fault, rfl⟩
  | ok found =>
      have fits := Header.fits_of_parse read
      rw [eq_of_readHeader_write read] at fits
      exact absurd fits.stop_le_mapSize (Nat.not_le_of_lt beyond)

theorem payloadStop_successor (header : Header) {offset : Nat}
    (bound : offset + txn.dataLength < UInt64.size) :
    (successor header offset txn).payloadStop = offset + txn.dataLength := by
  have offsetEq : (UInt64.ofNat offset).toNat = offset := UInt64.toNat_ofNat_of_lt' (by omega)
  have lengthEq : (UInt64.ofNat txn.dataLength).toNat = txn.dataLength :=
    UInt64.toNat_ofNat_of_lt' (by omega)
  change (UInt64.ofNat offset).toNat + (UInt64.ofNat txn.dataLength).toNat = _
  rw [offsetEq, lengthEq]

theorem rejected_of_publish {flags : OpenFlags} {offset : Nat} (holds : file.Holds contents)
    (staged : flags.mapsWritable = false) (bound : offset + txn.dataLength < UInt64.size)
    (beyond : contents.header.mapSize.toNat < offset + txn.dataLength) :
    (publish flags (successor contents.header offset txn) txn.records.encode file).Rejected := by
  have plain : ∀ (image : Image) (start : Nat) (bytes : Bytes),
      store flags image start bytes = image.write start bytes :=
    fun _ _ _ => if_neg (by rw [staged]; exact Bool.false_ne_true)
  unfold publish
  rw [plain, plain]
  apply rejected_of_beyond (Nat.le_trans holds.headerSize_le (size_le_size_write _ _ _))
  rw [payloadStop_successor _ bound]
  exact beyond

/-! ### Commit -/

/-- Commit is copy-on-write. A commit of a sound transaction, which every transaction is that
its own operations made, either goes by way of a free extent or leaves the file as it was. Then
the environment is read-only or no run of bytes of that length is free in what it has mapped.
Where the extent is inside the map, as it is when no more than the map is mapped, the file holds
the old records up to the header and those of the transaction after it. Somebody who had mapped
less may have cut the map back, and a payload that is published behind it is lost together with the
old one. -/
theorem commit_copyOnWrite (env : Environment) (holds : file.Holds contents) (sound : txn.Sound) :
    (∃ env' extent file', env.commit txn file = (.ok (), env', file') ∧
      CopiesOnWrite file contents txn env.mapSize extent ∧
      (extent.offset + extent.length ≤ contents.header.mapSize.toNat →
        Publishes file contents txn env.flags extent file') ∧
      (contents.header.mapSize.toNat < extent.offset + extent.length →
        env.flags.mapsWritable = false → file'.Rejected)) ∨
    (∃ failure env', env.commit txn file = (.error failure, env', file) ∧
      ((failure = .readOnly ∧ env.flags.readOnly = true) ∨
        (failure.isMapFull = true ∧ ∀ offset,
          ¬ Placement.Free env.mapSize.toNat contents.header.dataOffset.toNat
            contents.header.dataLength.toNat txn.records.encode.length offset))) := by
  rcases commit_cases env txn holds with
    ⟨reader, refused⟩ | ⟨_, full, refused⟩ | ⟨_, offset, place, done⟩
  · exact Or.inr ⟨_, _, refused, Or.inl ⟨rfl, reader⟩⟩
  · refine Or.inr ⟨_, _, refused, Or.inr ⟨rfl, ?_⟩⟩
    rw [sound.length_encode]
    exact Placement.not_free_of_place? full
  -- The place is inside the mapping, and the map may have been cut back to less than that.
  · have copies := copiesOnWrite_of_place holds sound place
    have bound := Nat.lt_of_le_of_lt copies.inMap env.mapSize.toNat_lt
    refine Or.inl ⟨_, _, _, done, copies, ?_, ?_⟩
    · intro inside
      have placed : Placed contents txn env.mapSize.toNat offset := ⟨sound, place, inside⟩
      exact placed.publishes holds env.flags
    · intro beyond staged
      exact rejected_of_publish holds staged bound beyond

def sampleContents : Contents where
  header := ⟨Layout.formatVersion, 8192, 1, 11, 1, 64⟩
  records := Records.empty.insert [1] [2, 3]

def sampleFile : Image :=
  ((zeros 8192).write 64 sampleContents.records.encode).write 0 sampleContents.header.toBytes

def sampleEnvironment : Environment :=
  { unmapped "x.mdb" {} 4096 with mapSize := 4096 }

def sampleTransaction : Transaction where
  records := sampleContents.records.insert [4] [5]
  dataLength := 21
  limit := 4096

/-- The same file for somebody who had mapped more of it before the map was cut back. -/
def overhangingEnvironment : Environment :=
  { unmapped "x.mdb" {} 65536 with mapSize := 16384 }

set_option maxRecDepth 10000 in
theorem commit_copyOnWrite_smallerAndLargerMapping :
    sampleFile.Holds sampleContents ∧ sampleTransaction.Sound ∧
      (∃ env' extent file',
        sampleEnvironment.commit sampleTransaction sampleFile = (.ok (), env', file') ∧
        CopiesOnWrite sampleFile sampleContents sampleTransaction 4096 extent ∧
        Publishes sampleFile sampleContents sampleTransaction {} extent file') ∧
      ∃ env' file',
        overhangingEnvironment.commit sampleTransaction sampleFile = (.ok (), env', file') ∧
        file'.Rejected := by
  have holds : sampleFile.Holds sampleContents := ⟨rfl, rfl, by decide⟩
  have sound : sampleTransaction.Sound := ⟨rfl, by decide⟩
  refine ⟨holds, sound, ?_, ?_⟩
  · rcases commit_copyOnWrite sampleEnvironment holds sound with
      ⟨env', extent, file', done, copies, publishes, _⟩ | ⟨_, _, refused, _⟩
    · exact ⟨env', extent, file', done, copies, publishes (Nat.le_trans copies.inMap (by decide))⟩
    · cases refused
  · rcases commit_copyOnWrite overhangingEnvironment holds sound with
      ⟨env', extent, file', done, copies, _, rejects⟩ | ⟨_, _, refused, _⟩
    · refine ⟨env', file', done, rejects ?_ rfl⟩
      have offset : 16363 = extent.offset := Option.some.inj copies.place
      rw [← offset]
      exact Nat.lt_of_lt_of_le (by decide) (Nat.le_add_right 16363 extent.length)
    · cases refused

end Environment

end RecordFile
