/-
Which files can be opened, and what opening makes of them.

Nothing is assumed of a file but that it has bytes. It is accepted when its header is, its payload
reads as the records announced, unless they are to be discarded, and a reader finds all of the map.
What a writer has widened or shortened keeps its payload. Once there is a mapping, the file has all
of it, so no look through it goes past an end.
-/

import RecordFile.Environment.Mapping
import RecordFile.Proofs.Environment.Opening
import RecordFile.Proofs.Environment.Refreshing

namespace RecordFile

namespace Image

open Environment (readHeader)

structure Carries (file : Image) (header : Header) : Prop where
  readable : readHeader file = .ok header
  covered : header.mapSize.toNat ≤ file.size

variable {file : Image} {header : Header}

theorem Carries.fits (carries : file.Carries header) : header.Fits file.size :=
  Header.fits_of_parse carries.readable

theorem Carries.headerSize_le (carries : file.Carries header) : Layout.headerSize ≤ file.size :=
  Nat.le_trans carries.fits.headerSize_le_mapSize carries.covered

theorem header_eq_ok_iff (file : Image) (header : Header) :
    file.header = .ok header ↔ Layout.headerSize ≤ file.size ∧ readHeader file = .ok header := by
  unfold Image.header readHeader
  by_cases long : Layout.headerSize ≤ file.size
  · rw [Nat.min_eq_left long]
    exact (and_iff_right long).symm
  · rw [Nat.min_eq_right (Nat.le_of_not_le long)]
    constructor
    · intro read
      have enough := ((Header.parse_eq_ok_iff _ _ _).mp read).1
      rw [length_read] at enough
      exact absurd enough long
    · intro read
      exact absurd read.1 long

theorem Carries.header_eq (carries : file.Carries header) : file.header = .ok header :=
  (header_eq_ok_iff file header).mpr ⟨carries.headerSize_le, carries.readable⟩

theorem carries_write (fits : header.Fits file.size) (covered : header.mapSize.toNat ≤ file.size) :
    (file.write 0 header.toBytes).Carries header := by
  have least := fits.headerSize_le_mapSize
  have sizeEq : (file.write 0 header.toBytes).size = file.size :=
    size_write_of_fits (by rw [Header.length_toBytes]; omega)
  have bytes := read_write_self file 0 header.toBytes
  rw [Header.length_toBytes] at bytes
  constructor
  · unfold readHeader
    rw [bytes, sizeEq]
    exact Header.parse_toBytes_of_fits fits
  · rw [sizeEq]
    exact covered

/-- What is written over the header leaves a payload alone. -/
theorem payload_write_header (behind : Layout.headerSize ≤ header.dataOffset.toNat)
    (other : Header) : (file.write 0 other.toBytes).payload header = file.payload header := by
  unfold payload
  rw [read_write_of_disjoint file (Or.inr (by rw [Header.length_toBytes]; omega))]

end Image

namespace Environment

open Image

variable {file file' : Image} {header : Header} {flags : OpenFlags} {asked : UInt64}

/-! ### Preparing any file -/

/-- A widened map has room for the payload that is there. -/
theorem withMapSize_fits (fits : header.Fits file.size) {size : UInt64}
    (larger : header.mapSize ≤ size) : (header.withMapSize size).Fits size.toNat := by
  have stop : header.payloadStop ≤ size.toNat :=
    Nat.le_trans fits.stop_le_mapSize (UInt64.le_iff_toNat_le.mp larger)
  exact ⟨fits.version_eq, UInt64.le_trans fits.mapSize_ge larger, fits.dataOffset_ge,
    fits.stop_lt, stop, stop⟩

theorem resized_carries (fits : header.Fits file.size) {size : UInt64}
    (larger : header.mapSize ≤ size) :
    (resized header size file).Carries (header.withMapSize size) ∧
      (resized header size file).payload header = file.payload header := by
  have newFits := withMapSize_fits fits larger
  constructor
  · apply carries_write
    · rw [size_resize]
      exact newFits
    · exact Nat.le_of_eq (size_resize file size.toNat).symm
  · have kept : header.dataOffset.toNat + header.dataLength.toNat ≤ size.toNat :=
      newFits.stop_le_length
    unfold resized
    rw [payload_write_header fits.dataOffset_ge]
    exact read_resize_of_le file kept

theorem widen_carries (readable : readHeader file = .ok header) (wanted : UInt64) :
    (∃ file', widen header wanted file =
        .ok (header.withMapSize (max header.mapSize wanted), file') ∧
      file'.Carries (header.withMapSize (max header.mapSize wanted)) ∧
      file'.payload header = file.payload header) ∨
    (longest < (max header.mapSize wanted).toNat ∧
      widen header wanted file = .error (.io .lengthTooLarge)) := by
  have larger := left_le_max header.mapSize wanted
  have fits := Header.fits_of_parse readable
  unfold widen
  dsimp only
  split
  · by_cases short : (max header.mapSize wanted).toNat ≤ longest
    · rw [setMapSize_of_le header file short]
      exact Or.inl ⟨_, rfl, resized_carries fits larger⟩
    · have beyond := Nat.lt_of_not_le short
      exact Or.inr ⟨beyond, setMapSize_of_lt header file beyond⟩
  · next wide =>
      have same : max header.mapSize wanted = header.mapSize :=
        UInt64.le_antisymm (UInt64.not_lt.mp fun less => wide (Or.inl less)) larger
      have covered : (max header.mapSize wanted).toNat ≤ file.size :=
        Nat.le_of_not_lt fun less => wide (Or.inr less)
      rw [same] at covered ⊢
      exact Or.inl ⟨file, rfl, ⟨readable, covered⟩, rfl⟩

/-- The records are discarded where there are any. -/
def Truncates (flags : OpenFlags) (header : Header) : Prop :=
  flags.discards = true ∧ 0 < header.entries

instance (flags : OpenFlags) (header : Header) : Decidable (Truncates flags header) :=
  inferInstanceAs (Decidable (_ ∧ _))

def openedHeader (flags : OpenFlags) (asked : UInt64) (header : Header) : Header :=
  let sized := header.withMapSize (openedSize flags asked header.mapSize)
  if Truncates flags header then withoutRecords sized else sized

theorem mapSize_openedHeader (flags : OpenFlags) (asked : UInt64) (header : Header) :
    (openedHeader flags asked header).mapSize = openedSize flags asked header.mapSize := by
  unfold openedHeader
  split
  · rfl
  · rfl

theorem openedHeader_of_reader (reader : flags.readOnly = true) (asked : UInt64)
    (header : Header) : openedHeader flags asked header = header := by
  have keeps : ¬ Truncates flags header := by
    rintro ⟨discards, _⟩
    rw [OpenFlags.discards, reader, Bool.not_true, Bool.and_false] at discards
    cases discards
  have same : openedSize flags asked header.mapSize = header.mapSize := by
    rw [openedSize, if_pos reader]
  unfold openedHeader
  rw [if_neg keeps, same]
  rfl

/-- Emptying the payload of a header keeps it within its bounds. -/
theorem withoutRecords_fits {length : Nat} (fits : header.Fits length) :
    (withoutRecords header).Fits length := by
  have small := fits.stop_lt
  have inMap := fits.stop_le_mapSize
  have inFile := fits.stop_le_length
  have shape : (withoutRecords header).payloadStop = header.dataOffset.toNat := Nat.add_zero _
  unfold Header.payloadStop at small inMap inFile
  refine ⟨fits.version_eq, fits.mapSize_ge, fits.dataOffset_ge, ?_, ?_, ?_⟩
  · rw [shape]
    omega
  · rw [shape]
    change _ ≤ header.mapSize.toNat
    omega
  · rw [shape]
    omega

theorem discard_carries (carries : file.Carries header)
    (behind : Layout.headerSize ≤ header.dataOffset.toNat) :
    ∃ file', discard header file =
        (if 0 < header.entries then withoutRecords header else header, file') ∧
      file'.Carries (if 0 < header.entries then withoutRecords header else header) ∧
      file'.payload header = file.payload header := by
  unfold discard
  split
  · exact ⟨_, rfl, carries_write (withoutRecords_fits carries.fits) carries.covered,
      payload_write_header behind _⟩
  · exact ⟨file, rfl, carries, rfl⟩

theorem prepare_carries (readable : readHeader file = .ok header)
    (writer : flags.readOnly = false) (asked : UInt64) :
    (∃ file', prepare flags (max asked Layout.minimumMapSize) header file =
        .ok (openedHeader flags asked header, file') ∧
      file'.Carries (openedHeader flags asked header) ∧
      file'.payload header = file.payload header) ∨
    (longest < (openedSize flags asked header.mapSize).toNat ∧
      prepare flags (max asked Layout.minimumMapSize) header file =
        .error (.io .lengthTooLarge)) := by
  have sizeEq : openedSize flags asked header.mapSize =
      max header.mapSize (max asked Layout.minimumMapSize) := by
    rw [openedSize, writer]
    rfl
  have discards : flags.discards = flags.truncate := by
    rw [OpenFlags.discards, writer, Bool.not_false, Bool.and_true]
  unfold prepare openedHeader
  rw [sizeEq]
  rcases widen_carries readable (max asked Layout.minimumMapSize) with
    ⟨wide, widened, carries, payloadEq⟩ | ⟨beyond, refused⟩
  · rw [widened]
    left
    dsimp only
    have behind := (Header.fits_of_parse readable).dataOffset_ge
    obtain ⟨file', done, emptied, payloadEq'⟩ := discard_carries carries behind
    by_cases truncates : flags.truncate = true
    · have same : Truncates flags header ↔ 0 < (header.withMapSize
          (max header.mapSize (max asked Layout.minimumMapSize))).entries :=
        and_iff_right (discards.trans truncates)
      rw [if_pos truncates, done]
      simp only [same]
      exact ⟨file', rfl, emptied, payloadEq'.trans payloadEq⟩
    · rw [if_neg truncates, if_neg fun both => truncates (discards.symm.trans both.1)]
      exact ⟨wide, rfl, carries, payloadEq⟩
  · rw [refused]
    exact Or.inr ⟨beyond, rfl⟩

theorem recordsOf_openedHeader (payloadEq : file'.payload header = file.payload header)
    (flags : OpenFlags) (asked : UInt64) :
    file'.recordsOf (openedHeader flags asked header) =
      if Truncates flags header then .ok Records.empty else file.recordsOf header := by
  unfold openedHeader
  dsimp only
  split
  · exact recordsOf_of_nothing file' rfl rfl
  · unfold recordsOf
    rw [← payloadEq]
    rfl

/-! ### Looking through the mapping -/

theorem view?_of_le {mapped offset length : Nat} (inMapping : offset + length ≤ mapped)
    (inFile : offset + length ≤ file.size) :
    file.view? mapped offset length = some (file.read offset length) :=
  if_pos ⟨inMapping, inFile⟩

theorem refreshMapped?_eq (carries : file.Carries header) {env : Environment}
    (mapped : Layout.headerSize ≤ env.mapSize.toNat) :
    env.refreshMapped? file = some (env.refresh file) := by
  have fits := carries.fits
  have looked : readHeaderMapped? env.mapSize file = some (readHeader file) := by
    unfold readHeaderMapped?
    rw [view?_of_le (by omega) (by have := carries.headerSize_le; omega)]
    rfl
  unfold refreshMapped? refresh
  rw [looked, carries.readable]
  dsimp only
  rcases followed : env.follow header with cause | env'
  · rfl
  · have enough := UInt64.le_iff_toNat_le.mp (follow_eq_ok followed).1
    have inMapping : header.dataOffset.toNat + header.dataLength.toNat ≤ env'.mapSize.toNat :=
      Nat.le_trans fits.stop_le_mapSize enough
    have found : recordsMapped? env'.mapSize header file = some (file.recordsOf header) := by
      unfold recordsMapped?
      rw [view?_of_le inMapping fits.stop_le_length]
      rfl
    dsimp only
    split
    · rfl
    · rw [found]
      cases file.recordsOf header with
      | error fault => rfl
      | ok records => rfl

theorem attachMapped?_eq (carries : file.Carries header) (path : String) (flags : OpenFlags)
    (room : Nat) :
    attachMapped? path flags room header file = some (attach path flags room header file) := by
  unfold attachMapped? attach
  rcases (unmapped path flags room).remap_cases header.mapSize with
    ⟨_, done⟩ | ⟨_, cause, _, refused⟩
  · rw [done]
    dsimp only
    rw [refreshMapped?_eq carries carries.fits.headerSize_le_mapSize]
    rcases refresh _ file with ⟨failure | _, env⟩
    · rfl
    · rfl
  · rw [refused]

/-- A file whose header is known is mapped, and what decides is its payload. -/
theorem attach_of_carries (carries : file.Carries header) (path : String) (flags : OpenFlags)
    {room : Nat} (mappable : Mappable room header.mapSize) :
    (∃ fault, file.recordsOf header = .error fault ∧
      attach path flags room header file = .error (.invalid fault)) ∨
    ∃ env, file.recordsOf header = .ok env.snapshot.records ∧ env.mapSize = header.mapSize ∧
      attach path flags room header file = .ok env := by
  unfold attach
  rw [remap_of_le _ mappable.1 mappable.2]
  dsimp only
  unfold refresh follow
  rw [carries.readable]
  dsimp only
  rw [if_neg (UInt64.lt_irrefl _)]
  dsimp only
  rw [if_neg (by exact nofun)]
  cases read : file.recordsOf header with
  | error fault => exact Or.inl ⟨fault, rfl, rfl⟩
  | ok records => exact Or.inr ⟨_, rfl, rfl, rfl⟩

/-! ### Opening any file -/

theorem open_eq_ready (path : String) (flags : OpenFlags) (asked : UInt64) (room : Nat)
    (file : Image) :
    Environment.open path flags asked room file =
      match ready path flags asked file with
      | (.error failure, file) => (.error failure, file)
      | (.ok header, file) => (attach path flags room header file, file) := by
  unfold «open» ready
  dsimp only
  rcases openingHeader path flags.readOnly (max asked Layout.minimumMapSize) file with
    failure | ⟨header, file'⟩
  · rfl
  · dsimp only
    by_cases reader : flags.readOnly = true
    · rw [if_pos reader, if_pos reader]
      by_cases short : file'.size < header.mapSize.toNat
      · rw [if_pos short, if_pos short]
      · rw [if_neg short, if_neg short]
    · rw [if_neg reader, if_neg reader]
      rcases prepare flags (max asked Layout.minimumMapSize) header file' with
        failure | ⟨header', file''⟩
      · rfl
      · rfl

inductive Readies (flags : OpenFlags) (asked : UInt64) (file : Image) :
    Except EngineError Header × Image → Prop
  | refused {fault : Fault} (unfit : ∀ header, file.header = .ok header →
      flags.readOnly = true ∧ file.size < header.mapSize.toNat) :
      Readies flags asked file (.error (.invalid fault), file)
  | tooLong {header : Header} (announced : file.header = .ok header)
      (writer : flags.readOnly = false)
      (beyond : longest < (openedSize flags asked header.mapSize).toNat) :
      Readies flags asked file (.error (.io .lengthTooLarge), file)
  | ready {header : Header} {file' : Image} (announced : file.header = .ok header)
      (covered : flags.readOnly = true → header.mapSize.toNat ≤ file.size)
      (carries : file'.Carries (openedHeader flags asked header))
      (payload_eq : file'.payload header = file.payload header)
      (untouched : flags.readOnly = true → file' = file) :
      Readies flags asked file (.ok (openedHeader flags asked header), file')

theorem ready_readies (some : file.size ≠ 0) (path : String) (flags : OpenFlags)
    (asked : UInt64) : Readies flags asked file (ready path flags asked file) := by
  have announced : ∀ {header}, Layout.headerSize ≤ file.size → readHeader file = .ok header →
      file.header = .ok header :=
    fun long readable => (header_eq_ok_iff file _).mpr ⟨long, readable⟩
  unfold ready openingHeader
  dsimp only
  rw [if_neg some]
  by_cases long : file.size < Layout.headerSize
  · rw [if_pos long]
    refine .refused fun header read => ?_
    exact absurd ((header_eq_ok_iff file header).mp read).1 (Nat.not_le_of_lt long)
  · have long' := Nat.le_of_not_lt long
    rw [if_neg long]
    cases readable : readHeader file with
    | error fault =>
        refine .refused fun header read => ?_
        have readable' := ((header_eq_ok_iff file header).mp read).2
        rw [readable] at readable'
        cases readable'
    | ok header =>
        dsimp only
        by_cases reader : flags.readOnly = true
        · rw [if_pos reader]
          have same := openedHeader_of_reader reader asked header
          by_cases short : file.size < header.mapSize.toNat
          · rw [if_pos short]
            refine .refused fun found read => ⟨reader, ?_⟩
            rw [announced long' readable] at read
            cases read
            exact short
          · rw [if_neg short]
            have covered := Nat.le_of_not_lt short
            have carries : file.Carries (openedHeader flags asked header) := by
              rw [same]
              exact ⟨readable, covered⟩
            have readies := Readies.ready (announced long' readable) (fun _ => covered) carries
              rfl (fun _ => rfl)
            rw [same] at readies
            exact readies
        · have writer : flags.readOnly = false := by simpa using reader
          rw [if_neg reader]
          rcases prepare_carries readable writer asked with
            ⟨file', prepared, carries, payloadEq⟩ | ⟨beyond, refused⟩
          · rw [prepared]
            exact .ready (announced long' readable) (fun both => absurd both reader) carries
              payloadEq (fun both => absurd both reader)
          · rw [refused]
            exact .tooLong (announced long' readable) writer beyond

theorem openMapped?_eq (some : file.size ≠ 0) (path : String) (flags : OpenFlags)
    (asked : UInt64) (room : Nat) :
    openMapped? path flags asked room file =
      Option.some (Environment.open path flags asked room file) := by
  have readies := ready_readies some path flags asked
  rw [open_eq_ready]
  unfold openMapped?
  generalize ready path flags asked file = result at readies
  cases readies with
  | refused _ => rfl
  | tooLong _ _ _ => rfl
  | ready _ _ carries _ _ =>
      dsimp only
      rw [attachMapped?_eq carries]
      rfl

/-- A file that can be opened: its header is accepted, and its payload is unless it is discarded.
A reader also wants all of the map. -/
def Accepts (flags : OpenFlags) (file : Image) (header : Header) : Prop :=
  file.header = .ok header ∧
    if flags.readOnly then
      header.mapSize.toNat ≤ file.size ∧ ∃ records, file.recordsOf header = .ok records
    else
      (∃ records, file.recordsOf header = .ok records) ∨
        (flags.truncate = true ∧ header.entries ≠ 0)

theorem accepts_iff (flags : OpenFlags) (file : Image) (header : Header) :
    Accepts flags file header ↔ file.header = .ok header ∧
      (flags.readOnly = true → header.mapSize.toNat ≤ file.size) ∧
      (Truncates flags header ∨ ∃ records, file.recordsOf header = .ok records) := by
  have positive : 0 < header.entries ↔ header.entries ≠ 0 := by
    rw [UInt64.pos_iff_ne_zero]
  unfold Accepts Truncates OpenFlags.discards
  cases flags.readOnly <;> simp [positive, or_comm]

structure Opens (flags : OpenFlags) (asked : UInt64) (file : Image) (header : Header)
    (env : Environment) (file' : Image) : Prop where
  announced : file'.header = .ok (openedHeader flags asked header)
  covered : (openedSize flags asked header.mapSize).toNat ≤ file'.size
  mapSize_eq : env.mapSize = openedSize flags asked header.mapSize
  records_eq : (if Truncates flags header then .ok Records.empty else file.recordsOf header) =
    .ok env.snapshot.records
  payload_eq : file'.payload header = file.payload header
  untouched : flags.readOnly = true → file' = file

/-- The system makes the mapping that an open of the file comes to ask for. -/
def Grants (flags : OpenFlags) (asked : UInt64) (room : Nat) (file : Image) : Prop :=
  ∀ header, file.header = .ok header →
    (flags.readOnly = true → header.mapSize.toNat ≤ file.size) →
      Mappable room (openedSize flags asked header.mapSize)

/-- Whatever a file holds, opening it looks at nothing that is not there; it succeeds exactly for
a file that is accepted, with the records of that file, and calls every other one invalid. -/
theorem open_acceptsExactly (path : String) (flags : OpenFlags) (asked : UInt64) {room : Nat}
    (some : file.size ≠ 0) (grants : Grants flags asked room file) :
    openMapped? path flags asked room file =
        Option.some (Environment.open path flags asked room file) ∧
      ((∃ header, Accepts flags file header ∧ ∃ env file',
          Environment.open path flags asked room file = (.ok env, file') ∧
          Opens flags asked file header env file') ∨
        ((∀ header, ¬ Accepts flags file header) ∧ ∃ fault file',
          Environment.open path flags asked room file = (.error (.invalid fault), file'))) := by
  have readies := ready_readies some path flags asked
  refine ⟨openMapped?_eq some path flags asked room, ?_⟩
  rw [open_eq_ready]
  generalize ready path flags asked file = result at readies
  cases readies with
  | refused unfit =>
      refine Or.inr ⟨?_, _, _, rfl⟩
      intro header accepts
      obtain ⟨announced, covered, _⟩ := (accepts_iff flags file header).mp accepts
      obtain ⟨reader, short⟩ := unfit header announced
      exact absurd (covered reader) (Nat.not_le_of_lt short)
  | tooLong announced writer beyond =>
      have mappable := grants _ announced fun reader => by rw [writer] at reader; cases reader
      exact absurd mappable.1 (Nat.not_le_of_lt beyond)
  | @ready header file' announced covered carries payloadEq untouched =>
      have sizeEq := mapSize_openedHeader flags asked header
      have recordsEq := recordsOf_openedHeader payloadEq flags asked
      have mappable := grants header announced covered
      rw [← sizeEq] at mappable
      dsimp only
      rcases attach_of_carries carries path flags mappable with
        ⟨fault, read, refused⟩ | ⟨env, read, mapEq, opened⟩
      · rw [refused]
        refine Or.inr ⟨?_, fault, file', rfl⟩
        intro found accepts
        obtain ⟨announced', _, readable⟩ := (accepts_iff flags file found).mp accepts
        rw [announced] at announced'
        cases announced'
        rw [recordsEq] at read
        split at read
        · cases read
        · next keeps =>
            rcases readable with truncates | ⟨records, found⟩
            · exact keeps truncates
            · rw [found] at read
              cases read
      · rw [opened]
        rw [recordsEq] at read
        refine Or.inl ⟨header, ?_, env, file', rfl, ?_⟩
        · refine (accepts_iff flags file header).mpr ⟨announced, covered, ?_⟩
          split at read
          · next truncates => exact Or.inl truncates
          · exact Or.inr ⟨_, read⟩
        · exact
            { announced := carries.header_eq
              covered := sizeEq ▸ carries.covered
              mapSize_eq := mapEq.trans sizeEq
              records_eq := read
              payload_eq := payloadEq
              untouched := untouched }

def beyondItsMap : Image :=
  ((zeros 9000).write 64 (Records.empty.insert [1] [2, 3]).encode).write 0
    (⟨Layout.formatVersion, 8192, 1, 11, 1, 64⟩ : Header).toBytes

set_option maxRecDepth 10000 in
/-- The map is widened to less than the file is long. -/
theorem open_acceptsExactly_longerFile :
    beyondItsMap.size ≠ 0 ∧ Grants { truncate := true } 8500 65536 beyondItsMap ∧
      ∃ env file', Environment.open "x.mdb" { truncate := true } 8500 65536 beyondItsMap =
          (.ok env, file') ∧ env.mapSize = 8500 ∧ env.snapshot.records = Records.empty ∧
        file'.header = .ok ⟨Layout.formatVersion, 8500, 2, 0, 0, 64⟩ := by
  have some : beyondItsMap.size ≠ 0 := by decide
  have announced : beyondItsMap.header = .ok ⟨Layout.formatVersion, 8192, 1, 11, 1, 64⟩ := rfl
  have grants : Grants { truncate := true } 8500 65536 beyondItsMap := by
    intro header read _
    rw [announced] at read
    cases read
    exact ⟨by decide, by decide⟩
  refine ⟨some, grants, ?_⟩
  rcases (open_acceptsExactly "x.mdb" _ _ some grants).2 with
    ⟨header, accepts, env, file', opened, opens⟩ | ⟨refuses, _⟩
  · have read := accepts.1
    rw [announced] at read
    cases read
    exact ⟨env, file', opened, opens.mapSize_eq, (Except.ok.inj opens.records_eq).symm,
      opens.announced⟩
  · exact absurd ⟨announced, Or.inr ⟨rfl, by decide⟩⟩ (refuses _)

end Environment

end RecordFile
