/-
The header codec and what an accepted header says.

A header is accepted exactly when it has the current version and its payload lies after
the header, inside the map and inside the file. Written bytes give the same header back, and
a header that is accepted was read from the bytes that it is written as, outside the reserved
ones.
-/

import RecordFile.Header

namespace RecordFile.Header

/-! ### Bounds -/

structure Fits (header : Header) (fileLength : Nat) : Prop where
  version_eq : header.version = Layout.formatVersion
  mapSize_ge : Layout.minimumMapSize ≤ header.mapSize
  dataOffset_ge : Layout.headerSize ≤ header.dataOffset.toNat
  stop_lt : header.payloadStop < UInt64.size
  stop_le_mapSize : header.payloadStop ≤ header.mapSize.toNat
  stop_le_length : header.payloadStop ≤ fileLength

theorem Fits.headerSize_le_mapSize {header : Header} {fileLength : Nat}
    (fits : header.Fits fileLength) : Layout.headerSize ≤ header.mapSize.toNat := by
  have least := UInt64.le_iff_toNat_le.mp fits.mapSize_ge
  change 4096 ≤ header.mapSize.toNat at least
  change 64 ≤ header.mapSize.toNat
  omega

theorem checkBounds_eq_ok_iff {header : Header} (current : header.version = Layout.formatVersion)
    (fileLength : Nat) (found : Header) :
    header.checkBounds fileLength = .ok found ↔ header.Fits fileLength ∧ found = header := by
  unfold checkBounds
  constructor
  · intro accepted
    split at accepted
    · cases accepted
    · next largeEnough =>
        split at accepted
        · cases accepted
        · next outside =>
            split at accepted
            · cases accepted
            · next small =>
                split at accepted
                · cases accepted
                · next inside =>
                    cases accepted
                    exact ⟨⟨current, UInt64.not_lt.mp largeEnough, by omega, by omega, by omega,
                      by omega⟩, rfl⟩
  · rintro ⟨fits, rfl⟩
    have least := fits.mapSize_ge
    have offset := fits.dataOffset_ge
    have small := fits.stop_lt
    have inMap := fits.stop_le_mapSize
    have inFile := fits.stop_le_length
    rw [if_neg (UInt64.not_lt.mpr least), if_neg (by omega), if_neg (by omega),
      if_neg (by omega)]

/-! ### Bytes -/

private theorem field_append (before bytes after : Bytes) :
    field (before ++ (bytes ++ after)) before.length bytes.length = Bytes.toNat bytes := by
  unfold field
  rw [List.drop_left' rfl, List.take_left' rfl]

private theorem field_ofNat {number width : Nat} (before after : Bytes)
    (fits : number < Bytes.capacity width) :
    field (before ++ (Bytes.ofNat width number ++ after)) before.length width = number := by
  have read := field_append before (Bytes.ofNat width number) after
  rw [Bytes.length_ofNat, Bytes.toNat_ofNat_of_lt fits] at read
  exact read

private theorem field_eight {data : Bytes} {offset : Nat} {value : UInt64} (before after : Bytes)
    (shape : data = before ++ (Bytes.ofNat 8 value.toNat ++ after))
    (place : before.length = offset) : UInt64.ofNat (field data offset 8) = value := by
  rw [shape, ← place, field_ofNat before after value.toNat_lt, UInt64.ofNat_toNat]

private theorem field_four {data : Bytes} {offset : Nat} {value : UInt32} (before after : Bytes)
    (shape : data = before ++ (Bytes.ofNat 4 value.toNat ++ after))
    (place : before.length = offset) : UInt32.ofNat (field data offset 4) = value := by
  rw [shape, ← place, field_ofNat before after value.toNat_lt, UInt32.ofNat_toNat]

private def opening (header : Header) : Bytes :=
  Layout.magic ++ Bytes.ofNat 4 header.version.toNat ++ List.replicate 4 0

private def numbers (values : List UInt64) : Bytes :=
  values.flatMap fun value => Bytes.ofNat 8 value.toNat

private theorem toBytes_eq (header : Header) :
    header.toBytes = header.opening ++ numbers [header.mapSize, header.generation,
      header.dataLength, header.entries, header.dataOffset] ++ List.replicate 8 0 := by
  simp only [toBytes, opening, numbers, List.flatMap_cons, List.flatMap_nil, List.append_assoc,
    List.append_nil]

/-- The number after some others, by its offset. -/
private theorem field_numbers (header : Header) (first : List UInt64) (value : UInt64)
    (rest : List UInt64) (after : Bytes) {offset : Nat}
    (place : (header.opening ++ numbers first).length = offset) :
    UInt64.ofNat (field (header.opening ++ numbers (first ++ value :: rest) ++ after) offset 8) =
      value := by
  apply field_eight (header.opening ++ numbers first) (numbers rest ++ after) _ place
  simp only [numbers, List.flatMap_append, List.flatMap_cons, List.append_assoc]

theorem ofFields_toBytes (header : Header) : ofFields header.toBytes = header := by
  have version : UInt32.ofNat (field header.toBytes 8 4) = header.version :=
    field_four Layout.magic _ (by simp only [toBytes, List.append_assoc]; rfl) rfl
  have mapSize : UInt64.ofNat (field header.toBytes 16 8) = header.mapSize := by
    rw [toBytes_eq]
    exact field_numbers header [] _ _ _ rfl
  have generation : UInt64.ofNat (field header.toBytes 24 8) = header.generation := by
    rw [toBytes_eq]
    exact field_numbers header [header.mapSize] _ _ _ rfl
  have dataLength : UInt64.ofNat (field header.toBytes 32 8) = header.dataLength := by
    rw [toBytes_eq]
    exact field_numbers header [header.mapSize, header.generation] _ _ _ rfl
  have entries : UInt64.ofNat (field header.toBytes 40 8) = header.entries := by
    rw [toBytes_eq]
    exact field_numbers header [header.mapSize, header.generation, header.dataLength] _ _ _ rfl
  have dataOffset : UInt64.ofNat (field header.toBytes 48 8) = header.dataOffset := by
    rw [toBytes_eq]
    exact field_numbers header
      [header.mapSize, header.generation, header.dataLength, header.entries] _ _ _ rfl
  unfold ofFields
  rw [version, mapSize, generation, dataLength, entries, dataOffset]

/-- What was written is accepted exactly when it fits, and gives the same header back. -/
theorem parse_toBytes {header : Header} (current : header.version = Layout.formatVersion)
    (fileLength : Nat) : parse header.toBytes fileLength = header.checkBounds fileLength := by
  unfold parse
  have magic : header.toBytes.take 8 = Layout.magic := by
    simp only [toBytes, List.append_assoc]
    exact List.take_left' rfl
  rw [length_toBytes, if_neg (Nat.lt_irrefl _), magic, ofFields_toBytes, if_neg (by simp),
    if_neg (by simp [current])]

theorem parse_toBytes_of_fits {header : Header} {fileLength : Nat}
    (fits : header.Fits fileLength) : parse header.toBytes fileLength = .ok header := by
  rw [parse_toBytes fits.version_eq]
  exact (checkBounds_eq_ok_iff fits.version_eq fileLength header).mpr ⟨fits, rfl⟩

theorem fits_of_parse {data : Bytes} {fileLength : Nat} {header : Header}
    (read : parse data fileLength = .ok header) : header.Fits fileLength := by
  unfold parse at read
  split at read
  · cases read
  · split at read
    · cases read
    · split at read
      · cases read
      · next current =>
          obtain ⟨fits, same⟩ :=
            (checkBounds_eq_ok_iff (Decidable.not_not.mp current) fileLength header).mp read
          exact same ▸ fits

/-! ### Exactness -/

def Reserved (offset : Nat) : Prop :=
  (12 ≤ offset ∧ offset < 16) ∨ (56 ≤ offset ∧ offset < 64)

theorem parse_eq_ok_iff (data : Bytes) (fileLength : Nat) (header : Header) :
    parse data fileLength = .ok header ↔
      Layout.headerSize ≤ data.length ∧ data.take 8 = Layout.magic ∧ ofFields data = header ∧
        header.Fits fileLength := by
  by_cases short : data.length < Layout.headerSize
  · simp [parse, short, Nat.not_le_of_lt short]
  · by_cases magic : data.take 8 = Layout.magic
    · by_cases current : (ofFields data).version = Layout.formatVersion
      · have accepted := checkBounds_eq_ok_iff current fileLength header
        simp only [parse, short, magic, current, if_false, ne_eq, not_true_eq_false, accepted,
          Nat.not_lt.mp short, true_and]
        constructor
        · rintro ⟨fits, rfl⟩
          exact ⟨rfl, fits⟩
        · rintro ⟨rfl, fits⟩
          exact ⟨fits, rfl⟩
      · simp only [parse, short, magic, current, if_false, ne_eq, not_true_eq_false,
          not_false_eq_true, if_true, reduceCtorEq, false_iff]
        rintro ⟨_, _, rfl, fits⟩
        exact current fits.version_eq
    · simp [parse, short, magic]

/-- Writing a number that was read gives back the bytes that it stood in. -/
private theorem ofNat_field {data : Bytes} {offset width : Nat}
    (inside : offset + width ≤ data.length) :
    Bytes.ofNat width (field data offset width) = (data.drop offset).take width := by
  have written := Bytes.ofNat_toNat ((data.drop offset).take width)
  have length : ((data.drop offset).take width).length = width := by
    simp
    omega
  rw [length] at written
  exact written

private theorem field_lt {data : Bytes} {offset width : Nat}
    (inside : offset + width ≤ data.length) : field data offset width < Bytes.capacity width := by
  have bounded := Bytes.toNat_lt ((data.drop offset).take width)
  have length : ((data.drop offset).take width).length = width := by
    simp
    omega
  rw [length] at bounded
  exact bounded

/-- The bytes of a header that was read are those that it was read from, with zeros in the
reserved places. -/
theorem toBytes_ofFields {data : Bytes} (long : Layout.headerSize ≤ data.length)
    (magic : data.take 8 = Layout.magic) :
    (ofFields data).toBytes =
      data.take 12 ++ (List.replicate 4 0 ++ ((data.drop 16).take 40 ++ List.replicate 8 0)) := by
  change 64 ≤ data.length at long
  have four : Bytes.ofNat 4 (UInt32.ofNat (field data 8 4)).toNat = (data.drop 8).take 4 := by
    rw [UInt32.toNat_ofNat_of_lt' (field_lt (by omega)), ofNat_field (by omega)]
  have eight : ∀ offset, offset + 8 ≤ 64 →
      Bytes.ofNat 8 (UInt64.ofNat (field data offset 8)).toNat = (data.drop offset).take 8 := by
    intro offset inside
    rw [UInt64.toNat_ofNat_of_lt' (field_lt (by omega)), ofNat_field (by omega)]
  have opening : data.take 12 = data.take 8 ++ (data.drop 8).take 4 := by
    rw [show (12 : Nat) = 8 + 4 from rfl, List.take_add]
  have numbers : (data.drop 16).take 40 =
      (data.drop 16).take 8 ++ ((data.drop 24).take 8 ++ ((data.drop 32).take 8 ++
        ((data.drop 40).take 8 ++ (data.drop 48).take 8))) := by
    rw [show (40 : Nat) = 8 + (8 + (8 + (8 + 8))) from rfl]
    simp only [List.take_add, List.drop_drop]
  simp only [toBytes, ofFields, four, eight, Nat.reduceAdd, Nat.reduceLeDiff, opening, numbers,
    magic, List.append_assoc]

theorem getElem?_toBytes_ofFields {data : Bytes} (long : Layout.headerSize ≤ data.length)
    (magic : data.take 8 = Layout.magic) {offset : Nat} (inside : offset < Layout.headerSize)
    (read : ¬ Reserved offset) : (ofFields data).toBytes[offset]? = data[offset]? := by
  change 64 ≤ data.length at long
  change offset < 64 at inside
  unfold Reserved at read
  rw [toBytes_ofFields long magic]
  by_cases front : offset < 12
  · rw [List.getElem?_append_left (by simp; omega), List.getElem?_take_of_lt front]
  · have first : (data.take 12).length = 12 := by simp; omega
    have second : ((data.drop 16).take 40).length = 40 := by simp; omega
    rw [List.getElem?_append_right (by omega), List.getElem?_append_right (by simp; omega),
      List.getElem?_append_left (by simp; omega), List.getElem?_take_of_lt (by simp; omega),
      List.getElem?_drop]
    congr 1
    simp
    omega

/-- Reading accepts exactly the bytes of headers that fit, apart from the reserved ones. -/
theorem parse_acceptsExactly (fileLength : Nat) :
    (∀ (data : Bytes) (header : Header),
      (parse data fileLength = .ok header ↔
        Layout.headerSize ≤ data.length ∧ data.take 8 = Layout.magic ∧ ofFields data = header ∧
          header.Fits fileLength) ∧
      (parse data fileLength = .ok header → ∀ offset < Layout.headerSize, ¬ Reserved offset →
        header.toBytes[offset]? = data[offset]?)) ∧
    ∀ header : Header, header.version = Layout.formatVersion →
      (parse header.toBytes fileLength = .ok header ↔ header.Fits fileLength) ∧
      (¬ header.Fits fileLength → ∃ fault, parse header.toBytes fileLength = .error fault) := by
  constructor
  · intro data header
    refine ⟨parse_eq_ok_iff data fileLength header, ?_⟩
    intro accepted offset inside read
    obtain ⟨long, magic, rfl, _⟩ := (parse_eq_ok_iff data fileLength header).mp accepted
    exact getElem?_toBytes_ofFields long magic inside read
  · intro header current
    have written := parse_toBytes current fileLength
    have accepted := checkBounds_eq_ok_iff current fileLength header
    constructor
    · simp [written, accepted]
    · intro unfit
      rw [written]
      cases checked : header.checkBounds fileLength with
      | error fault => exact ⟨fault, rfl⟩
      | ok found =>
          have fits := (checkBounds_eq_ok_iff current fileLength found).mp checked
          exact absurd fits.1 unfit

/-- A header whose payload stands at the end of the map, and the same bytes with the reserved ones
filled. -/
def atTheEnd : Header where
  version := Layout.formatVersion
  mapSize := 8192
  generation := 7
  dataLength := 100
  entries := 3
  dataOffset := 8092

def filledIn : Bytes :=
  atTheEnd.toBytes.take 12 ++ List.replicate 4 255 ++ (atTheEnd.toBytes.drop 16).take 40 ++
    List.replicate 9 255

theorem parse_acceptsExactly_filledIn :
    parse filledIn 8192 = .ok atTheEnd ∧
      (∀ offset < Layout.headerSize, ¬ Reserved offset →
        atTheEnd.toBytes[offset]? = filledIn[offset]?) ∧
      parse atTheEnd.toBytes 8192 = .ok atTheEnd ∧
      ∃ fault, parse atTheEnd.toBytes 8191 = .error fault := by
  have fits : atTheEnd.Fits 8192 :=
    ⟨rfl, by decide, by decide, by decide, by decide, by decide⟩
  have reads := (parse_acceptsExactly 8192).1 filledIn atTheEnd
  have accepted := reads.1.mpr ⟨by decide, by decide, by decide, fits⟩
  have unfit : ¬ atTheEnd.Fits 8191 := fun fits => absurd fits.stop_le_length (by decide)
  exact ⟨accepted, reads.2 accepted, ((parse_acceptsExactly 8192).2 atTheEnd rfl).1.mpr fits,
    ((parse_acceptsExactly 8191).2 atTheEnd rfl).2 unfit⟩

end RecordFile.Header
