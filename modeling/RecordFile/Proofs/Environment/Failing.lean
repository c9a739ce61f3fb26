/-
What a refused write leaves of the environment it was asked of.

The file stays as it is in every case. A put is admitted by the room that its commit then finds,
so it is refused, if at all, before the records are given away. A deletion is not checked before
its commit: where that finds no room the records are gone from the snapshot until the next refresh.
-/

import RecordFile.Proofs.Environment.Fitting

namespace RecordFile

namespace Environment

variable {env env' : Environment} {file : Image} {header : Header}

/-! ### What can be read without a refresh -/

structure ReadsAs (env env' : Environment) : Prop where
  get?_eq : ∀ key, env'.get? key = env.get? key
  first?_eq : env'.first? = env.first?
  after?_eq : ∀ key, env'.after? key = env.after? key
  size_eq : env'.size = env.size

structure ReadsNothing (env : Environment) : Prop where
  get?_eq : ∀ key, env.get? key = none
  first?_eq : env.first? = none
  after?_eq : ∀ key, env.after? key = none
  size_eq : env.size = 0

theorem readsAs_of_records_eq (same : env'.snapshot.records = env.snapshot.records) :
    env.ReadsAs env' where
  get?_eq _ := by rw [get?, get?, same]
  first?_eq := by rw [first?, first?, same]
  after?_eq _ := by rw [after?, after?, same]
  size_eq := by rw [size, size, same]

theorem readsNothing_of_records_eq (empty : env.snapshot.records = Records.empty) :
    env.ReadsNothing where
  get?_eq _ := by rw [get?, empty]; rfl
  first?_eq := by rw [first?, empty]; rfl
  after?_eq _ := by rw [after?, empty]; rfl
  size_eq := by rw [size, empty]; rfl

/-! ### Snapshots that are current -/

structure Mirrors (env : Environment) (file : Image) (header : Header) : Prop where
  readable : readHeader file = .ok header
  decoded : file.recordsOf header = .ok env.snapshot.records
  generation?_eq : env.snapshot.generation? = some header.generation
  dataOffset_eq : env.snapshot.dataOffset = header.dataOffset.toNat
  dataLength_eq : env.snapshot.dataLength = header.dataLength.toNat

theorem Mirrors.fits (mirrors : env.Mirrors file header) : header.Fits file.size :=
  Header.fits_of_parse mirrors.readable

theorem Mirrors.of_snapshot_eq (mirrors : env.Mirrors file header)
    (same : env'.snapshot = env.snapshot) : env'.Mirrors file header := by
  obtain ⟨readable, decoded, generation, offset, length⟩ := mirrors
  rw [← same] at decoded generation offset length
  exact ⟨readable, decoded, generation, offset, length⟩

theorem Mirrors.sound (mirrors : env.Mirrors file header) : env.transaction.Sound := by
  obtain ⟨payload, _, storable⟩ := (Records.decode_eq_ok_iff _ _ _).mp mirrors.decoded
  refine ⟨?_, storable⟩
  change env.snapshot.dataLength = env.snapshot.records.encodedLength
  rw [mirrors.dataLength_eq, ← Records.length_encode, ← payload]
  exact (Image.length_read _ _ _).symm

/-- Of an environment with a current snapshot a refresh changes the mapping only. -/
theorem Mirrors.refresh_eq (mirrors : env.Mirrors file header) :
    env.refresh file =
      match env.follow header with
      | .error cause => (.error (.io cause), env)
      | .ok env => (.ok (), env) := by
  unfold refresh
  rw [mirrors.readable]
  dsimp only
  rcases env.follow_max header with ⟨_, env', followed, _, same, _⟩ | ⟨_, cause, refused⟩
  · rw [followed]
    dsimp only
    rw [same, if_pos mirrors.generation?_eq]
  · rw [refused]

/-- What has been read anew is current. -/
theorem mirrors_of_refresh (unread : env.snapshot.generation? = none)
    (refreshed : env.refresh file = (.ok (), env')) : ∃ header, env'.Mirrors file header := by
  unfold refresh at refreshed
  split at refreshed
  · cases refreshed
  · next header read =>
      rcases env.follow_max header with ⟨_, mapped, followed, _, same, _⟩ | ⟨_, cause, refused⟩
      · rw [followed] at refreshed
        dsimp only at refreshed
        rw [same, unread, if_neg (by rintro ⟨⟩)] at refreshed
        split at refreshed
        · cases refreshed
        · next records decoded =>
            cases refreshed
            exact ⟨header, read, decoded, rfl, rfl, rfl⟩
      · rw [refused] at refreshed
        cases refreshed

/-! ### Refused writes -/

/-- Where a transaction ends is settled by what there is room for beside the live payload. -/
theorem transact_mirrors {α : Type} (mirrors : env.Mirrors file header)
    (writer : env.flags.readOnly = false) (covers : header.mapSize ≤ env.mapSize)
    (operation : Transaction → Except EngineError (α × Transaction)) {value : α}
    {txn : Transaction} (ran : operation env.transaction = .ok (value, txn)) :
    (txn.dataLength ≤ Placement.capacity env.mapSize.toNat header.dataOffset.toNat
        header.dataLength.toNat ∧
      ∃ env' file', env.transact operation file = (.ok value, env', file')) ∨
    (Placement.capacity env.mapSize.toNat header.dataOffset.toNat header.dataLength.toNat <
        txn.dataLength ∧
      env.transact operation file = (.error (.mapFull
        (Layout.headerSize + header.dataLength.toNat + txn.dataLength) env.mapSize.toNat),
        env.lent.forget, file)) := by
  have large := UInt64.le_iff_toNat_le.mp covers
  have placed : (Placement.place? env.mapSize.toNat header.dataOffset.toNat
      header.dataLength.toNat txn.dataLength).isSome = true ↔ _ := Placement.place?_isSome_iff
    (Nat.le_trans mirrors.fits.headerSize_le_mapSize large) mirrors.fits.dataOffset_ge
    (Nat.le_trans mirrors.fits.stop_le_mapSize large)
  unfold transact commit
  rw [ran]
  dsimp only
  rw [writer, if_neg Bool.false_ne_true, mirrors.readable]
  dsimp only
  cases place : Placement.place? env.mapSize.toNat header.dataOffset.toNat
      header.dataLength.toNat txn.dataLength with
  | none =>
      rw [place] at placed
      exact Or.inr ⟨Nat.lt_of_not_le fun fits => Bool.false_ne_true (placed.mpr fits), rfl⟩
  | some offset =>
      rw [place] at placed
      exact Or.inl ⟨placed.mp rfl, _, _, rfl⟩

theorem transact_delete_mirrors (mirrors : env.Mirrors file header)
    (writer : env.flags.readOnly = false) (covers : header.mapSize ≤ env.mapSize) (key : Bytes) :
    ((env.snapshot.records.erase key).encodedLength ≤ Placement.capacity env.mapSize.toNat
        header.dataOffset.toNat header.dataLength.toNat ∧
      ∃ found env' file', env.transact (fun txn => .ok (txn.delete key)) file =
        (.ok found, env', file')) ∨
    (Placement.capacity env.mapSize.toNat header.dataOffset.toNat header.dataLength.toNat <
        (env.snapshot.records.erase key).encodedLength ∧
      env.transact (fun txn => .ok (txn.delete key)) file = (.error (.mapFull
        (Layout.headerSize + header.dataLength.toNat +
          (env.snapshot.records.erase key).encodedLength) env.mapSize.toNat),
        env.lent.forget, file)) := by
  have left : (env.transaction.delete key).2.dataLength =
      (env.snapshot.records.erase key).encodedLength := by
    rw [(mirrors.sound.delete key).dataLength_eq, Transaction.records_delete]
    rfl
  rw [← left]
  rcases transact_mirrors mirrors writer covers (fun txn => .ok (txn.delete key))
      (Eq.refl (Except.ok (env.transaction.delete key))) with ⟨fits, done⟩ | full
  · exact Or.inl ⟨fits, _, done⟩
  · exact Or.inr full

/-- A put that is refused has not given its records away. -/
theorem transact_put_refused (mirrors : env.Mirrors file header)
    (writer : env.flags.readOnly = false) (covers : header.mapSize ≤ env.mapSize)
    {key value : Bytes} {keepExisting : Bool} {failure : EngineError} {file' : Image}
    (refused : env.transact (fun txn => (txn.put key value keepExisting).map fun txn => ((), txn))
      file = (.error failure, env', file')) : file' = file ∧ env' = env := by
  cases ran : env.transaction.put key value keepExisting with
  | error cause =>
      rw [transact_of_error (by rw [ran]; rfl)] at refused
      cases refused
      exact ⟨rfl, rfl⟩
  | ok txn =>
      exfalso
      -- The limit of the transaction is the room that its commit finds.
      have fits : Layout.headerSize + txn.dataLength ≤ env.transaction.limit := by
        rcases env.transaction.put_cases key value keepExisting with
          ⟨_, put⟩ | ⟨_, _, put⟩ | ⟨_, _, _, put⟩ | ⟨_, _, room, put⟩
        · rw [ran] at put
          cases put
        · rw [ran] at put
          cases put
        · rw [ran] at put
          cases put
        · rw [ran] at put
          cases put
          exact room
      change _ ≤ Layout.headerSize + Placement.capacity _ _ _ at fits
      rw [mirrors.dataOffset_eq, mirrors.dataLength_eq] at fits
      rcases transact_mirrors mirrors writer covers
          (fun txn => (txn.put key value keepExisting).map fun txn => ((), txn))
          (congrArg (Except.map fun txn => ((), txn)) ran) with ⟨_, _, _, done⟩ | ⟨exceeds, _⟩
      · rw [done] at refused
        cases refused
      · exact absurd (Nat.le_of_add_le_add_left fits) (Nat.not_le_of_lt exceeds)

theorem put_refused (mirrors : env.Mirrors file header) {key value : Bytes}
    {keepExisting : Bool} {failure : EngineError} {file' : Image}
    (refused : env.put key value keepExisting file = (.error failure, env', file')) :
    file' = file ∧ env.ReadsAs env' := by
  unfold put at refused
  split at refused
  · cases refused
    exact ⟨rfl, readsAs_of_records_eq rfl⟩
  · next writer =>
      have writer : env.flags.readOnly = false := by simpa using writer
      rw [mirrors.refresh_eq] at refused
      rcases env.follow_max header with ⟨_, mapped, followed, size, same, kin⟩ | ⟨_, cause, far⟩
      · rw [followed] at refused
        dsimp only at refused
        have covers : header.mapSize ≤ mapped.mapSize := size ▸ right_le_max env.mapSize _
        obtain ⟨fileEq, envEq⟩ := transact_put_refused (mirrors.of_snapshot_eq same)
          (kin.flags_eq ▸ writer) covers refused
        rw [fileEq, envEq]
        exact ⟨rfl, readsAs_of_records_eq (congrArg Snapshot.records same)⟩
      · rw [far] at refused
        cases refused
        exact ⟨rfl, readsAs_of_records_eq rfl⟩

structure Strands (env : Environment) (header : Header) (key : Bytes) : Prop where
  writer : env.flags.readOnly = false
  mappable : env.mapSize < header.mapSize → Mappable env.room header.mapSize
  present : env.get? key ≠ none
  cramped : Placement.capacity (max env.mapSize header.mapSize).toNat header.dataOffset.toNat
    header.dataLength.toNat < (env.snapshot.records.erase key).encodedLength

theorem Strands.not_readsAs {key : Bytes} (strands : env.Strands header key)
    (nothing : env'.ReadsNothing) : ¬ env.ReadsAs env' := by
  intro same
  have gone := same.get?_eq key
  rw [nothing.get?_eq] at gone
  exact strands.present gone.symm

/-- A deletion is refused without having given its records away, or it strands. -/
theorem delete_refused (mirrors : env.Mirrors file header) {key : Bytes} {failure : EngineError}
    {file' : Image} (refused : env.delete key file = (.error failure, env', file')) :
    file' = file ∧ ((¬ env.Strands header key ∧ env.ReadsAs env') ∨
      (env.Strands header key ∧ env'.ReadsNothing)) := by
  unfold delete at refused
  split at refused
  · next reader =>
      cases refused
      refine ⟨rfl, Or.inl ⟨?_, readsAs_of_records_eq rfl⟩⟩
      intro strands
      rw [strands.writer] at reader
      cases reader
  · next writer =>
      have writer : env.flags.readOnly = false := by simpa using writer
      rw [mirrors.refresh_eq] at refused
      rcases env.follow_max header with
        ⟨mappable, mapped, followed, size, same, kin⟩ | ⟨⟨less, far⟩, cause, notMapped⟩
      · rw [followed] at refused
        dsimp only at refused
        split at refused
        · cases refused
        · next present =>
            have mirrors' := mirrors.of_snapshot_eq same
            have covers : header.mapSize ≤ mapped.mapSize := size ▸ right_le_max env.mapSize _
            rcases transact_delete_mirrors mirrors' (kin.flags_eq ▸ writer) covers key with
              ⟨_, _, _, _, done⟩ | ⟨cramped, full⟩
            · rw [done] at refused
              cases refused
            · rw [full] at refused
              cases refused
              have present : mapped.get? key ≠ none := fun absent => present (by rw [absent]; rfl)
              unfold get? at present
              rw [same] at present cramped
              rw [size] at cramped
              exact ⟨rfl, Or.inr ⟨⟨writer, mappable, present, cramped⟩,
                readsNothing_of_records_eq rfl⟩⟩
      · rw [notMapped] at refused
        cases refused
        exact ⟨rfl, Or.inl ⟨fun strands => far (strands.mappable less),
          readsAs_of_records_eq rfl⟩⟩

/-- The next refresh brings back what a stranded deletion has given away. -/
theorem delete_of_strands (mirrors : env.Mirrors file header) {key : Bytes}
    (strands : env.Strands header key) :
    ∃ env', env.delete key file = (.error (.mapFull
        (Layout.headerSize + header.dataLength.toNat +
          (env.snapshot.records.erase key).encodedLength)
        (max env.mapSize header.mapSize).toNat), env', file) ∧ env'.ReadsNothing ∧
      ∃ renewed, env'.refresh file = (.ok (), renewed) ∧ env.ReadsAs renewed := by
  rcases env.follow_max header with
    ⟨_, mapped, followed, size, same, kin⟩ | ⟨⟨less, far⟩, _, _⟩
  · have mirrors' := mirrors.of_snapshot_eq same
    have covers : header.mapSize ≤ mapped.mapSize := size ▸ right_le_max env.mapSize _
    have present : mapped.get? key ≠ none := by
      unfold get?
      rw [same]
      exact strands.present
    refine ⟨mapped.lent.forget, ?_, readsNothing_of_records_eq rfl, ?_⟩
    · unfold delete
      rw [strands.writer, if_neg Bool.false_ne_true, mirrors.refresh_eq, followed]
      dsimp only
      rw [if_neg (by simpa using present)]
      rcases transact_delete_mirrors mirrors' (kin.flags_eq ▸ strands.writer) covers key with
        ⟨fits, _⟩ | ⟨_, full⟩
      · rw [same, size] at fits
        exact absurd strands.cramped (Nat.not_lt_of_le fits)
      · rw [full, same, size]
    · have nothingToMap : mapped.lent.forget.follow header = .ok mapped.lent.forget :=
        if_neg (UInt64.not_lt.mpr covers)
      unfold refresh
      rw [mirrors.readable]
      dsimp only
      rw [nothingToMap]
      dsimp only
      rw [if_neg (by rintro ⟨⟩), mirrors.decoded]
      exact ⟨_, rfl, readsAs_of_records_eq rfl⟩
  · exact absurd (strands.mappable less) far

/-- A refused write leaves the file as it is. The reads stay as they were after every put, and
after every deletion but one whose commit meets a full map. -/
theorem refused_keepsReads (mirrors : env.Mirrors file header) :
    (∀ key value keepExisting failure env' file',
      env.put key value keepExisting file = (.error failure, env', file') →
        file' = file ∧ env.ReadsAs env') ∧
    (∀ key failure env' file', env.delete key file = (.error failure, env', file') →
      file' = file ∧ (env.ReadsAs env' ↔ ¬ env.Strands header key)) ∧
    ∀ key, env.Strands header key →
      ∃ env', env.delete key file = (.error (.mapFull
          (Layout.headerSize + header.dataLength.toNat +
            (env.snapshot.records.erase key).encodedLength)
          (max env.mapSize header.mapSize).toNat), env', file) ∧ env'.ReadsNothing ∧
        ∃ renewed, env'.refresh file = (.ok (), renewed) ∧ env.ReadsAs renewed := by
  refine ⟨fun _ _ _ _ _ _ => put_refused mirrors, ?_, fun _ => delete_of_strands mirrors⟩
  intro key failure env' file' refused
  obtain ⟨fileEq, kept | lost⟩ := delete_refused mirrors refused
  · exact ⟨fileEq, iff_of_true kept.2 kept.1⟩
  · exact ⟨fileEq, iff_of_false (lost.1.not_readsAs lost.2) (not_not_intro lost.1)⟩

def smallAndLarge : Records :=
  (Records.empty.insert [97] [49]).insert [98] (List.replicate 2100 118)

def crowdedHeader : Header :=
  ⟨Layout.formatVersion, 4096, 2, 2119, 2, 1977⟩

def crowdedFile : Image :=
  ((Image.zeros 4096).write 1977 smallAndLarge.encode).write 0 crowdedHeader.toBytes

def crowdedReader : Environment :=
  (refresh { unmapped "x.mdb" {} 65536 with mapSize := 4096 } crowdedFile).2

set_option maxRecDepth 20000 in
/-- With the small record gone, the large one has no place beside both of them. -/
theorem refused_keepsReads_crowded :
    crowdedReader.Mirrors crowdedFile crowdedHeader ∧
      crowdedReader.Strands crowdedHeader [97] ∧
      crowdedReader.get? [98] = some (List.replicate 2100 118) ∧
      ∃ env' renewed, crowdedReader.delete [97] crowdedFile =
          (.error (.mapFull 4292 4096), env', crowdedFile) ∧ get? env' [98] = none ∧
        env'.refresh crowdedFile = (.ok (), renewed) ∧
        renewed.get? [98] = some (List.replicate 2100 118) := by
  have refreshed : refresh { unmapped "x.mdb" {} 65536 with mapSize := 4096 } crowdedFile =
      (.ok (), crowdedReader) := Prod.ext rfl rfl
  have mirrors : crowdedReader.Mirrors crowdedFile crowdedHeader := by
    obtain ⟨header, mirrors⟩ := mirrors_of_refresh rfl refreshed
    have read : (readHeader crowdedFile).toOption = some crowdedHeader := by decide +kernel
    rw [mirrors.readable] at read
    cases read
    exact mirrors
  have records : crowdedReader.snapshot.records = smallAndLarge := by
    have decoded : (crowdedFile.recordsOf crowdedHeader).toOption = some smallAndLarge := by
      decide +kernel
    rw [mirrors.decoded] at decoded
    exact Option.some.inj decoded
  have held : crowdedReader.get? [98] = some (List.replicate 2100 118) := by
    unfold get?
    rw [records]
    decide +kernel
  have strands : crowdedReader.Strands crowdedHeader [97] :=
    { writer := rfl
      mappable := fun less => absurd less (by decide +kernel)
      present := by
        unfold get?
        rw [records]
        decide +kernel
      cramped := by
        rw [records]
        decide +kernel }
  obtain ⟨env', refused, nothing, renewed, again, same⟩ :=
    (refused_keepsReads mirrors).2.2 [97] strands
  have left : (crowdedReader.snapshot.records.erase [97]).encodedLength = 2109 := by
    rw [records]
    decide +kernel
  rw [left] at refused
  exact ⟨mirrors, strands, held, env', renewed, refused, nothing.get?_eq [98], again,
    (same.get?_eq [98]).trans held⟩

end Environment

end RecordFile
