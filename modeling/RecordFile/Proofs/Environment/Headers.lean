/-
How one header follows another.

Nothing is asked here of what a file holds, nor of who else writes to it. A header that is read
after an operation has taken the place of one that was read before: a commit and an open that
discards the records count the generation up, nothing else moves the payload, and no map size is
set that a file cannot have. So the generation alone tells an environment whether the payload is
where it has read it last, and what it has read it can also write.
-/

import RecordFile.Proofs.Environment.Refreshing

namespace RecordFile

open Environment (readHeader resized successor store publish)

structure Header.Succeeds (header : Header) (bumps : Nat) (next : Header) : Prop where
  generation_eq : next.generation = header.generation + UInt64.ofNat bumps
  dataOffset_eq : bumps = 0 → next.dataOffset = header.dataOffset
  dataLength_eq : bumps = 0 → next.dataLength = header.dataLength
  mapSize : next.mapSize = header.mapSize ∨ next.mapSize.toNat ≤ Image.longest

namespace Image

structure PassesOn (file : Image) (bumps : Nat) (file' : Image) : Prop where
  some : file.size ≠ 0 → file'.size ≠ 0
  succeeds : ∀ next, readHeader file' = .ok next →
    ∃ header, readHeader file = .ok header ∧ header.Succeeds bumps next

def Narrow (file : Image) : Prop :=
  ∀ header, readHeader file = .ok header → header.mapSize.toNat ≤ longest

variable {file file' other : Image} {header next : Header} {bumps : Nat}

theorem PassesOn.refl (file : Image) : file.PassesOn 0 file where
  some := id
  succeeds next read :=
    ⟨next, read, (UInt64.add_zero _).symm, fun _ => rfl, fun _ => rfl, Or.inl rfl⟩

theorem Narrow.passOn (narrow : file.Narrow) (passes : file.PassesOn bumps file') :
    file'.Narrow := by
  intro next read
  obtain ⟨header, read', succeeds⟩ := passes.succeeds next read
  rcases succeeds.mapSize with same | short
  · rw [same]
    exact narrow header read'
  · exact short

theorem headerSize_le_of_readHeader (read : readHeader file = .ok header) :
    Layout.headerSize ≤ file.size := by
  have fits := Header.fits_of_parse read
  have behind := fits.dataOffset_ge
  have inside := fits.stop_le_length
  unfold Header.payloadStop at inside
  omega

theorem size_write_header_ne_zero (other : Image) (header : Header) :
    (other.write 0 header.toBytes).size ≠ 0 := by
  have something : header.toBytes ≠ [] := by
    intro nothing
    have length := Header.length_toBytes header
    rw [nothing] at length
    cases length
  rw [size_write _ _ something, Header.length_toBytes]
  change max other.size 64 ≠ 0
  omega

theorem passesOn_write (read : readHeader file = .ok header) (succeeds : header.Succeeds bumps next)
    (other : Image) : file.PassesOn bumps (other.write 0 next.toBytes) where
  some := fun _ => size_write_header_ne_zero other next
  succeeds := by
    intro found read'
    rw [eq_of_readHeader_write read']
    exact ⟨header, read, succeeds⟩

/-- The header is written last, and into the file in any case. -/
theorem publish_eq_write_header (flags : OpenFlags) (large : Layout.headerSize ≤ file.size)
    (next : Header) (payload : Bytes) :
    publish flags next payload file =
      (store flags file next.dataOffset.toNat payload).write 0 next.toBytes := by
  have kept : file.size ≤ (store flags file next.dataOffset.toNat payload).size := by
    unfold store
    split
    · exact Nat.le_of_eq (size_overwrite _ _ _).symm
    · exact size_le_size_write _ _ _
  unfold publish
  apply Environment.store_eq_write
  rw [Header.length_toBytes, Nat.zero_add]
  exact Nat.le_trans large kept

theorem passesOn_resized (read : readHeader file = .ok header) {size : UInt64}
    (short : size.toNat ≤ longest) : file.PassesOn 0 (resized header size file) := by
  have succeeds : header.Succeeds 0 (header.withMapSize size) :=
    ⟨(UInt64.add_zero _).symm, fun _ => rfl, fun _ => rfl, Or.inr short⟩
  exact passesOn_write read succeeds _

end Image

namespace Environment

open Image

variable {env env' : Environment} {file file' : Image} {header : Header} {txn : Transaction}
  {age bumps : Nat} {α : Type}

structure Moderate (env : Environment) : Prop where
  mapSize_le : env.mapSize.toNat ≤ Image.longest
  behind : env.snapshot.generation? ≠ none → Layout.headerSize ≤ env.snapshot.dataOffset
  inside : env.snapshot.generation? ≠ none →
    env.snapshot.dataOffset + env.snapshot.dataLength ≤ env.mapSize.toNat

/-- What was read can be written, and lies where it lay unless commits have been missed. -/
structure Kept (env : Environment) (file : Image) (age : Nat) : Prop extends env.Moderate where
  sound : env.snapshot.generation? ≠ none → env.snapshot.Sound
  lag : ∀ header generation, readHeader file = .ok header →
    env.snapshot.generation? = some generation →
      ∃ missed ≤ age, header.generation = generation + UInt64.ofNat missed ∧
        (missed = 0 → env.snapshot.dataOffset = header.dataOffset.toNat ∧
          env.snapshot.dataLength = header.dataLength.toNat)

theorem Kept.mono (kept : env.Kept file age) {later : Nat} (older : age ≤ later) :
    env.Kept file later where
  toModerate := kept.toModerate
  sound := kept.sound
  lag := by
    intro header generation read current
    obtain ⟨missed, bound, rest⟩ := kept.lag header generation read current
    exact ⟨missed, Nat.le_trans bound older, rest⟩

theorem Kept.withRoom (kept : env.Kept file age) (room : Nat) :
    Kept { env with room := room } file age :=
  ⟨⟨kept.mapSize_le, kept.behind, kept.inside⟩, kept.sound, kept.lag⟩

/-- What somebody else does to the file makes what was read older, at most. -/
theorem Kept.passOn (kept : env.Kept file age) (passes : file.PassesOn bumps file') :
    env.Kept file' (age + bumps) where
  toModerate := kept.toModerate
  sound := kept.sound
  lag := by
    intro next generation read current
    obtain ⟨header, read', succeeds⟩ := passes.succeeds next read
    obtain ⟨missed, bound, behind, lies⟩ := kept.lag header generation read' current
    refine ⟨missed + bumps, by omega, ?_, ?_⟩
    · rw [succeeds.generation_eq, behind, UInt64.ofNat_add, UInt64.add_assoc]
    -- Where no generation was missed in all, nothing was published on the way.
    · intro none
      have same : bumps = 0 := by omega
      rw [succeeds.dataOffset_eq same, succeeds.dataLength_eq same]
      exact lies (by omega)

theorem Kept.located (kept : env.Kept file age) (recent : age < UInt64.size)
    (read : readHeader file = .ok header)
    (current : env.snapshot.generation? = some header.generation) :
    env.snapshot.dataOffset = header.dataOffset.toNat ∧
      env.snapshot.dataLength = header.dataLength.toNat := by
  obtain ⟨missed, bound, behind, lies⟩ := kept.lag header _ read current
  exact lies (missed_eq_zero (by omega) behind)

/-! ### Reading -/

/-- A larger mapping has the same payload in it. -/
theorem Kept.widen (kept : env.Kept file age) (same : env'.snapshot = env.snapshot)
    (larger : env.mapSize ≤ env'.mapSize) (short : env'.mapSize.toNat ≤ Image.longest) :
    env'.Kept file age := by
  have larger := UInt64.le_iff_toNat_le.mp larger
  refine ⟨⟨short, ?_, ?_⟩, ?_, ?_⟩
  · rw [same]
    exact kept.behind
  · rw [same]
    intro read
    exact Nat.le_trans (kept.inside read) larger
  · rw [same]
    exact kept.sound
  · rw [same]
    exact kept.lag

theorem kept_of_unread (short : env.mapSize.toNat ≤ Image.longest)
    (unread : env.snapshot.generation? = none) (file : Image) (age : Nat) : env.Kept file age where
  mapSize_le := short
  behind := fun read => absurd unread read
  inside := fun read => absurd unread read
  sound := fun read => absurd unread read
  lag := by
    intro header generation _ current
    rw [unread] at current
    cases current

/-- What the file says is read as it says. -/
theorem kept_of_read (short : env.mapSize.toNat ≤ Image.longest)
    (read : readHeader file = .ok header) (enough : header.mapSize ≤ env.mapSize)
    (current : env.snapshot.generation? = some header.generation)
    (offsetEq : env.snapshot.dataOffset = header.dataOffset.toNat)
    (lengthEq : env.snapshot.dataLength = header.dataLength.toNat)
    (decoded : file.recordsOf header = .ok env.snapshot.records) : env.Kept file 0 := by
  have fits := Header.fits_of_parse read
  have enough := UInt64.le_iff_toNat_le.mp enough
  obtain ⟨payload, _, storable⟩ := (Records.decode_eq_ok_iff _ _ _).mp decoded
  refine ⟨⟨short, ?_, ?_⟩, ?_, ?_⟩
  · intro _
    rw [offsetEq]
    exact fits.dataOffset_ge
  · intro _
    rw [offsetEq, lengthEq]
    exact Nat.le_trans fits.stop_le_mapSize enough
  · intro _
    refine ⟨?_, storable⟩
    rw [lengthEq, ← Records.length_encode, ← payload]
    exact (length_read _ _ _).symm
  · intro found generation read' known
    rw [read] at read'
    cases read'
    rw [current] at known
    cases known
    exact ⟨0, Nat.le_refl 0, (UInt64.add_zero _).symm, fun _ => ⟨offsetEq, lengthEq⟩⟩

theorem Kept.refresh (kept : env.Kept file age) : (env.refresh file).2.Kept file age := by
  unfold Environment.refresh
  cases read : readHeader file with
  | error fault => exact kept
  | ok header =>
      dsimp only
      rcases env.follow_max header with
        ⟨mappable, env', followed, size, same, _⟩ | ⟨_, cause, refused⟩
      · have larger : env.mapSize ≤ env'.mapSize := size ▸ left_le_max _ _
        have enough : header.mapSize ≤ env'.mapSize := size ▸ right_le_max _ _
        have short : env'.mapSize.toNat ≤ Image.longest := by
          rw [size, toNat_max]
          apply Nat.max_le.mpr
          refine ⟨kept.mapSize_le, ?_⟩
          -- A header may announce more than a file can have; then nothing was mapped for it.
          by_cases less : env.mapSize < header.mapSize
          · exact (mappable less).1
          · exact Nat.le_trans (UInt64.le_iff_toNat_le.mp (UInt64.not_lt.mp less)) kept.mapSize_le
        have wider := kept.widen same larger short
        rw [followed]
        dsimp only
        split
        · exact wider
        · cases decoded : file.recordsOf header with
          | error fault => exact wider
          | ok records =>
              have fresh : Kept { env' with
                  snapshot := ⟨some header.generation, records, header.dataOffset.toNat,
                    header.dataLength.toNat⟩ } file 0 :=
                kept_of_read short read enough rfl rfl rfl decoded
              exact fresh.mono (Nat.zero_le age)
      · rw [refused]
        exact kept

theorem Kept.beginWrite (kept : env.Kept file age) : (env.beginWrite file).2.Kept file age := by
  have refreshed := kept.refresh
  unfold Environment.beginWrite
  split
  · exact kept
  · split
    · next refused =>
        rw [refused] at refreshed
        exact refreshed
    · next done =>
        rw [done] at refreshed
        exact refreshed

/-! ### Writing -/

/-- An operation that comes to this publishes once at most, and has read what it has published. -/
def Leaves (file : Image) (age : Nat) (result : Except EngineError α × Environment × Image) :
    Prop :=
  ∃ bumps ≤ 1, file.PassesOn bumps result.2.2 ∧ result.2.1.Kept result.2.2 (age + bumps)

theorem Kept.leaves (kept : env.Kept file age) (result : Except EngineError α) :
    Leaves file age (result, env, file) :=
  ⟨0, Nat.zero_le 1, PassesOn.refl file, kept⟩

theorem kept_published (moderate : env.Moderate) (read : readHeader file = .ok header)
    (sound : txn.Sound) {offset : Nat}
    (place : Placement.place? env.mapSize.toNat header.dataOffset.toNat header.dataLength.toNat
      txn.dataLength = some offset) :
    (env.published header offset txn).Kept
      (publish env.flags (successor header offset txn) txn.records.encode file) 0 := by
  have inMap := Placement.stop_le_of_place? place
  have bound := Nat.lt_of_le_of_lt inMap env.mapSize.toNat_lt
  have offsetEq : (UInt64.ofNat offset).toNat = offset :=
    UInt64.toNat_ofNat_of_lt' (by change _ < 2 ^ 64; omega)
  have lengthEq : (UInt64.ofNat txn.dataLength).toNat = txn.dataLength :=
    UInt64.toNat_ofNat_of_lt' (by change _ < 2 ^ 64; omega)
  refine ⟨⟨moderate.mapSize_le, ?_, fun _ => inMap⟩,
    fun _ => ⟨sound.dataLength_eq, sound.storable⟩, ?_⟩
  · exact fun _ => Placement.headerSize_le_of_place? (Header.fits_of_parse read).dataOffset_ge place
  · intro found generation read' known
    rw [publish_eq_write_header env.flags (headerSize_le_of_readHeader read)] at read'
    cases eq_of_readHeader_write read'
    cases known
    exact ⟨0, Nat.le_refl 0, (UInt64.add_zero _).symm, fun _ => ⟨offsetEq.symm, lengthEq.symm⟩⟩

theorem Moderate.commit (moderate : env.Moderate) (sound : txn.Sound) (file : Image) (age : Nat) :
    Leaves file age (env.commit txn file) := by
  have short : env.forget.mapSize.toNat ≤ Image.longest := moderate.mapSize_le
  have forgotten : env.forget.Kept file age := kept_of_unread short rfl file age
  unfold Environment.commit
  split
  · exact forgotten.leaves _
  · split
    · exact forgotten.leaves _
    · next header read =>
        split
        · exact forgotten.leaves _
        · next offset place =>
            have succeeds : header.Succeeds 1 (successor header offset txn) :=
              ⟨rfl, fun none => absurd none Nat.one_ne_zero,
                fun none => absurd none Nat.one_ne_zero, Or.inl rfl⟩
            refine ⟨1, Nat.le_refl 1, ?_, ?_⟩
            · rw [publish_eq_write_header env.flags (headerSize_le_of_readHeader read)]
              exact passesOn_write read succeeds _
            · exact (kept_published moderate read sound place).mono (Nat.zero_le _)

theorem Kept.sound_transaction (kept : env.Kept file age)
    (read : env.snapshot.generation? ≠ none) : env.transaction.Sound :=
  ⟨(kept.sound read).dataLength_eq, (kept.sound read).storable⟩

theorem Moderate.lent (moderate : env.Moderate) : env.lent.Moderate :=
  ⟨moderate.mapSize_le, moderate.behind, moderate.inside⟩

theorem Kept.transact (kept : env.Kept file age)
    {operation : Transaction → Except EngineError (α × Transaction)}
    (sound : ∀ result txn, operation env.transaction = .ok (result, txn) → txn.Sound) :
    Leaves file age (env.transact operation file) := by
  unfold Environment.transact
  split
  · exact kept.leaves _
  · next result txn ran =>
      have committed := kept.toModerate.lent.commit (sound result txn ran) file age
      unfold Environment.lent at committed
      split
      · next refused =>
          rw [refused] at committed
          exact committed
      · next done =>
          rw [done] at committed
          exact committed

theorem generation?_of_refresh (refreshed : env.refresh file = (.ok (), env')) :
    env'.snapshot.generation? ≠ none := by
  obtain ⟨_, _, _, current, _⟩ := refresh_eq_ok refreshed
  rw [current]
  exact Option.some_ne_none _

theorem beginWrite_eq_ok (began : env.beginWrite file = (.ok txn, env')) :
    env.refresh file = (.ok (), env') ∧ txn = env'.transaction := by
  unfold Environment.beginWrite at began
  split at began
  · cases began
  · split at began
    · cases began
    · next refreshed =>
        cases began
        exact ⟨refreshed, rfl⟩

theorem Kept.put (kept : env.Kept file age) (key value : Bytes) (keepExisting : Bool) :
    Leaves file age (env.put key value keepExisting file) := by
  have refreshed := kept.refresh
  unfold Environment.put
  split
  · exact kept.leaves _
  · split
    · next refused =>
        rw [refused] at refreshed
        exact refreshed.leaves _
    · next env' done =>
        rw [done] at refreshed
        apply refreshed.transact
        intro result txn ran
        cases stored : env'.transaction.put key value keepExisting with
        | error failure =>
            rw [stored] at ran
            cases ran
        | ok after =>
            rw [stored] at ran
            cases ran
            exact (refreshed.sound_transaction (generation?_of_refresh done)).put stored

theorem Kept.delete (kept : env.Kept file age) (key : Bytes) :
    Leaves file age (env.delete key file) := by
  have refreshed := kept.refresh
  unfold Environment.delete
  split
  · exact kept.leaves _
  · split
    · next refused =>
        rw [refused] at refreshed
        exact refreshed.leaves _
    · next env' done =>
        rw [done] at refreshed
        split
        · exact refreshed.leaves _
        · apply refreshed.transact
          intro result txn ran
          have sound := (refreshed.sound_transaction (generation?_of_refresh done)).delete key
          rw [Except.ok.inj ran] at sound
          exact sound

theorem setMapSize_eq_ok {size : UInt64} {result : Header × Image}
    (set : setMapSize header size file = .ok result) :
    size.toNat ≤ Image.longest ∧
      result = (header.withMapSize size, resized header size file) := by
  by_cases short : size.toNat ≤ Image.longest
  · rw [setMapSize_of_le header file short] at set
    exact ⟨short, (Except.ok.inj set).symm⟩
  · rw [setMapSize_of_lt header file (Nat.lt_of_not_le short)] at set
    cases set

theorem Kept.grow (kept : env.Kept file age) (size : UInt64) :
    Leaves file age (env.grow size file) := by
  unfold Environment.grow
  split
  · exact kept.leaves _
  · split
    · exact kept.leaves _
    · next more =>
        have larger := UInt64.le_of_lt (UInt64.not_le.mp more)
        split
        · exact kept.leaves _
        · next header read =>
            split
            · exact kept.leaves _
            · next set =>
                obtain ⟨short, same⟩ := setMapSize_eq_ok set
                cases same
                have passes := passesOn_resized read short
                have after := kept.passOn passes
                rcases env.remap_cases size with ⟨_, done⟩ | ⟨_, cause, _, refused⟩
                · rw [done]
                  exact ⟨0, Nat.zero_le 1, passes, after.widen rfl larger short⟩
                · rw [refused]
                  exact ⟨0, Nat.zero_le 1, passes, after⟩

/-! ### Opening -/

structure Fresh (env : Environment) (file : Image) : Prop where
  kept : env.Kept file 0
  some : file.size ≠ 0
  narrow : file.Narrow

theorem attach_fresh {path : String} {flags : OpenFlags} {room : Nat}
    (attached : attach path flags room header file = .ok env) : env.Fresh file := by
  unfold attach at attached
  rcases (unmapped path flags room).remap_cases header.mapSize with
    ⟨mappable, done⟩ | ⟨_, cause, _, refused⟩
  · rw [done] at attached
    dsimp only at attached
    have unread : Kept { unmapped path flags room with mapSize := header.mapSize } file 0 :=
      kept_of_unread mappable.1 rfl file 0
    have kept := unread.refresh
    split at attached
    · cases attached
    · next refreshed =>
        rw [refreshed] at kept
        cases attached
        obtain ⟨found, read, enough, _⟩ := refresh_eq_ok refreshed
        have large := headerSize_le_of_readHeader read
        refine ⟨kept, ?_, ?_⟩
        · change 64 ≤ _ at large
          omega
        · intro other read'
          rw [read] at read'
          cases read'
          exact Nat.le_trans (UInt64.le_iff_toNat_le.mp enough) kept.mapSize_le
  · rw [refused] at attached
    cases attached

theorem open_fresh {path : String} {flags : OpenFlags} {asked : UInt64} {room : Nat}
    (opened : Environment.open path flags asked room file = (.ok env, file')) :
    env.Fresh file' := by
  unfold «open» at opened
  dsimp only at opened
  split at opened
  · cases opened
  · split at opened
    · split at opened
      · cases opened
      · obtain ⟨attached, rfl⟩ := Prod.mk.inj opened
        exact attach_fresh attached
    · split at opened
      · cases opened
      · obtain ⟨attached, rfl⟩ := Prod.mk.inj opened
        exact attach_fresh attached

theorem prepare_passesOn {flags : OpenFlags} {asked : UInt64} {result : Header × Image}
    (read : readHeader file = .ok header)
    (prepared : prepare flags asked header file = .ok result) :
    ∃ bumps ≤ 1, file.PassesOn bumps result.2 := by
  have widened : ∀ next file', widen header asked file = .ok (next, file') →
      file.PassesOn 0 file' ∧ header.Succeeds 0 next := by
    intro next file' widened
    unfold widen at widened
    dsimp only at widened
    split at widened
    · obtain ⟨short, same⟩ := setMapSize_eq_ok widened
      cases same
      exact ⟨passesOn_resized read short, (UInt64.add_zero _).symm, fun _ => rfl, fun _ => rfl,
        Or.inr short⟩
    · cases widened
      exact ⟨PassesOn.refl file, (UInt64.add_zero _).symm, fun _ => rfl, fun _ => rfl, Or.inl rfl⟩
  unfold prepare at prepared
  split at prepared
  · cases prepared
  · next next file' done =>
      obtain ⟨passes, succeeds⟩ := widened next file' done
      cases prepared
      split
      · unfold discard
        split
        · have discards : header.Succeeds 1 (withoutRecords next) := by
            refine ⟨?_, fun none => absurd none Nat.one_ne_zero,
              fun none => absurd none Nat.one_ne_zero, succeeds.mapSize⟩
            change next.generation + 1 = header.generation + 1
            rw [succeeds.generation_eq]
            exact congrArg (· + 1) (UInt64.add_zero _)
          exact ⟨1, Nat.le_refl 1, passesOn_write read discards file'⟩
        · exact ⟨0, Nat.zero_le 1, passes⟩
      · exact ⟨0, Nat.zero_le 1, passes⟩

theorem open_passesOn (some : file.size ≠ 0) (path : String) (flags : OpenFlags) (asked : UInt64)
    (room : Nat) :
    ∃ bumps ≤ 1, file.PassesOn bumps (Environment.open path flags asked room file).2 := by
  have same : ∃ bumps ≤ 1, file.PassesOn bumps file := ⟨0, Nat.zero_le 1, PassesOn.refl file⟩
  unfold «open» openingHeader
  dsimp only
  rw [if_neg some]
  split
  · exact same
  · next header file' opens =>
      split at opens
      · cases opens
      · split at opens
        · cases opens
        · next read =>
            cases opens
            split
            · split
              · exact same
              · exact same
            · split
              · exact same
              · next prepared => exact prepare_passesOn read prepared

end Environment

end RecordFile
