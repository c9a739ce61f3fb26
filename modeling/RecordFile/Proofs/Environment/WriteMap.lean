/-
Commits through a writable mapping and commits through the file.

The one writes its payload over whatever lies there, the other over zeros that then go to the
same place. Both fill the place to the last byte, since a transaction carries the length of its
records along, and the place is inside mapping and file. So a call comes to the same either way,
as long as the file has all of what is mapped. Each call leaves it so, and leaves it so for other
environments too; only growing can cut off what another one has mapped.
-/

import RecordFile.Environment.Mapping
import RecordFile.Proofs.Environment.Acceptance
import RecordFile.Proofs.Records.Buffer

namespace RecordFile

/-! ### Room for a mapping -/

/-- The file has all of its map, and this much of it can be mapped. Nothing is asked of a file
whose header is not accepted, since nothing is ever written to it. -/
structure Image.Houses (file : Image) (mapped : UInt64) : Prop where
  some : file.size ≠ 0
  covers : ∀ header, Environment.readHeader file = .ok header →
    mapped ≤ header.mapSize ∧ header.mapSize.toNat ≤ file.size

namespace Environment

open Image

variable {env : Environment} {file : Image} {header : Header} {mapped size : UInt64}

/-- A header that is replaced by one with the same map size houses as much. -/
theorem houses_write_header (houses : file.Houses mapped) (readable : readHeader file = .ok header)
    {other : Image} (same : other.size = file.size) {after : Header}
    (sizeEq : after.mapSize = header.mapSize) :
    (other.write 0 after.toBytes).Houses mapped := by
  obtain ⟨below, covered⟩ := houses.covers header readable
  have least := (Header.fits_of_parse readable).headerSize_le_mapSize
  have kept : (other.write 0 after.toBytes).size = file.size := by
    rw [size_write_of_fits (by rw [Header.length_toBytes]; omega), same]
  refine ⟨by rw [kept]; exact houses.some, ?_⟩
  intro found read
  rw [eq_of_readHeader_write read, sizeEq, kept]
  exact ⟨below, covered⟩

theorem houses_resized (header : Header) (file : Image) (below : mapped ≤ size) :
    (resized header size file).Houses mapped := by
  have grown : (resized header size file).size = max size.toNat (0 + Layout.headerSize) := by
    have something : (header.withMapSize size).toBytes ≠ [] := by
      intro nothing
      have length := Header.length_toBytes (header.withMapSize size)
      rw [nothing] at length
      cases length
    unfold resized
    rw [size_write _ _ something, size_resize, Header.length_toBytes]
  constructor
  · rw [grown]
    change max size.toNat 64 ≠ 0
    omega
  · intro found read
    rw [eq_of_readHeader_write read, grown]
    exact ⟨below, Nat.le_max_left _ _⟩

structure Housed (env : Environment) (file : Image) : Prop where
  houses : file.Houses env.mapSize
  sound : env.snapshot.generation? ≠ none → env.snapshot.Sound

/-! ### Mappings that can be written to -/

def withWriteMap (env : Environment) (writable : Bool) : Environment :=
  { env with flags := { env.flags with writeMap := writable } }

theorem remap_withWriteMap (env : Environment) (size : UInt64) (writable : Bool) :
    (env.withWriteMap writable).remap size = (env.remap size).map (·.withWriteMap writable) := by
  unfold remap
  split
  · rfl
  · split
    · next far =>
        have same : (env.withWriteMap writable).room = env.room := rfl
        rw [if_pos (same ▸ far)]
        rfl
    · next near =>
        have same : (env.withWriteMap writable).room = env.room := rfl
        rw [if_neg (same ▸ near)]
        rfl

theorem follow_withWriteMap (env : Environment) (header : Header) (writable : Bool) :
    (env.withWriteMap writable).follow header =
      (env.follow header).map (·.withWriteMap writable) := by
  have same : (env.withWriteMap writable).mapSize = env.mapSize := rfl
  unfold follow
  rw [same, remap_withWriteMap]
  split
  · cases env.remap header.mapSize with
    | error cause => rfl
    | ok env => rfl
  · rfl

theorem refresh_withWriteMap (env : Environment) (file : Image) (writable : Bool) :
    (env.withWriteMap writable).refresh file =
      ((env.refresh file).1, (env.refresh file).2.withWriteMap writable) := by
  unfold refresh
  cases readHeader file with
  | error fault => rfl
  | ok header =>
      dsimp only
      rw [follow_withWriteMap]
      cases env.follow header with
      | error cause => rfl
      | ok env =>
          have same : (env.withWriteMap writable).snapshot = env.snapshot := rfl
          dsimp only [Except.map]
          rw [same]
          split
          · rfl
          · cases file.recordsOf header with
            | error fault => rfl
            | ok records => rfl

theorem refresh_housed (housed : env.Housed file) : (env.refresh file).2.Housed file := by
  unfold refresh
  cases read : readHeader file with
  | error fault => exact housed
  | ok header =>
      dsimp only
      rcases env.follow_max header with ⟨_, env', followed, size, same, _⟩ | ⟨_, cause, refused⟩
      · have houses : file.Houses env'.mapSize := by
          refine ⟨housed.houses.some, fun found read' => ?_⟩
          rw [read] at read'
          cases read'
          obtain ⟨below, covered⟩ := housed.houses.covers header read
          have larger : max env.mapSize header.mapSize = header.mapSize := if_pos below
          rw [size, larger]
          exact ⟨UInt64.le_refl _, covered⟩
        rw [followed]
        dsimp only
        split
        · exact ⟨houses, by rw [same]; exact housed.sound⟩
        · cases decoded : file.recordsOf header with
          | error fault => exact ⟨houses, by rw [same]; exact housed.sound⟩
          | ok records =>
              obtain ⟨payload, _, storable⟩ := (Records.decode_eq_ok_iff _ _ _).mp decoded
              refine ⟨houses, fun _ => ⟨?_, storable⟩⟩
              change header.dataLength.toNat = records.encodedLength
              rw [← Records.length_encode, ← payload]
              exact (length_read _ _ _).symm
      · rw [refused]
        exact housed

/-- An operation that comes to the same with a writable mapping and without. What the file had
of other mappings it has afterwards, as far as they are to be spared. -/
def Uniform {α : Type} (env : Environment) (file : Image)
    (operation : Environment → Image → Option (Except EngineError α × Environment × Image))
    (spared : UInt64 → Prop) : Prop :=
  ∃ result, ∃ env' : Environment, ∃ file', (∀ writable, operation (env.withWriteMap writable) file =
      some (result, env'.withWriteMap writable, file')) ∧
    env'.Housed file' ∧ ∀ mapped, spared mapped → file.Houses mapped → file'.Houses mapped

section Uniform

variable {α : Type} {env' : Environment} {spared : UInt64 → Prop}
  {operation : Environment → Image → Option (Except EngineError α × Environment × Image)}

/-- Nothing was written. -/
theorem Uniform.still (result : Except EngineError α) (housed : env'.Housed file)
    (same : ∀ writable, operation (env.withWriteMap writable) file =
      some (result, env'.withWriteMap writable, file)) : env.Uniform file operation spared :=
  ⟨result, env', file, same, housed, fun _ _ houses => houses⟩

end Uniform

/-! ### Commits -/

/-- What fills a buffer whatever is in it is written in either way. -/
theorem inscribe?_eq {offset length : Nat} (inMap : offset + length ≤ env.mapSize.toNat)
    (inFile : offset + length ≤ file.size) {write : Bytes → Option Bytes} {bytes : Bytes}
    (fills : ∀ buffer : Bytes, buffer.length = length → write buffer = some bytes)
    (whole : bytes.length = length) :
    env.inscribe? offset length write file = some (file.write offset bytes) := by
  unfold inscribe?
  split
  · rw [view?_of_le inMap inFile]
    dsimp only
    rw [fills _ (length_read _ _ _)]
    exact congrArg some (overwrite_eq_write (by rw [whole]; exact inFile))
  · rw [fills _ List.length_replicate]
    rfl

theorem publishMapped?_eq {txn : Transaction} (sound : txn.Sound)
    (inMap : header.dataOffset.toNat + txn.dataLength ≤ env.mapSize.toNat)
    (inFile : env.mapSize.toNat ≤ file.size) (large : Layout.headerSize ≤ env.mapSize.toNat) :
    env.publishMapped? header txn file =
      some ((file.write header.dataOffset.toNat txn.records.encode).write 0 header.toBytes) := by
  have length := sound.length_encode
  have payload : env.inscribe? header.dataOffset.toNat txn.dataLength txn.records.encodeInto
      file = some (file.write header.dataOffset.toNat txn.records.encode) := by
    apply inscribe?_eq inMap (Nat.le_trans inMap inFile) _ length
    intro buffer room
    exact Records.encodeInto_eq (room.trans sound.dataLength_eq)
  unfold publishMapped?
  rw [payload]
  apply inscribe?_eq
  · rw [Nat.zero_add]
    exact large
  · rw [size_write_of_fits (by rw [length]; exact Nat.le_trans inMap inFile), Nat.zero_add]
    exact Nat.le_trans large inFile
  · intro _ _
    rfl
  · exact Header.length_toBytes header

/-- The place that is found for a payload is one that can be written in either way. -/
theorem publishMapped?_of_place (houses : file.Houses env.mapSize)
    (read : readHeader file = .ok header) {txn : Transaction} (sound : txn.Sound) {offset : Nat}
    (place : Placement.place? env.mapSize.toNat header.dataOffset.toNat header.dataLength.toNat
      txn.dataLength = some offset) :
    env.publishMapped? (successor header offset txn) txn file =
      some ((file.write offset txn.records.encode).write 0
        (successor header offset txn).toBytes) := by
  obtain ⟨below, covered⟩ := houses.covers header read
  have behind := Placement.headerSize_le_of_place? (Header.fits_of_parse read).dataOffset_ge place
  have inMap := Placement.stop_le_of_place? place
  have inFile := Nat.le_trans (UInt64.le_iff_toNat_le.mp below) covered
  have offsetEq : (successor header offset txn).dataOffset.toNat = offset := by
    have small := env.mapSize.toNat_lt
    exact UInt64.toNat_ofNat_of_lt' (by change offset < 2 ^ 64; omega)
  have start : (successor header offset txn).dataOffset.toNat + txn.dataLength ≤
      env.mapSize.toNat := by
    rw [offsetEq]
    exact inMap
  have written := publishMapped?_eq sound start inFile (by omega)
  rw [offsetEq] at written
  exact written

theorem commitMapped?_of_place (houses : file.Houses env.mapSize)
    (writer : env.flags.readOnly = false) (read : readHeader file = .ok header)
    {txn : Transaction} (sound : txn.Sound) {offset : Nat}
    (place : Placement.place? env.mapSize.toNat header.dataOffset.toNat header.dataLength.toNat
      txn.dataLength = some offset) :
    env.commitMapped? txn file = some (.ok (), env.published header offset txn,
      (file.write offset txn.records.encode).write 0 (successor header offset txn).toBytes) := by
  have written := publishMapped?_of_place houses read sound place
  unfold commitMapped?
  rw [writer, if_neg Bool.false_ne_true, read]
  dsimp only
  rw [place]
  dsimp only
  rw [written]
  rfl

theorem commitMapped?_uniform (houses : file.Houses env.mapSize) {txn : Transaction}
    (sound : txn.Sound) :
    env.Uniform file (fun env file => env.commitMapped? txn file) (fun _ => True) := by
  have forgotten : env.forget.Housed file := ⟨houses, fun read => absurd rfl read⟩
  cases mode : env.flags.readOnly with
  | true =>
      apply Uniform.still (.error .readOnly) forgotten
      intro writable
      unfold commitMapped?
      exact if_pos mode
  | false =>
      have writer : ∀ writable, (env.withWriteMap writable).flags.readOnly = false :=
        fun _ => mode
      cases read : readHeader file with
      | error fault =>
          apply Uniform.still (.error (.invalid fault)) forgotten
          intro writable
          unfold commitMapped?
          rw [writer, if_neg Bool.false_ne_true, read]
          rfl
      | ok header =>
          cases place : Placement.place? env.mapSize.toNat header.dataOffset.toNat
              header.dataLength.toNat txn.dataLength with
          | none =>
              apply Uniform.still (.error (.mapFull
                (Layout.headerSize + header.dataLength.toNat + txn.dataLength)
                env.mapSize.toNat)) forgotten
              intro writable
              have same : (env.withWriteMap writable).mapSize = env.mapSize := rfl
              unfold commitMapped?
              rw [writer, if_neg Bool.false_ne_true, read]
              dsimp only
              rw [same, place]
              rfl
          | some offset =>
              have inMap := Placement.stop_le_of_place? place
              obtain ⟨below, covered⟩ := houses.covers header read
              have inFile := Nat.le_trans (UInt64.le_iff_toNat_le.mp below) covered
              have kept : (file.write offset txn.records.encode).size = file.size :=
                size_write_of_fits (by rw [sound.length_encode]; omega)
              have done : ∀ writable, (env.withWriteMap writable).commitMapped? txn file =
                  some (.ok (), (env.published header offset txn).withWriteMap writable,
                    (file.write offset txn.records.encode).write 0
                      (successor header offset txn).toBytes) := by
                intro writable
                have houses : file.Houses (env.withWriteMap writable).mapSize := houses
                exact commitMapped?_of_place houses (writer writable) read sound place
              exact ⟨_, _, _, done,
                ⟨houses_write_header houses read kept rfl,
                  fun _ => ⟨sound.dataLength_eq, sound.storable⟩⟩,
                fun mapped _ houses => houses_write_header houses read kept rfl⟩

theorem transactMapped?_uniform {α : Type} (housed : env.Housed file)
    (operation : Transaction → Except EngineError (α × Transaction))
    (sound : ∀ value txn, operation env.transaction = .ok (value, txn) → txn.Sound) :
    env.Uniform file (fun env file => env.transactMapped? operation file) (fun _ => True) := by
  have same : ∀ writable, (env.withWriteMap writable).transaction = env.transaction :=
    fun _ => rfl
  cases ran : operation env.transaction with
  | error failure =>
      apply Uniform.still (.error failure) housed
      intro writable
      unfold transactMapped?
      dsimp only
      rw [same, ran]
  | ok both =>
      obtain ⟨value, txn⟩ := both
      have houses : file.Houses env.lent.mapSize := housed.houses
      obtain ⟨result, env', file', commits, housed', others⟩ :=
        commitMapped?_uniform houses (sound value txn ran)
      have committed : ∀ writable, commitMapped? { env.withWriteMap writable with
          snapshot := { (env.withWriteMap writable).snapshot with records := Records.empty } }
          txn file = some (result, env'.withWriteMap writable, file') := commits
      refine ⟨result.map fun _ => value, env', file', fun writable => ?_, housed', others⟩
      unfold transactMapped?
      dsimp only
      rw [same, ran]
      dsimp only
      rw [committed]
      cases result with
      | error failure => rfl
      | ok _ => rfl

/-! ### Calls of an environment -/

/-- A write begins by refreshing. What it does then is to a current environment. -/
theorem refreshes_housed (housed : env.Housed file) :
    (∃ failure env', env.refresh file = (.error failure, env') ∧ Housed env' file) ∨
      ∃ env', env.refresh file = (.ok (), env') ∧ Housed env' file ∧ env'.transaction.Sound := by
  have after := refresh_housed housed
  rcases refreshed : env.refresh file with ⟨failure | _, env'⟩
  · rw [refreshed] at after
    exact Or.inl ⟨failure, env', rfl, after⟩
  · rw [refreshed] at after
    obtain ⟨_, _, _, current, _⟩ := refresh_eq_ok refreshed
    have sound := after.sound (by rw [current]; exact Option.some_ne_none _)
    exact Or.inr ⟨env', rfl, after, sound.dataLength_eq, sound.storable⟩

theorem putMapped?_uniform (housed : env.Housed file) (key value : Bytes) (keepExisting : Bool) :
    env.Uniform file (fun env file => env.putMapped? key value keepExisting file)
      (fun _ => True) := by
  cases mode : env.flags.readOnly with
  | true =>
      apply Uniform.still (.error .readOnly) housed
      intro writable
      unfold putMapped?
      exact if_pos mode
  | false =>
      have writer : ∀ writable, (env.withWriteMap writable).flags.readOnly = false :=
        fun _ => mode
      rcases refreshes_housed housed with
        ⟨failure, env', refused, housed'⟩ | ⟨env', refreshed, housed', sound⟩
      · apply Uniform.still (.error failure) housed'
        intro writable
        unfold putMapped?
        rw [writer, if_neg Bool.false_ne_true, refresh_withWriteMap, refused]
      · have puts : ∀ result txn, (env'.transaction.put key value keepExisting).map
            (fun txn => ((), txn)) = .ok (result, txn) → txn.Sound := by
          intro result txn ran
          cases put : env'.transaction.put key value keepExisting with
          | error failure =>
              rw [put] at ran
              cases ran
          | ok done =>
              rw [put] at ran
              cases ran
              exact sound.put put
        obtain ⟨result, env'', file', runs, housed'', others⟩ :=
          transactMapped?_uniform housed'
            (fun txn => (txn.put key value keepExisting).map fun txn => ((), txn)) puts
        refine ⟨result, env'', file', fun writable => ?_, housed'', others⟩
        unfold putMapped?
        dsimp only
        rw [writer, if_neg Bool.false_ne_true, refresh_withWriteMap, refreshed]
        exact runs writable

theorem deleteMapped?_uniform (housed : env.Housed file) (key : Bytes) :
    env.Uniform file (fun env file => env.deleteMapped? key file) (fun _ => True) := by
  cases mode : env.flags.readOnly with
  | true =>
      apply Uniform.still (.error .readOnly) housed
      intro writable
      unfold deleteMapped?
      exact if_pos mode
  | false =>
      have writer : ∀ writable, (env.withWriteMap writable).flags.readOnly = false :=
        fun _ => mode
      rcases refreshes_housed housed with
        ⟨failure, env', refused, housed'⟩ | ⟨env', refreshed, housed', sound⟩
      · apply Uniform.still (.error failure) housed'
        intro writable
        unfold deleteMapped?
        rw [writer, if_neg Bool.false_ne_true, refresh_withWriteMap, refused]
      · have same : ∀ writable, (env'.withWriteMap writable).get? key = env'.get? key :=
          fun _ => rfl
        cases absent : (env'.get? key).isNone with
        | true =>
            apply Uniform.still (.ok false) housed'
            intro writable
            unfold deleteMapped?
            rw [writer, if_neg Bool.false_ne_true, refresh_withWriteMap, refreshed]
            dsimp only
            rw [same, absent]
            rfl
        | false =>
            obtain ⟨result, env'', file', runs, housed'', others⟩ :=
              transactMapped?_uniform housed' (fun txn => .ok (txn.delete key)) (by
                intro found txn ran
                have same : (env'.transaction.delete key).2 = txn :=
                  congrArg Prod.snd (Except.ok.inj ran)
                exact same ▸ sound.delete key)
            refine ⟨result, env'', file', fun writable => ?_, housed'', others⟩
            unfold deleteMapped?
            dsimp only
            rw [writer, if_neg Bool.false_ne_true, refresh_withWriteMap, refreshed]
            dsimp only
            rw [same, absent]
            exact runs writable

/-- A transaction that begins holds what was read, and who began it makes no difference. -/
theorem beginWrite_alike (housed : env.Housed file) :
    (∃ failure, ∃ env' : Environment, env'.Housed file ∧
      ∀ writable, (env.withWriteMap writable).beginWrite file =
        (.error failure, env'.withWriteMap writable)) ∨
    ∃ txn, ∃ env' : Environment, env'.Housed file ∧ txn.Sound ∧
      ∀ writable, (env.withWriteMap writable).beginWrite file =
        (.ok txn, env'.withWriteMap writable) := by
  cases mode : env.flags.readOnly with
  | true => exact Or.inl ⟨.readOnly, env, housed, fun _ => if_pos mode⟩
  | false =>
      have writer : ∀ writable, (env.withWriteMap writable).flags.readOnly = false :=
        fun _ => mode
      rcases refreshes_housed housed with
        ⟨failure, env', refused, housed'⟩ | ⟨env', refreshed, housed', sound⟩
      · refine Or.inl ⟨failure, env', housed', fun writable => ?_⟩
        unfold beginWrite
        rw [writer, if_neg Bool.false_ne_true, refresh_withWriteMap, refused]
      · refine Or.inr ⟨env'.transaction, env', housed', sound, fun writable => ?_⟩
        unfold beginWrite
        rw [writer, if_neg Bool.false_ne_true, refresh_withWriteMap, refreshed]
        rfl

theorem refresh_uniform (housed : env.Housed file) :
    env.Uniform file (fun env file => some ((env.refresh file).1, (env.refresh file).2, file))
      (fun _ => True) := by
  apply Uniform.still (env.refresh file).1 (refresh_housed housed)
  intro writable
  rw [refresh_withWriteMap]

/-- Growing spares what others have mapped if it is not more than the size asked for. -/
theorem grow_uniform (housed : env.Housed file) (size : UInt64) :
    env.Uniform file (fun env file => some (env.grow size file)) (fun mapped => mapped ≤ size) := by
  cases mode : env.flags.readOnly with
  | true =>
      apply Uniform.still (.error .readOnly) housed
      intro writable
      exact congrArg some (if_pos mode)
  | false =>
      have writer : ∀ writable, (env.withWriteMap writable).flags.readOnly = false :=
        fun _ => mode
      have same : ∀ writable, (env.withWriteMap writable).mapSize = env.mapSize := fun _ => rfl
      by_cases enough : size ≤ env.mapSize
      · apply Uniform.still (.ok ()) housed
        intro writable
        unfold grow
        rw [writer, if_neg Bool.false_ne_true, same, if_pos enough]
      · cases read : readHeader file with
        | error fault =>
            apply Uniform.still (.error (.invalid fault)) housed
            intro writable
            unfold grow
            rw [writer, if_neg Bool.false_ne_true, same, if_neg enough, read]
        | ok header =>
            by_cases short : size.toNat ≤ longest
            · have below : env.mapSize ≤ size := UInt64.le_of_lt (UInt64.not_le.mp enough)
              have others : ∀ mapped, mapped ≤ size → file.Houses mapped →
                  (resized header size file).Houses mapped :=
                fun mapped below _ => houses_resized header file below
              rcases env.remap_cases size with ⟨_, done⟩ | ⟨_, cause, _, refused⟩
              · refine ⟨.ok (), { env with mapSize := size }, resized header size file,
                  fun writable => ?_,
                  ⟨houses_resized header file (UInt64.le_refl size), housed.sound⟩, others⟩
                unfold grow
                dsimp only
                rw [writer, if_neg Bool.false_ne_true, same, if_neg enough, read]
                dsimp only
                rw [setMapSize_of_le header file short]
                dsimp only
                rw [remap_withWriteMap, done]
                rfl
              · refine ⟨.error (.io cause), env, resized header size file, fun writable => ?_,
                  ⟨houses_resized header file below, housed.sound⟩, others⟩
                unfold grow
                dsimp only
                rw [writer, if_neg Bool.false_ne_true, same, if_neg enough, read]
                dsimp only
                rw [setMapSize_of_le header file short]
                dsimp only
                rw [remap_withWriteMap, refused]
                rfl
            · apply Uniform.still (.error (.io .lengthTooLarge)) housed
              intro writable
              unfold grow
              rw [writer, if_neg Bool.false_ne_true, same, if_neg enough, read]
              dsimp only
              rw [setMapSize_of_lt header file (Nat.lt_of_not_le short)]

/-! ### Opening -/

theorem attach_withWriteMap (path : String) (flags : OpenFlags) (room : Nat) (header : Header)
    (file : Image) (writable : Bool) :
    attach path { flags with writeMap := writable } room header file =
      (attach path flags room header file).map (·.withWriteMap writable) := by
  have same : unmapped path { flags with writeMap := writable } room =
      (unmapped path flags room).withWriteMap writable := rfl
  unfold attach
  rw [same, remap_withWriteMap]
  cases (unmapped path flags room).remap header.mapSize with
  | error cause => rfl
  | ok env =>
      dsimp only [Except.map]
      rw [refresh_withWriteMap]
      rcases env.refresh file with ⟨failure | _, env'⟩
      · rfl
      · rfl

theorem open_withWriteMap (path : String) (flags : OpenFlags) (asked : UInt64) (room : Nat)
    (file : Image) (writable : Bool) :
    Environment.open path { flags with writeMap := writable } asked room file =
      ((Environment.open path flags asked room file).1.map (·.withWriteMap writable),
        (Environment.open path flags asked room file).2) := by
  unfold «open»
  dsimp only
  cases openingHeader path flags.readOnly (max asked Layout.minimumMapSize) file with
  | error failure => rfl
  | ok opened =>
      obtain ⟨header, file'⟩ := opened
      dsimp only
      split
      · split
        · rfl
        · rw [attach_withWriteMap]
      · have same : prepare { flags with writeMap := writable }
            (max asked Layout.minimumMapSize) header file' =
              prepare flags (max asked Layout.minimumMapSize) header file' := rfl
        rw [same]
        cases prepare flags (max asked Layout.minimumMapSize) header file' with
        | error failure => rfl
        | ok prepared =>
            dsimp only
            rw [attach_withWriteMap]

theorem attach_housed {path : String} {flags : OpenFlags} {room : Nat}
    (houses : file.Houses header.mapSize)
    (attached : attach path flags room header file = .ok env) : env.Housed file := by
  unfold attach at attached
  rcases (unmapped path flags room).remap_cases header.mapSize with
    ⟨_, done⟩ | ⟨_, cause, _, refused⟩
  · rw [done] at attached
    dsimp only at attached
    have fresh : Housed { unmapped path flags room with mapSize := header.mapSize } file :=
      ⟨houses, fun read => absurd rfl read⟩
    have after := refresh_housed fresh
    split at attached
    · cases attached
    · next refreshed =>
        rw [refreshed] at after
        cases attached
        exact after
  · rw [refused] at attached
    cases attached

theorem Tracks.housed {contents : Contents} {age : Nat} (tracks : env.Tracks contents age)
    (holds : file.Holds contents) : env.Housed file := by
  refine ⟨⟨holds.size_ne_zero, fun header read => ?_⟩, tracks.sound⟩
  rw [holds.readable] at read
  cases read
  exact ⟨tracks.mapSize_le, holds.covered⟩

theorem le_openedSize (flags : OpenFlags) (asked size : UInt64) :
    size ≤ openedSize flags asked size := by
  unfold openedSize
  split
  · exact UInt64.le_refl _
  · exact left_le_max _ _

/-- Opening spares what others have mapped, and there is room for what it maps itself. -/
theorem open_housed (path : String) (flags : OpenFlags) (asked : UInt64) (room : Nat)
    (file : Image) :
    (∀ env, (Environment.open path flags asked room file).1 = .ok env →
      env.Housed (Environment.open path flags asked room file).2) ∧
    ∀ mapped, file.Houses mapped →
      (Environment.open path flags asked room file).2.Houses mapped := by
  by_cases nothing : file.size = 0
  · refine ⟨?_, fun mapped houses => absurd nothing houses.some⟩
    rcases open_of_nothing nothing path flags asked room with
      ⟨failure, refused, _⟩ | ⟨_, _, fresh, _, _, opening⟩
    · rw [refused]
      rintro env ⟨⟩
    · generalize Environment.open path flags asked room file = result at opening
      cases opening with
      | ok prepared attached =>
          rintro env ⟨⟩
          exact attached.tracks.housed prepared.advances.holds
      | unmapped _ _ _ => rintro env ⟨⟩
      | tooLong _ _ => rintro env ⟨⟩
  · have readies := ready_readies nothing path flags asked
    rw [open_eq_ready]
    generalize ready path flags asked file = result at readies
    cases readies with
    | refused _ => exact ⟨nofun, fun mapped houses => houses⟩
    | tooLong _ _ _ => exact ⟨nofun, fun mapped houses => houses⟩
    | @ready header file' announced _ carries _ _ =>
        have some : file'.size ≠ 0 := by
          have large := carries.headerSize_le
          change 64 ≤ _ at large
          omega
        have covers : ∀ mapped, mapped ≤ (openedHeader flags asked header).mapSize →
            file'.Houses mapped := by
          intro mapped below
          refine ⟨some, fun found read => ?_⟩
          rw [carries.readable] at read
          cases read
          exact ⟨below, carries.covered⟩
        refine ⟨fun env attached => attach_housed (covers _ (UInt64.le_refl _)) attached, ?_⟩
        intro mapped houses
        apply covers
        rw [mapSize_openedHeader]
        have readable := ((header_eq_ok_iff file header).mp announced).2
        exact UInt64.le_trans (houses.covers header readable).1 (le_openedSize flags asked _)

end Environment

end RecordFile
