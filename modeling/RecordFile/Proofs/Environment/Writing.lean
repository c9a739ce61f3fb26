/-
What the writing operations of an environment come to.

Each publishes at most once. A refused operation publishes nothing, and when it is refused
for want of room the environment has mapped all of the map, so growing from its own size
makes the map larger.
-/

import RecordFile.Proofs.Environment.Tracking

namespace RecordFile

/-! ### Refusals -/

structure Rules where
  denies : EngineError → Prop
  admits : Prop
  /-- Want of room is no matter of the records. -/
  isMapFull_eq : ∀ failure, denies failure → failure.isMapFull = false

/-- Why a write fails. What counts as full and when the system may refuse a size are left to
the caller. -/
inductive Refused (readOnly : Bool) (rules : Rules) (strained : Prop)
    (full : EngineError → Prop) : EngineError → Prop
  | readOnly (reader : readOnly = true) : Refused readOnly rules strained full .readOnly
  | io (writer : readOnly = false) (refused : strained) {cause : SystemError} :
      Refused readOnly rules strained full (.io cause)
  | denied (writer : readOnly = false) {failure : EngineError} (denied : rules.denies failure) :
      Refused readOnly rules strained full failure
  | full (writer : readOnly = false) (admitted : rules.admits) {failure : EngineError}
      (noRoom : full failure) : Refused readOnly rules strained full failure

/-- A put is refused for a record that is too large, and for a key that is to be kept. -/
def putRules (content : Content) (key value : Bytes) (keepExisting : Bool) : Rules where
  denies failure :=
    (¬ Record.Storable (key, value) ∧
      failure = .invalid (.recordTooLarge key.length value.length)) ∨
    (Record.Storable (key, value) ∧ Transaction.Clashes content key keepExisting ∧
      failure = .keyExists)
  admits := Record.Storable (key, value) ∧ ¬ Transaction.Clashes content key keepExisting
  isMapFull_eq := by
    rintro failure (⟨_, rfl⟩ | ⟨_, _, rfl⟩)
    · rfl
    · rfl

/-- A deletion is never refused by the records; for an absent key there is nothing to do. -/
def deleteRules (content : Content) (key : Bytes) : Rules where
  denies _ := False
  admits := content key ≠ none
  isMapFull_eq := nofun

structure PutDone (readOnly : Bool) (before : Records) (key value : Bytes) (keepExisting : Bool)
    (after : Records) : Prop where
  writer : readOnly = false
  admitted : (putRules before.find? key value keepExisting).admits
  after_eq : after = before.insert key value

structure DeleteDone (readOnly : Bool) (before : Records) (key : Bytes) (found : Bool)
    (after : Records) : Prop where
  writer : readOnly = false
  found_eq : found = (before.find? key).isSome
  after_eq : after = before.erase key

/-- A map of this size has no place beside the live payload for another one of this length. -/
def Contents.Cramped (contents : Contents) (mapSize : UInt64) (length : Nat) : Prop :=
  Placement.capacity mapSize.toNat contents.header.dataOffset.toNat
    contents.header.dataLength.toNat < length

variable {readOnly : Bool} {rules : Rules} {strained strained' cramped : Prop}
  {full full' : EngineError → Prop} {failure : EngineError}

theorem Refused.weaken (refused : Refused readOnly rules strained full failure)
    (eases : strained → strained') (weaken : ∀ failure, full failure → full' failure) :
    Refused readOnly rules strained' full' failure := by
  cases refused with
  | readOnly reader => exact .readOnly reader
  | io writer strain => exact .io writer (eases strain)
  | denied writer denies => exact .denied writer denies
  | full writer admitted noRoom => exact .full writer admitted (weaken _ noRoom)

theorem Refused.of_not_isMapFull (refused : Refused readOnly rules strained
      (fun failure => failure.isMapFull = true ∧ cramped) failure)
    (other : ¬ failure.isMapFull = true) (weaken : strained → strained') :
    Refused readOnly rules strained' full failure := by
  cases refused with
  | readOnly reader => exact .readOnly reader
  | io writer strain => exact .io writer (weaken strain)
  | denied writer denies => exact .denied writer denies
  | full _ _ noRoom => exact absurd noRoom.1 other

theorem Refused.of_isMapFull (refused : Refused readOnly rules strained
      (fun failure => failure.isMapFull = true ∧ cramped) failure)
    (isFull : failure.isMapFull = true) : readOnly = false ∧ rules.admits ∧ cramped := by
  cases refused with
  | readOnly _ => cases isFull
  | io _ _ => cases isFull
  | denied _ denies =>
      rw [rules.isMapFull_eq _ denies] at isFull
      cases isFull
  | full writer admitted noRoom => exact ⟨writer, admitted, noRoom.2⟩

theorem cramped_iff_of_advances {file file' : Image} {contents after : Contents}
    (advances : Advances 0 file contents file' after) (size : UInt64) (length : Nat) :
    after.Cramped size length ↔ contents.Cramped size length := by
  unfold Contents.Cramped
  rw [advances.header_eq rfl]
  exact Iff.rfl

namespace Environment

/-- An operation publishes at most once or is refused. What its result says of the records
holds while the snapshot can be told from an old one. -/
inductive Outcome {α : Type} (env : Environment) (file : Image) (contents : Contents) (age : Nat)
    (done : α → Records → Prop) (refused : EngineError → Prop) :
    Except EngineError α × Environment × Image → Prop
  | ok {value : α} {env' : Environment} {file' : Image} {after : Contents} {bumps : Nat}
      (advances : Advances bumps file contents file' after) (once : bumps ≤ 1)
      (mapSize_eq : after.header.mapSize = contents.header.mapSize) (kin : env.Kin env')
      (tracks : env'.Tracks after (age + bumps))
      (does : age < UInt64.size → done value after.records) :
      Outcome env file contents age done refused (.ok value, env', file')
  | error {failure : EngineError} {env' : Environment} (kin : env.Kin env')
      (tracks : env'.Tracks contents age) (refuses : age < UInt64.size → refused failure)
      (fresh : failure.isMapFull = true → env'.mapSize = contents.header.mapSize) :
      Outcome env file contents age done refused (.error failure, env', file)

variable {env env' : Environment} {file : Image} {contents : Contents} {age : Nat}

theorem Outcome.of_kin {α : Type} {done : α → Records → Prop} {refused : EngineError → Prop}
    {result : Except EngineError α × Environment × Image} (kin : env.Kin env')
    (outcome : env'.Outcome file contents age done refused result) :
    env.Outcome file contents age done refused result := by
  cases outcome with
  | ok advances once mapSize_eq further tracks does =>
      exact .ok advances once mapSize_eq (kin.trans further) tracks does
  | error further tracks refuses fresh =>
      exact .error (kin.trans further) tracks refuses fresh

variable {α : Type} {operation : Transaction → Except EngineError (α × Transaction)}
  {done : α → Records → Prop} {refused : EngineError → Prop}

theorem transact_outcome_of_error (tracks : env.Tracks contents age)
    (current : env.UpToDate contents) {failure : EngineError}
    (ran : operation env.transaction = .error failure)
    (refuses : env.snapshot.Shows contents → refused failure) :
    env.Outcome file contents age done refused (env.transact operation file) := by
  unfold transact
  rw [ran]
  exact .error (Kin.refl env) tracks
    (fun short => refuses (tracks.shows short current.generation?_eq))
    (fun _ => current.mapSize_eq)

def lent (env : Environment) : Environment :=
  { env with snapshot := { env.snapshot with records := Records.empty } }

/-- What a transaction has come to gets a place in what is mapped and is published, or has none. -/
theorem transact_cases (holds : file.Holds contents) (writer : env.flags.readOnly = false)
    {value : α} {txn : Transaction} (ran : operation env.transaction = .ok (value, txn)) :
    (Placement.place? env.mapSize.toNat contents.header.dataOffset.toNat
        contents.header.dataLength.toNat txn.dataLength = none ∧
      ∃ needed limit, env.transact operation file =
        (.error (.mapFull needed limit), env.lent.forget, file)) ∨
    ∃ offset, Placement.place? env.mapSize.toNat contents.header.dataOffset.toNat
        contents.header.dataLength.toNat txn.dataLength = some offset ∧
      env.transact operation file = (.ok value, env.lent.published contents.header offset txn,
        publish env.flags (successor contents.header offset txn) txn.records.encode file) := by
  unfold transact
  dsimp only
  rw [ran]
  dsimp only
  rcases env.lent.commit_cases txn holds with
    ⟨reader, _⟩ | ⟨_, place, full⟩ | ⟨_, offset, place, done⟩
  · rw [show env.lent.flags = env.flags from rfl, writer] at reader
    cases reader
  · unfold lent at full
    rw [full]
    exact .inl ⟨place, _, _, rfl⟩
  · unfold lent at done
    rw [done]
    exact .inr ⟨offset, place, rfl⟩

/-- An operation that its transaction admits is published, or meets a full map. -/
theorem transact_outcome_of_ok (holds : file.Holds contents) (tracks : env.Tracks contents age)
    (current : env.UpToDate contents) (writer : env.flags.readOnly = false)
    {both : α × Transaction} (ran : operation env.transaction = .ok both) (sound : both.2.Sound)
    (does : env.snapshot.Shows contents → done both.1 both.2.records)
    (fills : env.snapshot.Shows contents → ∀ needed limit,
      contents.Cramped contents.header.mapSize both.2.records.encodedLength →
        refused (.mapFull needed limit)) :
    env.Outcome file contents age done refused (env.transact operation file) := by
  obtain ⟨value, txn⟩ := both
  rcases transact_cases holds writer ran with
    ⟨noPlace, needed, limit, full⟩ | ⟨offset, place, ok⟩
  · rw [full]
    have cramped : contents.Cramped contents.header.mapSize txn.records.encodedLength := by
      rw [current.mapSize_eq, sound.dataLength_eq] at noPlace
      exact Placement.capacity_lt_of_place? holds.fits.headerSize_le_mapSize
        holds.fits.dataOffset_ge holds.fits.stop_le_mapSize noPlace
    have within : env.lent.mapSize ≤ contents.header.mapSize := tracks.mapSize_le
    exact .error ⟨rfl, rfl⟩ (tracks_forget within age)
      (fun short => fills (tracks.shows short current.generation?_eq) _ _ cramped)
      (fun _ => current.mapSize_eq)
  · rw [ok]
    have placed : Placed contents txn env.mapSize.toNat offset :=
      .of_le sound tracks.mapSize_le place
    exact .ok (placed.advances holds env.flags) (Nat.le_refl 1) rfl ⟨rfl, rfl⟩
      (tracks_published env.lent placed tracks.mapSize_le _)
      (fun short => does (tracks.shows short current.generation?_eq))

/-! ### Put and delete -/

/-- The limit of a transaction that begins now is the room beside the live payload. -/
theorem cramped_of_limit_lt (current : env.UpToDate contents) (shows : env.snapshot.Shows contents)
    {length : Nat} (exceeds : env.transaction.limit < Layout.headerSize + length) :
    contents.Cramped contents.header.mapSize length := by
  change Layout.headerSize + Placement.capacity _ _ _ < _ at exceeds
  rw [current.mapSize_eq, shows.dataOffset_eq, shows.dataLength_eq] at exceeds
  exact Nat.lt_of_add_lt_add_left exceeds

def refreshed {α : Type}
    (operation : Environment → Image → Except EngineError α × Environment × Image)
    (env : Environment) (file : Image) : Except EngineError α × Environment × Image :=
  if env.flags.readOnly then (.error .readOnly, env, file)
  else
    match env.refresh file with
    | (.error failure, env) => (.error failure, env, file)
    | (.ok (), env) => operation env file

/-- Of a write there is only to tell what it does when all of the map is mapped and the last
commit has been read. -/
theorem refreshed_outcome {α : Type} {done : α → Records → Prop} {rules : Rules}
    {full : EngineError → Prop}
    {operation : Environment → Image → Except EngineError α × Environment × Image}
    (holds : file.Holds contents) (tracks : env.Tracks contents age)
    (runs : ∀ env' : Environment, env.flags.readOnly = false → env'.flags.readOnly = false →
      env'.Tracks contents age → env'.UpToDate contents →
        env'.Outcome file contents age done
          (Refused env.flags.readOnly rules (¬ Mappable env.room contents.header.mapSize) full)
          (operation env' file)) :
    env.Outcome file contents age done
      (Refused env.flags.readOnly rules (¬ Mappable env.room contents.header.mapSize) full)
      (refreshed operation env file) := by
  unfold refreshed
  split
  · next reader =>
      apply Outcome.error (Kin.refl env) tracks (fun _ => .readOnly reader)
      intro isFull
      cases isFull
  · next writer =>
      have writer : env.flags.readOnly = false := by simpa using writer
      rcases refresh_cases holds tracks with
        ⟨env', refreshes, tracks', current, kin⟩ | ⟨far, cause, _, refused⟩
      · rw [refreshes]
        apply Outcome.of_kin kin
        apply runs env' writer _ tracks' current
        rw [kin.flags_eq, writer]
      · rw [refused]
        apply Outcome.error (Kin.refl env) tracks (fun _ => .io writer far)
        intro isFull
        cases isFull

theorem put_outcome (holds : file.Holds contents) (tracks : env.Tracks contents age)
    (key value : Bytes) (keepExisting : Bool) :
    env.Outcome file contents age
      (fun _ after => PutDone env.flags.readOnly contents.records key value keepExisting after)
      (Refused env.flags.readOnly (putRules contents.records.find? key value keepExisting)
        (¬ Mappable env.room contents.header.mapSize)
        (fun failure => failure.isMapFull = true ∧ contents.Cramped contents.header.mapSize
          (contents.records.insert key value).encodedLength))
      (env.put key value keepExisting file) := by
  apply refreshed_outcome holds tracks
  intro env' writer writer' tracks' current
  have sound := tracks'.sound_transaction current
  rcases env'.transaction.put_cases key value keepExisting with
    ⟨large, put⟩ | ⟨small, present, put⟩ | ⟨small, free, full, put⟩ | ⟨small, free, _, put⟩
  · apply transact_outcome_of_error tracks' current (by rw [put]; rfl)
    intro _
    exact .denied writer (Or.inl ⟨large, rfl⟩)
  · apply transact_outcome_of_error tracks' current (by rw [put]; rfl)
    intro shows
    exact .denied writer (Or.inr ⟨small, shows.records_eq ▸ present, rfl⟩)
  · apply transact_outcome_of_error tracks' current (by rw [put]; rfl)
    intro shows
    have same : env'.transaction.records = contents.records := shows.records_eq
    rw [Transaction.lengthAfterPut_eq sound, same] at full
    apply Refused.full writer
    · exact ⟨small, same ▸ free⟩
    · exact ⟨rfl, cramped_of_limit_lt current shows full⟩
  · apply transact_outcome_of_ok holds tracks' current writer' (by rw [put]; rfl) (sound.put put)
    · intro shows
      have same : env'.transaction.records = contents.records := shows.records_eq
      exact ⟨writer, ⟨small, same ▸ free⟩, by rw [← same]⟩
    · intro shows needed limit cramped
      have same : env'.transaction.records = contents.records := shows.records_eq
      rw [same] at cramped
      apply Refused.full writer
      · exact ⟨small, same ▸ free⟩
      · exact ⟨rfl, cramped⟩

theorem delete_outcome (holds : file.Holds contents) (tracks : env.Tracks contents age)
    (key : Bytes) :
    env.Outcome file contents age
      (fun found after => DeleteDone env.flags.readOnly contents.records key found after)
      (Refused env.flags.readOnly (deleteRules contents.records.find? key)
        (¬ Mappable env.room contents.header.mapSize)
        (fun failure => failure.isMapFull = true ∧ contents.Cramped contents.header.mapSize
          (contents.records.erase key).encodedLength))
      (env.delete key file) := by
  apply refreshed_outcome holds tracks
  intro env' writer writer' tracks' current
  have sound := tracks'.sound_transaction current
  split
  · next absent =>
      have absent : env'.snapshot.records.find? key = none := by
        simpa [get?] using absent
      apply Outcome.ok (Advances.refl holds) (Nat.zero_le 1) rfl (Kin.refl env') tracks'
      intro short
      have same := (tracks'.shows short current.generation?_eq).records_eq
      rw [same] at absent
      exact ⟨writer, by rw [absent]; rfl, (Records.erase_of_absent absent).symm⟩
  · next present =>
      have present : env'.snapshot.records.find? key ≠ none := by
        simpa [get?] using present
      apply transact_outcome_of_ok holds tracks' current writer' rfl (sound.delete key)
      · intro shows
        have same : env'.transaction.records = contents.records := shows.records_eq
        exact ⟨writer, by rw [Transaction.fst_delete, same],
          by rw [Transaction.records_delete, same]⟩
      · intro shows needed limit cramped
        have same : env'.transaction.records = contents.records := shows.records_eq
        rw [Transaction.records_delete, same] at cramped
        apply Refused.full writer
        · change contents.records.find? key ≠ none
          rw [← shows.records_eq]
          exact present
        · exact ⟨rfl, cramped⟩

/-! ### Growing -/

/-- A size that is mapped already is no growth. -/
theorem grow_of_mapped (env : Environment) (writer : env.flags.readOnly = false) {size : UInt64}
    (mapped : size ≤ env.mapSize) (file : Image) : env.grow size file = (.ok (), env, file) := by
  unfold grow
  rw [writer, if_neg Bool.false_ne_true, if_pos mapped]

/-- A size between the mapping and the map cuts a file off that is as long as its map. -/
theorem grow_of_lt (holds : file.Holds contents)
    (exact : file.size = contents.header.mapSize.toNat) (short : file.size ≤ Image.longest)
    (writer : env.flags.readOnly = false) {size : UInt64} (less : env.mapSize < size)
    (falls : size < contents.header.mapSize) :
    ∃ result env' file', env.grow size file = (result, env', file') ∧ file'.size < file.size := by
  have beyond : ¬ size ≤ env.mapSize := UInt64.not_le.mpr less
  have below := UInt64.lt_iff_toNat_lt.mp falls
  have least := UInt64.le_iff_toNat_le.mp holds.fits.mapSize_ge
  change 4096 ≤ _ at least
  have shorter : (resized contents.header size file).size < file.size := by
    have some : (contents.header.withMapSize size).toBytes ≠ [] := by
      intro none
      have length := Header.length_toBytes (contents.header.withMapSize size)
      rw [none] at length
      cases length
    unfold resized
    rw [Image.size_write _ _ some, Image.size_resize, Header.length_toBytes]
    change max size.toNat (0 + 64) < _
    omega
  unfold grow
  rw [writer, if_neg Bool.false_ne_true, if_neg beyond, holds.readable]
  dsimp only
  rw [setMapSize_of_le contents.header file (by omega)]
  dsimp only
  cases env.remap size with
  | error cause => exact ⟨_, _, _, rfl, shorter⟩
  | ok env' => exact ⟨_, _, _, rfl, shorter⟩

/-- Growing to no less than the map keeps the records. When it succeeds, header and mapping
have the size; it fails for a reader and for a size that the system refuses. -/
theorem grow_outcome (holds : file.Holds contents) (tracks : env.Tracks contents age)
    {size : UInt64} (larger : contents.header.mapSize ≤ size) :
    ∃ result env' file' after, env.grow size file = (result, env', file') ∧
      Advances 0 file contents file' after ∧ env.Kin env' ∧ env'.Tracks after age ∧
      ((result = .ok () ∧ env'.mapSize = size ∧ after.header.mapSize = size) ∨
        (env.flags.readOnly = true ∧ result = .error .readOnly) ∨
        (env.flags.readOnly = false ∧ ¬ Mappable env.room size ∧
          ∃ cause, result = .error (.io cause))) := by
  unfold grow
  split
  · next reader =>
      exact ⟨_, _, _, contents, rfl, Advances.refl holds, Kin.refl env, tracks,
        Or.inr (Or.inl ⟨reader, rfl⟩)⟩
  · next writer =>
      have writer : env.flags.readOnly = false := by simpa using writer
      split
      · next mapped =>
          -- Nothing lies between the mapping, the map and the size asked for.
          have sizeEq := UInt64.le_antisymm larger (UInt64.le_trans mapped tracks.mapSize_le)
          have mapEq := UInt64.le_antisymm tracks.mapSize_le (UInt64.le_trans larger mapped)
          exact ⟨_, _, _, contents, rfl, Advances.refl holds, Kin.refl env, tracks,
            Or.inl ⟨rfl, mapEq.trans sizeEq, sizeEq⟩⟩
      · rw [holds.readable]
        dsimp only
        by_cases short : size.toNat ≤ Image.longest
        · have advances := advances_resized holds larger short
          have behind := tracks.advance advances
          rw [setMapSize_of_le contents.header file short]
          dsimp only
          rcases env.remap_cases size with ⟨_, done⟩ | ⟨far, cause, _, refused⟩
          · rw [done]
            exact ⟨_, _, _, _, rfl, advances, ⟨rfl, rfl⟩,
              ⟨UInt64.le_refl _, behind.sound, behind.lag⟩, Or.inl ⟨rfl, rfl, rfl⟩⟩
          · rw [refused]
            exact ⟨_, _, _, _, rfl, advances, Kin.refl env, behind,
              Or.inr (Or.inr ⟨writer, far, cause, rfl⟩)⟩
        · rw [setMapSize_of_lt contents.header file (Nat.lt_of_not_le short)]
          exact ⟨_, _, _, contents, rfl, Advances.refl holds, Kin.refl env, tracks,
            Or.inr (Or.inr ⟨writer, fun mappable => short mappable.1, _, rfl⟩)⟩

end Environment

end RecordFile
