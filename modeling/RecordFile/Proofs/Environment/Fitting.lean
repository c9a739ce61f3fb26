/-
When a write fits.

To an environment that is up to date a write is decided by the records alone, or there is room
for its payload beside the live one and it is published, or it meets a full map. There is no
other outcome, so the room that there is settles which one it is. The check against the limit of
the transaction and the search for a place agree on it.
-/

import RecordFile.Proofs.Environment.Refreshing

namespace RecordFile

structure Change (α : Type) where
  decided? : Option (Except EngineError α)
  answer : α
  records : Records

/-- Storing a record is decided for one that is too large, and for a key that is to be kept. -/
def putChange (records : Records) (key value : Bytes) (keepExisting : Bool) : Change Unit where
  decided? :=
    if !Transaction.isStorable key value then
      some (.error (.invalid (.recordTooLarge key.length value.length)))
    else if keepExisting && (records.find? key).isSome then some (.error .keyExists)
    else none
  answer := ()
  records := records.insert key value

def deleteChange (records : Records) (key : Bytes) : Change Bool where
  decided? := if (records.find? key).isNone then some (.ok false) else none
  answer := true
  records := records.erase key

theorem decided?_of_tooLarge {key value : Bytes} (large : ¬ Record.Storable (key, value))
    (records : Records) (keepExisting : Bool) :
    (putChange records key value keepExisting).decided? =
      some (.error (.invalid (.recordTooLarge key.length value.length))) := by
  have refused : (!Transaction.isStorable key value) = true := by
    rw [← Transaction.isStorable_iff] at large
    simpa using large
  exact if_pos refused

theorem decided?_of_clashes {records : Records} {key value : Bytes} {keepExisting : Bool}
    (small : Record.Storable (key, value))
    (clashes : Transaction.Clashes records.find? key keepExisting) :
    (putChange records key value keepExisting).decided? = some (.error .keyExists) := by
  obtain ⟨keeps, present⟩ := clashes
  unfold putChange
  rw [(Transaction.isStorable_iff key value).mpr small, keeps,
    Option.isSome_iff_ne_none.mpr present]
  rfl

theorem decided?_of_admitted {records : Records} {key value : Bytes} {keepExisting : Bool}
    (small : Record.Storable (key, value))
    (free : ¬ Transaction.Clashes records.find? key keepExisting) :
    (putChange records key value keepExisting).decided? = none := by
  have passes : ¬ (keepExisting && (records.find? key).isSome) = true := by
    rw [Bool.and_eq_true, Option.isSome_iff_ne_none]
    exact free
  unfold putChange
  rw [(Transaction.isStorable_iff key value).mpr small]
  exact if_neg passes

namespace Environment

variable {env env' : Environment} {file : Image} {contents : Contents} {age : Nat}
  {key value : Bytes} {keepExisting : Bool} {α : Type}

inductive Attempt (env : Environment) (file : Image) (contents : Contents) (change : Change α) :
    Except EngineError α × Environment × Image → Prop
  | decided {answer : Except EngineError α} (decided : change.decided? = some answer)
      (other : ∀ failure, answer = .error failure → failure.isMapFull = false) :
      Attempt env file contents change (answer, env, file)
  | stored {env' : Environment} {file' : Image} {after : Contents}
      (undecided : change.decided? = none)
      (fits : ¬ contents.Cramped contents.header.mapSize change.records.encodedLength)
      (advances : Advances 1 file contents file' after)
      (records_eq : after.records = change.records)
      (mapSize_eq : after.header.mapSize = contents.header.mapSize) (kin : env.Kin env')
      (mapped : env'.mapSize = contents.header.mapSize) :
      Attempt env file contents change (.ok change.answer, env', file')
  | full {env' : Environment} {needed limit : Nat} (undecided : change.decided? = none)
      (cramped : contents.Cramped contents.header.mapSize change.records.encodedLength)
      (kin : env.Kin env') (mapped : env'.mapSize = contents.header.mapSize)
      (tracks : env'.Tracks contents 0) :
      Attempt env file contents change (.error (.mapFull needed limit), env', file)

structure Current (env : Environment) (file : Image) (contents : Contents) : Prop where
  writer : env.flags.readOnly = false
  holds : file.Holds contents
  tracks : env.Tracks contents 0
  upToDate : env.UpToDate contents
  renewed : env.refresh file = (.ok (), env)

theorem Current.shows (current : env.Current file contents) : env.snapshot.Shows contents :=
  current.tracks.shows (by decide) current.upToDate.generation?_eq

/-- An environment that has mapped the whole map need not ask the system when it refreshes. -/
theorem refresh_of_mapped (holds : file.Holds contents) (tracks : env.Tracks contents age)
    (recent : age < UInt64.size) (mapped : env.mapSize = contents.header.mapSize)
    (writer : env.flags.readOnly = false) :
    ∃ env', env.refresh file = (.ok (), env') ∧ env'.Current file contents ∧ env.Kin env' := by
  have followed : env.follow contents.header = .ok env := by
    unfold follow
    rw [if_neg (by rw [mapped]; exact UInt64.lt_irrefl _)]
  rcases refresh_cases holds tracks with
    ⟨env', refreshed, tracks', current, kin⟩ | ⟨_, cause, _, refused⟩
  · exact ⟨env', refreshed, ⟨by rw [kin.flags_eq, writer], holds, tracks'.renew recent current,
      current, refresh_refresh refreshed⟩, kin⟩
  · unfold refresh at refused
    rw [holds.readable] at refused
    dsimp only at refused
    rw [followed] at refused
    dsimp only at refused
    split at refused
    · cases refused
    · rw [holds.decoded] at refused
      cases refused

/-- What a transaction has come to is published, or there is no room for it. -/
theorem transact_attempt (current : env.Current file contents)
    {operation : Transaction → Except EngineError (α × Transaction)} {txn : Transaction}
    {change : Change α} (undecided : change.decided? = none)
    (ran : operation env.transaction = .ok (change.answer, txn)) (sound : txn.Sound)
    (same : txn.records = change.records) :
    env.Attempt file contents change (env.transact operation file) := by
  have holds := current.holds
  have mapEq := current.upToDate.mapSize_eq
  have room : (Placement.place? contents.header.mapSize.toNat contents.header.dataOffset.toNat
      contents.header.dataLength.toNat change.records.encodedLength).isSome = true ↔ _ :=
    Placement.place?_isSome_iff holds.fits.headerSize_le_mapSize holds.fits.dataOffset_ge
      holds.fits.stop_le_mapSize
  rcases transact_cases holds current.writer ran with
    ⟨place, needed, limit, full⟩ | ⟨offset, place, done⟩
  · rw [full]
    rw [mapEq, sound.dataLength_eq, same] at place
    rw [place] at room
    have within : env.lent.mapSize ≤ contents.header.mapSize := UInt64.le_of_eq mapEq
    refine .full undecided (Nat.lt_of_not_le fun fits => ?_) ⟨rfl, rfl⟩ mapEq
      (tracks_forget within 0)
    exact Bool.false_ne_true (room.mpr fits)
  · rw [done]
    have placed : Placed contents txn env.mapSize.toNat offset :=
      .of_le sound (UInt64.le_of_eq mapEq) place
    rw [mapEq, sound.dataLength_eq, same] at place
    rw [place] at room
    exact .stored undecided (Nat.not_lt_of_le (room.mp rfl)) (placed.advances holds env.flags)
      same rfl ⟨rfl, rfl⟩ mapEq

theorem transact_of_error {operation : Transaction → Except EngineError (α × Transaction)}
    {failure : EngineError} (ran : operation env.transaction = .error failure) :
    env.transact operation file = (.error failure, env, file) := by
  unfold transact
  rw [ran]

theorem put_attempt (current : env.Current file contents) (key value : Bytes)
    (keepExisting : Bool) :
    env.Attempt file contents (putChange contents.records key value keepExisting)
      (env.put key value keepExisting file) := by
  have shows := current.shows
  have same : env.transaction.records = contents.records := shows.records_eq
  have sound := current.tracks.sound_transaction current.upToDate
  have begun : env.put key value keepExisting file =
      env.transact (fun txn => (txn.put key value keepExisting).map fun txn => ((), txn)) file := by
    unfold put
    rw [current.writer, current.renewed]
    rfl
  rw [begun]
  rcases env.transaction.put_cases key value keepExisting with
    ⟨large, put⟩ | ⟨small, clashes, put⟩ | ⟨small, free, exceeds, put⟩ | ⟨small, free, _, put⟩
  · rw [transact_of_error (by rw [put]; rfl)]
    exact .decided (decided?_of_tooLarge large _ _) (by rintro _ ⟨⟩; rfl)
  · rw [same] at clashes
    rw [transact_of_error (by rw [put]; rfl)]
    exact .decided (decided?_of_clashes small clashes) (by rintro _ ⟨⟩; rfl)
  · rw [same] at free
    rw [Transaction.lengthAfterPut_eq sound, same] at exceeds
    rw [transact_of_error (by rw [put]; rfl)]
    exact .full (decided?_of_admitted small free)
      (cramped_of_limit_lt current.upToDate shows exceeds) (Kin.refl env)
      current.upToDate.mapSize_eq current.tracks
  · rw [same] at free
    exact transact_attempt current (decided?_of_admitted small free) (by rw [put]; rfl)
      (sound.put put) (congrArg (·.insert key value) same)

theorem delete_attempt (current : env.Current file contents) (key : Bytes) :
    env.Attempt file contents (deleteChange contents.records key) (env.delete key file) := by
  have same : env.snapshot.records = contents.records := current.shows.records_eq
  have sound := current.tracks.sound_transaction current.upToDate
  unfold delete
  rw [current.writer, if_neg Bool.false_ne_true, current.renewed]
  dsimp only
  unfold get?
  rw [same]
  cases found : contents.records.find? key with
  | none =>
      refine .decided ?_ (by rintro _ ⟨⟩)
      unfold deleteChange
      rw [found]
      rfl
  | some value =>
      have undecided : (deleteChange contents.records key).decided? = none := by
        unfold deleteChange
        rw [found]
        rfl
      have present : (env.transaction.delete key).1 = true := by
        rw [Transaction.fst_delete, show env.transaction.records = contents.records from same,
          found]
        rfl
      rw [if_neg (by exact Bool.false_ne_true)]
      refine transact_attempt current undecided (congrArg Except.ok (Prod.ext present rfl))
        (sound.delete key) ?_
      rw [Transaction.records_delete]
      exact congrArg (·.erase key) same

end Environment

end RecordFile
