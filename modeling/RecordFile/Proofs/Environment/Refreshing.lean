/-
Refreshing again.

An environment that has refreshed is left as it is when it refreshes once more, as long as
nobody has changed the file. A write begins by refreshing, so it comes to the same whether the
environment had refreshed before or not. Whether a growth that somebody else made has been
taken already plays no part in it.
-/

import RecordFile.Proofs.Environment.Opening
import RecordFile.Proofs.Environment.Writing

namespace RecordFile

namespace Environment

variable {env env' : Environment} {file : Image}

/-- Following a header enlarges the mapping to it and touches no snapshot. -/
theorem follow_max (env : Environment) (header : Header) :
    ((env.mapSize < header.mapSize → Mappable env.room header.mapSize) ∧
      ∃ env', env.follow header = .ok env' ∧ env'.mapSize = max env.mapSize header.mapSize ∧
        env'.snapshot = env.snapshot ∧ env.Kin env') ∨
    ((env.mapSize < header.mapSize ∧ ¬ Mappable env.room header.mapSize) ∧
      ∃ cause, env.follow header = .error cause) := by
  unfold follow
  split
  · next less =>
      have larger : max env.mapSize header.mapSize = header.mapSize :=
        if_pos (UInt64.le_of_lt less)
      rcases env.remap_cases header.mapSize with ⟨mappable, done⟩ | ⟨far, cause, _, refused⟩
      · rw [done]
        exact Or.inl ⟨fun _ => mappable, _, rfl, larger.symm, rfl, rfl, rfl⟩
      · rw [refused]
        exact Or.inr ⟨⟨less, far⟩, cause, rfl⟩
  · next enough =>
      have same : max env.mapSize header.mapSize = env.mapSize := by
        apply UInt64.toNat_inj.mp
        rw [toNat_max]
        exact Nat.max_eq_left (UInt64.le_iff_toNat_le.mp (UInt64.not_lt.mp enough))
      exact Or.inl ⟨fun less => absurd less enough, env, rfl, same.symm, rfl, Kin.refl env⟩

theorem follow_eq_ok {header : Header} (followed : env.follow header = .ok env') :
    header.mapSize ≤ env'.mapSize ∧ env.Kin env' := by
  unfold follow at followed
  split at followed
  · rcases remapped : env.remap header.mapSize with cause | mapped
    · rw [remapped] at followed
      cases followed
    · rw [remapped] at followed
      cases followed
      unfold remap at remapped
      split at remapped
      · cases remapped
      · split at remapped
        · cases remapped
        · cases remapped
          exact ⟨UInt64.le_refl _, rfl, rfl⟩
  · next enough =>
      cases followed
      exact ⟨UInt64.not_lt.mp enough, Kin.refl env⟩

theorem refresh_eq_ok (refreshed : env.refresh file = (.ok (), env')) :
    ∃ header, readHeader file = .ok header ∧ header.mapSize ≤ env'.mapSize ∧
      env'.snapshot.generation? = some header.generation ∧ env.Kin env' := by
  unfold refresh at refreshed
  split at refreshed
  · cases refreshed
  · next header read =>
      split at refreshed
      · cases refreshed
      · next mapped followed =>
          obtain ⟨enough, kin⟩ := follow_eq_ok followed
          split at refreshed
          · next current =>
              cases refreshed
              exact ⟨header, read, enough, current, kin⟩
          · split at refreshed
            · cases refreshed
            · cases refreshed
              exact ⟨header, read, enough, rfl, kin.flags_eq, kin.room_eq⟩

theorem refresh_refresh (refreshed : env.refresh file = (.ok (), env')) :
    env'.refresh file = (.ok (), env') := by
  obtain ⟨header, read, enough, current, _⟩ := refresh_eq_ok refreshed
  unfold refresh follow
  rw [read]
  dsimp only
  rw [if_neg (UInt64.not_lt.mpr enough)]
  dsimp only
  rw [if_pos current]

def Refreshes {α : Type}
    (operation : Environment → Image → Except EngineError α × Environment × Image) : Prop :=
  ∀ env env' file, env.flags.readOnly = false → env.refresh file = (.ok (), env') →
    operation env file = operation env' file

theorem refreshes_put (key value : Bytes) (keepExisting : Bool) :
    Refreshes (fun env file => env.put key value keepExisting file) := by
  intro env env' file writer refreshed
  obtain ⟨_, _, _, _, kin⟩ := refresh_eq_ok refreshed
  unfold put
  dsimp only
  rw [kin.flags_eq, writer, refreshed, refresh_refresh refreshed]
  rfl

theorem refreshes_delete (key : Bytes) :
    Refreshes (fun env file => env.delete key file) := by
  intro env env' file writer refreshed
  obtain ⟨_, _, _, _, kin⟩ := refresh_eq_ok refreshed
  unfold delete
  dsimp only
  rw [kin.flags_eq, writer, refreshed, refresh_refresh refreshed]
  rfl

theorem put_of_refresh_error (writer : env.flags.readOnly = false) {failure : EngineError}
    (refused : env.refresh file = (.error failure, env')) (key value : Bytes)
    (keepExisting : Bool) : env.put key value keepExisting file = (.error failure, env', file) := by
  unfold put
  rw [writer, refused]
  rfl

theorem delete_of_refresh_error (writer : env.flags.readOnly = false) {failure : EngineError}
    (refused : env.refresh file = (.error failure, env')) (key : Bytes) :
    env.delete key file = (.error failure, env', file) := by
  unfold delete
  rw [writer, refused]
  rfl

/-- What has just been refreshed is not out of date, however old it was. -/
theorem Tracks.renew {contents : Contents} {age : Nat} (tracks : env.Tracks contents age)
    (recent : age < UInt64.size) (current : env.UpToDate contents) : env.Tracks contents 0 where
  mapSize_le := tracks.mapSize_le
  sound := tracks.sound
  lag := by
    intro generation read
    have shows := tracks.shows recent current.generation?_eq
    rw [current.generation?_eq] at read
    cases read
    exact ⟨0, Nat.le_refl 0, (UInt64.add_zero _).symm, fun _ => shows⟩

/-! ### Growth that was not taken yet -/

def withResized (env : Environment) (resized? : Option UInt64) : Environment :=
  { env with resized? := resized? }

theorem refresh_withResized (refreshed : env.refresh file = (.ok (), env))
    (resized? : Option UInt64) :
    (env.withResized resized?).refresh file = (.ok (), env.withResized resized?) := by
  obtain ⟨header, read, enough, current, _⟩ := refresh_eq_ok refreshed
  unfold refresh follow withResized
  rw [read]
  dsimp only
  rw [if_neg (UInt64.not_lt.mpr enough)]
  dsimp only
  rw [if_pos current]

theorem commit_withResized (env : Environment) (txn : Transaction) (file : Image)
    (resized? : Option UInt64) :
    (env.withResized resized?).commit txn file =
      ((env.commit txn file).1, (env.commit txn file).2.1.withResized resized?,
        (env.commit txn file).2.2) := by
  unfold commit withResized
  dsimp only
  split
  · rfl
  · split
    · rfl
    · split
      · rfl
      · rfl

theorem transact_withResized {α : Type} (env : Environment)
    (operation : Transaction → Except EngineError (α × Transaction)) (file : Image)
    (resized? : Option UInt64) :
    (env.withResized resized?).transact operation file =
      ((env.transact operation file).1, (env.transact operation file).2.1.withResized resized?,
        (env.transact operation file).2.2) := by
  have same : (env.withResized resized?).transaction = env.transaction := rfl
  unfold transact
  rw [same]
  split
  · rfl
  · next result txn done =>
      have committed := commit_withResized
        { env with snapshot := { env.snapshot with records := Records.empty } } txn file resized?
      unfold withResized at committed ⊢
      dsimp only at committed ⊢
      rw [committed]
      rcases commit { env with snapshot := { env.snapshot with records := Records.empty } } txn
        file with ⟨committed | committed, env', file'⟩
      · rfl
      · rfl

/-- To an environment that has refreshed it is all the same whether there is a growth to take. -/
def Ignores {α : Type}
    (operation : Environment → Image → Except EngineError α × Environment × Image) : Prop :=
  ∀ env file resized?, env.refresh file = (.ok (), env) →
    operation (env.withResized resized?) file =
      ((operation env file).1, (operation env file).2.1.withResized resized?,
        (operation env file).2.2)

theorem ignores_delete (key : Bytes) :
    Ignores (fun env file => env.delete key file) := by
  intro env file resized? refreshed
  unfold delete
  dsimp only
  rw [refreshed, refresh_withResized refreshed]
  have same : (env.withResized resized?).get? key = env.get? key := rfl
  have flags : (env.withResized resized?).flags = env.flags := rfl
  rw [flags]
  split
  · rfl
  · dsimp only
    rw [same]
    split
    · rfl
    · exact transact_withResized env _ file resized?

end Environment

end RecordFile
