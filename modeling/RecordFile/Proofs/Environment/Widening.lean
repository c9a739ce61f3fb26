/-
What an environment maps.

No operation makes a mapping smaller, and none asks to start over. An environment that was opened
maps the least size or more. Nothing is assumed of the file, so this holds whatever others do to
it meanwhile.
-/

import RecordFile.Proofs.Environment.Acceptance

namespace RecordFile

namespace Environment

structure Widens {α : Type} (env : Environment) (result : Except EngineError α)
    (env' : Environment) : Prop where
  mapSize_le : env.mapSize ≤ env'.mapSize
  ne_retry : result ≠ .error .retry

/-- A failure that is handed on asks for nothing that it did not ask for before. -/
theorem error_ne_retry {α β : Type} {result : Except EngineError α} {failure : EngineError}
    (plain : result ≠ .error .retry) (failed : result = .error failure) :
    (.error failure : Except EngineError β) ≠ .error .retry := by
  rintro ⟨⟩
  exact plain failed

variable {env env' : Environment} {file : Image}

theorem refresh_widens (env : Environment) (file : Image) :
    env.Widens (env.refresh file).1 (env.refresh file).2 := by
  unfold refresh
  cases readHeader file with
  | error fault => exact ⟨UInt64.le_refl _, nofun⟩
  | ok header =>
      dsimp only
      rcases env.follow_max header with ⟨_, env', followed, size, _, _⟩ | ⟨_, cause, refused⟩
      · have larger : env.mapSize ≤ env'.mapSize := size ▸ left_le_max _ _
        rw [followed]
        dsimp only
        split
        · exact ⟨larger, nofun⟩
        · cases file.recordsOf header with
          | error fault => exact ⟨larger, nofun⟩
          | ok records => exact ⟨larger, nofun⟩
      · rw [refused]
        exact ⟨UInt64.le_refl _, nofun⟩

theorem beginWrite_widens (env : Environment) (file : Image) :
    env.Widens (env.beginWrite file).1 (env.beginWrite file).2 := by
  have refreshed := env.refresh_widens file
  unfold beginWrite
  split
  · exact ⟨UInt64.le_refl _, nofun⟩
  · split
    · next failure _ done =>
        rw [done] at refreshed
        exact ⟨refreshed.mapSize_le, error_ne_retry refreshed.ne_retry rfl⟩
    · next done =>
        rw [done] at refreshed
        exact ⟨refreshed.mapSize_le, nofun⟩

theorem commit_widens (env : Environment) (txn : Transaction) (file : Image) :
    env.Widens (env.commit txn file).1 (env.commit txn file).2.1 := by
  have same := UInt64.le_refl env.mapSize
  unfold commit
  split
  · exact ⟨same, nofun⟩
  · split
    · exact ⟨same, nofun⟩
    · split
      · exact ⟨same, nofun⟩
      · exact ⟨same, nofun⟩

theorem transact_widens {α : Type} (env : Environment)
    (operation : Transaction → Except EngineError (α × Transaction)) (file : Image)
    (plain : operation env.transaction ≠ .error .retry) :
    env.Widens (env.transact operation file).1 (env.transact operation file).2.1 := by
  unfold transact
  split
  · next failure ran =>
      exact ⟨UInt64.le_refl _, error_ne_retry plain ran⟩
  · next result txn _ =>
      have committed := env.lent.commit_widens txn file
      unfold lent at committed
      split
      · next refused =>
          rw [refused] at committed
          exact ⟨committed.mapSize_le, error_ne_retry committed.ne_retry rfl⟩
      · next done =>
          rw [done] at committed
          exact ⟨committed.mapSize_le, nofun⟩

theorem put_ne_retry (txn : Transaction) (key value : Bytes) (keepExisting : Bool) :
    txn.put key value keepExisting ≠ .error .retry := by
  rcases txn.put_cases key value keepExisting with
    ⟨_, put⟩ | ⟨_, _, put⟩ | ⟨_, _, _, put⟩ | ⟨_, _, _, put⟩
  · rw [put]
    nofun
  · rw [put]
    nofun
  · rw [put]
    nofun
  · rw [put]
    nofun

/-- What a write does to an environment that has refreshed it does on top of that. -/
theorem Widens.after {α : Type} {result : Except EngineError α} {env'' : Environment}
    (refreshed : env.refresh file = (.ok (), env')) (widens : env'.Widens result env'') :
    env.Widens result env'' := by
  have first := env.refresh_widens file
  rw [refreshed] at first
  exact ⟨UInt64.le_trans first.mapSize_le widens.mapSize_le, widens.ne_retry⟩

theorem Widens.of_refused {α : Type} {failure : EngineError}
    (refused : env.refresh file = (.error failure, env')) :
    env.Widens (.error failure : Except EngineError α) env' := by
  have first := env.refresh_widens file
  rw [refused] at first
  exact ⟨first.mapSize_le, error_ne_retry first.ne_retry rfl⟩

theorem put_widens (env : Environment) (key value : Bytes) (keepExisting : Bool) (file : Image) :
    env.Widens (env.put key value keepExisting file).1
      (env.put key value keepExisting file).2.1 := by
  unfold put
  split
  · exact ⟨UInt64.le_refl _, nofun⟩
  · split
    · next refused => exact .of_refused refused
    · next env' refreshed =>
        refine .after refreshed (env'.transact_widens _ file ?_)
        have plain := put_ne_retry env'.transaction key value keepExisting
        cases put : env'.transaction.put key value keepExisting with
        | error failure => exact error_ne_retry plain put
        | ok txn => nofun

theorem delete_widens (env : Environment) (key : Bytes) (file : Image) :
    env.Widens (env.delete key file).1 (env.delete key file).2.1 := by
  unfold delete
  split
  · exact ⟨UInt64.le_refl _, nofun⟩
  · split
    · next refused => exact .of_refused refused
    · next env' refreshed =>
        refine .after refreshed ?_
        split
        · exact ⟨UInt64.le_refl _, nofun⟩
        · exact env'.transact_widens _ file nofun

theorem grow_widens (env : Environment) (size : UInt64) (file : Image) :
    env.Widens (env.grow size file).1 (env.grow size file).2.1 ∧
      ((env.grow size file).1 = .ok () → size ≤ (env.grow size file).2.1.mapSize) := by
  have same := UInt64.le_refl env.mapSize
  unfold grow
  split
  · exact ⟨⟨same, nofun⟩, nofun⟩
  · split
    · next mapped => exact ⟨⟨same, nofun⟩, fun _ => mapped⟩
    · next less =>
        have larger : env.mapSize ≤ size := UInt64.le_of_lt (UInt64.not_le.mp less)
        split
        · exact ⟨⟨same, nofun⟩, nofun⟩
        · next header _ =>
            by_cases short : size.toNat ≤ Image.longest
            · rw [setMapSize_of_le header file short]
              dsimp only
              rcases env.remap_cases size with ⟨_, done⟩ | ⟨_, cause, _, refused⟩
              · rw [done]
                exact ⟨⟨larger, nofun⟩, fun _ => UInt64.le_refl _⟩
              · rw [refused]
                exact ⟨⟨same, nofun⟩, nofun⟩
            · rw [setMapSize_of_lt header file (Nat.lt_of_not_le short)]
              exact ⟨⟨same, nofun⟩, nofun⟩

inductive Least : Except EngineError (Header × Image) → Prop
  | refused {failure : EngineError} (plain : failure ≠ .retry) : Least (.error failure)
  | ready {header : Header} {file : Image} (least : Layout.minimumMapSize ≤ header.mapSize) :
      Least (.ok (header, file))

theorem setMapSize_least (header : Header) {size : UInt64} (file : Image)
    (least : Layout.minimumMapSize ≤ size) : Least (setMapSize header size file) := by
  by_cases short : size.toNat ≤ Image.longest
  · rw [setMapSize_of_le header file short]
    exact .ready least
  · rw [setMapSize_of_lt header file (Nat.lt_of_not_le short)]
    exact .refused nofun

theorem openingHeader_least (path : String) (readOnly : Bool) {size : UInt64} (file : Image)
    (least : Layout.minimumMapSize ≤ size) : Least (openingHeader path readOnly size file) := by
  unfold openingHeader
  split
  · split
    · exact .refused nofun
    · exact setMapSize_least _ file least
  · split
    · exact .refused nofun
    · split
      · exact .refused nofun
      · next read => exact .ready (Header.fits_of_parse read).mapSize_ge

theorem prepare_least (flags : OpenFlags) (size : UInt64) {header : Header} (file : Image)
    (least : Layout.minimumMapSize ≤ header.mapSize) :
    Least (prepare flags size header file) := by
  have widened : Least (widen header size file) := by
    unfold widen
    dsimp only
    split
    · exact setMapSize_least header file (UInt64.le_trans least (left_le_max _ _))
    · exact .ready least
  unfold prepare
  generalize widen header size file = result at widened
  cases widened with
  | refused plain => exact .refused plain
  | @ready header file least =>
      unfold discard
      dsimp only
      split
      · split
        · exact .ready least
        · exact .ready least
      · exact .ready least

theorem attach_least (path : String) (flags : OpenFlags) (room : Nat) {header : Header}
    (file : Image) (least : Layout.minimumMapSize ≤ header.mapSize) :
    attach path flags room header file ≠ .error .retry ∧
      ∀ env, attach path flags room header file = .ok env →
        Layout.minimumMapSize ≤ env.mapSize := by
  unfold attach
  rcases (unmapped path flags room).remap_cases header.mapSize with
    ⟨_, done⟩ | ⟨_, cause, _, refused⟩
  · rw [done]
    dsimp only
    have refreshed :=
      refresh_widens { unmapped path flags room with mapSize := header.mapSize } file
    split
    · next failed =>
        rw [failed] at refreshed
        exact ⟨error_ne_retry refreshed.ne_retry rfl, nofun⟩
    · next done =>
        rw [done] at refreshed
        refine ⟨nofun, ?_⟩
        rintro env ⟨⟩
        exact UInt64.le_trans least refreshed.mapSize_le
  · rw [refused]
    exact ⟨nofun, nofun⟩

/-- No environment maps less than the least size. -/
theorem open_least (path : String) (flags : OpenFlags) (asked : UInt64) (room : Nat)
    (file : Image) :
    (Environment.open path flags asked room file).1 ≠ .error .retry ∧
      ∀ env, (Environment.open path flags asked room file).1 = .ok env →
        Layout.minimumMapSize ≤ env.mapSize := by
  have opening := openingHeader_least path flags.readOnly file
    (right_le_max asked Layout.minimumMapSize)
  unfold «open»
  dsimp only
  generalize openingHeader path flags.readOnly _ file = result at opening
  cases opening with
  | refused plain =>
      refine ⟨?_, nofun⟩
      rintro ⟨⟩
      exact plain rfl
  | @ready header file least =>
      dsimp only
      split
      · split
        · exact ⟨nofun, nofun⟩
        · exact attach_least path flags room file least
      · have prepared := prepare_least flags (max asked Layout.minimumMapSize) file least
        generalize prepare flags _ header file = result at prepared
        cases prepared with
        | refused plain =>
            refine ⟨?_, nofun⟩
            rintro ⟨⟩
            exact plain rfl
        | @ready header file least => exact attach_least path flags room file least

end Environment

end RecordFile
