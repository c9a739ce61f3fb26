/-
Looking for one key after another.

A session that reads a key, or deletes one that is absent, is left as it is when it looks at the
records, whatever the key. The next call comes to the same as if it had come first, with the
same notifications in the same order, some of them taken earlier. What cannot be read or deleted
because the records cannot be looked at fails in the same way for every key.
-/

import RecordFile.Proofs.Session.Refreshing

namespace RecordFile

namespace Session

open Environment (Refreshes Ignores)

variable {session session' : Session} {env env' : Environment} {file file' : Image}
  {contents : Contents} {records : Records} {law : Bytes → Prop}

/-! ### Notifications -/

def told (session : Session) (earlier : List Notification) : Session :=
  { session with notifications := earlier ++ session.notifications }

def silenced (session : Session) : Session :=
  { session with notifications := [] }

theorem silenced_told (session : Session) :
    session.silenced.told session.notifications = session := by
  unfold silenced told
  dsimp only
  rw [List.append_nil]

theorem silenced_of_told (told : session.told session'.notifications = session') :
    session = session'.silenced := by
  have none : session.notifications = [] :=
    List.append_right_eq_self.mp (congrArg Session.notifications told)
  have quiet : session.silenced = session := by
    unfold silenced
    rw [← none]
  rw [← quiet, ← told]
  rfl

variable (earlier : List Notification)

theorem emit_told (session : Session) (notification : Notification) :
    (session.told earlier).emit notification = (session.emit notification).told earlier := by
  unfold emit told
  dsimp only
  split
  · rw [List.append_assoc]
  · rfl

theorem reportResize_told (session : Session) :
    (session.told earlier).reportResize = session.reportResize.told earlier := by
  unfold reportResize
  rw [show (session.told earlier).env? = session.env? from rfl]
  split
  · rfl
  · split
    · rfl
    · next env' _ => exact emit_told earlier { session with env? := some env' } _

theorem grow_told (session : Session) (file : Image) :
    (session.told earlier).grow file =
      ((session.grow file).1, (session.grow file).2.1.told earlier, (session.grow file).2.2) := by
  unfold grow
  rw [show (session.told earlier).env? = session.env? from rfl,
    show (session.told earlier).config = session.config from rfl]
  split
  · rfl
  · split
    · rfl
    · dsimp only
      split
      · rfl
      · next env' _ _ =>
          exact Prod.ext rfl (Prod.ext (emit_told earlier { session with env? := some env' } _) rfl)

theorem growing_told {α : Type}
    (operation : Environment → Image → Except EngineError α × Environment × Image)
    (budget : Nat) (session : Session) (file : Image) :
    growing operation budget (session.told earlier) file =
      ((growing operation budget session file).1,
        (growing operation budget session file).2.1.told earlier,
        (growing operation budget session file).2.2) := by
  induction budget generalizing session file with
  | zero =>
      unfold growing
      rw [show (session.told earlier).env? = session.env? from rfl]
      split
      · rfl
      · next env here =>
          rcases operation env file with ⟨value | failure, env', file'⟩
          all_goals have reported := reportResize_told earlier { session with env? := some env' }
          · dsimp only
            rw [show { session.told earlier with env? := some env' } =
              Session.told { session with env? := some env' } earlier from rfl, reported]
            split
            · rfl
            · rfl
          · exact Prod.ext rfl (Prod.ext reported rfl)
  | succ budget ih =>
      unfold growing
      rw [show (session.told earlier).env? = session.env? from rfl]
      split
      · rfl
      · next env here =>
          rcases operation env file with ⟨failure | value, env', file'⟩
          all_goals have reported := reportResize_told earlier { session with env? := some env' }
          · dsimp only
            rw [show { session.told earlier with env? := some env' } =
              Session.told { session with env? := some env' } earlier from rfl, reported, grow_told]
            generalize Session.reportResize { session with env? := some env' } = session'
            split
            · rcases session'.grow file' with ⟨failure' | more, session'', file''⟩
              · rfl
              · cases more with
                | false => rfl
                | true => exact ih session'' file''
            · rfl
          · exact Prod.ext rfl (Prod.ext reported rfl)

/-! ### Growth that is reported earlier -/

theorem reportResize_alike (session : Session) : session.Alike session.reportResize := by
  cases here : session.env? with
  | none =>
      unfold reportResize
      rw [here]
      exact Alike.refl session
  | some env =>
      obtain ⟨_, _, _, _, alike⟩ := reportResize_cases session here
      exact alike

theorem reportResize_of_none (here : session.env? = some env) (none : env.resized? = none) :
    session.reportResize = session := by
  unfold reportResize Environment.takeResized
  rw [here]
  dsimp only
  rw [none]

theorem reportResize_of_some (here : session.env? = some env) {size : UInt64}
    (grown : env.resized? = some size) :
    session.reportResize = (session.refreshed (env.withResized none)).emit (.mapResized size) := by
  unfold reportResize Environment.takeResized
  rw [here]
  dsimp only
  rw [grown]
  rfl

theorem emit_refreshed (session : Session) (notification : Notification) (env : Environment) :
    (session.emit notification).refreshed env = (session.refreshed env).emit notification := by
  unfold emit refreshed
  split
  · rfl
  · rfl

/-- An operation that ignores a growth that was not taken leaves it to be reported as it would
have been before. -/
theorem growing_reported {α : Type}
    {operation : Environment → Image → Except EngineError α × Environment × Image}
    (ignores : Ignores operation) (here : session.env? = some env)
    (renewed : env.refresh file = (.ok (), env)) (budget : Nat) :
    growing operation budget session file =
      growing operation budget session.reportResize file := by
  cases grown : env.resized? with
  | none => rw [reportResize_of_none here grown]
  | some size =>
      have renewed' := Environment.refresh_withResized renewed none
      have same : (env.withResized none).withResized (some size) = env := by
        rw [← grown]
        rfl
      have before := ignores (env.withResized none) file (some size) renewed'
      have after := ignores (env.withResized none) file none renewed'
      rw [same] at before
      rw [show (env.withResized none).withResized none = env.withResized none from rfl] at after
      rw [reportResize_of_some here grown]
      have there : ((session.refreshed (env.withResized none)).emit
          (.mapResized size)).env? = some (env.withResized none) := env?_emit _ _
      unfold growing
      rw [here, there]
      dsimp only
      rw [before]
      generalize operation (env.withResized none) file = outcome at after ⊢
      obtain ⟨result, env', file'⟩ := outcome
      have taken : env'.withResized none = env' := (congrArg (·.2.1) after).symm
      have reported : (session.refreshed (env'.withResized (some size))).reportResize =
          (((session.refreshed (env.withResized none)).emit (.mapResized size)).refreshed
            env').reportResize := by
        rw [emit_refreshed, reportResize_of_some rfl rfl,
          show (env'.withResized (some size)).withResized none = env'.withResized none from rfl,
          taken]
        exact (reportResize_of_none (env?_emit _ _)
          (congrArg Environment.resized? taken.symm)).symm
      unfold refreshed at reported
      cases result with
      | ok value => exact Prod.ext rfl (Prod.ext reported rfl)
      | error failure =>
          dsimp only
          rw [reported]
          rfl

/-! ### Looking again -/

inductive Sees (session : Session) (file : Image) : Records → Session → Prop
  | drafted {txn : Transaction} {session' : Session} (bulk : session.bulk = true)
      (begun : session.bulkTransaction file = (.ok txn, session'))
      (waiting : session'.pending? = some txn) (still : session'.bulk = true) :
      Sees session file txn.records session'
  | read {env env' : Environment} (single : session.bulk = false)
      (here : session.env? = some env) (renewed : env.refresh file = (.ok (), env')) :
      Sees session file env'.snapshot.records (session.refreshed env').reportResize

theorem bulkTransaction_eq_ok {txn : Transaction}
    (begun : session.bulkTransaction file = (.ok txn, session')) :
    session'.pending? = some txn ∧ session'.bulk = session.bulk := by
  unfold bulkTransaction at begun
  split at begun
  · next waiting =>
      cases begun
      exact ⟨waiting, rfl⟩
  · split at begun
    · cases begun
    · split at begun
      · cases begun
      · next env' _ =>
          cases begun
          exact ⟨rfl, (reportResize_alike { session with env? := some env' }).bulk_eq⟩

theorem view_eq_ok (seen : session.view file = (.ok records, session')) :
    session.Sees file records session' := by
  unfold view at seen
  split at seen
  · next bulk =>
      split at seen
      · cases seen
      · next begun =>
          cases seen
          obtain ⟨waiting, still⟩ := bulkTransaction_eq_ok begun
          exact .drafted bulk begun waiting (still.trans bulk)
  · next single =>
      split at seen
      · cases seen
      · next env here =>
          split at seen
          · cases seen
          · next renewed =>
              cases seen
              exact .read (Bool.eq_false_iff.mpr single) here renewed

theorem reportResize_refreshed (session : Session) (renewed : env.refresh file = (.ok (), env')) :
    ∃ last, (session.refreshed env').reportResize.env? = some last ∧ last.resized? = none ∧
      last.snapshot = env'.snapshot ∧ last.refresh file = (.ok (), last) := by
  have again := Environment.refresh_refresh renewed
  cases grown : env'.resized? with
  | none =>
      rw [reportResize_of_none rfl grown]
      exact ⟨env', rfl, grown, rfl, again⟩
  | some size =>
      rw [reportResize_of_some rfl grown, env?_emit]
      exact ⟨_, rfl, rfl, rfl, Environment.refresh_withResized again none⟩

/-- Once the records have been looked at, looking again changes nothing. -/
theorem Sees.again (sees : session.Sees file records session') :
    session'.silenced.view file = (.ok records, session'.silenced) := by
  cases sees with
  | @drafted txn _ _ _ waiting still =>
      have there : session'.silenced.pending? = some txn := waiting
      have resumed := bulkTransaction_of_pending there file
      unfold view
      rw [if_pos (show session'.silenced.bulk = true from still), resumed]
  | @read _ env' single _ renewed =>
      obtain ⟨last, here, none, same, again⟩ := reportResize_refreshed session renewed
      have alike := reportResize_alike (session.refreshed env')
      have mode : (session.refreshed env').reportResize.bulk = false := alike.bulk_eq.trans single
      generalize (session.refreshed env').reportResize = session' at here mode ⊢
      have still : session'.silenced.refreshed last = session'.silenced := by
        unfold silenced refreshed
        rw [← here]
      unfold view
      rw [if_neg (by rw [show session'.silenced.bulk = false from mode]; exact Bool.false_ne_true),
        show session'.silenced.env? = some last from here]
      dsimp only
      rw [again, ← same]
      exact Prod.ext rfl ((congrArg reportResize still).trans (reportResize_of_none here none))

theorem Sees.delete_absent (sees : session.Sees file records session')
    (writer : ∀ env, session.env? = some env → env.flags.readOnly = false) {key : Bytes}
    (absent : records.find? key = none) :
    session.delete key file = (.ok false, session', file) := by
  unfold delete
  cases sees with
  | @drafted txn _ bulk begun waiting _ =>
      have kept : txn.delete key = (false, txn) := by
        unfold Transaction.delete Transaction.get?
        rw [absent]
      rw [if_pos bulk, begun]
      dsimp only
      rw [kept, ← waiting]
  | @read env env' single here renewed =>
      have done : env.delete key file = (.ok false, env', file) := by
        unfold Environment.delete Environment.get?
        rw [if_neg (by rw [writer env here]; exact Bool.false_ne_true), renewed]
        dsimp only
        rw [absent]
        rfl
      rw [if_neg (by rw [single]; exact Bool.false_ne_true)]
      unfold growing
      rw [here]
      dsimp only
      rw [done]
      rfl

/-- A call that deletes comes to the same when the records have been looked at before, but for
the notifications that were taken then. -/
theorem Sees.delete_eq (sees : session.Sees file records session')
    (writer : ∀ env, session.env? = some env → env.flags.readOnly = false) (key : Bytes) :
    session.delete key file =
      ((session'.silenced.delete key file).1,
        (session'.silenced.delete key file).2.1.told session'.notifications,
        (session'.silenced.delete key file).2.2) := by
  cases sees with
  | @drafted txn _ bulk begun waiting still =>
      have there : session'.silenced.pending? = some txn := waiting
      have resumed := bulkTransaction_of_pending there file
      unfold delete
      rw [if_pos bulk, begun, if_pos (show session'.silenced.bulk = true from still), resumed]
      unfold told silenced
      dsimp only
      rw [List.append_nil]
  | @read env env' single here renewed =>
      have alike := reportResize_alike (session.refreshed env')
      have grown := growing_refreshed (Environment.refreshes_delete key) here (writer env here)
        renewed session.apiRetryLimit
      have reported : growing (fun env file => env.delete key file) session.apiRetryLimit
          (session.refreshed env') file = growing (fun env file => env.delete key file)
            session.apiRetryLimit (session.refreshed env').reportResize file :=
        growing_reported (Environment.ignores_delete key) rfl
          (Environment.refresh_refresh renewed) session.apiRetryLimit
      have limit : (session.refreshed env').reportResize.apiRetryLimit = session.apiRetryLimit :=
        alike.apiRetryLimit_eq
      have mode : (session.refreshed env').reportResize.bulk = false := alike.bulk_eq.trans single
      rw [reported, ← limit] at grown
      generalize (session.refreshed env').reportResize = session' at grown mode limit ⊢
      have told := growing_told session'.notifications (fun env file => env.delete key file)
        session'.apiRetryLimit session'.silenced file
      rw [silenced_told] at told
      unfold delete
      rw [if_neg (by rw [single]; exact Bool.false_ne_true),
        if_neg (by rw [show session'.silenced.bulk = false from mode]; exact Bool.false_ne_true)]
      rw [← limit]
      exact grown.trans told

/-! ### Nothing to look at -/

theorem refresh_error {failure : EngineError}
    (refused : env.refresh file = (.error failure, env')) : failure.isMapFull = false := by
  unfold Environment.refresh at refused
  split at refused
  · cases refused
    rfl
  · split at refused
    · cases refused
      rfl
    · split at refused
      · cases refused
      · split at refused
        · cases refused
          rfl
        · cases refused

theorem delete_of_reader (here : session.env? = some env) (reader : env.flags.readOnly = true)
    (idle : session.pending? = none) :
    ∃ failure session', ∀ key, session.delete key file = (.error failure, session', file) := by
  cases bulk : session.bulk with
  | true =>
      have refused : session.bulkTransaction file =
          (.error .readOnly, { session with env? := some env }) := by
        unfold bulkTransaction Environment.beginWrite
        rw [idle, here]
        dsimp only
        rw [if_pos reader]
      refine ⟨.readOnly, { session with env? := some env }, fun key => ?_⟩
      unfold delete
      rw [if_pos bulk, refused]
  | false =>
      refine ⟨.readOnly, ({ session with env? := some env } : Session).reportResize, fun key => ?_⟩
      have refused : env.delete key file = (.error .readOnly, env, file) := by
        unfold Environment.delete
        rw [if_pos reader]
      unfold delete growing
      rw [bulk, here]
      dsimp only [Bool.false_eq_true, if_false]
      rw [refused]
      rfl

theorem delete_of_unseen {failure : EngineError}
    (unseen : session.view file = (.error failure, session'))
    (writer : ∀ env, session.env? = some env → env.flags.readOnly = false) :
    ∃ failure session', ∀ key, session.delete key file = (.error failure, session', file) := by
  unfold view at unseen
  split at unseen
  · next bulk =>
      split at unseen
      · next failure session' refused =>
          refine ⟨failure, session', fun key => ?_⟩
          unfold delete
          rw [if_pos bulk, refused]
      · cases unseen
  · next single =>
      split at unseen
      · next closed =>
          refine ⟨.notOpen, session, fun key => ?_⟩
          unfold delete growing
          rw [if_neg single, closed]
      · next env here =>
          split at unseen
          · next failure env' refused =>
              refine ⟨failure, ({ session with env? := some env' } : Session).reportResize,
                fun key => ?_⟩
              unfold delete growing
              rw [if_neg single, here]
              dsimp only
              rw [Environment.delete_of_refresh_error (writer env here) refused]
              dsimp only
              rw [refresh_error refused]
              rfl
          · cases unseen

/-! ### Keys under a law -/

structure Lawful (session : Session) (law : Bytes → Prop) (file : Image) (contents : Contents) :
    Prop where
  holds : file.Holds contents
  follows : session.Follows contents 0
  orderly : session.Orderly
  stored : ∀ key, contents.records.find? key ≠ none → law key
  drafted : ∀ key, (session.draft contents.records).find? key ≠ none → law key

theorem Lawful.of_idle (holds : file.Holds contents) (follows : session.Follows contents 0)
    (idle : session.pending? = none)
    (stored : ∀ key, contents.records.find? key ≠ none → law key) :
    session.Lawful law file contents where
  holds := holds
  follows := follows
  orderly := fun _ => idle
  stored := stored
  drafted := by
    rw [draft_of_idle idle]
    exact stored

theorem Lawful.silenced (lawful : session.Lawful law file contents) :
    session.silenced.Lawful law file contents where
  holds := lawful.holds
  follows := lawful.follows.retold _ _
  orderly := lawful.orderly
  stored := lawful.stored
  drafted := lawful.drafted

theorem Lawful.withRoom (lawful : session.Lawful law file contents) (room : Nat) :
    (session.withRoom room).Lawful law file contents where
  holds := lawful.holds
  follows := lawful.follows.withRoom room
  orderly := lawful.orderly
  stored := lawful.stored
  drafted := lawful.drafted

theorem Lawful.writer_or_reader (lawful : session.Lawful law file contents) :
    (∀ env, session.env? = some env → env.flags.readOnly = false) ∨
      ∃ env, session.env? = some env ∧ env.flags.readOnly = true ∧ session.pending? = none := by
  cases here : session.env? with
  | none => exact Or.inl nofun
  | some env =>
      cases mode : env.flags.readOnly with
      | false =>
          left
          intro found there
          cases there
          exact mode
      | true =>
          refine Or.inr ⟨env, rfl, mode, ?_⟩
          cases waiting : session.pending? with
          | none => rfl
          | some txn =>
              obtain ⟨found, there, writer⟩ := lawful.follows.writer txn waiting
              rw [here] at there
              cases there
              rw [mode] at writer
              cases writer

theorem Lawful.seen (lawful : session.Lawful law file contents)
    (seen : session.view file = (.ok records, session')) :
    session'.Lawful law file contents ∧ ∀ key, records.find? key ≠ none → law key := by
  cases view_eq_ok seen with
  | drafted bulk begun waiting still =>
      have begins := bulkTransaction_begins lawful.holds lawful.follows
      rw [begun] at begins
      have orderly : session'.Orderly := by
        intro single
        rw [still] at single
        cases single
      cases begins with
      | resumed _ =>
          refine ⟨lawful, ?_⟩
          rw [← draft_of_pending waiting contents.records]
          exact lawful.drafted
      | began _ _ _ follows _ _ same =>
          have stored := lawful.stored
          rw [← same (by decide)] at stored
          refine ⟨⟨lawful.holds, follows, orderly, lawful.stored, ?_⟩, stored⟩
          rw [draft_of_pending waiting]
          exact stored
  | @read env env' single here renewed =>
      rcases view_cases lawful.holds single here (lawful.follows.tracks env here) with
        ⟨_, _, viewed, alike, tracks, same⟩ | ⟨_, _, refused⟩
      · rw [seen] at viewed
        cases viewed
        refine ⟨.of_idle lawful.holds (lawful.follows.alike alike tracks)
          (alike.pending?_eq.trans (lawful.orderly single)) lawful.stored, ?_⟩
        rw [same (by decide)]
        exact lawful.stored
      · rw [seen] at refused
        cases refused

theorem Lawful.unseen (lawful : session.Lawful law file contents) {failure : EngineError}
    (unseen : session.view file = (.error failure, session')) : session' = session := by
  cases bulk : session.bulk with
  | true =>
      rcases bulkTransaction_cases lawful.holds lawful.follows with
        ⟨_, _, begun, _⟩ | ⟨_, refused⟩
      · rw [view_of_bulk bulk begun] at unseen
        cases unseen
      · rw [view_of_bulk bulk refused] at unseen
        cases unseen
        rfl
  | false =>
      cases here : session.env? with
      | none =>
          unfold view at unseen
          rw [bulk, here] at unseen
          cases unseen
          rfl
      | some env =>
          rcases view_cases lawful.holds bulk here (lawful.follows.tracks env here) with
            ⟨_, _, viewed, _⟩ | ⟨_, _, refused⟩
          · rw [viewed] at unseen
            cases unseen
          · rw [refused] at unseen
            cases unseen
            rfl

theorem Lawful.seek (lawful : session.Lawful law file contents) (move : CursorMove) :
    (session.seek move file).2.Lawful law file contents := by
  unfold Session.seek
  split
  · next unseen =>
      rw [lawful.unseen unseen]
      exact lawful
  · next seen =>
      have lawful' := (lawful.seen seen).1
      split
      · exact lawful'
      · exact ⟨lawful'.holds, lawful'.follows.seated _, lawful'.orderly, lawful'.stored,
          lawful'.drafted⟩

/-- A deletion that finds nothing had nothing to find. -/
theorem Sees.absent_of_delete (sees : session.Sees file records session')
    (lawful : session.Lawful law file contents) {key : Bytes} {session'' : Session}
    (deleted : session.delete key file = (.ok false, session'', file')) :
    records.find? key = none := by
  cases sees with
  | @drafted txn _ bulk begun _ _ =>
      unfold Session.delete at deleted
      rw [if_pos bulk, begun] at deleted
      dsimp only at deleted
      cases found : txn.records.find? key with
      | none => rfl
      | some old =>
          unfold Transaction.delete Transaction.get? at deleted
          rw [found] at deleted
          cases deleted
  | @read env env' single here renewed =>
      have tracks := lawful.follows.tracks env here
      have outcome := delete_outcome lawful.holds single here tracks lawful.follows.valid key
      rw [deleted] at outcome
      rcases Environment.refresh_cases lawful.holds tracks with
        ⟨_, renewed', tracks', current, _⟩ | ⟨_, _, _, refused⟩
      · rw [renewed] at renewed'
        cases renewed'
        rw [(tracks'.shows (by decide) current.generation?_eq).records_eq]
        cases outcome with
        | ok _ _ _ _ does =>
            have found := (does (by decide)).found_eq
            exact Option.isNone_iff_eq_none.mp (by
              rw [← Option.not_isSome, ← found]
              rfl)
      · rw [renewed] at refused
        cases refused

/-- What a deletion makes of the keys of the session, whether or not it can look at records. -/
theorem Lawful.delete_cases (lawful : session.Lawful law file contents) :
    (∃ failure session', ∀ key, session.delete key file = (.error failure, session', file)) ∨
      ∃ records session', session.view file = (.ok records, session') ∧
        ∀ env, session.env? = some env → env.flags.readOnly = false := by
  rcases lawful.writer_or_reader with writer | ⟨env, here, reader, idle⟩
  · rcases viewed : session.view file with ⟨failure | records, session'⟩
    · exact Or.inl (delete_of_unseen viewed writer)
    · exact Or.inr ⟨records, session', rfl, writer⟩
  · exact Or.inl (delete_of_reader here reader idle)

theorem Lawful.delete_error (lawful : session.Lawful law file contents) {key : Bytes}
    {failure : EngineError}
    (deleted : session.delete key file = (.error failure, session', file')) :
    ∃ after, session'.Lawful law file' after := by
  cases bulk : session.bulk with
  | true =>
      unfold Session.delete at deleted
      rw [if_pos bulk] at deleted
      rcases begun : session.bulkTransaction file with ⟨failure | txn, session'⟩
      · rw [begun] at deleted
        cases deleted
        rw [lawful.unseen (view_of_bulk bulk begun)]
        exact ⟨contents, lawful⟩
      · rw [begun] at deleted
        cases deleted
  | false =>
      cases here : session.env? with
      | none =>
          unfold Session.delete growing at deleted
          rw [bulk, here] at deleted
          cases deleted
          exact ⟨contents, lawful⟩
      | some env =>
          have outcome := delete_outcome lawful.holds bulk here (lawful.follows.tracks env here)
            lawful.follows.valid key
          rw [deleted] at outcome
          cases outcome with
          | @error _ _ _ after advances alike tracks _ =>
              refine ⟨after, .of_idle advances.holds (lawful.follows.alike alike tracks)
                (alike.pending?_eq.trans (lawful.orderly bulk)) ?_⟩
              rw [advances.records_eq rfl]
              exact lawful.stored

theorem Lawful.delete_missed (lawful : session.Lawful law file contents) {key : Bytes}
    (deleted : session.delete key file = (.ok false, session', file')) :
    ∃ records, session.view file = (.ok records, session') ∧ file' = file := by
  rcases lawful.delete_cases with ⟨_, _, fails⟩ | ⟨records, seen, viewed, writer⟩
  · rw [fails] at deleted
    cases deleted
  · have sees := view_eq_ok viewed
    rw [sees.delete_absent writer (sees.absent_of_delete lawful deleted)] at deleted
    cases deleted
    exact ⟨records, viewed, rfl⟩

/-! ### Searches -/

abbrev Search (α : Type) : Type :=
  Bytes → Session → Image → Except EngineError (Option α) × Session × Image

/-- A search fails for all keys, or looks at records. Then it misses the keys that do not obey
the law, all of them alike, and comes to the same when a key has been missed before. -/
inductive Searches {α : Type} (search : Search α) (law : Bytes → Prop) (session : Session)
    (file : Image) : Prop
  | fails (failure : EngineError) (session' : Session)
      (same : ∀ key, search key session file = (.error failure, session', file)) :
      Searches search law session file
  | looks (session' : Session)
      (misses : ∀ key, ¬ law key → search key session file = (.ok none, session', file))
      (missed : ∀ key session'' file'',
        search key session file = (.ok none, session'', file'') →
          session'' = session' ∧ file'' = file)
      (again : ∀ key, search key session file =
        ((search key session'.silenced file).1,
          (search key session'.silenced file).2.1.told session'.notifications,
          (search key session'.silenced file).2.2)) :
      Searches search law session file

theorem missed_again {α : Type} {search : Search α} {key : Bytes}
    (missed : search key session file = (.ok none, session', file))
    (again : search key session file =
      ((search key session'.silenced file).1,
        (search key session'.silenced file).2.1.told session'.notifications,
        (search key session'.silenced file).2.2)) :
    search key session'.silenced file = (.ok none, session'.silenced, file) := by
  rw [missed] at again
  generalize search key session'.silenced file = outcome at again ⊢
  obtain ⟨result, found, file'⟩ := outcome
  rw [Prod.mk.injEq, Prod.mk.injEq] at again
  obtain ⟨sameResult, told, sameFile⟩ := again
  change .ok none = result at sameResult
  change session' = found.told session'.notifications at told
  change file = file' at sameFile
  rw [← sameResult, ← sameFile, silenced_of_told told.symm]

structure Lawabiding {α : Type} (search : Search α) (law : Bytes → Prop) : Prop where
  searches : ∀ {session : Session} {file : Image} {contents : Contents},
    session.Lawful law file contents → Searches search law session file
  keeps : ∀ {session session' : Session} {file file' : Image} {contents : Contents} {key : Bytes}
    {result : Except EngineError (Option α)}, session.Lawful law file contents →
    search key session file = (result, session', file') → (∀ hit, result ≠ .ok (some hit)) →
    ∃ after, session'.Lawful law file' after

def reading : Search Bytes :=
  fun key session file => ((session.get key file).1, (session.get key file).2, file)

def removing : Search Unit :=
  fun key session file =>
    match session.delete key file with
    | (.error failure, after) => (.error failure, after)
    | (.ok present, after) => (.ok (if present then some () else none), after)

theorem lawabiding_reading (law : Bytes → Prop) : Lawabiding reading law where
  searches := by
    intro session file contents lawful
    rcases viewed : session.view file with ⟨failure | records, session'⟩
    · refine .fails failure session' fun key => ?_
      unfold reading get
      rw [viewed]
    · have got : ∀ key, reading key session file = (.ok (records.find? key), session', file) := by
        intro key
        unfold reading get
        rw [viewed]
      refine .looks session' ?_ ?_ ?_
      · intro key unlawful
        rw [got, Classical.not_not.mp (mt ((lawful.seen viewed).2 key) unlawful)]
      · intro key session'' file'' missed
        rw [got, Prod.mk.injEq, Prod.mk.injEq] at missed
        exact ⟨missed.2.1.symm, missed.2.2.symm⟩
      · intro key
        rw [got]
        unfold reading get
        rw [(view_eq_ok viewed).again]
        dsimp only
        rw [silenced_told]
  keeps := by
    intro session session' file file' contents key result lawful found _
    unfold reading get at found
    rcases viewed : session.view file with ⟨failure | records, session''⟩
    · rw [viewed] at found
      cases found
      rw [lawful.unseen viewed]
      exact ⟨contents, lawful⟩
    · rw [viewed] at found
      cases found
      exact ⟨contents, (lawful.seen viewed).1⟩

theorem lawabiding_removing (law : Bytes → Prop) : Lawabiding removing law where
  searches := by
    intro session file contents lawful
    rcases lawful.delete_cases with ⟨failure, session', fails⟩ | ⟨records, session', viewed, writer⟩
    · refine .fails failure session' fun key => ?_
      unfold removing
      rw [fails]
    · have sees := view_eq_ok viewed
      refine .looks session' ?_ ?_ ?_
      · intro key unlawful
        unfold removing
        rw [sees.delete_absent writer
          (Classical.not_not.mp (mt ((lawful.seen viewed).2 key) unlawful))]
        rfl
      · intro key session'' file'' missed
        unfold removing at missed
        rcases deleted : session.delete key file with ⟨failure | present, session₁, file₁⟩
        · rw [deleted] at missed
          cases missed
        · rw [deleted] at missed
          cases present with
          | true => cases missed
          | false =>
              cases missed
              obtain ⟨_, viewed', same⟩ := lawful.delete_missed deleted
              rw [viewed] at viewed'
              cases viewed'
              exact ⟨rfl, same⟩
      · intro key
        unfold removing
        rw [sees.delete_eq writer key]
        rcases session'.silenced.delete key file with ⟨failure | present, session₁, file₁⟩
        · rfl
        · rfl
  keeps := by
    intro session session' file file' contents key result lawful found missed
    unfold removing at found
    rcases deleted : session.delete key file with ⟨failure | present, session₁, file₁⟩
    · rw [deleted] at found
      cases found
      exact lawful.delete_error deleted
    · rw [deleted] at found
      cases present with
      | true =>
          cases found
          exact absurd rfl (missed ())
      | false =>
          cases found
          obtain ⟨_, viewed, same⟩ := lawful.delete_missed deleted
          rw [same]
          exact ⟨contents, (lawful.seen viewed).1⟩

end Session

end RecordFile
