/-
The restarts that a session has.

Nothing is assumed of the file between two calls, so others may do to it what they like. Each
call that answers with a retry has made the mapping larger and is counted, and nothing takes the
count back but a commit that succeeds or another open. When all restarts are spent or the map has
its largest size, a full map ends the transaction without another restart.
-/

import RecordFile.Proofs.Environment.Widening
import RecordFile.Proofs.Session.Bulk
import RecordFile.Proofs.Session.Settings

namespace RecordFile

namespace Session

open Environment (error_ne_retry)

variable {session session' session'' : Session} {env env' : Environment} {file file' : Image}

/-! ### What is not counted -/

structure Uncounted (session session' : Session) : Prop where
  bulkRetries_eq : session'.bulkRetries = session.bulkRetries
  isSome_eq : session'.env?.isSome = session.env?.isSome
  widens : ∀ env', session'.env? = some env' →
    ∃ env, session.env? = some env ∧ env.mapSize ≤ env'.mapSize

theorem Uncounted.refl (session : Session) : session.Uncounted session :=
  ⟨rfl, rfl, fun env here => ⟨env, here, UInt64.le_refl _⟩⟩

theorem Uncounted.trans (first : session.Uncounted session')
    (second : session'.Uncounted session'') : session.Uncounted session'' where
  bulkRetries_eq := second.bulkRetries_eq.trans first.bulkRetries_eq
  isSome_eq := second.isSome_eq.trans first.isSome_eq
  widens := by
    intro env'' there
    obtain ⟨env', here', second⟩ := second.widens env'' there
    obtain ⟨env, here, first⟩ := first.widens env' here'
    exact ⟨env, here, UInt64.le_trans first second⟩

theorem uncounted_of_env?_eq (same : session'.env? = session.env?)
    (retries : session'.bulkRetries = session.bulkRetries) : session.Uncounted session' :=
  ⟨retries, congrArg Option.isSome same, fun env here => ⟨env, same ▸ here, UInt64.le_refl _⟩⟩

theorem uncounted_withEnv (here : session.env? = some env) (larger : env.mapSize ≤ env'.mapSize) :
    session.Uncounted { session with env? := some env' } := by
  refine ⟨rfl, by rw [here]; rfl, ?_⟩
  rintro _ ⟨⟩
  exact ⟨env, here, larger⟩

theorem uncounted_emit (session : Session) (notification : Notification) :
    session.Uncounted (session.emit notification) := by
  apply uncounted_of_env?_eq (env?_emit session notification)
  unfold emit
  split
  · rfl
  · rfl

theorem uncounted_reportResize (session : Session) :
    session.Uncounted session.reportResize := by
  unfold reportResize
  split
  · exact .refl session
  · next env here =>
      split
      · exact .refl session
      · next size env' taken =>
          have same : env'.mapSize = env.mapSize :=
            congrArg (fun taken => taken.2.mapSize) taken.symm
          exact (uncounted_withEnv here (UInt64.le_of_eq same.symm)).trans (uncounted_emit _ _)

/-- An operation was run, and a growth that it saw is reported. -/
theorem uncounted_attempt (here : session.env? = some env) (larger : env.mapSize ≤ env'.mapSize) :
    session.Uncounted (reportResize { session with env? := some env' }) :=
  (uncounted_withEnv here larger).trans (uncounted_reportResize _)

theorem grow_uncounted (session : Session) (file : Image) :
    session.Uncounted (session.grow file).2.1 ∧ (session.grow file).1 ≠ .error .retry := by
  unfold grow
  split
  · exact ⟨.refl session, nofun⟩
  · next env here =>
      split
      · exact ⟨.refl session, nofun⟩
      · obtain ⟨widens, _⟩ := env.grow_widens (nextSize session.config env.mapSize) file
        dsimp only
        split
        · next refused =>
            rw [refused] at widens
            exact ⟨uncounted_withEnv here widens.mapSize_le, error_ne_retry widens.ne_retry rfl⟩
        · next grown =>
            rw [grown] at widens
            exact ⟨(uncounted_withEnv here widens.mapSize_le).trans (uncounted_emit _ _), nofun⟩

section Growing

variable {α : Type}
  {operation : Environment → Image → Except EngineError α × Environment × Image}

/-- One attempt counts nothing if what follows when it does not fit counts nothing. -/
theorem growing_of_regrow (widens : ∀ (env : Environment) file,
      env.Widens (operation env file).1 (operation env file).2.1) {budget : Nat}
    (later : ∀ session failure file,
      session.Uncounted (regrow operation budget session failure file).2.1 ∧
        (regrow operation budget session failure file).1 ≠ .error .retry)
    (session : Session) (file : Image) :
    session.Uncounted (growing operation budget session file).2.1 ∧
      (growing operation budget session file).1 ≠ .error .retry := by
  unfold growing
  split
  · exact ⟨.refl session, nofun⟩
  · next env here =>
      have attempted := widens env file
      split
      · next done =>
          rw [done] at attempted
          exact ⟨uncounted_attempt here attempted.mapSize_le, fun again => by cases again⟩
      · next failure env' file' failed =>
          rw [failed] at attempted
          have attempt := uncounted_attempt here attempted.mapSize_le
          obtain ⟨rest, plain⟩ := later (reportResize { session with env? := some env' }) failure
            file'
          dsimp only
          split
          · cases budget with
            | zero => exact ⟨attempt.trans rest, plain⟩
            | succ budget => exact ⟨attempt.trans rest, plain⟩
          · exact ⟨attempt, error_ne_retry attempted.ne_retry rfl⟩

theorem growing_uncounted (widens : ∀ (env : Environment) file,
      env.Widens (operation env file).1 (operation env file).2.1) (budget : Nat)
    (session : Session) (file : Image) :
    session.Uncounted (growing operation budget session file).2.1 ∧
      (growing operation budget session file).1 ≠ .error .retry := by
  induction budget generalizing session file with
  | zero =>
      apply growing_of_regrow widens
      intro session failure file
      rw [regrow]
      exact ⟨.refl session, nofun⟩
  | succ budget ih =>
      apply growing_of_regrow widens
      intro session failure file
      obtain ⟨stepped, plain⟩ := grow_uncounted session file
      rw [regrow]
      split
      · next grown =>
          rw [grown] at stepped plain
          exact ⟨stepped, error_ne_retry plain rfl⟩
      · next grown =>
          rw [grown] at stepped
          exact ⟨stepped, nofun⟩
      · next session' file' grown =>
          rw [grown] at stepped
          obtain ⟨rest, plain⟩ := ih session' file'
          exact ⟨stepped.trans rest, plain⟩

end Growing

theorem bulkTransaction_uncounted (session : Session) (file : Image) :
    session.Uncounted (session.bulkTransaction file).2 ∧
      (session.bulkTransaction file).1 ≠ .error .retry := by
  unfold bulkTransaction
  split
  · exact ⟨.refl session, nofun⟩
  · split
    · exact ⟨.refl session, nofun⟩
    · next env here =>
        have begun := env.beginWrite_widens file
        split
        · next refused =>
            rw [refused] at begun
            exact ⟨uncounted_withEnv here begun.mapSize_le, error_ne_retry begun.ne_retry rfl⟩
        · next done =>
            rw [done] at begun
            have attempt := uncounted_attempt here begun.mapSize_le
            exact ⟨attempt.trans (uncounted_of_env?_eq rfl rfl), nofun⟩

theorem view_uncounted (session : Session) (file : Image) :
    session.Uncounted (session.view file).2 ∧ (session.view file).1 ≠ .error .retry := by
  unfold view
  split
  · obtain ⟨begun, plain⟩ := bulkTransaction_uncounted session file
    split
    · next refused =>
        rw [refused] at begun plain
        exact ⟨begun, error_ne_retry plain rfl⟩
    · next resumed =>
        rw [resumed] at begun
        exact ⟨begun, nofun⟩
  · split
    · exact ⟨.refl session, nofun⟩
    · next env here =>
        have refreshed := env.refresh_widens file
        split
        · next refused =>
            rw [refused] at refreshed
            exact ⟨uncounted_withEnv here refreshed.mapSize_le,
              error_ne_retry refreshed.ne_retry rfl⟩
        · next done =>
            rw [done] at refreshed
            exact ⟨uncounted_attempt here refreshed.mapSize_le, nofun⟩

/-! ### What is counted -/

structure Sized (session : Session) : Prop where
  valid : session.config.Valid
  least : ∀ env, session.env? = some env → Layout.minimumMapSize ≤ env.mapSize

def MapsMore (session session' : Session) : Prop :=
  ∃ env env', session.env? = some env ∧ session'.env? = some env' ∧ env.mapSize < env'.mapSize

theorem lt_nextSize {config : SessionConfig} (valid : config.Valid) {current : UInt64}
    (least : Layout.minimumMapSize ≤ current) (smaller : current < config.maxMapSize) :
    current < nextSize config current := by
  have multiplier := UInt64.le_iff_toNat_le.mp valid.two_le
  change 2 ≤ _ at multiplier
  have large := UInt64.le_iff_toNat_le.mp least
  change 4096 ≤ current.toNat at large
  have less := UInt64.lt_iff_toNat_lt.mp smaller
  have twice : current.toNat * 2 ≤ current.toNat * config.growthMultiplier.toNat :=
    Nat.mul_le_mul_left _ multiplier
  rw [UInt64.lt_iff_toNat_lt, toNat_nextSize]
  omega

/-- A growth step that is taken makes the mapping larger. -/
theorem Sized.mapsMore (sized : session.Sized)
    (grown : session.grow file = (.ok true, session', file')) : session.MapsMore session' := by
  unfold grow at grown
  split at grown
  · cases grown
  · next env here =>
      split at grown
      · cases grown
      · next smaller =>
          obtain ⟨_, reaches⟩ := env.grow_widens (nextSize session.config env.mapSize) file
          dsimp only at grown
          split at grown
          · cases grown
          · next env' _ done =>
              rw [done] at reaches
              cases grown
              refine ⟨env, env', here, env?_emit _ _, ?_⟩
              exact UInt64.lt_of_lt_of_le
                (lt_nextSize sized.valid (sized.least env here) (UInt64.not_le.mp smaller))
                (reaches rfl)

structure Counted (session session' : Session) : Prop where
  spare : session.bulkRetries < session.bulkRetryLimit
  bulkRetries_eq : session'.bulkRetries = session.bulkRetries + 1
  idle : session'.pending? = none
  mapsMore : session.MapsMore session'

theorem pending?_grow (session : Session) (file : Image) :
    (session.grow file).2.1.pending? = session.pending? := by
  unfold grow
  split
  · rfl
  · split
    · rfl
    · dsimp only
      split
      · rfl
      · unfold emit
        split
        · rfl
        · rfl

theorem Uncounted.counted (first : session.Uncounted session')
    (limit : session'.bulkRetryLimit = session.bulkRetryLimit)
    (counted : session'.Counted session'') : session.Counted session'' where
  spare := by
    rw [← first.bulkRetries_eq, ← limit]
    exact counted.spare
  bulkRetries_eq := by rw [counted.bulkRetries_eq, first.bulkRetries_eq]
  idle := counted.idle
  mapsMore := by
    obtain ⟨env', env'', there, last, less⟩ := counted.mapsMore
    obtain ⟨env, here, larger⟩ := first.widens env' there
    exact ⟨env, env'', here, last, UInt64.lt_of_le_of_lt larger less⟩

/-- A restart asks to start over exactly when it is counted. -/
theorem restart_counts {α : Type} (sized : session.Sized) (cause : EngineError) (file : Image) :
    ∃ failure session' file', session.restart (α := α) cause file =
        (.error failure, session', file') ∧
      ((failure = .retry ∧ session.Counted session') ∨
        (failure ≠ .retry ∧ session.Uncounted session')) := by
  have emptied : session.Uncounted session.emptied := uncounted_of_env?_eq rfl rfl
  by_cases spent : session.bulkRetryLimit ≤ session.bulkRetries
  · exact ⟨_, _, _, restart_of_spent spent cause file, Or.inr ⟨nofun, emptied⟩⟩
  · have spare := Nat.lt_of_not_le spent
    obtain ⟨stepped, plain⟩ := grow_uncounted session.emptied file
    have idle := pending?_grow session.emptied file
    rcases grown : session.emptied.grow file with ⟨failure | more, session', file'⟩
    · rw [grown] at stepped plain
      refine ⟨failure, session', file', restart_of_error spare grown cause, Or.inr ⟨?_, ?_⟩⟩
      · rintro rfl
        exact plain rfl
      · exact emptied.trans stepped
    · rw [grown] at stepped idle
      unfold restart
      dsimp only
      rw [if_neg (Nat.not_le_of_lt spare)]
      have shape : grow { session with pending? := none, cursor? := none } file = _ := grown
      rw [shape]
      cases more with
      | false => exact ⟨_, _, _, rfl, Or.inr ⟨nofun, emptied.trans stepped⟩⟩
      | true =>
          have started : session.emptied.Sized := ⟨sized.valid, sized.least⟩
          obtain ⟨env, env', here, there, less⟩ := started.mapsMore grown
          refine ⟨_, _, _, rfl, Or.inl ⟨rfl, spare, ?_, idle, env, env', here, there, less⟩⟩
          exact congrArg (· + 1) stepped.bulkRetries_eq

/-! ### What a call counts -/

/-- A call whose success renews the restarts. -/
def Call.Renewing (session : Session) : Call → Prop
  | .open _ _ _ => True
  | .commit => session.pending? ≠ none
  | _ => False

inductive Charges (session : Session) (call : Call) : Reply → Session → Prop
  | uncounted {reply : Reply} {session' : Session} (other : reply ≠ .failed .retry)
      (uncounted : session.Uncounted session') : Charges session call reply session'
  | counted {session' : Session} (counted : session.Counted session') :
      Charges session call (.failed .retry) session'
  | renewed {session' : Session} (renewing : call.Renewing session)
      (bulkRetries_eq : session'.bulkRetries = 0)
      (least : ∀ env, session'.env? = some env → Layout.minimumMapSize ≤ env.mapSize) :
      Charges session call .done session'

variable {call : Call}

theorem charges_of_uncounted {α : Type} {result : Except EngineError α} {answer : α → Reply}
    (uncounted : session.Uncounted session') (plain : result ≠ .error .retry)
    (answers : ∀ value, answer value ≠ .failed .retry) :
    session.Charges call (Reply.of answer result) session' := by
  refine .uncounted ?_ uncounted
  cases result with
  | error failure =>
      rintro ⟨⟩
      exact plain rfl
  | ok value => exact answers value

theorem charges_restart {α : Type} (sized : session.Sized) (cause : EngineError) (file : Image)
    (answer : α → Reply) :
    session.Charges call (Reply.of answer (session.restart cause file).1)
      (session.restart (α := α) cause file).2.1 := by
  obtain ⟨failure, session', file', restarted, ⟨rfl, counted⟩ | ⟨other, uncounted⟩⟩ :=
    restart_counts (α := α) sized cause file
  · rw [restarted]
    exact .counted counted
  · rw [restarted]
    refine .uncounted ?_ uncounted
    rintro ⟨⟩
    exact other rfl

/-- What comes after something that counts nothing. -/
theorem Uncounted.charges {reply : Reply} (first : session.Uncounted session')
    (limit : session'.bulkRetryLimit = session.bulkRetryLimit)
    (renewing : call.Renewing session' → call.Renewing session)
    (charges : session'.Charges call reply session'') : session.Charges call reply session'' := by
  cases charges with
  | uncounted other uncounted => exact .uncounted other (first.trans uncounted)
  | counted counted => exact .counted (first.counted limit counted)
  | renewed renews zero least => exact .renewed (renewing renews) zero least

theorem Uncounted.sized (sized : session.Sized) (uncounted : session.Uncounted session')
    (config : session'.config = session.config) : session'.Sized := by
  refine ⟨config ▸ sized.valid, fun env' there => ?_⟩
  obtain ⟨env, here, larger⟩ := uncounted.widens env' there
  exact UInt64.le_trans (sized.least env here) larger

theorem open_charges (session : Session) (path : String) (flags : OpenFlags) (bulk : Bool)
    (room : Nat) (file : Image) :
    session.Charges (.open path flags bulk) (session.act (.open path flags bulk) room file).1
      (session.act (.open path flags bulk) room file).2.1 := by
  obtain ⟨plain, least⟩ :=
    Environment.open_least path flags session.config.initialMapSize room file
  unfold act Session.open
  dsimp only
  generalize Environment.open path flags session.config.initialMapSize room file = result
    at plain least
  rcases result with ⟨failure | env, file'⟩
  · refine .uncounted ?_ (.refl session)
    rintro ⟨⟩
    exact plain rfl
  · refine .renewed trivial rfl ?_
    rintro found ⟨⟩
    exact least env rfl

theorem put_charges (sized : session.Sized) (key value : Bytes) (keepExisting : Bool)
    (room : Nat) (file : Image) :
    session.Charges (.put key value keepExisting)
      (session.act (.put key value keepExisting) room file).1
      (session.act (.put key value keepExisting) room file).2.1 := by
  unfold act put
  dsimp only
  split
  · obtain ⟨begun, plain⟩ := bulkTransaction_uncounted session file
    have retains := retains_bulkTransaction session file
    split
    · next refused =>
        rw [refused] at begun plain
        exact charges_of_uncounted begun (error_ne_retry plain rfl) nofun
    · next txn session' resumed =>
        rw [resumed] at begun retains
        have stored := Environment.put_ne_retry txn key value keepExisting
        split
        · exact charges_of_uncounted (begun.trans (uncounted_of_env?_eq rfl rfl)) nofun nofun
        · next failure failed =>
            split
            · exact begun.charges retains.bulkRetryLimit_eq id
                (charges_restart (begun.sized sized retains.config_eq) failure file _)
            · exact charges_of_uncounted begun (error_ne_retry stored failed) nofun
  · obtain ⟨uncounted, plain⟩ := growing_uncounted
      (fun env file => env.put_widens key value keepExisting file) session.apiRetryLimit session
      file
    exact charges_of_uncounted uncounted plain nofun

theorem delete_charges (session : Session) (key : Bytes) (room : Nat) (file : Image) :
    session.Charges (.delete key) (session.act (.delete key) room file).1
      (session.act (.delete key) room file).2.1 := by
  unfold act delete
  dsimp only
  split
  · obtain ⟨begun, plain⟩ := bulkTransaction_uncounted session file
    split
    · next refused =>
        rw [refused] at begun plain
        exact charges_of_uncounted begun (error_ne_retry plain rfl) nofun
    · next resumed =>
        rw [resumed] at begun
        exact charges_of_uncounted (begun.trans (uncounted_of_env?_eq rfl rfl)) nofun nofun
  · obtain ⟨uncounted, plain⟩ := growing_uncounted
      (fun env file => env.delete_widens key file) session.apiRetryLimit session file
    exact charges_of_uncounted uncounted plain nofun

theorem get_charges (session : Session) (key : Bytes) (room : Nat) (file : Image) :
    session.Charges (.get key) (session.act (.get key) room file).1
      (session.act (.get key) room file).2.1 := by
  obtain ⟨viewed, plain⟩ := view_uncounted session file
  unfold act get
  dsimp only
  split
  · next refused =>
      rw [refused] at viewed plain
      exact charges_of_uncounted viewed (error_ne_retry plain rfl) nofun
  · next found =>
      rw [found] at viewed
      exact charges_of_uncounted viewed nofun nofun

theorem seek_charges (session : Session) (move : CursorMove) (room : Nat) (file : Image) :
    session.Charges (.seek move) (session.act (.seek move) room file).1
      (session.act (.seek move) room file).2.1 := by
  obtain ⟨viewed, plain⟩ := view_uncounted session file
  unfold act seek
  dsimp only
  split
  · next refused =>
      rw [refused] at viewed plain
      exact charges_of_uncounted viewed (error_ne_retry plain rfl) nofun
  · next found =>
      rw [found] at viewed
      split
      · exact charges_of_uncounted viewed nofun nofun
      · exact charges_of_uncounted (viewed.trans (uncounted_of_env?_eq rfl rfl)) nofun nofun

/-- A commit of what is pending renews the restarts; without anything pending it does nothing. -/
theorem commit_charges (sized : session.Sized) (room : Nat) (file : Image) :
    session.Charges .commit (session.act .commit room file).1
      (session.act .commit room file).2.1 := by
  unfold act commit
  dsimp only
  split
  · exact charges_of_uncounted (.refl session) nofun nofun
  · next txn waiting =>
      have renewing : Call.commit.Renewing session := by
        change session.pending? ≠ none
        rw [waiting]
        exact Option.some_ne_none txn
      split
      · exact charges_of_uncounted (uncounted_of_env?_eq rfl rfl) nofun nofun
      · next env here =>
          have committed := env.commit_widens txn file
          split
          · next env' _ done =>
              rw [done] at committed
              refine .renewed renewing rfl ?_
              rintro found ⟨⟩
              exact UInt64.le_trans (sized.least env here) committed.mapSize_le
          · next failure env' file' failed =>
              rw [failed] at committed
              have emptied :
                  session.Uncounted { session with pending? := none, env? := some env' } := by
                refine ⟨rfl, by rw [here]; rfl, ?_⟩
                rintro found ⟨⟩
                exact ⟨env, here, committed.mapSize_le⟩
              split
              · refine emptied.charges rfl (fun _ => renewing) ?_
                exact charges_restart (emptied.sized sized rfl) failure file' _
              · exact charges_of_uncounted emptied (error_ne_retry committed.ne_retry rfl) nofun

theorem act_charges (sized : session.Sized) (call : Call) (room : Nat) (file : Image) :
    session.Charges call (session.act call room file).1 (session.act call room file).2.1 := by
  cases call with
  | «open» path flags bulk => exact open_charges session path flags bulk room file
  | get key => exact get_charges session key room file
  | put key value keepExisting => exact put_charges sized key value keepExisting room file
  | delete key => exact delete_charges session key room file
  | seek move => exact seek_charges session move room file
  | commit => exact commit_charges sized room file

/-! ### Steps -/

/-- What a session is asked for. A call finds the file as others have left it. A close is a commit
that nothing follows. -/
inductive Step where
  | call (call : Call) (room : Nat) (file : Image)
  | control (control : Control)
  | takeNotifications

def step (session : Session) : Step → Option Reply × Session
  | .call call room file =>
      let outcome := (session.withRoom room).act call room file
      (some outcome.1, outcome.2.1)
  | .control control => (none, session.control control)
  | .takeNotifications => (none, session.takeNotifications.2)

/-- A step that succeeds in opening the session or in committing what is pending. -/
def Renews (session : Session) (step : Step) : Prop :=
  (session.step step).1 = some .done ∧
    ∃ call room file, step = .call call room file ∧ call.Renewing session

inductive Made : Session → Prop
  | init {config : SessionConfig} {session : Session} (ready : init config = .ok session) :
      Made session
  | step {session : Session} (made : Made session) (step : Step) : Made (session.step step).2

theorem sized_of_init {config : SessionConfig} (ready : init config = .ok session) :
    session.Sized := by
  obtain ⟨valid, configEq, noEnv, _, _⟩ := init_eq_ok ready
  refine ⟨configEq ▸ valid, fun env here => ?_⟩
  rw [noEnv] at here
  cases here

theorem Sized.withRoom (sized : session.Sized) (room : Nat) : (session.withRoom room).Sized := by
  refine ⟨sized.valid, fun env' there => ?_⟩
  obtain ⟨env, here, rfl⟩ := Option.map_eq_some_iff.mp there
  exact sized.least env here

theorem uncounted_withRoom (session : Session) (room : Nat) :
    session.Uncounted (session.withRoom room) := by
  refine ⟨rfl, Option.isSome_map, fun env' there => ?_⟩
  obtain ⟨env, here, rfl⟩ := Option.map_eq_some_iff.mp there
  exact ⟨env, here, UInt64.le_refl _⟩

theorem config_act (session : Session) (call : Call) (room : Nat) (file : Image) :
    (session.act call room file).2.1.config = session.config := by
  by_cases opens : ∃ path flags bulk, call = .open path flags bulk
  · obtain ⟨path, flags, bulk, rfl⟩ := opens
    unfold act Session.open
    dsimp only
    split
    · rfl
    · rfl
  · have other := fun path flags bulk same => opens ⟨path, flags, bulk, same⟩
    exact (retains_act session file other room).config_eq

theorem Charges.sized {reply : Reply} (sized : session.Sized)
    (charges : session.Charges call reply session') (config : session'.config = session.config) :
    session'.Sized := by
  cases charges with
  | uncounted other uncounted => exact uncounted.sized sized config
  | counted counted =>
      refine ⟨config ▸ sized.valid, fun env'' there => ?_⟩
      obtain ⟨env, env', here, found, less⟩ := counted.mapsMore
      rw [found] at there
      cases there
      exact UInt64.le_trans (sized.least env here) (UInt64.le_of_lt less)
  | renewed renewing zero least => exact ⟨config ▸ sized.valid, least⟩

theorem Sized.step (sized : session.Sized) (step : Step) : (session.step step).2.Sized := by
  cases step with
  | call call room file =>
      have roomy := sized.withRoom room
      exact (act_charges roomy call room file).sized roomy (config_act _ call room file)
  | control control =>
      cases control with
      | apiRetryLimit limit => exact ⟨sized.valid, sized.least⟩
      | bulkRetryLimit limit => exact ⟨sized.valid, sized.least⟩
      | notify => exact ⟨sized.valid, sized.least⟩
  | takeNotifications => exact ⟨sized.valid, sized.least⟩

theorem Made.sized (made : session.Made) : session.Sized := by
  induction made with
  | init ready => exact sized_of_init ready
  | step made step ih => exact ih.step step

theorem act_renews {room : Nat} (renewing : call.Renewing session)
    (done : session.act call room file = (.done, session', file')) : session'.bulkRetries = 0 := by
  cases call with
  | «open» path flags bulk =>
      unfold act Session.open at done
      dsimp only at done
      split at done
      · cases done
      · cases done
        rfl
  | commit =>
      unfold act commit at done
      dsimp only at done
      split at done
      · next idle => exact absurd idle renewing
      · split at done
        · cases done
        · split at done
          · cases done
            rfl
          · split at done
            · next cause _ _ _ _ =>
                obtain ⟨failure, last, refused⟩ := restart_refuses (α := Unit) _ cause _
                rw [refused] at done
                cases done
            · cases done
  | get key => exact renewing.elim
  | put key value keepExisting => exact renewing.elim
  | delete key => exact renewing.elim
  | seek move => exact renewing.elim

/-- What renewing needs is not a matter of addresses. -/
theorem Call.renewing_withRoom {room : Nat} :
    call.Renewing (session.withRoom room) ↔ call.Renewing session := by
  cases call with
  | «open» path flags bulk => exact Iff.rfl
  | commit => exact Iff.rfl
  | get key => exact Iff.rfl
  | put key value keepExisting => exact Iff.rfl
  | delete key => exact Iff.rfl
  | seek move => exact Iff.rfl

theorem step_renewed {step : Step} (renews : session.Renews step) :
    (session.step step).2.bulkRetries = 0 := by
  obtain ⟨done, call, room, file, rfl, renewing⟩ := renews
  have replied : ((session.withRoom room).act call room file).1 = .done := Option.some.inj done
  exact act_renews (Call.renewing_withRoom.mpr renewing) (Prod.ext replied rfl)

/-! ### Runs -/

def run (session : Session) : List Step → List (Option Reply) × Session
  | [] => ([], session)
  | step :: steps =>
      let outcome := session.step step
      let rest := outcome.2.run steps
      (outcome.1 :: rest.1, rest.2)

/-- The calls that answer with a retry. -/
def retries (replies : List (Option Reply)) : Nat :=
  replies.count (some (.failed .retry))

/-- No step renews the restarts or sets how many there are. -/
def Between : Session → List Step → Prop
  | _, [] => True
  | session, step :: steps =>
      ¬ session.Renews step ∧ (∀ limit, step ≠ .control (.bulkRetryLimit limit)) ∧
        Between (session.step step).2 steps

structure Spends (session session' : Session) (spent : Nat) : Prop where
  bulk_eq : session'.bulk = session.bulk
  bulkRetryLimit_eq : session'.bulkRetryLimit = session.bulkRetryLimit
  bulkRetries_eq : session'.bulkRetries = session.bulkRetries + spent
  within : session.bulkRetries ≤ session.bulkRetryLimit →
    session'.bulkRetries ≤ session.bulkRetryLimit

theorem Spends.refl (session : Session) : session.Spends session 0 :=
  ⟨rfl, rfl, rfl, id⟩

theorem Spends.trans {spent later : Nat} (first : session.Spends session' spent)
    (second : session'.Spends session'' later) : session.Spends session'' (spent + later) where
  bulk_eq := second.bulk_eq.trans first.bulk_eq
  bulkRetryLimit_eq := second.bulkRetryLimit_eq.trans first.bulkRetryLimit_eq
  bulkRetries_eq := by rw [second.bulkRetries_eq, first.bulkRetries_eq, Nat.add_assoc]
  within := by
    intro few
    have few' := second.within
    rw [first.bulkRetryLimit_eq] at few'
    exact few' (first.within few)

theorem Charges.spends {reply : Reply} (charges : session.Charges call reply session')
    (plain : ¬ (reply = .done ∧ call.Renewing session)) (bulk : session'.bulk = session.bulk)
    (limit : session'.bulkRetryLimit = session.bulkRetryLimit) :
    session.Spends session' (retries [some reply]) := by
  cases charges with
  | uncounted other uncounted =>
      have none : retries [some reply] = 0 := by
        apply List.count_eq_zero.mpr
        rw [List.mem_singleton]
        intro same
        exact other (Option.some.inj same).symm
      rw [none]
      refine ⟨bulk, limit, uncounted.bulkRetries_eq, ?_⟩
      rw [uncounted.bulkRetries_eq]
      exact id
  | counted counted =>
      refine ⟨bulk, limit, counted.bulkRetries_eq, fun _ => ?_⟩
      rw [counted.bulkRetries_eq]
      exact counted.spare
  | renewed renewing zero least => exact absurd ⟨rfl, renewing⟩ plain

/-- An open that does not succeed changes nothing either. -/
theorem retains_of_plain {call : Call} {room : Nat}
    (plain : ¬ ((session.act call room file).1 = .done ∧ call.Renewing session)) :
    session.Retains (session.act call room file).2.1 := by
  by_cases opens : ∃ path flags bulk, call = .open path flags bulk
  · obtain ⟨path, flags, bulk, rfl⟩ := opens
    unfold act Session.open at plain ⊢
    dsimp only at plain ⊢
    split at plain
    · exact .refl session
    · exact absurd ⟨rfl, trivial⟩ plain
  · exact retains_act session file (fun path flags bulk same => opens ⟨_, _, _, same⟩) room

theorem step_spends (sized : session.Sized) {step : Step} (plain : ¬ session.Renews step)
    (fixed : ∀ limit, step ≠ .control (.bulkRetryLimit limit)) :
    session.Spends (session.step step).2 (retries [(session.step step).1]) := by
  cases step with
  | call call room file =>
      have other : ¬ (((session.withRoom room).act call room file).1 = .done ∧
          call.Renewing (session.withRoom room)) := by
        rintro ⟨done, renewing⟩
        exact plain
          ⟨congrArg some done, call, room, file, rfl, Call.renewing_withRoom.mp renewing⟩
      have retains := retains_of_plain other
      have roomy : session.Spends (session.withRoom room) 0 := ⟨rfl, rfl, rfl, id⟩
      have acted := (act_charges (sized.withRoom room) call room file).spends other
        retains.bulk_eq retains.bulkRetryLimit_eq
      have both := roomy.trans acted
      rw [Nat.zero_add] at both
      exact both
  | control control =>
      cases control with
      | apiRetryLimit limit => exact ⟨rfl, rfl, rfl, id⟩
      | bulkRetryLimit limit => exact absurd rfl (fixed limit)
      | notify => exact ⟨rfl, rfl, rfl, id⟩
  | takeNotifications => exact ⟨rfl, rfl, rfl, id⟩

theorem run_spends {steps : List Step} (sized : session.Sized)
    (between : session.Between steps) :
    session.Spends (session.run steps).2 (retries (session.run steps).1) ∧
      (session.run steps).2.Sized := by
  induction steps generalizing session with
  | nil => exact ⟨.refl session, sized⟩
  | cons step steps ih =>
      obtain ⟨plain, fixed, between⟩ := between
      obtain ⟨spends, sized'⟩ := ih (sized.step step) between
      refine ⟨?_, sized'⟩
      have first := step_spends sized plain fixed
      have all : retries (session.run (step :: steps)).1 =
          retries [(session.step step).1] + retries ((session.step step).2.run steps).1 := by
        change retries ([(session.step step).1] ++ ((session.step step).2.run steps).1) = _
        exact List.count_append
      rw [all]
      exact first.trans spends

/-! ### Giving up -/

/-- No restart is left, or the map has its largest size. -/
def Exhausted (session : Session) : Prop :=
  session.bulkRetryLimit ≤ session.bulkRetries ∨
    ∃ env, session.env? = some env ∧ session.config.maxMapSize ≤ env.mapSize

inductive Overflows (session : Session) (file : Image) : Call → EngineError → Session → Prop
  | put {key value : Bytes} {keepExisting : Bool} {txn : Transaction} {begun : Session}
      {failure : EngineError} (resumed : session.bulkTransaction file = (.ok txn, begun))
      (full : txn.put key value keepExisting = .error failure) (isFull : failure.isMapFull = true) :
      Overflows session file (.put key value keepExisting) failure begun
  | commit {txn : Transaction} {env env' : Environment} {file' : Image} {failure : EngineError}
      (waiting : session.pending? = some txn) (here : session.env? = some env)
      (full : env.commit txn file = (.error failure, env', file'))
      (isFull : failure.isMapFull = true) :
      Overflows session file .commit failure
        { session with pending? := none, env? := some env' }

theorem restart_of_exhausted {α : Type} (exhausted : session.Exhausted) (cause : EngineError)
    (file : Image) :
    session.restart (α := α) cause file =
      (.error (.retryLimit session.bulkRetryLimit cause), session.emptied, file) := by
  by_cases spent : session.bulkRetryLimit ≤ session.bulkRetries
  · exact restart_of_spent spent cause file
  · obtain ⟨env, here, largest⟩ := exhausted.resolve_left spent
    have stays : session.emptied.grow file = (.ok false, session.emptied, file) := by
      unfold grow
      have there : session.emptied.env? = some env := here
      rw [there]
      exact if_pos largest
    unfold restart
    dsimp only
    rw [if_neg spent]
    unfold emptied at stays
    rw [stays]
    rfl

theorem file_of_commit {txn : Transaction} {failure : EngineError}
    (failed : env.commit txn file = (.error failure, env', file')) : file' = file := by
  unfold Environment.commit at failed
  split at failed
  · cases failed
    rfl
  · split at failed
    · cases failed
      rfl
    · split at failed
      · cases failed
        rfl
      · cases failed

/-- A full map ends the transaction when the session cannot restart it any more. -/
theorem Overflows.act_eq {failure : EngineError} {begun : Session}
    (overflows : session.Overflows file call failure begun) (mode : session.bulk = true)
    (exhausted : begun.Exhausted) (room : Nat) :
    session.act call room file =
      (.failed (.retryLimit begun.bulkRetryLimit failure), begun.emptied, file) := by
  cases overflows with
  | put resumed full isFull =>
      unfold act
      dsimp only
      rw [put_of_full mode resumed full isFull, restart_of_exhausted exhausted failure file]
      rfl
  | commit waiting here full isFull =>
      unfold act
      dsimp only
      rw [commit_of_full waiting here full isFull, restart_of_exhausted exhausted failure _,
        file_of_commit full]
      rfl

/-- By the time that a call meets a full map it may map more, and has spent nothing. -/
theorem Overflows.uncounted {failure : EngineError} {begun : Session}
    (overflows : session.Overflows file call failure begun) :
    session.Uncounted begun ∧ session.Retains begun := by
  cases overflows with
  | put resumed full isFull =>
      have uncounted := (bulkTransaction_uncounted session file).1
      have retains := retains_bulkTransaction session file
      rw [resumed] at uncounted retains
      exact ⟨uncounted, retains⟩
  | @commit txn env env' file' failure waiting here full isFull =>
      have widens := env.commit_widens txn file
      rw [full] at widens
      refine ⟨⟨rfl, by rw [here]; rfl, ?_⟩, rfl, rfl, rfl, rfl, rfl⟩
      rintro found ⟨⟩
      exact ⟨env, here, widens.mapSize_le⟩

/-- A session that cannot restart still cannot when it has come to a full map. -/
theorem Overflows.exhausted {failure : EngineError} {begun : Session}
    (overflows : session.Overflows file call failure begun) (exhausted : session.Exhausted) :
    begun.Exhausted := by
  obtain ⟨uncounted, retains⟩ := overflows.uncounted
  rcases exhausted with spent | ⟨env, here, largest⟩
  · left
    rw [retains.bulkRetryLimit_eq, uncounted.bulkRetries_eq]
    exact spent
  · right
    have opened := uncounted.isSome_eq
    rw [here] at opened
    obtain ⟨env', there⟩ := Option.isSome_iff_exists.mp opened
    obtain ⟨found, again, larger⟩ := uncounted.widens env' there
    rw [here] at again
    cases again
    refine ⟨env', there, ?_⟩
    rw [retains.config_eq]
    exact UInt64.le_trans largest larger

/-- After some steps the session has counted the retries, and has not given more of them than it
may. What comes next is a retry over a larger mapping, or the end of the transaction. -/
structure KeepsBudget (session : Session) (steps : List Step) : Prop where
  bulkRetryLimit_eq : (session.run steps).2.bulkRetryLimit = session.bulkRetryLimit
  bulkRetries_eq : (session.run steps).2.bulkRetries = retries (session.run steps).1
  retries_le : retries (session.run steps).1 ≤ session.bulkRetryLimit
  restarts : ∀ call room file session' file',
    ((session.run steps).2.withRoom room).act call room file =
        (.failed .retry, session', file') →
      (session.run steps).2.MapsMore session' ∧ session'.pending? = none
  givesUp : ∀ call room file failure begun,
    ((session.run steps).2.withRoom room).Overflows file call failure begun →
      (session.run steps).2.Exhausted ∨ begun.Exhausted →
        ((session.run steps).2.withRoom room).act call room file =
          (.failed (.retryLimit session.bulkRetryLimit failure), begun.emptied, file)

theorem run_keepsBudget {steps : List Step} (sized : session.Sized) (mode : session.bulk = true)
    (renewed : session.bulkRetries = 0) (between : session.Between steps) :
    session.KeepsBudget steps := by
  obtain ⟨spends, sized'⟩ := run_spends sized between
  have counted : (session.run steps).2.bulkRetries = retries (session.run steps).1 := by
    rw [spends.bulkRetries_eq, renewed, Nat.zero_add]
  refine ⟨spends.bulkRetryLimit_eq, counted, ?_, ?_, ?_⟩
  · rw [← counted]
    apply spends.within
    rw [renewed]
    exact Nat.zero_le _
  · intro call room file session' file' retried
    have charges := act_charges (sized'.withRoom room) call room file
    rw [retried] at charges
    cases charges with
    | uncounted other _ => exact absurd rfl other
    | counted counted =>
        exact ⟨((uncounted_withRoom _ room).counted rfl counted).mapsMore, counted.idle⟩
  · intro call room file failure begun overflows exhausted
    have still : begun.Exhausted := by
      rcases exhausted with before | meanwhile
      · apply overflows.exhausted
        rcases before with spent | ⟨env, here, largest⟩
        · exact Or.inl spent
        · exact Or.inr ⟨_, congrArg (Option.map _) here, largest⟩
      · exact meanwhile
    have limit : begun.bulkRetryLimit = session.bulkRetryLimit :=
      overflows.uncounted.2.bulkRetryLimit_eq.trans spends.bulkRetryLimit_eq
    rw [← limit]
    exact overflows.act_eq (spends.bulk_eq.trans mode) still room

end Session

end RecordFile
