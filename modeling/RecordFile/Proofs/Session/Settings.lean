/-
What a session is set to.

How its map is sized, whether it is in bulk mode, how often it retries and whether it is listened
to are settled when a session is made and opened. No other call changes any of it, whatever the
call comes to.
-/

import RecordFile.Proofs.Session.Calls

namespace RecordFile

namespace Session

structure Retains (session session' : Session) : Prop where
  config_eq : session'.config = session.config
  bulk_eq : session'.bulk = session.bulk
  apiRetryLimit_eq : session'.apiRetryLimit = session.apiRetryLimit
  bulkRetryLimit_eq : session'.bulkRetryLimit = session.bulkRetryLimit
  listening_eq : session'.listening = session.listening

variable {session' session'' : Session}

theorem Retains.refl (session : Session) : session.Retains session :=
  ⟨rfl, rfl, rfl, rfl, rfl⟩

theorem Retains.trans {session : Session} (first : session.Retains session')
    (second : session'.Retains session'') : session.Retains session'' :=
  ⟨second.config_eq.trans first.config_eq, second.bulk_eq.trans first.bulk_eq,
    second.apiRetryLimit_eq.trans first.apiRetryLimit_eq,
    second.bulkRetryLimit_eq.trans first.bulkRetryLimit_eq,
    second.listening_eq.trans first.listening_eq⟩

def Remaps (session session' : Session) : Prop :=
  ∃ env? notifications,
    session' = { session with env? := env?, notifications := notifications }

theorem Remaps.refl (session : Session) : session.Remaps session :=
  ⟨session.env?, session.notifications, rfl⟩

theorem Remaps.trans {session : Session} (first : session.Remaps session')
    (second : session'.Remaps session'') : session.Remaps session'' := by
  obtain ⟨_, _, rfl⟩ := first
  obtain ⟨_, _, rfl⟩ := second
  exact ⟨_, _, rfl⟩

theorem Remaps.retains {session : Session} (remaps : session.Remaps session') :
    session.Retains session' := by
  obtain ⟨_, _, rfl⟩ := remaps
  exact ⟨rfl, rfl, rfl, rfl, rfl⟩

theorem Remaps.pending?_eq {session : Session} (remaps : session.Remaps session') :
    session'.pending? = session.pending? := by
  obtain ⟨_, _, rfl⟩ := remaps
  rfl

variable (session : Session) (file : Image)

/-! ### Mapping and reporting -/

theorem remaps_withEnv (env : Environment) : session.Remaps { session with env? := some env } :=
  ⟨some env, session.notifications, rfl⟩

theorem remaps_emit (notification : Notification) :
    session.Remaps (session.emit notification) := by
  unfold emit
  split
  · exact ⟨_, _, rfl⟩
  · exact .refl session

theorem remaps_reportResize : session.Remaps session.reportResize := by
  unfold reportResize
  split
  · exact .refl session
  · split
    · exact .refl session
    · exact (remaps_withEnv session _).trans (remaps_emit _ _)

theorem remaps_grow : session.Remaps (session.grow file).2.1 := by
  unfold grow
  split
  · exact .refl session
  · split
    · exact .refl session
    · dsimp only
      split
      · exact remaps_withEnv session _
      · exact (remaps_withEnv session _).trans (remaps_emit _ _)

theorem remaps_attempt (env : Environment) :
    session.Remaps (reportResize { session with env? := some env }) :=
  (remaps_withEnv session env).trans (remaps_reportResize _)

theorem remaps_growing {α : Type}
    (operation : Environment → Image → Except EngineError α × Environment × Image)
    (budget : Nat) : session.Remaps (growing operation budget session file).2.1 := by
  induction budget generalizing session file with
  | zero =>
      unfold growing
      split
      · exact .refl session
      · split
        · exact remaps_attempt session _
        · dsimp only
          split
          · exact remaps_attempt session _
          · exact remaps_attempt session _
  | succ budget ih =>
      unfold growing
      split
      · exact .refl session
      · split
        · exact remaps_attempt session _
        · next env here failure env' file' failed =>
            have attempted := remaps_attempt session env'
            dsimp only
            split
            · have grown := attempted.trans (remaps_grow _ file')
              split
              · next stepped => rw [stepped] at grown; exact grown
              · next stepped => rw [stepped] at grown; exact grown
              · next stepped => rw [stepped] at grown; exact grown.trans (ih _ _)
            · exact attempted

/-- Outside bulk mode reading begins nothing. -/
theorem remaps_view (single : session.bulk = false) : session.Remaps (session.view file).2 := by
  unfold view
  rw [if_neg (by rw [single]; exact Bool.false_ne_true)]
  split
  · exact .refl session
  · split
    · exact remaps_withEnv session _
    · exact remaps_attempt session _

/-! ### Calls -/

theorem retains_bulkTransaction : session.Retains (session.bulkTransaction file).2 := by
  unfold bulkTransaction
  split
  · exact .refl session
  · split
    · exact .refl session
    · split
      · exact (remaps_withEnv session _).retains
      · next env _ =>
          have begun := (remaps_attempt session env).retains
          exact begun.trans ⟨rfl, rfl, rfl, rfl, rfl⟩

theorem retains_restart {α : Type} (cause : EngineError) :
    session.Retains (session.restart (α := α) cause file).2.1 := by
  have emptied : session.Retains { session with pending? := none, cursor? := none } :=
    ⟨rfl, rfl, rfl, rfl, rfl⟩
  have grown := emptied.trans (remaps_grow _ file).retains
  unfold restart
  dsimp only
  split
  · exact emptied
  · split
    · next stepped => rw [stepped] at grown; exact grown
    · next stepped => rw [stepped] at grown; exact grown
    · next stepped =>
        rw [stepped] at grown
        exact grown.trans ⟨rfl, rfl, rfl, rfl, rfl⟩

theorem retains_view : session.Retains (session.view file).2 := by
  cases mode : session.bulk with
  | false => exact (remaps_view session file mode).retains
  | true =>
      have begun := retains_bulkTransaction session file
      unfold view
      rw [if_pos mode]
      split
      · next refused => rw [refused] at begun; exact begun
      · next resumed => rw [resumed] at begun; exact begun

theorem retains_get (key : Bytes) : session.Retains (session.get key file).2 := by
  have viewed := retains_view session file
  unfold get
  split
  · next refused => rw [refused] at viewed; exact viewed
  · next found => rw [found] at viewed; exact viewed

theorem retains_seek (move : CursorMove) : session.Retains (session.seek move file).2 := by
  have viewed := retains_view session file
  unfold seek
  split
  · next refused => rw [refused] at viewed; exact viewed
  · next found =>
      rw [found] at viewed
      split
      · exact viewed
      · exact viewed.trans ⟨rfl, rfl, rfl, rfl, rfl⟩

theorem retains_put (key value : Bytes) (keepExisting : Bool) :
    session.Retains (session.put key value keepExisting file).2.1 := by
  unfold put
  split
  · have begun := retains_bulkTransaction session file
    split
    · next refused => rw [refused] at begun; exact begun
    · next resumed =>
        rw [resumed] at begun
        split
        · exact begun.trans ⟨rfl, rfl, rfl, rfl, rfl⟩
        · split
          · exact begun.trans (retains_restart _ _ _)
          · exact begun
  · exact (remaps_growing _ _ _ _).retains

theorem retains_delete (key : Bytes) : session.Retains (session.delete key file).2.1 := by
  unfold delete
  split
  · have begun := retains_bulkTransaction session file
    split
    · next refused => rw [refused] at begun; exact begun
    · next resumed =>
        rw [resumed] at begun
        exact begun.trans ⟨rfl, rfl, rfl, rfl, rfl⟩
  · exact (remaps_growing _ _ _ _).retains

theorem retains_commit : session.Retains (session.commit file).2.1 := by
  unfold commit
  split
  · exact .refl session
  · dsimp only
    split
    · exact ⟨rfl, rfl, rfl, rfl, rfl⟩
    · split
      · exact ⟨rfl, rfl, rfl, rfl, rfl⟩
      · next env _ _ =>
          have tried : session.Retains { session with pending? := none, env? := some env } :=
            ⟨rfl, rfl, rfl, rfl, rfl⟩
          split
          · exact tried.trans (retains_restart _ _ _)
          · exact tried

theorem retains_act {call : Call} (other : ∀ path flags bulk, call ≠ .open path flags bulk)
    (room : Nat) : session.Retains (session.act call room file).2.1 := by
  cases call with
  | «open» path flags bulk => exact absurd rfl (other path flags bulk)
  | get key => exact retains_get session file key
  | put key value keepExisting => exact retains_put session file key value keepExisting
  | delete key => exact retains_delete session file key
  | seek move => exact retains_seek session file move
  | commit => exact retains_commit session file

/-- Outside bulk mode no call leaves a transaction pending. -/
theorem pending?_act (single : session.bulk = false) (idle : session.pending? = none)
    {call : Call} (other : ∀ path flags bulk, call ≠ .open path flags bulk) (room : Nat) :
    (session.act call room file).2.1.pending? = none := by
  have viewed : (session.view file).2.pending? = none :=
    (remaps_view session file single).pending?_eq.trans idle
  cases call with
  | «open» path flags bulk => exact absurd rfl (other path flags bulk)
  | get key =>
      unfold act get
      dsimp only
      split
      · next refused => rw [refused] at viewed; exact viewed
      · next found => rw [found] at viewed; exact viewed
  | seek move =>
      unfold act seek
      dsimp only
      split
      · next refused => rw [refused] at viewed; exact viewed
      · next found =>
          rw [found] at viewed
          split
          · exact viewed
          · exact viewed
  | put key value keepExisting =>
      unfold act put
      rw [single]
      exact (remaps_growing session file _ _).pending?_eq.trans idle
  | delete key =>
      unfold act delete
      rw [single]
      exact (remaps_growing session file _ _).pending?_eq.trans idle
  | commit =>
      unfold act commit
      rw [idle]
      exact idle

end Session

end RecordFile
