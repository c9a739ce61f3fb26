/-
Sessions that have read their file before.

A call outside bulk mode begins by reading what is committed, so a session never falls further
behind by its own calls: they come to the same as those of a session that is up to date.
-/

import RecordFile.Proofs.Environment.Refreshing
import RecordFile.Proofs.Session.Writers

namespace RecordFile

namespace Session

open Environment (Refreshes Mappable)

variable {session session' : Session} {env env' : Environment} {file : Image}
  {contents : Contents} {age : Nat} {call : Call}

/-! ### Calls from a session that has refreshed -/

def refreshed (session : Session) (env : Environment) : Session :=
  { session with env? := some env }

theorem view_refreshed (single : session.bulk = false) (here : session.env? = some env)
    (renewed : env.refresh file = (.ok (), env')) :
    session.view file = (session.refreshed env').view file := by
  unfold view refreshed
  dsimp only
  rw [single, here]
  dsimp only
  rw [renewed, Environment.refresh_refresh renewed]
  rfl

theorem growing_refreshed {α : Type}
    {operation : Environment → Image → Except EngineError α × Environment × Image}
    (refreshes : Refreshes operation) (here : session.env? = some env)
    (writer : env.flags.readOnly = false) (renewed : env.refresh file = (.ok (), env'))
    (budget : Nat) :
    growing operation budget session file =
      growing operation budget (session.refreshed env') file := by
  unfold growing refreshed
  dsimp only
  rw [here]
  dsimp only
  rw [refreshes env env' file writer renewed]

def Call.Refreshes : Call → Prop
  | .open _ _ _ => False
  | .commit => False
  | _ => True

theorem act_refreshed (single : session.bulk = false) (here : session.env? = some env)
    (writer : env.flags.readOnly = false) (renewed : env.refresh file = (.ok (), env'))
    (refreshes : call.Refreshes) (room : Nat) :
    session.act call room file = (session.refreshed env').act call room file := by
  have viewed := view_refreshed single here renewed
  have again : (session.refreshed env').bulk = false := single
  unfold act
  cases call with
  | «open» _ _ _ => exact refreshes.elim
  | commit => exact refreshes.elim
  | get key =>
      unfold get
      rw [viewed]
  | seek move =>
      unfold seek
      rw [viewed]
  | put key value keepExisting =>
      have grown := growing_refreshed (Environment.refreshes_put key value keepExisting) here
        writer renewed session.apiRetryLimit
      unfold put
      rw [single, again]
      dsimp only [Bool.false_eq_true, if_false]
      rw [grown]
      rfl
  | delete key =>
      have grown := growing_refreshed (Environment.refreshes_delete key) here writer renewed
        session.apiRetryLimit
      unfold delete
      rw [single, again]
      dsimp only [Bool.false_eq_true, if_false]
      rw [grown]
      rfl

theorem growing_of_error {α : Type}
    (operation : Environment → Image → Except EngineError α × Environment × Image)
    (here : session.env? = some env) {failure : EngineError}
    (failed : operation env file = (.error failure, env', file))
    (other : failure.isMapFull = false) (budget : Nat) :
    ∃ session', growing operation budget session file = (.error failure, session', file) := by
  unfold growing
  rw [here]
  dsimp only
  rw [failed]
  dsimp only
  rw [other]
  exact ⟨_, rfl⟩

theorem act_of_refresh_error (single : session.bulk = false) (here : session.env? = some env)
    (writer : env.flags.readOnly = false) {cause : SystemError}
    (refused : env.refresh file = (.error (.io cause), env')) (refreshes : call.Refreshes)
    (room : Nat) : (session.act call room file).1.Failed := by
  have viewed : session.view file = (.error (.io cause), session.refreshed env') := by
    unfold view
    rw [if_neg (by rw [single]; exact Bool.false_ne_true), here]
    dsimp only
    rw [refused]
    rfl
  unfold act
  cases call with
  | «open» _ _ _ => exact refreshes.elim
  | commit => exact refreshes.elim
  | get key =>
      unfold get
      rw [viewed]
      exact ⟨_, rfl⟩
  | seek move =>
      unfold seek
      rw [viewed]
      exact ⟨_, rfl⟩
  | put key value keepExisting =>
      obtain ⟨session', failed⟩ := growing_of_error
        (fun env file => env.put key value keepExisting file) here
        (Environment.put_of_refresh_error writer refused key value keepExisting)
        (show EngineError.isMapFull (.io cause) = false from rfl) session.apiRetryLimit
      unfold put
      rw [single]
      dsimp only [Bool.false_eq_true, if_false]
      rw [failed]
      exact ⟨_, rfl⟩
  | delete key =>
      obtain ⟨session', failed⟩ := growing_of_error
        (fun env file => env.delete key file) here
        (Environment.delete_of_refresh_error writer refused key)
        (show EngineError.isMapFull (.io cause) = false from rfl) session.apiRetryLimit
      unfold delete
      rw [single]
      dsimp only [Bool.false_eq_true, if_false]
      rw [failed]
      exact ⟨_, rfl⟩

/-! ### Keeping up -/

theorem Call.Refreshes.ne_open (refreshes : call.Refreshes) (path : String) (flags : OpenFlags)
    (bulk : Bool) : call ≠ .open path flags bulk := by
  rintro rfl
  exact refreshes

theorem Writer.refreshed (writer : session.Writer contents age) (recent : age < UInt64.size)
    (tracks : env'.Tracks contents age)
    (current : env'.UpToDate contents) (mayWrite : env'.flags.readOnly = false)
    (idle : session.pending? = none) : (session.refreshed env').Writer contents 0 where
  follows := follows_of_idle writer.follows.valid
    (tracks_of_env rfl (tracks.renew recent current)) idle
  opened := ⟨env', rfl, mayWrite⟩
  orderly := fun _ => idle

/-- The call of a writer outside bulk mode leaves it at most one commit behind, or as far as it
was. -/
theorem Writer.steady (writer : session.Writer contents age) (holds : file.Holds contents)
    (single : session.bulk = false) (recent : age < UInt64.size) (older : 1 ≤ age)
    (refreshes : call.Refreshes) (room : Nat) :
    ∃ env after, session.env? = some env ∧
      session.Answered contents env.room call (session.act call room file) after ∧
      (session.act call room file).2.1.Writer after age := by
  obtain ⟨env, after, here, answered⟩ :=
    writer.answered holds single recent room refreshes.ne_open
  refine ⟨env, after, here, answered, ?_⟩
  obtain ⟨found, there, mayWrite⟩ := writer.opened
  rw [here] at there
  cases there
  have plain := writer.plain single
  have tracks := writer.follows.tracks env here
  have orderly : (session.act call room file).2.1.Orderly := fun _ => answered.plain.idle
  have right := answered.opened refreshes.ne_open writer.opened
  rcases Environment.refresh_cases holds tracks with
    ⟨env', renewed, tracks', current, kin⟩ | ⟨_, cause, _, refused⟩
  · have same := act_refreshed single here mayWrite renewed refreshes room
    have writer' := writer.refreshed recent tracks' current
      (by rw [kin.flags_eq, mayWrite]) plain.idle
    have plain' : (session.refreshed env').Plain := ⟨single, plain.idle⟩
    obtain ⟨bumps, landed, lands⟩ :=
      act_lands holds writer'.follows call room (plain'.not_cutsBack call file)
    rw [← same] at lands
    have sameAfter := answered.holds.unique lands.advances.holds
    subst sameAfter
    refine ⟨lands.follows.mono ?_, right, orderly⟩
    have once := lands.once
    omega
  · obtain ⟨bumps, landed, lands⟩ :=
      act_lands holds writer.follows call room (plain.not_cutsBack call file)
    have sameAfter := answered.holds.unique lands.advances.holds
    subst sameAfter
    have failed := act_of_refresh_error single here mayWrite refused refreshes room
    have none : bumps = 0 := lands.kept failed (by
      cases call with
      | «open» _ _ _ => exact refreshes.elim
      | _ => exact id)
    have follows := lands.follows
    rw [none] at follows
    exact ⟨follows, right, orderly⟩

end Session

end RecordFile
