/-
The calls of a session, and what each of them leaves behind.

Outside bulk mode a call ends with the file in the state that its result tells. In bulk mode
writes wait in the pending transaction, and only a commit publishes. A bulk transaction that
does not fit is restarted over a larger map. The size of that map is computed from what this
session has mapped, and by then the map can be larger than that.
-/

import Mathlib.Logic.Function.Basic
import RecordFile.Proofs.Session.Growth

namespace RecordFile

namespace Session

open Environment (readHeader Mappable Kin)

/-! ### Calls and replies -/

inductive Call where
  | «open» (path : String) (flags : OpenFlags) (bulk : Bool)
  | get (key : Bytes)
  | put (key value : Bytes) (keepExisting : Bool)
  | delete (key : Bytes)
  | seek (move : CursorMove)
  | commit

inductive Reply where
  | failed (failure : EngineError)
  | done
  | value (value? : Option Bytes)
  | found (present : Bool)
  | record (record? : Option Record)
  deriving DecidableEq

def Reply.of {α : Type} (answer : α → Reply) : Except EngineError α → Reply
  | .error failure => .failed failure
  | .ok result => answer result

def Reply.Failed (reply : Reply) : Prop :=
  ∃ failure, reply = .failed failure

def act (session : Session) (call : Call) (room : Nat) (file : Image) :
    Reply × Session × Image :=
  match call with
  | .open path flags bulk =>
      let outcome := session.open path flags bulk room file
      (Reply.of (fun _ => .done) outcome.1, outcome.2)
  | .get key =>
      let outcome := session.get key file
      (Reply.of .value outcome.1, outcome.2, file)
  | .put key value keepExisting =>
      let outcome := session.put key value keepExisting file
      (Reply.of (fun _ => .done) outcome.1, outcome.2)
  | .delete key =>
      let outcome := session.delete key file
      (Reply.of .found outcome.1, outcome.2)
  | .seek move =>
      let outcome := session.seek move file
      (Reply.of .record outcome.1, outcome.2, file)
  | .commit =>
      let outcome := session.commit file
      (Reply.of (fun _ => .done) outcome.1, outcome.2)

/-! ### Following the file -/

structure Follows (session : Session) (contents : Contents) (age : Nat) : Prop where
  valid : session.config.Valid
  tracks : session.Tracks contents age
  sound : ∀ txn, session.pending? = some txn → txn.Sound
  writer : ∀ txn, session.pending? = some txn →
    ∃ env, session.env? = some env ∧ env.flags.readOnly = false

variable {session session' : Session} {env env' : Environment} {file file' : Image}
  {contents after : Contents} {age bumps : Nat} {txn : Transaction}

theorem Follows.mono (follows : session.Follows contents age) {later : Nat}
    (older : age ≤ later) : session.Follows contents later where
  valid := follows.valid
  tracks := fun env here => (follows.tracks env here).mono older
  sound := follows.sound
  writer := follows.writer

theorem Follows.retold (follows : session.Follows contents age) (retries : Nat)
    (notifications : List Notification) :
    Follows { session with bulkRetries := retries, notifications := notifications } contents age :=
  ⟨follows.valid, follows.tracks, follows.sound, follows.writer⟩

/-- What other sessions do makes a session older, at most. -/
theorem Follows.advance (follows : session.Follows contents age)
    (advances : Advances bumps file contents file' after) :
    session.Follows after (age + bumps) where
  valid := follows.valid
  tracks := fun env here => (follows.tracks env here).advance advances
  sound := follows.sound
  writer := follows.writer

theorem Follows.alike (follows : session.Follows contents age) (alike : session.Alike session')
    {later : Nat} (tracks : session'.Tracks after later) : session'.Follows after later where
  valid := alike.config_eq ▸ follows.valid
  tracks := tracks
  sound := alike.pending?_eq ▸ follows.sound
  writer := by
    intro txn waiting
    rw [alike.pending?_eq] at waiting
    obtain ⟨env, here, writer⟩ := follows.writer txn waiting
    obtain ⟨env', there, kin⟩ := alike.env env here
    exact ⟨env', there, by rw [kin.flags_eq, writer]⟩

/-- Without a pending transaction there is nothing that it must satisfy. -/
theorem follows_of_idle (valid : session.config.Valid) (tracks : session.Tracks contents age)
    (idle : session.pending? = none) : session.Follows contents age where
  valid := valid
  tracks := tracks
  sound := fun txn waiting => by rw [idle] at waiting; cases waiting
  writer := fun txn waiting => by rw [idle] at waiting; cases waiting

/-- The pending transaction of a writer may be replaced by any other that is sound. -/
theorem Follows.pend (follows : session.Follows contents age) (sound : txn.Sound)
    (here : session.env? = some env) (writer : env.flags.readOnly = false) :
    Follows { session with pending? := some txn } contents age where
  valid := follows.valid
  tracks := follows.tracks
  sound := by
    intro found waiting
    cases waiting
    exact sound
  writer := fun _ _ => ⟨env, here, writer⟩

theorem Follows.withRoom (follows : session.Follows contents age) (room : Nat) :
    (session.withRoom room).Follows contents age where
  valid := follows.valid
  tracks := by
    intro env here
    obtain ⟨found, there, rfl⟩ := Option.map_eq_some_iff.mp here
    exact (follows.tracks found there).withRoom room
  sound := follows.sound
  writer := by
    intro txn waiting
    obtain ⟨env, here, writer⟩ := follows.writer txn waiting
    refine ⟨{ env with room := room }, ?_, writer⟩
    unfold Session.withRoom
    rw [here]
    rfl

/-! ### Closed sessions -/

structure Closed (session : Session) : Prop where
  valid : session.config.Valid
  noEnv : session.env? = none
  idle : session.pending? = none

theorem Closed.follows (closed : session.Closed) (contents : Contents) (age : Nat) :
    session.Follows contents age := by
  apply follows_of_idle closed.valid _ closed.idle
  intro env here
  rw [closed.noEnv] at here
  cases here

theorem Closed.withRoom_eq (closed : session.Closed) (room : Nat) :
    session.withRoom room = session := by
  obtain ⟨config, env?, bulk, pending?, bulkRetries, apiRetryLimit, bulkRetryLimit, listening,
    notifications, cursor?⟩ := session
  cases closed.noEnv
  rfl

/-- A closed session refuses all but opening, and has nothing to commit. -/
theorem Closed.act_eq (closed : session.Closed) {call : Call}
    (other : ∀ path flags bulk, call ≠ .open path flags bulk) (room : Nat) (file : Image) :
    ∃ reply, session.act call room file = (reply, session, file) ∧
      ((call ≠ .commit ∧ reply = .failed .notOpen) ∨ (call = .commit ∧ reply = .done)) := by
  have view : session.view file = (.error .notOpen, session) := by
    unfold Session.view bulkTransaction
    rw [closed.noEnv, closed.idle]
    split
    · rfl
    · rfl
  have bulk : session.bulkTransaction file = (.error .notOpen, session) := by
    unfold bulkTransaction
    rw [closed.noEnv, closed.idle]
  cases call with
  | «open» path flags bulk => exact absurd rfl (other path flags bulk)
  | get key =>
      refine ⟨_, ?_, Or.inl ⟨by simp, rfl⟩⟩
      unfold act get
      rw [view]
      rfl
  | put key value keepExisting =>
      refine ⟨_, ?_, Or.inl ⟨by simp, rfl⟩⟩
      unfold act put growing
      rw [bulk, closed.noEnv]
      dsimp only
      split
      · rfl
      · rfl
  | delete key =>
      refine ⟨_, ?_, Or.inl ⟨by simp, rfl⟩⟩
      unfold act delete growing
      rw [bulk, closed.noEnv]
      dsimp only
      split
      · rfl
      · rfl
  | seek move =>
      refine ⟨_, ?_, Or.inl ⟨by simp, rfl⟩⟩
      unfold act seek
      rw [view]
      rfl
  | commit =>
      refine ⟨_, ?_, Or.inr ⟨rfl, rfl⟩⟩
      unfold act commit
      rw [closed.idle]
      rfl

/-! ### Opening -/

/-- What an open of a session comes to. The contents are those of `fresh`, which is the file
itself unless that has no bytes. -/
theorem open_cases {fresh : Image} (session : Session) (path : String) (flags : OpenFlags)
    (bulk : Bool) (room : Nat)
    (opening : Environment.Opening flags session.config.initialMapSize room fresh contents
      (Environment.open path flags session.config.initialMapSize room file)) :
    (∃ bumps after env file', session.act (.open path flags bulk) room file =
        (.done, { session with
          env? := some env
          bulk := bulk
          pending? := none
          bulkRetries := 0
          cursor? := none }, file') ∧
      Environment.Prepared flags session.config.initialMapSize bumps fresh contents file' after ∧
      env.Attached flags after) ∨
    (∃ cause bumps after file', session.act (.open path flags bulk) room file =
        (.failed (.io cause), session, file') ∧
      Environment.Prepared flags session.config.initialMapSize bumps fresh contents file' after ∧
      ¬ Mappable room after.header.mapSize ∧ cause ≠ .lengthTooLarge) ∨
    (session.act (.open path flags bulk) room file =
        (.failed (.io .lengthTooLarge), session, fresh) ∧ flags.readOnly = false ∧
      Image.longest < (Environment.openedSize flags session.config.initialMapSize
        contents.header.mapSize).toNat) := by
  unfold act Session.open
  dsimp only
  generalize Environment.open path flags session.config.initialMapSize room file = result
    at opening
  cases opening with
  | ok prepared attached => exact Or.inl ⟨_, _, _, _, rfl, prepared, attached⟩
  | unmapped prepared far other =>
      exact Or.inr (Or.inl ⟨_, _, _, _, rfl, prepared, far, other⟩)
  | tooLong writer beyond => exact Or.inr (Or.inr ⟨rfl, writer, beyond⟩)

/-! ### Calls outside bulk mode -/

/-- What a session outside bulk mode reads is what the file holds, unless the map cannot be
mapped. -/
theorem view_cases (holds : file.Holds contents) (single : session.bulk = false)
    (here : session.env? = some env) (tracks : env.Tracks contents age) :
    (∃ records session', session.view file = (.ok records, session') ∧
      session.Alike session' ∧ session'.Tracks contents age ∧
      (age < UInt64.size → records = contents.records)) ∨
    (¬ Mappable env.room contents.header.mapSize ∧
      ∃ cause, session.view file = (.error (.io cause), session)) := by
  have other : ¬ session.bulk = true := by
    rw [single]
    exact Bool.false_ne_true
  unfold Session.view
  rw [if_neg other, here]
  dsimp only
  rcases Environment.refresh_cases holds tracks with
    ⟨env', refreshed, tracks', current, kin⟩ | ⟨far, cause, _, refused⟩
  · obtain ⟨_, _, _, _, reported⟩ :=
      reportResize_cases { session with env? := some env' } rfl
    rw [refreshed]
    exact Or.inl ⟨_, _, rfl, (alike_withEnv here kin).trans reported,
      tracks_reportResize (tracks_withEnv session tracks'),
      fun short => (tracks'.shows short current.generation?_eq).records_eq⟩
  · have same : { session with env? := some env } = session := by rw [← here]
    rw [refused]
    dsimp only
    rw [same]
    exact Or.inr ⟨far, cause, rfl⟩

theorem writes_put (readOnly : Bool) (records : Records) (age : Nat) (key value : Bytes)
    (keepExisting : Bool) :
    Writes readOnly records age (records.insert key value).encodedLength
      (fun _ after => PutDone readOnly records key value keepExisting after)
      (putRules records.find? key value keepExisting)
      (fun env file => env.put key value keepExisting file) := by
  intro env file contents holds tracks same mode
  rw [← same, ← mode]
  exact env.put_outcome holds tracks key value keepExisting

theorem writes_delete (readOnly : Bool) (records : Records) (age : Nat) (key : Bytes) :
    Writes readOnly records age (records.erase key).encodedLength
      (fun found after => DeleteDone readOnly records key found after)
      (deleteRules records.find? key) (fun env file => env.delete key file) := by
  intro env file contents holds tracks same mode
  rw [← same, ← mode]
  exact env.delete_outcome holds tracks key

theorem put_outcome (holds : file.Holds contents) (single : session.bulk = false)
    (here : session.env? = some env) (tracks : env.Tracks contents age)
    (valid : session.config.Valid) (key value : Bytes) (keepExisting : Bool) :
    session.Outcome file contents age
      (fun _ after => PutDone env.flags.readOnly contents.records key value keepExisting after)
      (session.Refuses contents env.flags.readOnly
        (putRules contents.records.find? key value keepExisting) env.room session.apiRetryLimit
        (contents.records.insert key value).encodedLength)
      (session.put key value keepExisting file) := by
  unfold put
  rw [single]
  exact growing_outcome (writes_put _ _ age key value keepExisting) _ holds rfl here tracks rfl
    valid

theorem delete_outcome (holds : file.Holds contents) (single : session.bulk = false)
    (here : session.env? = some env) (tracks : env.Tracks contents age)
    (valid : session.config.Valid) (key : Bytes) :
    session.Outcome file contents age
      (fun found after => DeleteDone env.flags.readOnly contents.records key found after)
      (session.Refuses contents env.flags.readOnly (deleteRules contents.records.find? key)
        env.room session.apiRetryLimit (contents.records.erase key).encodedLength)
      (session.delete key file) := by
  unfold delete
  rw [single]
  exact growing_outcome (writes_delete _ _ age key) _ holds rfl here tracks rfl valid

end Session

end RecordFile
