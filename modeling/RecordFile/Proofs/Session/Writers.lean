/-
Several writers of one file, in bulk mode or not.

A call leaves alone every record but the one that it is for, with one exception: the commit of
a bulk session makes its draft what is committed. A record that is committed and in the draft
of every session therefore stays until a call is for it. One that is committed and missing from
a draft is lost when that draft is published.
-/

import RecordFile.Proofs.Session.Isolation

namespace RecordFile

namespace Session

open Environment (Mappable)

structure Writer (session : Session) (contents : Contents) (age : Nat) : Prop where
  follows : session.Follows contents age
  opened : ∃ env, session.env? = some env ∧ env.flags.readOnly = false
  orderly : session.Orderly

/-- A record that is committed stays so, and stays in the draft. When the draft is published, it
has to be there already. -/
structure Spares (session : Session) (contents : Contents) (publishes : Prop)
    (session' : Session) (after : Contents) (key value : Bytes) : Prop where
  committed : (publishes → (session.draft contents.records).find? key = some value) →
    after.records.find? key = some value
  draft : (session.draft contents.records).find? key = some value →
    (session'.draft after.records).find? key = some value

variable {session : Session} {file file' : Image} {contents after : Contents} {age bumps : Nat}
  {call : Call} {outcome : Reply × Session × Image} {key value : Bytes}

theorem Writer.withRoom (writer : session.Writer contents age) (room : Nat) :
    (session.withRoom room).Writer contents age where
  follows := writer.follows.withRoom room
  opened := by
    obtain ⟨env, here, mayWrite⟩ := writer.opened
    unfold Session.withRoom
    rw [here]
    exact ⟨_, rfl, mayWrite⟩
  orderly := writer.orderly

theorem Writer.advance (writer : session.Writer contents age)
    (advances : Advances bumps file contents file' after) :
    session.Writer after (age + bumps) :=
  ⟨writer.follows.advance advances, writer.opened, writer.orderly⟩

theorem Writer.mono (writer : session.Writer contents age) {later : Nat} (older : age ≤ later) :
    session.Writer contents later :=
  ⟨writer.follows.mono older, writer.opened, writer.orderly⟩

theorem Writer.withNotifications (writer : session.Writer contents age)
    (notifications : List Notification) :
    Writer { session with notifications := notifications } contents age where
  follows := writer.follows.retold _ _
  opened := writer.opened
  orderly := writer.orderly

theorem Writer.plain (writer : session.Writer contents age) (single : session.bulk = false) :
    session.Plain :=
  ⟨single, writer.orderly single⟩

theorem Writer.drafts (writer : session.Writer contents age) (bulk : session.bulk = true) :
    session.Drafts contents age :=
  ⟨bulk, writer.follows, writer.opened⟩

theorem Drafts.toWriter (drafts : session.Drafts contents age) : session.Writer contents age :=
  ⟨drafts.follows, drafts.writer, orderly_of_bulk drafts.bulk⟩

theorem Spares.trans {publishes : Prop} {session' session'' : Session} {middle : Contents}
    (first : session.Spares contents False session' middle key value)
    (second : session'.Spares middle publishes session'' after key value) :
    session.Spares contents publishes session'' after key value where
  committed := fun drafted => second.committed fun published => first.draft (drafted published)
  draft := fun drafted => second.draft (first.draft drafted)

/-- Only an open depends on the room beside the session. -/
theorem act_room (other : ∀ path flags bulk, call ≠ .open path flags bulk) (room room' : Nat) :
    session.act call room file = session.act call room' file := by
  cases call with
  | «open» path flags bulk => exact absurd rfl (other path flags bulk)
  | get _ => rfl
  | put _ _ _ => rfl
  | delete _ => rfl
  | seek _ => rfl
  | commit => rfl

/-! ### Outside bulk mode -/

theorem Serves.content_eq {content content' : Content} {seat? next? : Option Seat}
    {reply : Reply} (serves : Serves content seat? call reply content' next?)
    (other : ∀ path flags bulk, call ≠ .open path flags bulk) (spared : ¬ call.Touches key) :
    content' key = content key := by
  cases serves with
  | opened => exact absurd rfl (other _ _ _)
  | stored _ _ => exact Function.update_of_ne (Ne.symm spared) _ _
  | deleted _ => exact Function.update_of_ne (Ne.symm spared) _ _
  | closed _ _ => rfl
  | committed => rfl
  | got => rfl
  | sought _ => rfl
  | denied _ _ => rfl
  | putReadOnly _ => rfl
  | deleteReadOnly _ => rfl

theorem Declines.content_eq {strained cramped : Prop} {limit : Nat} {content content' : Content}
    {seat? next? : Option Seat} {reply : Reply}
    (declines : Declines strained cramped limit content seat? call reply content' next?)
    (other : ∀ path flags bulk, call ≠ .open path flags bulk) : content' = content := by
  cases declines with
  | emptied _ _ => exact absurd rfl (other _ _ _)
  | io _ _ => rfl
  | unopened _ => rfl
  | retryLimit _ _ _ => rfl

/-- The right to write stays with a session that is open. -/
theorem Serves.readOnly_eq {content content' : Content} {seat : Seat} {next? : Option Seat}
    {reply : Reply} (serves : Serves content (some seat) call reply content' next?)
    (other : ∀ path flags bulk, call ≠ .open path flags bulk) :
    next?.map (·.readOnly) = some seat.readOnly := by
  cases serves with
  | opened => exact absurd rfl (other _ _ _)
  | @sought _ _ record? _ =>
      cases record? with
      | none => rfl
      | some record => rfl
  | committed => rfl
  | got => rfl
  | stored _ _ => rfl
  | denied _ _ => rfl
  | deleted _ => rfl
  | putReadOnly _ => rfl
  | deleteReadOnly _ => rfl

theorem Declines.readOnly_eq {strained cramped : Prop} {limit : Nat} {content content' : Content}
    {seat : Seat} {next? : Option Seat} {reply : Reply}
    (declines : Declines strained cramped limit content (some seat) call reply content' next?) :
    next?.map (·.readOnly) = some seat.readOnly := by
  cases declines with
  | io _ _ => rfl
  | unopened _ => rfl
  | emptied _ _ => rfl
  | retryLimit _ _ _ => rfl

theorem Answered.opened {room : Nat} (answered : session.Answered contents room call outcome after)
    (other : ∀ path flags bulk, call ≠ .open path flags bulk)
    (before : ∃ env, session.env? = some env ∧ env.flags.readOnly = false) :
    ∃ env, outcome.2.1.env? = some env ∧ env.flags.readOnly = false := by
  obtain ⟨env, here, mayWrite⟩ := before
  have answers := answered.answers
  unfold Answers at answers
  rw [seat?_of_some here] at answers
  have right : outcome.2.1.seat?.map (·.readOnly) = some env.flags.readOnly := by
    rcases answers with serves | declines
    · exact serves.readOnly_eq other
    · exact declines.readOnly_eq
  unfold seat? at right
  cases there : outcome.2.1.env? with
  | none =>
      rw [there] at right
      cases right
  | some env' =>
      rw [there] at right
      exact ⟨env', rfl, (Option.some.inj right).trans mayWrite⟩

theorem Answered.spares {room : Nat} (answered : session.Answered contents room call outcome after)
    (other : ∀ path flags bulk, call ≠ .open path flags bulk)
    (spared : ¬ call.Touches key) (stored : contents.records.find? key = some value) :
    session.Spares contents (call = .commit ∧ outcome.1 = .done) outcome.2.1 after key value := by
  have still : after.records.find? key = some value := by
    rw [← stored]
    rcases answered.answers with serves | declines
    · exact serves.content_eq other spared
    · exact congrFun (declines.content_eq other) key
  refine ⟨fun _ => still, fun _ => ?_⟩
  rw [draft_of_idle answered.plain.idle]
  exact still

theorem Answered.stored {room : Nat} {keepExisting : Bool}
    (answered : session.Answered contents room (.put key value keepExisting) outcome after)
    (done : outcome.1 = .done) : after.records.find? key = some value := by
  have answers := answered.answers
  unfold Answers at answers
  rw [done] at answers
  generalize after.records.find? = content at answers ⊢
  generalize session.seat? = seat?, outcome.2.1.seat? = next? at answers
  rcases answers with serves | declines
  · cases serves
    exact Function.update_self _ _ _
  · cases declines

theorem Answered.got {room : Nat}
    (answered : session.Answered contents room (.get key) outcome after)
    (opened : session.env? ≠ none) :
    outcome.1 = .value (contents.records.find? key) ∨
      (¬ Mappable room contents.header.mapSize ∧ ∃ cause, outcome.1 = .failed (.io cause)) := by
  have answers := answered.answers
  unfold Answers at answers
  obtain ⟨env, here⟩ := Option.ne_none_iff_exists'.mp opened
  rw [seat?_of_some here] at answers
  generalize outcome.1 = reply, outcome.2.1.seat? = next? at answers ⊢
  generalize contents.records.find? = content, after.records.find? = content' at answers ⊢
  rcases answers with serves | declines
  · cases serves
    exact Or.inl rfl
  · cases declines with
    | io _ far => exact Or.inr ⟨far, _, rfl⟩
    | retryLimit _ _ noRoom => exact noRoom.elim

theorem Writer.answered (writer : session.Writer contents age) (holds : file.Holds contents)
    (single : session.bulk = false) (recent : age < UInt64.size) (room : Nat)
    (other : ∀ path flags bulk, call ≠ .open path flags bulk) :
    ∃ env after, session.env? = some env ∧
      session.Answered contents env.room call (session.act call room file) after := by
  obtain ⟨env, here, _⟩ := writer.opened
  have roomy : ∀ found, session.env? = some found → found.room = env.room := by
    intro found there
    rw [here] at there
    cases there
    rfl
  obtain ⟨after, answered⟩ := act_answered holds writer.follows (writer.plain single) roomy recent
    fun path flags bulk same => absurd same (other path flags bulk)
  rw [act_room other room env.room]
  exact ⟨env, after, here, answered⟩

/-! ### In bulk mode -/

theorem Edits.find?_eq {draft draft' : Records} {seat seat' : Seat} {reply : Reply}
    (edits : Edits draft seat call reply draft' seat') (spared : ¬ call.Touches key) :
    draft'.find? key = draft.find? key := by
  cases edits with
  | stored _ =>
      rw [Records.find?_insert_eq_update]
      exact Function.update_of_ne (Ne.symm spared) _ _
  | deleted =>
      rw [Records.find?_erase_eq_update]
      exact Function.update_of_ne (Ne.symm spared) _ _
  | got => rfl
  | sought _ => rfl
  | denied _ => rfl

structure Wrote (session : Session) (file : Image) (contents : Contents) (age : Nat)
    (call : Call) (outcome : Reply × Session × Image) (bumps : Nat) (after : Contents) :
    Prop where
  advances : Advances bumps file contents outcome.2.2 after
  once : bumps ≤ 1
  writer : outcome.2.1.Writer after (age + bumps)
  bulk_eq : outcome.2.1.bulk = session.bulk
  spares : ∀ key value, ¬ call.Touches key → contents.records.find? key = some value →
    session.Spares contents (call = .commit ∧ outcome.1 = .done) outcome.2.1 after key value

theorem Drafted.wrote (drafted : session.Drafted file contents age call outcome)
    (holds : file.Holds contents) (drafts : session.Drafts contents age) :
    ∃ bumps after, session.Wrote file contents age call outcome bumps after := by
  cases drafted with
  | @edited _ _ session' txn begun edits drafts' _ =>
      refine ⟨0, contents, .refl holds, Nat.zero_le 1, drafts'.toWriter,
        drafts'.bulk.trans drafts.bulk.symm, ?_⟩
      intro key value spared stored
      refine ⟨fun _ => stored, fun drafted => ?_⟩
      dsimp only
      rw [draft_of_pending begun, edits.find?_eq spared]
      exact drafted
  | refused _ _ _ _ =>
      exact ⟨0, contents, .refl holds, Nat.zero_le 1, drafts.toWriter, rfl,
        fun _ _ _ stored => ⟨fun _ => stored, id⟩⟩
  | @discarded _ _ _ _ after _ _ advances drafts' idle _ =>
      refine ⟨0, after, advances, Nat.zero_le 1, drafts'.toWriter,
        drafts'.bulk.trans drafts.bulk.symm, ?_⟩
      intro key value _ stored
      have still : after.records.find? key = some value := by
        rw [advances.records_eq rfl]
        exact stored
      refine ⟨fun _ => still, fun _ => ?_⟩
      dsimp only
      rw [draft_of_idle idle]
      exact still
  | @published _ _ after _ advances once _ recordsEq drafts' idle _ =>
      refine ⟨_, after, advances, once, ?_, drafts'.bulk.trans drafts.bulk.symm, ?_⟩
      · exact (drafts'.mono (Nat.le_add_right age _)).toWriter
      · intro key value _ _
        refine ⟨fun drafted => ?_, fun drafted => ?_⟩
        · rw [recordsEq]
          exact drafted ⟨rfl, rfl⟩
        · dsimp only
          rw [draft_of_idle idle, recordsEq]
          exact drafted

/-! ### Either way -/

/-- Every call of a writer that neither opens nor cuts back spares what it is not for. -/
theorem act_wrote (holds : file.Holds contents) (writer : session.Writer contents age)
    (recent : age < UInt64.size) (room : Nat)
    (other : ∀ path flags bulk, call ≠ .open path flags bulk)
    (safe : ¬ session.CutsBack call file) :
    ∃ bumps after,
      session.Wrote file contents age call (session.act call room file) bumps after := by
  cases mode : session.bulk with
  | true =>
      have drafts := writer.drafts mode
      exact (act_drafted holds drafts recent room other safe).wrote holds drafts
  | false =>
      obtain ⟨env, after, _, answered⟩ := writer.answered holds mode recent room other
      obtain ⟨bumps, landed, lands⟩ := act_lands holds writer.follows call room safe
      have same := answered.holds.unique lands.advances.holds
      subst same
      refine ⟨bumps, after, lands.advances, lands.once, ⟨lands.follows, ?_, ?_⟩,
        answered.plain.single.trans mode.symm, ?_⟩
      · exact answered.opened other writer.opened
      · exact fun _ => answered.plain.idle
      · exact fun _ _ spared stored => answered.spares other spared stored

end Session

end RecordFile
