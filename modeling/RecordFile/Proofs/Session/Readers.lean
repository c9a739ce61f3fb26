/-
Open sessions, whether they write or read alone.

A call that neither opens nor cuts back leaves an open session open, and following what the file
holds. What such a session reads is its draft in bulk mode and what is committed otherwise. If it
cannot read, then that is so for every key, and the session stays as it is.
-/

import RecordFile.Proofs.Session.Searching
import RecordFile.Proofs.Session.Settings

namespace RecordFile

namespace Session

open Environment (Mappable)

def Reply.record? : Reply → Option Record
  | .record record? => record?
  | _ => none

structure Reader (session : Session) (contents : Contents) (age : Nat) : Prop where
  follows : session.Follows contents age
  opened : session.env? ≠ none
  orderly : session.Orderly

variable {session session' last : Session} {env : Environment} {file file' : Image}
  {contents after : Contents} {content content' : Content} {seat : Seat} {next? : Option Seat}
  {age bumps count room : Nat} {call : Call} {reply : Reply}

theorem not_opens_iff : ¬ call.Opens ↔ ∀ path flags bulk, call ≠ .open path flags bulk := by
  cases call <;> simp [Call.Opens]

/-- Opening settles the mode and leaves nothing pending, or it fails and leaves the session as
it was. -/
theorem open_settles (session : Session) (path : String) (flags : OpenFlags) (bulk : Bool)
    (room : Nat) (file : Image) :
    (session.act (.open path flags bulk) room file).2.1 = session ∨
      ((session.act (.open path flags bulk) room file).2.1.bulk = bulk ∧
        (session.act (.open path flags bulk) room file).2.1.pending? = none) := by
  unfold act Session.open
  dsimp only
  rcases Environment.open path flags session.config.initialMapSize room file with ⟨result, file'⟩
  cases result with
  | error failure => exact .inl rfl
  | ok env => exact .inr ⟨rfl, rfl⟩

theorem orderly_of_opens (orderly : session.Orderly) (opens : call.Opens) (room : Nat)
    (file : Image) : (session.act call room file).2.1.Orderly := by
  cases call with
  | «open» path flags bulk =>
      rcases session.open_settles path flags bulk room file with same | ⟨_, idle⟩
      · rw [same]
        exact orderly
      · exact fun _ => idle
  | _ => exact opens.elim

theorem Orderly.act (orderly : session.Orderly) (call : Call) (room : Nat) (file : Image) :
    (session.act call room file).2.1.Orderly := by
  by_cases opens : call.Opens
  · exact orderly_of_opens orderly opens room file
  · have other := not_opens_iff.mp opens
    intro single
    have before := (session.retains_act file other room).bulk_eq.symm.trans single
    exact session.pending?_act file before (orderly before) other room

theorem Reader.withRoom (reader : session.Reader contents age) (room : Nat) :
    (session.withRoom room).Reader contents age where
  follows := reader.follows.withRoom room
  opened := by
    intro closed
    exact reader.opened (Option.map_eq_none_iff.mp closed)
  orderly := reader.orderly

theorem Reader.mono (reader : session.Reader contents age) {later : Nat} (older : age ≤ later) :
    session.Reader contents later :=
  ⟨reader.follows.mono older, reader.opened, reader.orderly⟩

theorem Reader.advance (reader : session.Reader contents age)
    (advances : Advances bumps file contents file' after) :
    session.Reader after (age + bumps) :=
  ⟨reader.follows.advance advances, reader.opened, reader.orderly⟩

theorem Reader.silenced (reader : session.Reader contents age) :
    session.silenced.Reader contents age :=
  ⟨reader.follows.retold _ _, reader.opened, reader.orderly⟩

/-! ### One call -/

/-- The cursor goes to the record that is returned, and nowhere else. -/
theorem Answers.moves (here : session.seat? = some seat)
    (answers : session.Answers contents room call reply content next?) (stays : ¬ call.Opens) :
    next? = some { seat with cursor? := (reply.record?.map Prod.fst).or seat.cursor? } := by
  unfold Answers at answers
  rw [here] at answers
  rcases answers with serves | declines
  · cases serves with
    | opened => exact absurd trivial stays
    | @sought _ _ record? _ =>
        cases record? with
        | none => rfl
        | some record => rfl
    | _ => rfl
  · cases declines with
    | _ => rfl

/-- In bulk mode a reader is refused whatever it asks, and has nothing to commit. -/
theorem act_of_barred {failure : EngineError} (bulk : session.bulk = true)
    (refused : session.bulkTransaction file = (.error failure, session))
    (idle : session.pending? = none) (stays : ¬ call.Opens) (room : Nat) :
    ∃ reply, session.act call room file = (reply, session, file) := by
  cases call with
  | «open» _ _ _ => exact absurd trivial stays
  | get key =>
      have reads : (Call.get key).Reads := trivial
      exact ⟨_, act_of_view_error reads (view_of_bulk bulk refused) room⟩
  | seek move =>
      have reads : (Call.seek move).Reads := trivial
      exact ⟨_, act_of_view_error reads (view_of_bulk bulk refused) room⟩
  | put key value keepExisting =>
      unfold act put
      dsimp only
      rw [if_pos bulk, refused]
      exact ⟨_, rfl⟩
  | delete key =>
      unfold act delete
      dsimp only
      rw [if_pos bulk, refused]
      exact ⟨_, rfl⟩
  | commit =>
      unfold act
      rw [commit_of_idle idle]
      exact ⟨_, rfl⟩

theorem Reader.stays_open (reader : session.Reader contents age) (holds : file.Holds contents)
    (recent : age < UInt64.size) (room : Nat) (stays : ¬ call.Opens)
    (safe : ¬ session.CutsBack call file) :
    (session.act call room file).2.1.env? ≠ none := by
  have other := not_opens_iff.mp stays
  obtain ⟨env, here⟩ := Option.ne_none_iff_exists'.mp reader.opened
  cases mode : session.bulk with
  | false =>
      have roomy : ∀ found, session.env? = some found → found.room = env.room := by
        intro found there
        cases here.symm.trans there
        rfl
      have plain : ∀ path flags bulk, call = .open path flags bulk → bulk = false :=
        fun path flags bulk same => absurd same (other path flags bulk)
      obtain ⟨after, answered⟩ := act_answered holds reader.follows
        ⟨mode, reader.orderly mode⟩ roomy recent plain
      rw [act_room other room env.room]
      intro closed
      have moved := answered.answers.moves (seat?_of_some here) stays
      unfold seat? at moved
      rw [closed] at moved
      cases moved
  | true =>
      cases right : env.flags.readOnly with
      | true =>
          obtain ⟨failure, refused, idle, _⟩ :=
            bulkTransaction_of_reader holds reader.follows here right
          obtain ⟨reply, acted⟩ := act_of_barred mode refused idle stays room
          rw [acted]
          exact reader.opened
      | false =>
          have drafted := act_drafted holds ⟨mode, reader.follows, env, here, right⟩ recent room
            other safe
          generalize session.act call room file = outcome at drafted ⊢
          have opened : ∃ found, outcome.2.1.env? = some found ∧ found.flags.readOnly = false := by
            cases drafted with
            | edited _ _ drafts _ => exact drafts.writer
            | refused _ _ _ _ => exact ⟨env, here, right⟩
            | discarded _ _ _ drafts _ _ => exact drafts.writer
            | published _ _ _ _ drafts _ _ => exact drafts.writer
          obtain ⟨found, there, _⟩ := opened
          rw [there]
          exact Option.some_ne_none found

theorem Reader.act (reader : session.Reader contents age) (holds : file.Holds contents)
    (recent : age < UInt64.size) (room : Nat) (stays : ¬ call.Opens)
    (safe : ¬ session.CutsBack call file) :
    ∃ bumps after, Lands call file contents age (session.act call room file) bumps after ∧
      (session.act call room file).2.1.Reader after (age + bumps) := by
  obtain ⟨bumps, after, lands⟩ := act_lands holds reader.follows call room safe
  exact ⟨bumps, after, lands, lands.follows, reader.stays_open holds recent room stays safe,
    reader.orderly.act call room file⟩

/-! ### Calls one after another -/

inductive Acts : Nat → Session → Image → Session → Image → Prop
  | nil {session : Session} {file : Image} : Acts 0 session file session file
  | cons {count : Nat} {call : Call} {reply : Reply} {session session' last : Session}
      {file file' file'' : Image} (stays : ¬ call.Opens) (safe : ¬ session.CutsBack call file)
      (acted : session.act call 0 file = (reply, session', file'))
      (later : Acts count session'.silenced file' last file'') :
      Acts (count + 1) session file last file''

theorem Acts.once (stays : ¬ call.Opens) (safe : ¬ session.CutsBack call file)
    (acted : session.act call 0 file = (reply, session', file')) :
    Acts 1 session file session'.silenced file' :=
  .cons stays safe acted .nil

theorem Acts.trans {count' : Nat} {file'' : Image} (first : Acts count session file session' file')
    (second : Acts count' session' file' last file'') :
    Acts (count + count') session file last file'' := by
  induction first with
  | nil =>
      rw [Nat.zero_add]
      exact second
  | cons stays safe acted _ ih =>
      rw [Nat.add_right_comm]
      exact .cons stays safe acted (ih second)

theorem Reader.acts (reader : session.Reader contents age) (holds : file.Holds contents)
    (recent : age + count ≤ UInt64.size) (acts : Acts count session file session' file') :
    ∃ bumps after, bumps ≤ count ∧ Advances bumps file contents file' after ∧
      session'.Reader after (age + bumps) := by
  induction acts generalizing contents age with
  | nil => exact ⟨0, contents, Nat.le_refl 0, .refl holds, reader⟩
  | cons stays safe acted _ ih =>
      obtain ⟨bumps, middle, lands, stepped⟩ := reader.act holds (by omega) 0 stays safe
      have once := lands.once
      have advances := lands.advances
      rw [acted] at advances stepped
      obtain ⟨more, after, few, advances', last⟩ :=
        ih stepped.silenced advances.holds (by omega)
      rw [Nat.add_assoc] at last
      exact ⟨bumps + more, after, by omega, advances.trans advances', last⟩

/-! ### Reading -/

structure Outlook where
  readOnly : Bool
  bulk : Bool
  records : Records
  /-- The key that the cursor returned last. -/
  cursor? : Option Bytes

def outlook? (session : Session) (committed : Records) : Option Outlook :=
  session.env?.map fun env =>
    ⟨env.flags.readOnly, session.bulk, session.draft committed, session.cursor?⟩

/-- Why nothing can be read. A reader has no right to the transaction that even a read begins in
bulk mode. -/
inductive Outlook.Declines (outlook : Outlook) (unmapped : Prop) : EngineError → Prop
  | barred (bulk : outlook.bulk = true) (reader : outlook.readOnly = true) :
      outlook.Declines unmapped .readOnly
  | unread {cause : SystemError} (refused : unmapped) : outlook.Declines unmapped (.io cause)

structure Reading (session : Session) (file : Image) (contents : Contents) (age : Nat)
    (outlook : Outlook) : Prop where
  holds : file.Holds contents
  follows : session.Follows contents age
  orderly : session.Orderly
  outlook?_eq : session.outlook? contents.records = some outlook

variable {outlook : Outlook}

theorem outlook?_of_some (here : session.env? = some env) (committed : Records) :
    session.outlook? committed = some
      ⟨env.flags.readOnly, session.bulk, session.draft committed, session.cursor?⟩ := by
  unfold outlook?
  rw [here]
  rfl

theorem Reader.reading (reader : session.Reader contents age) (holds : file.Holds contents) :
    ∃ outlook, session.Reading file contents age outlook ∧
      outlook.records = session.draft contents.records := by
  obtain ⟨env, here⟩ := Option.ne_none_iff_exists'.mp reader.opened
  exact ⟨_, ⟨holds, reader.follows, reader.orderly, outlook?_of_some here _⟩, rfl⟩

theorem Alike.outlook?_eq (alike : session.Alike session') (here : session.env? = some env)
    (committed : Records) : session'.outlook? committed = session.outlook? committed := by
  obtain ⟨env', there, kin⟩ := alike.env env here
  rw [outlook?_of_some here, outlook?_of_some there]
  unfold draft
  rw [kin.flags_eq, alike.bulk_eq, alike.pending?_eq, alike.cursor?_eq]

theorem Reading.withRoom (reading : session.Reading file contents age outlook) (room : Nat) :
    (session.withRoom room).Reading file contents age outlook where
  holds := reading.holds
  follows := reading.follows.withRoom room
  orderly := reading.orderly
  outlook?_eq := by
    rw [← reading.outlook?_eq]
    unfold outlook? Session.withRoom
    rw [Option.map_map]
    rfl

theorem Reading.silenced (reading : session.Reading file contents age outlook) :
    session.silenced.Reading file contents age outlook :=
  ⟨reading.holds, reading.follows.retold _ _, reading.orderly, reading.outlook?_eq⟩

theorem Reading.opened (reading : session.Reading file contents age outlook) :
    ∃ env, session.env? = some env ∧ outlook =
      ⟨env.flags.readOnly, session.bulk, session.draft contents.records, session.cursor?⟩ := by
  have stands := reading.outlook?_eq
  unfold outlook? at stands
  cases here : session.env? with
  | none =>
      rw [here] at stands
      cases stands
  | some env =>
      rw [here] at stands
      exact ⟨env, rfl, (Option.some.inj stands).symm⟩

structure Sighted (session : Session) (file : Image) (contents : Contents) (age : Nat)
    (outlook : Outlook) (session' : Session) : Prop where
  viewed : session.view file = (.ok outlook.records, session')
  reading : session'.Reading file contents age outlook

theorem Sighted.again (sighted : session.Sighted file contents age outlook session') :
    session'.silenced.Sighted file contents age outlook session'.silenced :=
  ⟨(view_eq_ok sighted.viewed).again, sighted.reading.silenced⟩

theorem Reading.view (reading : session.Reading file contents age outlook)
    (recent : age < UInt64.size) (roomy : ∀ env, session.env? = some env → env.room = room) :
    (∃ session', session.Sighted file contents age outlook session') ∨
    (∃ failure, session.view file = (.error failure, session) ∧
      outlook.Declines (¬ Mappable room contents.header.mapSize) failure) := by
  obtain ⟨env, here, rfl⟩ := reading.opened
  cases mode : session.bulk with
  | false =>
      have idle := reading.orderly mode
      rcases view_cases reading.holds mode here (reading.follows.tracks env here) with
        ⟨records, session', viewed, alike, tracks, same⟩ | ⟨far, cause, refused⟩
      · refine Or.inl ⟨session', ?_, reading.holds, reading.follows.alike alike tracks,
          fun _ => alike.pending?_eq.trans idle, ?_⟩
        · rw [viewed, same recent, draft_of_idle idle]
        · rw [alike.outlook?_eq here, outlook?_of_some here, mode]
      · rw [roomy env here] at far
        exact Or.inr ⟨_, refused, .unread far⟩
  | true =>
      have begins := bulkTransaction_begins reading.holds reading.follows
      have stands := outlook?_of_some here contents.records
      rw [mode] at stands
      generalize begun : session.bulkTransaction file = result at begins
      cases begins with
      | resumed waiting =>
          refine Or.inl ⟨session, ?_, reading.holds, reading.follows, reading.orderly, stands⟩
          rw [view_of_bulk mode begun, draft_of_pending waiting]
          rfl
      | @began txn session' _ idle waiting alike follows _ _ same =>
          obtain ⟨env', there, kin⟩ := alike.env env here
          have bulk : session'.bulk = true := alike.bulk_eq.trans mode
          refine Or.inl ⟨session', ?_, reading.holds, follows, orderly_of_bulk bulk, ?_⟩
          · rw [view_of_bulk mode begun, draft_of_idle idle, ← same recent]
            rfl
          · rw [outlook?_of_some (show session'.env? = some env' from there), kin.flags_eq, bulk,
              draft_of_pending waiting, draft_of_idle idle, same recent,
              show session'.cursor? = session.cursor? from alike.cursor?_eq]
      | closed _ noEnv => cases noEnv.symm.trans here
      | readOnly _ there reader =>
          cases here.symm.trans there
          exact Or.inr ⟨_, view_of_bulk mode begun, .barred rfl reader⟩
      | unmapped _ there far =>
          rw [roomy _ there] at far
          exact Or.inr ⟨_, view_of_bulk mode begun, .unread far⟩

def Outlook.moved (outlook : Outlook) (record? : Option Record) : Outlook :=
  { outlook with cursor? := (record?.map Prod.fst).or outlook.cursor? }

theorem Outlook.Declines.of_moved {unmapped : Prop} {record? : Option Record}
    {failure : EngineError} (declines : (outlook.moved record?).Declines unmapped failure) :
    outlook.Declines unmapped failure := by
  cases declines with
  | barred bulk reader => exact .barred bulk reader
  | unread refused => exact .unread refused

theorem Sighted.seek (sighted : session.Sighted file contents age outlook session')
    (move : CursorMove) :
    ∃ last, session.seek move file =
        (.ok (destination outlook.cursor? move outlook.records), last) ∧
      last.Reading file contents age
        (outlook.moved (destination outlook.cursor? move outlook.records)) := by
  have reading := sighted.reading
  obtain ⟨env, here, same⟩ := reading.opened
  unfold Session.seek
  rw [sighted.viewed]
  dsimp only
  rw [show session'.cursor? = outlook.cursor? from same ▸ rfl]
  cases destination outlook.cursor? move outlook.records with
  | none => exact ⟨_, rfl, reading⟩
  | some record =>
      refine ⟨_, rfl, reading.holds, reading.follows.seated _, reading.orderly, ?_⟩
      unfold outlook?
      dsimp only
      rw [here, same]
      rfl

end Session

end RecordFile
