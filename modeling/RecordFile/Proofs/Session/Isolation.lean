/-
One bulk writer, and readers beside it.

Outside bulk mode a session reads the committed records. A bulk session works on a copy of
them, taken by its first read or write. It answers from the copy whatever is published
meanwhile, until it publishes the copy or gives it up. What the writer does between two
commits therefore shows to nobody, and a commit shows all of it at once. A bulk session that
only reads never gives its copy up and so does not see later commits.
-/

import RecordFile.Proofs.Session.Draft
import RecordFile.Proofs.Session.MapSize

namespace RecordFile

structure Desk where
  seat : Seat
  bulk : Bool
  copy? : Option Records

namespace Session

open Environment (Mappable openedSize)

/-- What a call of a session comes to, and the committed records and the session afterwards.
The map may be one that the system refuses to map, now or after the next growth step. -/
inductive Works (committed : Records) (unmapped overgrown : Prop) (limit : Nat) :
    Option Desk → Call → Reply → Records → Option Desk → Prop
  | closed {call : Call} (reads : call.Reads) :
      Works committed unmapped overgrown limit none call (.failed .notOpen) committed none
  | opened {desk? : Option Desk} {path : String} {flags : OpenFlags} {bulk : Bool} :
      Works committed unmapped overgrown limit desk? (.open path flags bulk) .done committed
        (some ⟨⟨flags.readOnly, none⟩, bulk, none⟩)
  | unopened {desk? : Option Desk} {path : String} {flags : OpenFlags} {bulk : Bool}
      {cause : SystemError} (refused : unmapped) :
      Works committed unmapped overgrown limit desk? (.open path flags bulk)
        (.failed (.io cause)) committed desk?
  /-- Outside bulk mode the committed records are read. -/
  | read {seat seat' : Seat} {call : Call} {reply : Reply} (reads : call.Reads)
      (edits : Edits committed seat call reply committed seat') :
      Works committed unmapped overgrown limit (some ⟨seat, false, none⟩) call reply committed
        (some ⟨seat', false, none⟩)
  /-- In bulk mode the copy is read and written. Without one, the committed records are copied
  first. -/
  | edited {seat seat' : Seat} {copy? : Option Records} {draft : Records} {call : Call}
      {reply : Reply} (writer : seat.readOnly = false)
      (edits : Edits (copy?.getD committed) seat call reply draft seat') :
      Works committed unmapped overgrown limit (some ⟨seat, true, copy?⟩) call reply committed
        (some ⟨seat', true, some draft⟩)
  /-- A reader has no right to the transaction that even a read in bulk mode begins. -/
  | barred {seat : Seat} {call : Call} (reads : call.Reads) (reader : seat.readOnly = true) :
      Works committed unmapped overgrown limit (some ⟨seat, true, none⟩) call
        (.failed .readOnly) committed (some ⟨seat, true, none⟩)
  | unread {seat : Seat} {bulk : Bool} {call : Call} {cause : SystemError}
      (asks : call ≠ .commit) (refused : unmapped) :
      Works committed unmapped overgrown limit (some ⟨seat, bulk, none⟩) call
        (.failed (.io cause)) committed (some ⟨seat, bulk, none⟩)
  /-- The copy is given up, and the next call starts from the committed records again. -/
  | discarded {seat : Seat} {copy? : Option Records} {call : Call} {failure : EngineError}
      (fills : call.Fills) (discards : Discards overgrown limit failure) :
      Works committed unmapped overgrown limit (some ⟨seat, true, copy?⟩) call
        (.failed failure) committed (some ⟨⟨seat.readOnly, none⟩, true, none⟩)
  | published {seat : Seat} {copy? : Option Records} :
      Works committed unmapped overgrown limit (some ⟨seat, true, copy?⟩) .commit .done
        (copy?.getD committed) (some ⟨seat, true, none⟩)

def desk? (session : Session) : Option Desk :=
  session.env?.map fun env =>
    ⟨⟨env.flags.readOnly, session.cursor?⟩, session.bulk, session.pending?.map (·.records)⟩

def Handles (session : Session) (contents : Contents) (room : Nat) (call : Call) (reply : Reply)
    (committed : Records) (next? : Option Desk) : Prop :=
  Works contents.records (¬ Mappable room contents.header.mapSize)
    (¬ Mappable room (nextSize session.config contents.header.mapSize)) session.bulkRetryLimit
    session.desk? call reply committed next?

/-- Calls that leave the file alone: reads, and opening for reading. -/
def Call.Looks : Call → Prop
  | .get _ => True
  | .seek _ => True
  | .open _ flags _ => flags.readOnly = true
  | _ => False

def Call.Opens : Call → Prop
  | .open _ _ _ => True
  | _ => False

def Orderly (session : Session) : Prop :=
  session.bulk = false → session.pending? = none

variable {session session' : Session} {env : Environment} {file : Image}
  {contents : Contents} {age room : Nat} {call : Call} {outcome : Reply × Session × Image}

theorem desk?_of_some (here : session.env? = some env) :
    session.desk? = some
      ⟨⟨env.flags.readOnly, session.cursor?⟩, session.bulk, session.pending?.map (·.records)⟩ := by
  unfold desk?
  rw [here]
  rfl

theorem desk?_withRoom (session : Session) (room : Nat) :
    (session.withRoom room).desk? = session.desk? := by
  unfold desk? Session.withRoom
  cases session.env? with
  | none => rfl
  | some env => rfl

theorem draft_eq_getD (session : Session) (committed : Records) :
    session.draft committed = (session.pending?.map (·.records)).getD committed := by
  unfold draft
  cases session.pending? with
  | none => rfl
  | some txn => rfl

theorem Drafts.desk?_eq (drafts : session.Drafts contents age) :
    session.desk? =
      some ⟨⟨false, session.cursor?⟩, true, session.pending?.map (·.records)⟩ := by
  obtain ⟨env, here, writer⟩ := drafts.writer
  rw [desk?_of_some here, writer, drafts.bulk]

/-! ### Bulk sessions -/

theorem Discards.mono {overgrown overgrown' : Prop} {limit : Nat} {failure : EngineError}
    (discards : Discards overgrown limit failure) (weaken : overgrown → overgrown') :
    Discards overgrown' limit failure := by
  cases discards with
  | retry => exact .retry
  | retryLimit full => exact .retryLimit full
  | io refused => exact .io (weaken refused)

/-- What a call of the writer leaves behind. -/
theorem Drafted.handles (drafted : session.Drafted file contents age call outcome)
    (holds : file.Holds contents) (drafts : session.Drafts contents age)
    (roomy : ∀ env, session.env? = some env → env.room = room)
    (mapped : session.Mapped contents) :
    ∃ after, outcome.2.2.Holds after ∧
      session.Handles contents room call outcome.1 after.records outcome.2.1.desk? ∧
      outcome.2.1.Drafts after age ∧ outcome.2.1.Mapped after := by
  have deskEq := drafts.desk?_eq
  unfold Handles
  cases drafted with
  | edited begun edits drafts' mapped' =>
      rw [draft_eq_getD] at edits
      refine ⟨contents, holds, ?_, drafts', mapped' mapped⟩
      dsimp only
      rw [deskEq, drafts'.desk?_eq, begun]
      exact .edited rfl edits
  | refused asks idle here far =>
      rw [roomy _ here] at far
      refine ⟨contents, holds, ?_, drafts, mapped⟩
      dsimp only
      rw [deskEq, idle]
      exact .unread asks far
  | @discarded _ _ _ _ after fills discards advances drafts' idle noCursor =>
      refine ⟨after, advances.holds, ?_, drafts', mapped_of_idle idle⟩
      dsimp only
      rw [deskEq, drafts'.desk?_eq, idle, noCursor, advances.records_eq rfl]
      refine .discarded fills (discards.mono ?_)
      intro overgrown
      obtain ⟨env, here, far⟩ := overgrown mapped
      rw [roomy env here] at far
      exact far
  | @published _ _ after _ advances _ _ recordsEq drafts' idle cursorEq =>
      refine ⟨after, advances.holds, ?_, drafts', mapped_of_idle idle⟩
      dsimp only
      rw [deskEq, drafts'.desk?_eq, idle, cursorEq, recordsEq, draft_eq_getD]
      exact .published

/-! ### Readers -/

structure Looked (session : Session) (contents : Contents) (room : Nat) (call : Call)
    (outcome : Reply × Session × Image) (after : Contents) : Prop where
  holds : outcome.2.2.Holds after
  mapSize_eq : after.header.mapSize = contents.header.mapSize
  handles : session.Handles contents room call outcome.1 after.records outcome.2.1.desk?
  orderly : outcome.2.1.Orderly

theorem open_looked {path : String} {flags : OpenFlags} {bulk : Bool}
    (holds : file.Holds contents) (orderly : session.Orderly) (reader : flags.readOnly = true) :
    ∃ after, session.Looked contents room (.open path flags bulk)
      (session.act (.open path flags bulk) room file) after := by
  have keeps : flags.discards = false := by
    rw [OpenFlags.discards, reader, Bool.not_true, Bool.and_false]
  have sizeEq : openedSize flags session.config.initialMapSize contents.header.mapSize =
      contents.header.mapSize := if_pos reader
  rcases open_cases session path flags bulk room
      (Environment.open_opening holds path flags session.config.initialMapSize room) with
    ⟨bumps, after, env, file', opened, prepared, attached⟩ |
    ⟨cause, bumps, after, file', refused, prepared, far, _⟩ | ⟨_, writer, _⟩
  · have same := prepared.advances.records_eq (prepared.bumps_eq keeps)
    rw [opened]
    refine ⟨after, prepared.advances.holds, prepared.mapSize_eq.trans sizeEq, ?_, fun _ => rfl⟩
    unfold Handles
    dsimp only
    unfold desk?
    dsimp only [Option.map]
    rw [same, attached.flags_eq]
    exact .opened
  · have same := prepared.advances.records_eq (prepared.bumps_eq keeps)
    have mapEq := prepared.mapSize_eq.trans sizeEq
    rw [refused]
    rw [mapEq] at far
    refine ⟨after, prepared.advances.holds, mapEq, ?_, orderly⟩
    unfold Handles
    dsimp only
    rw [same]
    exact .unopened far
  · rw [reader] at writer
    cases writer

theorem closed_looked (holds : file.Holds contents) (closed : session.Closed)
    (reads : call.Reads) : session.Looked contents room call (session.act call room file)
      contents := by
  have none : session.desk? = none := by
    unfold desk?
    rw [closed.noEnv]
    rfl
  obtain ⟨reply, acted, replies⟩ := closed.act_eq reads.ne_open room file
  rcases replies with ⟨_, rfl⟩ | ⟨commits, _⟩
  · rw [acted]
    refine ⟨holds, rfl, ?_, fun _ => closed.idle⟩
    unfold Handles
    rw [none]
    exact .closed reads
  · exact absurd commits reads.ne_commit

theorem plain_looked (holds : file.Holds contents) (plain : session.Plain)
    (here : session.env? = some env) (roomEq : env.room = room)
    (tracks : env.Tracks contents age) (recent : age < UInt64.size) (reads : call.Reads) :
    session.Looked contents room call (session.act call room file) contents := by
  have deskEq := desk?_of_some here
  rw [plain.single, plain.idle] at deskEq
  rcases view_cases holds plain.single here tracks with
    ⟨records, session', viewed, alike, _, same⟩ | ⟨far, cause, refused⟩
  · obtain ⟨reply, cursor?, acted, edits⟩ :=
      act_of_view reads viewed alike.cursor?_eq env.flags.readOnly room
    obtain ⟨env', there, kin⟩ := alike.env env here
    have plain' := plain.alike alike
    rw [same recent] at edits
    rw [acted]
    refine ⟨holds, rfl, ?_, fun _ => plain'.idle⟩
    have deskEq' : desk? { session' with cursor? := cursor? } =
        some ⟨⟨env.flags.readOnly, cursor?⟩, false, none⟩ := by
      unfold desk?
      dsimp only
      rw [there, plain'.single, plain'.idle, ← kin.flags_eq]
      rfl
    unfold Handles
    dsimp only
    rw [deskEq, deskEq']
    exact .read reads edits
  · rw [act_of_view_error reads refused room]
    refine ⟨holds, rfl, ?_, fun _ => plain.idle⟩
    rw [roomEq] at far
    unfold Handles
    dsimp only
    rw [deskEq]
    exact .unread reads.ne_commit far

theorem orderly_of_bulk (bulk : session.bulk = true) : session.Orderly := by
  intro single
  rw [bulk] at single
  cases single

/-- Without the right to write no transaction begins. -/
theorem bulkTransaction_of_reader (holds : file.Holds contents)
    (follows : session.Follows contents age) (here : session.env? = some env)
    (reader : env.flags.readOnly = true) :
    ∃ failure, session.bulkTransaction file = (.error failure, session) ∧
      session.pending? = none ∧
      (failure = .readOnly ∨
        ¬ Mappable env.room contents.header.mapSize ∧ ∃ cause, failure = .io cause) := by
  have begins := bulkTransaction_begins holds follows
  generalize session.bulkTransaction file = result at begins
  cases begins with
  | resumed waiting =>
      obtain ⟨found, there, writer⟩ := follows.writer _ waiting
      rw [here] at there
      cases there
      rw [reader] at writer
      cases writer
  | began _ waiting alike follows' _ _ _ =>
      obtain ⟨found, there, writer⟩ := follows'.writer _ waiting
      obtain ⟨env', again, kin⟩ := alike.env env here
      rw [there] at again
      cases again
      rw [kin.flags_eq, reader] at writer
      cases writer
  | closed _ noEnv =>
      rw [here] at noEnv
      cases noEnv
  | readOnly idle _ _ => exact ⟨_, rfl, idle, Or.inl rfl⟩
  | unmapped idle there far =>
      rw [here] at there
      cases there
      exact ⟨_, rfl, idle, Or.inr ⟨far, _, rfl⟩⟩

/-- Not even a read in bulk mode begins then. -/
theorem barred_looked (holds : file.Holds contents) (follows : session.Follows contents age)
    (bulk : session.bulk = true) (here : session.env? = some env) (roomEq : env.room = room)
    (reader : env.flags.readOnly = true) (reads : call.Reads) :
    session.Looked contents room call (session.act call room file) contents := by
  obtain ⟨failure, refused, idle, reasons⟩ :=
    bulkTransaction_of_reader holds follows here reader
  have deskEq := desk?_of_some here
  rw [bulk, reader, idle] at deskEq
  rw [act_of_view_error reads (view_of_bulk bulk refused) room]
  refine ⟨holds, rfl, ?_, orderly_of_bulk bulk⟩
  unfold Handles
  dsimp only
  rw [deskEq]
  rcases reasons with rfl | ⟨far, cause, rfl⟩
  · exact .barred reads rfl
  · rw [roomEq] at far
    exact .unread reads.ne_commit far

theorem bulk_looked (holds : file.Holds contents) (drafts : session.Drafts contents age)
    (roomy : ∀ env, session.env? = some env → env.room = room) (recent : age < UInt64.size)
    (reads : call.Reads) :
    session.Looked contents room call (session.act call room file) contents := by
  have deskEq := drafts.desk?_eq
  have drafted := read_drafted holds drafts recent reads room
  generalize session.act call room file = outcome at drafted ⊢
  cases drafted with
  | edited begun edits drafts' _ =>
      refine ⟨holds, rfl, ?_, orderly_of_bulk drafts'.bulk⟩
      rw [draft_eq_getD] at edits
      unfold Handles
      dsimp only
      rw [deskEq, drafts'.desk?_eq, begun]
      exact .edited rfl edits
  | refused asks idle here far =>
      refine ⟨holds, rfl, ?_, orderly_of_bulk drafts.bulk⟩
      rw [roomy _ here] at far
      unfold Handles
      dsimp only
      rw [deskEq, idle]
      exact .unread asks far
  | discarded fills _ _ _ _ _ => exact absurd fills reads.not_fills
  | published _ _ _ _ _ _ _ => exact reads.elim

theorem act_looked (holds : file.Holds contents) (follows : session.Follows contents age)
    (orderly : session.Orderly) (roomy : ∀ env, session.env? = some env → env.room = room)
    (recent : age < UInt64.size) (looks : call.Looks) :
    ∃ after, session.Looked contents room call (session.act call room file) after := by
  by_cases reads : call.Reads
  · refine ⟨contents, ?_⟩
    cases here : session.env? with
    | none =>
        have idle : session.pending? = none := by
          cases waiting : session.pending? with
          | none => rfl
          | some txn =>
              obtain ⟨env, there, _⟩ := follows.writer txn waiting
              rw [here] at there
              cases there
        exact closed_looked holds ⟨follows.valid, here, idle⟩ reads
    | some env =>
        cases mode : session.bulk with
        | false =>
            exact plain_looked holds ⟨mode, orderly mode⟩ here (roomy env here)
              (follows.tracks env here) recent reads
        | true =>
            cases right : env.flags.readOnly with
            | true => exact barred_looked holds follows mode here (roomy env here) right reads
            | false => exact bulk_looked holds ⟨mode, follows, env, here, right⟩ roomy recent reads
  · cases call with
    | «open» path flags bulk => exact open_looked holds orderly looks
    | get _ => exact absurd trivial reads
    | seek _ => exact absurd trivial reads
    | put _ _ _ => exact looks.elim
    | delete _ => exact looks.elim
    | commit => exact looks.elim

/-! ### Between calls -/

theorem Call.Looks.not_cutsBack (looks : call.Looks) : ¬ session.CutsBack call file := by
  rintro ⟨meets, _⟩
  cases call with
  | put _ _ _ => exact looks
  | commit => exact looks
  | «open» _ _ _ => exact meets
  | get _ => exact meets
  | delete _ => exact meets
  | seek _ => exact meets

theorem Drafts.advance {bumps : Nat} {file' : Image} {after : Contents}
    (drafts : session.Drafts contents age)
    (advances : Advances bumps file contents file' after) :
    session.Drafts after (age + bumps) :=
  ⟨drafts.bulk, drafts.follows.advance advances, drafts.writer⟩

theorem Drafts.mono (drafts : session.Drafts contents age) {later : Nat} (older : age ≤ later) :
    session.Drafts contents later :=
  ⟨drafts.bulk, drafts.follows.mono older, drafts.writer⟩

theorem Call.Opens.not_cutsBack (opens : call.Opens) : ¬ session.CutsBack call file := by
  rintro ⟨meets, _⟩
  cases call with
  | «open» _ _ _ => exact meets
  | get _ => exact opens
  | put _ _ _ => exact opens
  | delete _ => exact opens
  | seek _ => exact opens
  | commit => exact opens

theorem idle_of_opens (session : Session) (idle : session.pending? = none) (opens : call.Opens)
    (room : Nat) (file : Image) : (session.act call room file).2.1.pending? = none := by
  cases call with
  | «open» path flags bulk =>
      unfold act Session.open
      dsimp only
      rcases Environment.open path flags session.config.initialMapSize room file with
        ⟨result, file'⟩
      cases result with
      | error failure => exact idle
      | ok env => rfl
  | get _ => exact opens.elim
  | put _ _ _ => exact opens.elim
  | delete _ => exact opens.elim
  | seek _ => exact opens.elim
  | commit => exact opens.elim

end Session

/-! ### Runs -/

structure Register where
  committed : Records
  desk? : Nat → Option Desk

namespace Sessions

open Session (Call Reply Works)
open Environment (Mappable)

/-- Every call of a run answers from the register and leaves a register for the next one. Before
each call the file holds what the register says. -/
inductive Isolates : Sessions → List Request → Register → Register → Prop
  | nil {world : Sessions} {register : Register} : Isolates world [] register register
  | cons {world : Sessions} {request : Request} {rest : List Request} {register last : Register}
      {contents : Contents} {committed : Records} {next? : Option Desk}
      (holds : world.file.Holds contents) (shows : contents.records = register.committed)
      (works : Works register.committed (¬ Mappable request.room contents.header.mapSize)
        (¬ Mappable request.room
          (Session.nextSize (world.session request.who).config contents.header.mapSize))
        (world.session request.who).bulkRetryLimit (register.desk? request.who) request.call
        (world.reply request) committed next?)
      (later : Isolates (world.step request) rest
        ⟨committed, Function.update register.desk? request.who next?⟩ last) :
      Isolates world (request :: rest) register last

def SoleWriter : Nat → List Request → Prop :=
  RecordFile.SoleWriter Request.who (·.call.Opens) (·.call.Looks)

def OnlyOpens (requests : List Request) : Prop :=
  ∀ request ∈ requests, request.call.Opens

structure Registers (world : Sessions) (writer : Nat) (contents : Contents) (age : Nat)
    (register : Register) : Prop where
  valid : world.Valid contents age
  committed_eq : register.committed = contents.records
  desk?_eq : register.desk? = Session.desk? ∘ world.session
  orderly : ∀ who, (world.session who).Orderly
  drafts : (world.session writer).Drafts contents age
  mapped : (world.session writer).Mapped contents

variable {world : Sessions} {writer : Nat} {contents : Contents} {register : Register}
  {age : Nat} {request : Request}

theorem roomy_caller (world : Sessions) (request : Request) :
    ∀ env, (world.caller request).env? = some env → env.room = request.room := by
  intro env here
  obtain ⟨_, _, rfl⟩ := Option.map_eq_some_iff.mp here
  rfl

/-- The session that made a call is the only one that is another afterwards. -/
theorem desk?_step (world : Sessions) (request : Request) :
    Session.desk? ∘ (world.step request).session =
      Function.update (Session.desk? ∘ world.session) request.who
        (world.outcome request).2.1.desk? :=
  Function.comp_update _ _ _ _

theorem Registers.step_writer (registers : world.Registers writer contents age register)
    (recent : age < UInt64.size) (mine : request.who = writer)
    (other : ¬ request.call.Opens) :
    ∃ after next?, (world.step request).Registers writer after (age + 1)
        ⟨after.records, Function.update register.desk? request.who next?⟩ ∧
      (world.caller request).Handles contents request.room request.call (world.reply request)
        after.records next? := by
  have holds := registers.valid.holds
  have drafts : (world.caller request).Drafts contents age := by
    have drafts := registers.drafts
    rw [← mine] at drafts
    exact drafts.withRoom request.room
  have mapped : (world.caller request).Mapped contents := by
    have mapped := registers.mapped
    rw [← mine] at mapped
    exact mapped.withRoom request.room
  have safe := mapped.not_cutsBack holds request.call
  have opens : ∀ path flags bulk, request.call ≠ .open path flags bulk := by
    intro path flags bulk same
    rw [same] at other
    exact other trivial
  obtain ⟨bumps, landed, lands⟩ := registers.valid.lands safe
  obtain ⟨after, holds', handles, drafts', mapped'⟩ :=
    (Session.act_drafted holds drafts recent request.room opens safe).handles holds drafts
      (world.roomy_caller request) mapped
  have same := holds'.unique lands.advances.holds
  subst same
  have acted : (world.step request).session writer = (world.outcome request).2.1 := by
    rw [← mine]
    exact Function.update_self _ _ _
  refine ⟨after, _, ⟨registers.valid.land lands request.who, rfl, ?_, ?_, ?_, ?_⟩, handles⟩
  · rw [desk?_step, registers.desk?_eq]
    rfl
  · exact (Function.forall_update_iff world.session fun _ session => session.Orderly).mpr
      ⟨Session.orderly_of_bulk drafts'.bulk, fun who _ => registers.orderly who⟩
  · rw [acted]
    exact drafts'.mono (Nat.le_succ age)
  · rw [acted]
    exact mapped'

theorem Registers.step_reader (registers : world.Registers writer contents age register)
    (recent : age < UInt64.size) (theirs : request.who ≠ writer) (looks : request.call.Looks) :
    ∃ after next?, (world.step request).Registers writer after (age + 1)
        ⟨after.records, Function.update register.desk? request.who next?⟩ ∧
      (world.caller request).Handles contents request.room request.call (world.reply request)
        after.records next? := by
  have holds := registers.valid.holds
  have follows := (registers.valid.follows request.who).withRoom request.room
  obtain ⟨bumps, landed, lands⟩ := registers.valid.lands looks.not_cutsBack
  obtain ⟨after, looked⟩ := Session.act_looked holds follows (registers.orderly request.who)
    (world.roomy_caller request) recent looks
  have same := looked.holds.unique lands.advances.holds
  subst same
  have untouched : (world.step request).session writer = world.session writer :=
    Function.update_of_ne (Ne.symm theirs) _ _
  refine ⟨after, _, ⟨registers.valid.land lands request.who, rfl, ?_, ?_, ?_, ?_⟩,
    looked.handles⟩
  · rw [desk?_step, registers.desk?_eq]
    rfl
  · exact (Function.forall_update_iff world.session fun _ session => session.Orderly).mpr
      ⟨looked.orderly, fun who _ => registers.orderly who⟩
  · rw [untouched]
    exact (registers.drafts.advance lands.advances).mono (Nat.add_le_add_left lands.once age)
  · rw [untouched]
    intro waits env here
    rw [looked.mapSize_eq]
    exact registers.mapped waits env here

theorem Registers.run {requests : List Request}
    (registers : world.Registers writer contents age register)
    (recent : age + requests.length < UInt64.size) (alone : SoleWriter writer requests) :
    ∃ last, Isolates world requests register last ∧
      ∃ after, (run requests world).file.Holds after ∧ after.records = last.committed := by
  induction requests generalizing world contents register age with
  | nil => exact ⟨register, .nil, contents, registers.valid.holds, registers.committed_eq.symm⟩
  | cons request rest ih =>
      rw [List.length_cons] at recent
      obtain ⟨mine, theirs⟩ := alone request List.mem_cons_self
      obtain ⟨after, next?, stepped, handles⟩ :
          ∃ after next?, (world.step request).Registers writer after (age + 1)
              ⟨after.records, Function.update register.desk? request.who next?⟩ ∧
            (world.caller request).Handles contents request.room request.call
              (world.reply request) after.records next? := by
        -- Only the writer changes what is committed. A reader changes its own desk at most.
        by_cases same : request.who = writer
        · exact registers.step_writer (by omega) same (mine same)
        · exact registers.step_reader (by omega) same (theirs same)
      obtain ⟨last, isolates, ends⟩ := ih stepped (by omega)
        fun later member => alone later (List.mem_cons_of_mem request member)
      have deskEq : (world.caller request).desk? = register.desk? request.who := by
        rw [registers.desk?_eq]
        exact Session.desk?_withRoom _ _
      unfold Session.Handles at handles
      rw [deskEq, ← registers.committed_eq] at handles
      exact ⟨last, .cons registers.valid.holds registers.committed_eq.symm handles isolates, ends⟩

/-! ### Opening -/

structure Started (world : Sessions) (age : Nat) : Prop where
  created : world.Blank ∨ ∃ contents, world.Valid contents age
  idle : ∀ who, (world.session who).pending? = none

theorem Started.step (started : world.Started age) (opens : request.call.Opens) :
    (world.step request).Started (age + 1) := by
  have idle := (world.caller request).idle_of_opens (started.idle request.who) opens
    request.room world.file
  refine ⟨step_valid started.created opens.not_cutsBack, ?_⟩
  exact (Function.forall_update_iff world.session fun _ session =>
    session.pending? = none).mpr ⟨idle, fun other _ => started.idle other⟩

theorem Started.run {opens : List Request} (started : world.Started age)
    (onlyOpens : OnlyOpens opens) : (run opens world).Started (age + opens.length) := by
  induction opens generalizing world age with
  | nil => exact started
  | cons request rest ih =>
      have later := ih (started.step (onlyOpens request List.mem_cons_self))
        fun other member => onlyOpens other (List.mem_cons_of_mem request member)
      rw [List.length_cons, Nat.add_comm rest.length, ← Nat.add_assoc]
      exact later

end Sessions

end RecordFile
