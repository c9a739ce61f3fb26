/-
Sessions outside bulk mode share one map from keys to values.

What a session answers is what the map says when the call is made, whatever the session last
knew of the file, and growing shows in no answer. Calls are declined for two other reasons.
The system may refuse a length or a mapping, and a payload may have no place in the largest
map that the retries lead to. A call that is declined changes nothing, but for an open that
was to discard the records and has done so before its mapping was refused.

Only a writable open discards records. To a read-only one the switch means nothing.
-/

import RecordFile.Proofs.Session.Sharing

namespace RecordFile

/-! ### The shared map -/

theorem Records.find?_insert_eq_update (records : Records) (key value : Bytes) :
    (records.insert key value).find? = Function.update records.find? key (some value) := by
  funext other
  rw [Records.find?_insert, Function.update_apply]

theorem Records.find?_erase_eq_update (records : Records) (key : Bytes) :
    (records.erase key).find? = Function.update records.find? key none := by
  funext other
  rw [Records.find?_erase, Function.update_apply]

structure Seat where
  readOnly : Bool
  /-- The key that the cursor returned last. -/
  cursor? : Option Bytes

namespace Seat

def origin? (seat : Seat) : CursorMove → Option Bytes
  | .first => none
  | .next => seat.cursor?

def moved (seat : Seat) : Option Record → Seat
  | none => seat
  | some record => { seat with cursor? := some record.1 }

end Seat

namespace Session

open Environment (Mappable openedSize)

inductive Serves (content : Content) :
    Option Seat → Call → Reply → Content → Option Seat → Prop
  | closed {call : Call} (other : ∀ path flags bulk, call ≠ .open path flags bulk)
      (writes : call ≠ .commit) : Serves content none call (.failed .notOpen) content none
  /-- Nothing is pending outside bulk mode. -/
  | committed {seat? : Option Seat} : Serves content seat? .commit .done content seat?
  | opened {seat? : Option Seat} {path : String} {flags : OpenFlags} :
      Serves content seat? (.open path flags false) .done
        (if flags.discards then fun _ => none else content) (some ⟨flags.readOnly, none⟩)
  | got {seat : Seat} {key : Bytes} :
      Serves content (some seat) (.get key) (.value (content key)) content (some seat)
  | sought {seat : Seat} {move : CursorMove} {record? : Option Record}
      (next : Records.IsNext content (seat.origin? move) record?) :
      Serves content (some seat) (.seek move) (.record record?) content
        (some (seat.moved record?))
  | stored {seat : Seat} {key value : Bytes} {keepExisting : Bool}
      (writer : seat.readOnly = false)
      (admitted : (putRules content key value keepExisting).admits) :
      Serves content (some seat) (.put key value keepExisting) .done
        (Function.update content key (some value)) (some seat)
  | denied {seat : Seat} {key value : Bytes} {keepExisting : Bool} {failure : EngineError}
      (writer : seat.readOnly = false)
      (denied : (putRules content key value keepExisting).denies failure) :
      Serves content (some seat) (.put key value keepExisting) (.failed failure) content
        (some seat)
  | deleted {seat : Seat} {key : Bytes} (writer : seat.readOnly = false) :
      Serves content (some seat) (.delete key) (.found (content key).isSome)
        (Function.update content key none) (some seat)
  | putReadOnly {seat : Seat} {key value : Bytes} {keepExisting : Bool}
      (reader : seat.readOnly = true) :
      Serves content (some seat) (.put key value keepExisting) (.failed .readOnly) content
        (some seat)
  | deleteReadOnly {seat : Seat} {key : Bytes} (reader : seat.readOnly = true) :
      Serves content (some seat) (.delete key) (.failed .readOnly) content (some seat)

inductive Declines (strained cramped : Prop) (limit : Nat) (content : Content) :
    Option Seat → Call → Reply → Content → Option Seat → Prop
  | io {seat : Seat} {call : Call} {cause : SystemError}
      (able : ∀ key, call.Touches key → seat.readOnly = false) (refused : strained) :
      Declines strained cramped limit content (some seat) call (.failed (.io cause)) content
        (some seat)
  | unopened {seat? : Option Seat} {path : String} {flags : OpenFlags} {cause : SystemError}
      (refused : strained) :
      Declines strained cramped limit content seat? (.open path flags false)
        (.failed (.io cause)) content seat?
  /-- The records were discarded before the mapping was refused. -/
  | emptied {seat? : Option Seat} {path : String} {flags : OpenFlags} {cause : SystemError}
      (refused : strained) (discards : flags.discards = true) :
      Declines strained cramped limit content seat? (.open path flags false)
        (.failed (.io cause)) (fun _ => none) seat?
  | retryLimit {seat : Seat} {call : Call} {cause : EngineError}
      (writer : seat.readOnly = false) (full : cause.isMapFull = true) (noRoom : cramped) :
      Declines strained cramped limit content (some seat) call
        (.failed (.retryLimit limit cause)) content (some seat)

/-! ### Circumstances -/

/-- The system refuses a size that the call needs: that of the map, the one that an open asks
for, or that of a growth step that a write has to take. -/
def Strained (session : Session) (contents : Contents) (room : Nat) : Call → Prop
  | .open _ flags _ =>
      ¬ Mappable room (openedSize flags session.config.initialMapSize contents.header.mapSize)
  | .put key value keepExisting =>
      session.OutOfReach contents (putRules contents.records.find? key value keepExisting).admits
        room session.apiRetryLimit (contents.records.insert key value).encodedLength
  | .delete key =>
      session.OutOfReach contents (deleteRules contents.records.find? key).admits room
        session.apiRetryLimit (contents.records.erase key).encodedLength
  | .get _ => ¬ Mappable room contents.header.mapSize
  | .seek _ => ¬ Mappable room contents.header.mapSize
  | .commit => False

/-- The map admits the write, and after all growth steps there is still no place for its
payload. -/
def HasNoRoom (session : Session) (contents : Contents) : Call → Prop
  | .put key value keepExisting =>
      (putRules contents.records.find? key value keepExisting).admits ∧
      contents.Cramped (grownSize session.config session.apiRetryLimit contents.header.mapSize)
        (contents.records.insert key value).encodedLength
  | .delete key =>
      (deleteRules contents.records.find? key).admits ∧
      contents.Cramped (grownSize session.config session.apiRetryLimit contents.header.mapSize)
        (contents.records.erase key).encodedLength
  | _ => False

def seat? (session : Session) : Option Seat :=
  session.env?.map fun env => ⟨env.flags.readOnly, session.cursor?⟩

def Answers (session : Session) (contents : Contents) (room : Nat) (call : Call)
    (reply : Reply) (content : Content) (next? : Option Seat) : Prop :=
  Serves contents.records.find? session.seat? call reply content next? ∨
    Declines (session.Strained contents room call) (session.HasNoRoom contents call)
      session.apiRetryLimit contents.records.find? session.seat? call reply content next?

/-! ### One call -/

structure Plain (session : Session) : Prop where
  single : session.bulk = false
  idle : session.pending? = none

variable {session session' : Session} {env : Environment} {file : Image}
  {contents : Contents} {age room : Nat}

theorem Plain.alike (plain : session.Plain) (alike : session.Alike session') : session'.Plain where
  single := alike.bulk_eq.trans plain.single
  idle := alike.pending?_eq.trans plain.idle

theorem seat?_of_some (here : session.env? = some env) :
    session.seat? = some ⟨env.flags.readOnly, session.cursor?⟩ := by
  unfold seat?
  rw [here]
  rfl

theorem seat?_withRoom (session : Session) (room : Nat) :
    (session.withRoom room).seat? = session.seat? := by
  unfold seat? Session.withRoom
  cases session.env? with
  | none => rfl
  | some env => rfl

theorem Alike.seat?_eq (alike : session.Alike session') (here : session.env? = some env) :
    session'.seat? = session.seat? := by
  obtain ⟨env', there, kin⟩ := alike.env env here
  rw [seat?_of_some here, seat?_of_some there, kin.flags_eq, alike.cursor?_eq]

/-- A read that is refused its mapping is declined. -/
theorem answers_of_unmapped {call : Call} (here : session.env? = some env)
    (reads : ∀ key, ¬ call.Touches key) (strained : session.Strained contents room call)
    (cause : SystemError) :
    session.Answers contents room call (.failed (.io cause)) contents.records.find?
      session.seat? := by
  unfold Answers
  rw [seat?_of_some here]
  exact Or.inr (.io (fun key touches => absurd touches (reads key)) strained)

/-- A write that fails is one that the map denies or a reader has no right to, or is
declined. -/
theorem answers_of_refuses {call : Call} {rules : Rules} {length : Nat}
    {failure : EngineError} (here : session.env? = some env)
    (refuses : session.Refuses contents env.flags.readOnly rules env.room session.apiRetryLimit
      length failure)
    (strains : session.OutOfReach contents rules.admits env.room session.apiRetryLimit length →
      session.Strained contents room call)
    (crowded : rules.admits → contents.Cramped
      (grownSize session.config session.apiRetryLimit contents.header.mapSize) length →
        session.HasNoRoom contents call)
    (reads : ∀ seat : Seat, seat.readOnly = true → Serves contents.records.find? (some seat) call
      (.failed .readOnly) contents.records.find? (some seat))
    (denies : ∀ (seat : Seat) (failure : EngineError), seat.readOnly = false →
      rules.denies failure → Serves contents.records.find? (some seat) call (.failed failure)
        contents.records.find? (some seat)) :
    session.Answers contents room call (.failed failure) contents.records.find?
      session.seat? := by
  unfold Answers
  rw [seat?_of_some here]
  cases refuses with
  | readOnly reader => exact Or.inl (reads _ reader)
  | io writer far => exact Or.inr (.io (fun _ _ => writer) (strains far))
  | denied writer denied => exact Or.inl (denies _ _ writer denied)
  | full writer admitted gaveUp =>
      obtain ⟨⟨cause, isFull, rfl⟩, cramped⟩ := gaveUp
      exact Or.inr (.retryLimit writer isFull (crowded admitted cramped))

structure Answered (session : Session) (contents : Contents) (room : Nat) (call : Call)
    (outcome : Reply × Session × Image) (after : Contents) : Prop where
  holds : outcome.2.2.Holds after
  plain : outcome.2.1.Plain
  answers : session.Answers contents room call outcome.1 after.records.find? outcome.2.1.seat?

theorem open_answered {path : String} {flags : OpenFlags} (holds : file.Holds contents)
    (plain : session.Plain) :
    ∃ after, session.Answered contents room (.open path flags false)
      (session.act (.open path flags false) room file) after := by
  rcases open_cases session path flags false room
      (Environment.open_opening holds path flags session.config.initialMapSize room) with
    ⟨bumps, after, env, file', opened, prepared, attached⟩ |
    ⟨cause, bumps, after, file', refused, prepared, far, _⟩ | ⟨refused, _, beyond⟩
  · rw [opened]
    refine ⟨after, prepared.advances.holds, ⟨rfl, rfl⟩, Or.inl ?_⟩
    have contentEq : after.records.find? =
        if flags.discards then fun _ => none else contents.records.find? := by
      rw [prepared.records_eq]
      split
      · exact funext Records.find?_empty
      · rfl
    rw [contentEq, ← attached.flags_eq]
    exact .opened
  · rw [refused]
    refine ⟨after, prepared.advances.holds, plain, Or.inr ?_⟩
    have strained : session.Strained contents room (.open path flags false) := by
      intro mappable
      apply far
      rw [prepared.mapSize_eq]
      exact mappable
    rw [prepared.records_eq]
    split
    · next discards => exact .emptied strained discards
    · exact .unopened strained
  · rw [refused]
    refine ⟨contents, holds, plain, Or.inr (.unopened ?_)⟩
    exact fun mappable => Nat.not_le_of_lt beyond mappable.1

theorem closed_answered {call : Call} (holds : file.Holds contents) (closed : session.Closed)
    (plain : session.Plain) (other : ∀ path flags bulk, call ≠ .open path flags bulk) :
    session.Answered contents room call (session.act call room file) contents := by
  obtain ⟨reply, acted, replies⟩ := closed.act_eq other room file
  have none : session.seat? = none := by
    unfold seat?
    rw [closed.noEnv]
    rfl
  rw [acted]
  refine ⟨holds, plain, Or.inl ?_⟩
  rcases replies with ⟨writes, rfl⟩ | ⟨rfl, rfl⟩
  · rw [none]
    exact .closed other writes
  · exact .committed

theorem put_answered {key value : Bytes} {keepExisting : Bool} (holds : file.Holds contents)
    (plain : session.Plain) (here : session.env? = some env) (roomEq : env.room = room)
    (tracks : env.Tracks contents age) (valid : session.config.Valid)
    (recent : age < UInt64.size) :
    ∃ after, session.Answered contents room (.put key value keepExisting)
      (session.act (.put key value keepExisting) room file) after := by
  have outcome := put_outcome holds plain.single here tracks valid key value keepExisting
  unfold act
  dsimp only
  generalize session.put key value keepExisting file = result at outcome
  have seatEq := seat?_of_some here
  cases outcome with
  | @ok _ session' file' after bumps advances _ alike _ does =>
      have done := does recent
      refine ⟨after, advances.holds, plain.alike alike, Or.inl ?_⟩
      dsimp only
      rw [alike.seat?_eq here, seatEq, done.after_eq, Records.find?_insert_eq_update]
      exact .stored done.writer done.admitted
  | @error failure session' file' after advances alike _ refuses =>
      refine ⟨after, advances.holds, plain.alike alike, ?_⟩
      dsimp only [Reply.of]
      rw [alike.seat?_eq here, advances.records_eq rfl]
      apply answers_of_refuses here (refuses recent) (roomEq ▸ id) And.intro
      · exact fun _ => .putReadOnly
      · exact fun _ _ => .denied

theorem delete_answered {key : Bytes} (holds : file.Holds contents) (plain : session.Plain)
    (here : session.env? = some env) (roomEq : env.room = room)
    (tracks : env.Tracks contents age) (valid : session.config.Valid)
    (recent : age < UInt64.size) :
    ∃ after, session.Answered contents room (.delete key)
      (session.act (.delete key) room file) after := by
  have outcome := delete_outcome holds plain.single here tracks valid key
  unfold act
  dsimp only
  generalize session.delete key file = result at outcome
  have seatEq := seat?_of_some here
  cases outcome with
  | @ok found session' file' after bumps advances _ alike _ does =>
      have done := does recent
      refine ⟨after, advances.holds, plain.alike alike, Or.inl ?_⟩
      dsimp only [Reply.of]
      rw [alike.seat?_eq here, seatEq, done.found_eq, done.after_eq,
        Records.find?_erase_eq_update]
      exact .deleted done.writer
  | @error failure session' file' after advances alike _ refuses =>
      refine ⟨after, advances.holds, plain.alike alike, ?_⟩
      dsimp only [Reply.of]
      rw [alike.seat?_eq here, advances.records_eq rfl]
      apply answers_of_refuses here (refuses recent) (roomEq ▸ id) And.intro
      · exact fun _ => .deleteReadOnly
      · exact fun _ _ _ denied => denied.elim

theorem get_answered {key : Bytes} (holds : file.Holds contents) (plain : session.Plain)
    (here : session.env? = some env) (roomEq : env.room = room)
    (tracks : env.Tracks contents age) (recent : age < UInt64.size) :
    session.Answered contents room (.get key) (session.act (.get key) room file) contents := by
  have seatEq := seat?_of_some here
  unfold act get
  rcases view_cases holds plain.single here tracks with
    ⟨records, session', viewed, alike, _, same⟩ | ⟨far, cause, refused⟩
  · rw [viewed, same recent]
    refine ⟨holds, plain.alike alike, Or.inl ?_⟩
    dsimp only [Reply.of]
    rw [alike.seat?_eq here, seatEq]
    exact .got
  · rw [refused]
    exact ⟨holds, plain, answers_of_unmapped here (fun _ => id) (roomEq ▸ far) cause⟩

theorem isNext_destination (seat : Seat) (move : CursorMove) (records : Records) :
    Records.IsNext records.find? (seat.origin? move) (destination seat.cursor? move records) := by
  unfold Seat.origin? destination
  cases move with
  | first => exact records.isNext_first?
  | next =>
      cases seat.cursor? with
      | none => exact records.isNext_first?
      | some last => exact records.isNext_after? last

theorem seek_answered {move : CursorMove} (holds : file.Holds contents) (plain : session.Plain)
    (here : session.env? = some env) (roomEq : env.room = room)
    (tracks : env.Tracks contents age) (recent : age < UInt64.size) :
    session.Answered contents room (.seek move) (session.act (.seek move) room file)
      contents := by
  have seatEq := seat?_of_some here
  unfold act seek
  rcases view_cases holds plain.single here tracks with
    ⟨records, session', viewed, alike, _, same⟩ | ⟨far, cause, refused⟩
  · have next := isNext_destination ⟨env.flags.readOnly, session.cursor?⟩ move contents.records
    obtain ⟨env', there, kin⟩ := alike.env env here
    rw [viewed, same recent]
    dsimp only at next ⊢
    rw [alike.cursor?_eq]
    cases found : destination session.cursor? move contents.records with
    | none =>
        rw [found] at next
        refine ⟨holds, plain.alike alike, Or.inl ?_⟩
        dsimp only [Reply.of]
        rw [alike.seat?_eq here, seatEq]
        exact .sought next
    | some record =>
        have plain' := plain.alike alike
        rw [found] at next
        refine ⟨holds, ⟨plain'.single, plain'.idle⟩, Or.inl ?_⟩
        have moved : seat? { session' with cursor? := some record.1 } =
            some ⟨env.flags.readOnly, some record.1⟩ := by
          rw [← kin.flags_eq]
          exact seat?_of_some there
        dsimp only [Reply.of]
        rw [moved, seatEq]
        exact .sought next
  · rw [refused]
    exact ⟨holds, plain, answers_of_unmapped here (fun _ => id) (roomEq ▸ far) cause⟩

theorem act_answered {call : Call} (holds : file.Holds contents)
    (follows : session.Follows contents age) (plain : session.Plain)
    (roomy : ∀ env, session.env? = some env → env.room = room) (recent : age < UInt64.size)
    (noBulk : ∀ path flags bulk, call = .open path flags bulk → bulk = false) :
    ∃ after, session.Answered contents room call (session.act call room file) after := by
  by_cases opens : ∃ path flags bulk, call = .open path flags bulk
  · obtain ⟨path, flags, bulk, rfl⟩ := opens
    cases noBulk path flags bulk rfl
    exact open_answered holds plain
  · have other : ∀ path flags bulk, call ≠ .open path flags bulk :=
      fun path flags bulk same => opens ⟨path, flags, bulk, same⟩
    cases here : session.env? with
    | none =>
        exact ⟨contents, closed_answered holds ⟨follows.valid, here, plain.idle⟩ plain other⟩
    | some env =>
        have tracks := follows.tracks env here
        have roomEq := roomy env here
        cases call with
        | «open» path flags bulk => exact absurd rfl (other path flags bulk)
        | get key => exact ⟨contents, get_answered holds plain here roomEq tracks recent⟩
        | put key value keepExisting =>
            exact put_answered holds plain here roomEq tracks follows.valid recent
        | delete key => exact delete_answered holds plain here roomEq tracks follows.valid recent
        | seek move => exact ⟨contents, seek_answered holds plain here roomEq tracks recent⟩
        | commit =>
            refine ⟨contents, ?_⟩
            unfold act commit
            rw [plain.idle]
            exact ⟨holds, plain, Or.inl .committed⟩

theorem Plain.not_cutsBack (plain : session.Plain) (call : Call) (file : Image) :
    ¬ session.CutsBack call file := by
  rintro ⟨meets, _⟩
  cases call with
  | put key value keepExisting =>
      have bulk := meets.1
      rw [plain.single] at bulk
      cases bulk
  | commit =>
      obtain ⟨txn, _, _, waiting, _⟩ := meets
      rw [plain.idle] at waiting
      cases waiting
  | «open» _ _ _ => exact meets
  | get _ => exact meets
  | delete _ => exact meets
  | seek _ => exact meets

end Session

/-! ### Runs -/

structure Ledger where
  content : Content
  seat? : Nat → Option Seat

namespace Sessions

open Session (Call Reply Lands)

/-- Every call of a run answers from the ledger and leaves a ledger for the next one. Before
each call the file holds what the ledger says. -/
inductive Tallies : Sessions → List Request → Ledger → Ledger → Prop
  | nil {world : Sessions} {ledger : Ledger} : Tallies world [] ledger ledger
  | cons {world : Sessions} {request : Request} {rest : List Request} {ledger last : Ledger}
      {contents : Contents} {content : Content} {next? : Option Seat}
      (holds : world.file.Holds contents) (shows : contents.records.find? = ledger.content)
      (answers : Session.Serves ledger.content (ledger.seat? request.who) request.call
          (world.reply request) content next? ∨
        Session.Declines ((world.caller request).Strained contents request.room request.call)
          ((world.caller request).HasNoRoom contents request.call)
          (world.caller request).apiRetryLimit ledger.content (ledger.seat? request.who)
          request.call (world.reply request) content next?)
      (later : Tallies (world.step request) rest
        ⟨content, Function.update ledger.seat? request.who next?⟩ last) :
      Tallies world (request :: rest) ledger last

def NoBulk (requests : List Request) : Prop :=
  ∀ request ∈ requests, ∀ path flags bulk, request.call = .open path flags bulk → bulk = false

structure Mirrors (world : Sessions) (contents : Contents) (ledger : Ledger) : Prop where
  content_eq : ledger.content = contents.records.find?
  seat?_eq : ∀ who, ledger.seat? who = (world.session who).seat?
  plain : ∀ who, (world.session who).Plain

variable {world : Sessions} {contents : Contents} {ledger : Ledger} {age : Nat}
  {request : Request}

theorem Mirrors.step (mirrors : world.Mirrors contents ledger)
    (valid : world.Valid contents age) (recent : age < UInt64.size)
    (noBulk : ∀ path flags bulk, request.call = .open path flags bulk → bulk = false) :
    ∃ after content next?, (world.step request).Valid after (age + 1) ∧
      (world.step request).Mirrors after
        ⟨content, Function.update ledger.seat? request.who next?⟩ ∧
      (world.caller request).Answers contents request.room request.call (world.reply request)
        content next? := by
  have plain : (world.caller request).Plain :=
    ⟨(mirrors.plain request.who).single, (mirrors.plain request.who).idle⟩
  have roomy : ∀ env, (world.caller request).env? = some env → env.room = request.room := by
    intro env here
    obtain ⟨_, _, rfl⟩ := Option.map_eq_some_iff.mp here
    rfl
  obtain ⟨bumps, after, lands⟩ := valid.lands (plain.not_cutsBack request.call world.file)
  obtain ⟨same, answered⟩ := Session.act_answered valid.holds
    ((valid.follows request.who).withRoom request.room) plain roomy recent noBulk
  have afterEq := answered.holds.unique lands.advances.holds
  subst afterEq
  refine ⟨same, _, _, valid.land lands request.who, ⟨rfl, ?_, ?_⟩, answered.answers⟩
  · intro who
    change Function.update ledger.seat? request.who _ who =
      (Function.update world.session request.who (world.outcome request).2.1 who).seat?
    by_cases here : who = request.who
    · rw [here, Function.update_self, Function.update_self]
      rfl
    · rw [Function.update_of_ne here, Function.update_of_ne here]
      exact mirrors.seat?_eq who
  · exact (Function.forall_update_iff world.session fun _ session => session.Plain).mpr
      ⟨answered.plain, fun other _ => mirrors.plain other⟩

theorem Mirrors.run {requests : List Request} (mirrors : world.Mirrors contents ledger)
    (valid : world.Valid contents age) (recent : age + requests.length < UInt64.size)
    (noBulk : NoBulk requests) :
    ∃ last, Tallies world requests ledger last ∧
      ∃ after, (run requests world).file.Holds after ∧ after.records.find? = last.content := by
  induction requests generalizing world contents ledger age with
  | nil => exact ⟨ledger, .nil, contents, valid.holds, mirrors.content_eq.symm⟩
  | cons request rest ih =>
      rw [List.length_cons] at recent
      obtain ⟨after, content, next?, stepped, mirrored, answers⟩ :=
        mirrors.step valid (by omega) (noBulk request List.mem_cons_self)
      obtain ⟨last, tallies, ends⟩ := ih mirrored stepped (by omega)
        fun later member => noBulk later (List.mem_cons_of_mem request member)
      have seatEq : (world.caller request).seat? = ledger.seat? request.who := by
        rw [mirrors.seat?_eq]
        exact Session.seat?_withRoom _ _
      unfold Session.Answers at answers
      rw [seatEq, ← mirrors.content_eq] at answers
      exact ⟨last, .cons valid.holds mirrors.content_eq.symm answers tallies, ends⟩

/-- Sessions outside bulk mode behave as one map. From a database and sessions that were only
made, every run of fewer calls than there are generations answers from a ledger that begins
with the records of the file, and at the end the file holds what the ledger says. -/
theorem run_tallies {requests : List Request} (holds : world.file.Holds contents)
    (fresh : ∀ who, (world.session who).Fresh) (noBulk : NoBulk requests)
    (recent : requests.length < UInt64.size) :
    ∃ last, Tallies world requests ⟨contents.records.find?, fun _ => none⟩ last ∧
      ∃ after, (run requests world).file.Holds after ∧
        after.records.find? = last.content := by
  have closed := fun who => (fresh who).closed
  have valid : world.Valid contents 0 := ⟨holds, fun who => (closed who).1.follows contents 0⟩
  have mirrors : world.Mirrors contents ⟨contents.records.find?, fun _ => none⟩ :=
    { content_eq := rfl
      seat?_eq := fun who => by
        unfold Session.seat?
        rw [(closed who).1.noEnv]
        rfl
      plain := fun who => ⟨(closed who).2, (closed who).1.idle⟩ }
  exact mirrors.run valid (by omega) noBulk

def readerAndWriter : List Request :=
  [⟨0, .open "x.mdb" {} false, 65536⟩, ⟨1, .open "x.mdb" { readOnly := true } false, 65536⟩,
    ⟨0, .put [1] [2] false, 65536⟩, ⟨1, .seek .next, 65536⟩, ⟨1, .put [3] [4] false, 65536⟩,
    ⟨0, .delete [1], 65536⟩, ⟨1, .get [1], 65536⟩]

def small (file : Image) : Sessions where
  file := file
  session _ := Session.idle { initialMapSize := 4096 }

def unwritten : Image :=
  Environment.resized (Header.empty 4096) 4096 Image.empty

theorem run_tallies_readerAndWriter :
    (small unwritten).file.Holds ⟨Header.empty 4096, Records.empty⟩ ∧
      (∀ who, ((small unwritten).session who).Fresh) ∧ NoBulk readerAndWriter ∧
      readerAndWriter.length < UInt64.size ∧
      ∃ last, Tallies (small unwritten) readerAndWriter
          ⟨Records.empty.find?, fun _ => none⟩ last ∧
        ∃ after, (run readerAndWriter (small unwritten)).file.Holds after ∧
          after.records.find? = last.content := by
  have holds : (small unwritten).file.Holds ⟨Header.empty 4096, Records.empty⟩ :=
    Environment.holds_initialized (by decide) Image.empty
  have fresh : ∀ who, ((small unwritten).session who).Fresh := by
    intro who
    apply Session.fresh_idle
    exact ⟨by decide, by decide, by decide⟩
  have noBulk : NoBulk readerAndWriter := by
    intro request member path flags bulk opens
    simp only [readerAndWriter, List.mem_cons, List.not_mem_nil, or_false] at member
    rcases member with rfl | rfl | rfl | rfl | rfl | rfl | rfl
    · cases opens
      rfl
    · cases opens
      rfl
    all_goals cases opens
  exact ⟨holds, fresh, noBulk, by decide, run_tallies holds fresh noBulk (by decide)⟩

/-- A session that multiplies its map by so much that one growth step leaves no mapping. -/
def greedy : Sessions where
  file := Image.empty
  session _ := Session.idle { initialMapSize := 4096, growthMultiplier := 1099511627776 }

def putByOne : List Request :=
  [⟨0, .open "x.mdb" { create := true } false, 65536⟩, ⟨1, .open "x.mdb" {} false, 65536⟩,
    ⟨0, .put [107] [118] false, 65536⟩]

def truncatingReader : Request :=
  ⟨2, .open "x.mdb" { readOnly := true, truncate := true } false, 65536⟩

def striding : Sessions where
  file := Image.empty
  session _ := Session.idle
    { initialMapSize := 4096, growthMultiplier := 17179869184, maxMapSize := 70368744177664 }

def largePut (room : Nat) : Request :=
  ⟨1, .put [108] (List.replicate 4100 121) false, room⟩

set_option maxRecDepth 20000 in
/-- Three things beside the shared map. A read-only open that is to discard the records succeeds
and leaves them. A session that has no addresses for what another one has grown the map to reads
nothing. And a put fails when its growth step leads to a size that the system refuses. -/
theorem truncating_reader_and_refused_mapping :
    ((run putByOne (small Image.empty)).reply truncatingReader = .done ∧
      ((run putByOne (small Image.empty)).step truncatingReader).reply
        ⟨2, .get [107], 65536⟩ = .value (some [118])) ∧
    ((run putByOne striding).reply (largePut 70368744177664) = .done ∧
      ((run putByOne striding).step (largePut 70368744177664)).reply ⟨0, .get [107], 65536⟩ =
        .failed (.io .outOfAddresses)) ∧
    (run putByOne striding).reply (largePut 65536) = .failed (.io .outOfAddresses) := by
  refine ⟨⟨?_, ?_⟩, ⟨?_, ?_⟩, ?_⟩
  · decide +kernel
  · decide +kernel
  · decide +kernel
  · decide +kernel
  · decide +kernel

end Sessions

end RecordFile
