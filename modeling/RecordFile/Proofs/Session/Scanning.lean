/-
Scans while the file changes.

A scan remembers the key that it returned last, and nothing of the file. Between its steps the
same session and all others may store, delete, grow the map or open the file. Each step looks
at what is committed by then, so what a scan returns ascends, and a key that stays present is
neither skipped nor returned twice. A step that finds nothing leaves the scan where it is, and
the next one goes on from there.

Only reading can keep a step from an answer, when the system refuses to map the file. Such a
step does not move the scan.
-/

import Mathlib.Data.List.Nodup
import RecordFile.Proofs.Session.Fitting
import RecordFile.Proofs.Session.Readers

namespace RecordFile

def CursorMove.origin? (cursor? : Option Bytes) : CursorMove → Option Bytes
  | .first => none
  | .next => cursor?

namespace Session

open Environment (Mappable)

variable {session : Session} {contents : Contents} {content content' : Content} {seat : Seat}
  {next? : Option Seat} {call : Call} {reply : Reply} {room : Nat}

/-! ### One call -/

theorem Answers.found {record : Record} (here : session.seat? = some seat)
    (answers : session.Answers contents room call reply content next?)
    (found : reply.record? = some record) :
    ∃ move, call = .seek move ∧
      Records.IsNext contents.records.find? (seat.origin? move) (some record) := by
  unfold Answers at answers
  rw [here] at answers
  rcases answers with serves | declines
  · cases serves with
    | @sought _ move _ next =>
        cases found
        exact ⟨move, rfl, next⟩
    | _ => cases found
  · cases declines with
    | _ => cases found

/-- What a move of the cursor comes to: the record with the least key above the origin, if there
is one, unless the map cannot be mapped. -/
def Seeks (contents : Contents) (room : Nat) (origin? : Option Bytes) (reply : Reply) : Prop :=
  (∃ record?, reply = .record record? ∧
    Records.IsNext contents.records.find? origin? record?) ∨
  (¬ Mappable room contents.header.mapSize ∧ ∃ cause, reply = .failed (.io cause))

theorem Answers.seeks {move : CursorMove} (here : session.seat? = some seat)
    (answers : session.Answers contents room (.seek move) reply content next?) :
    Seeks contents room (seat.origin? move) reply := by
  unfold Answers at answers
  rw [here] at answers
  rcases answers with serves | declines
  · cases serves with
    | sought next => exact .inl ⟨_, rfl, next⟩
  · cases declines with
    | io _ refused => exact .inr ⟨refused, _, rfl⟩
    | retryLimit _ _ noRoom => exact noRoom.elim

theorem single_of_opens (single : session.bulk = false)
    (noBulk : ∀ path flags bulk, call = .open path flags bulk → bulk = false)
    (opens : call.Opens) (room : Nat) (file : Image) :
    (session.act call room file).2.1.bulk = false := by
  cases call with
  | «open» path flags bulk =>
      rcases session.open_settles path flags bulk room file with same | ⟨settled, _⟩
      · rw [same]
        exact single
      · exact settled.trans (noBulk path flags bulk rfl)
  | _ => exact opens.elim

end Session

namespace Sessions

open Session (Call Reply Seeks)

variable {world : Sessions} {contents : Contents} {age who : Nat} {cursor? : Option Bytes}
  {request : Request} {requests : List Request}

/-! ### Sessions outside bulk mode -/

theorem step_plain {request : Request} (plain : ∀ who, (world.session who).Plain)
    (noBulk : ∀ path flags bulk, request.call = .open path flags bulk → bulk = false) :
    ∀ who, ((world.step request).session who).Plain := by
  apply (Function.forall_update_iff world.session fun _ found => found.Plain).mpr
  refine ⟨?_, fun other _ => plain other⟩
  have before : (world.caller request).bulk = false := (plain request.who).single
  have idle : (world.caller request).Orderly := fun _ => (plain request.who).idle
  have single : (world.outcome request).2.1.bulk = false := by
    by_cases opens : request.call.Opens
    · exact Session.single_of_opens before noBulk opens _ _
    · have other := Session.not_opens_iff.mp opens
      exact (Session.retains_act _ _ other _).bulk_eq.trans before
  exact ⟨single, idle.act request.call request.room world.file single⟩

theorem NoBulk.run_plain (noBulk : NoBulk requests) (plain : ∀ who, (world.session who).Plain) :
    ∀ who, ((run requests world).session who).Plain := by
  induction requests generalizing world with
  | nil => exact plain
  | cons request rest ih =>
      exact ih (fun later member => noBulk later (List.mem_cons_of_mem request member))
        (step_plain plain (noBulk request List.mem_cons_self))

/-- Without bulk mode nothing is restarted. -/
theorem NoBulk.along_not_cutsBack (noBulk : NoBulk requests)
    (plain : ∀ who, (world.session who).Plain) :
    Along Sessions.step (fun world request => ¬ world.CutsBack request) requests world := by
  induction requests generalizing world with
  | nil => trivial
  | cons request rest ih =>
      have caller : (world.caller request).Plain :=
        ⟨(plain request.who).single, (plain request.who).idle⟩
      exact ⟨caller.not_cutsBack request.call world.file,
        ih (fun later member => noBulk later (List.mem_cons_of_mem request member))
          (step_plain plain (noBulk request List.mem_cons_self))⟩

/-! ### A session that scans -/

structure Scanning (world : Sessions) (who : Nat) (cursor? : Option Bytes) (contents : Contents)
    (age : Nat) : Prop where
  valid : world.Valid contents age
  plain : (world.session who).Plain
  seated : ∃ readOnly, (world.session who).seat? = some ⟨readOnly, cursor?⟩

def found? (who : Nat) (world : Sessions) (request : Request) : Option Record :=
  if request.who = who then (world.reply request).record? else none

def returned (who : Nat) : List Request → Sessions → List Record
  | [], _ => []
  | request :: rest, world =>
      (found? who world request).toList ++ returned who rest (world.step request)

theorem returned_cons (who : Nat) (request : Request) (rest : List Request) (world : Sessions) :
    returned who (request :: rest) world =
      (found? who world request).toList ++ returned who rest (world.step request) := rfl

def Stays (who : Nat) (request : Request) : Prop :=
  request.who = who → ¬ request.call.Opens

theorem Scanning.caller (scanning : world.Scanning who cursor? contents age)
    (mine : request.who = who) :
    (world.caller request).Plain ∧
      ∃ readOnly, (world.caller request).seat? = some ⟨readOnly, cursor?⟩ := by
  subst mine
  refine ⟨⟨scanning.plain.single, scanning.plain.idle⟩, ?_⟩
  unfold Sessions.caller
  rw [Session.seat?_withRoom]
  exact scanning.seated

theorem Scanning.answered (scanning : world.Scanning who cursor? contents age)
    (recent : age < UInt64.size) (mine : request.who = who) (stays : ¬ request.call.Opens) :
    ∃ after, (world.caller request).Answered contents request.room request.call
      (world.outcome request) after :=
  Session.act_answered scanning.valid.holds
    ((scanning.valid.follows request.who).withRoom request.room) (scanning.caller mine).1
    (roomy_caller world request) recent
    (fun path flags bulk same => absurd same (Session.not_opens_iff.mp stays path flags bulk))

/-- One step of anybody: the cursor is at the record that was returned, or where it was. -/
theorem Scanning.step (scanning : world.Scanning who cursor? contents age)
    (recent : age < UInt64.size) (safe : ¬ world.CutsBack request) (stays : Stays who request) :
    ∃ after, (world.step request).Scanning who
      (((found? who world request).map Prod.fst).or cursor?) after (age + 1) := by
  obtain ⟨bumps, after, lands⟩ := scanning.valid.lands safe
  refine ⟨after, ?_⟩
  by_cases mine : request.who = who
  · obtain ⟨_, answered⟩ := scanning.answered recent mine (stays mine)
    obtain ⟨readOnly, seated⟩ := (scanning.caller mine).2
    have moved : (world.outcome request).2.1.seat? = some ⟨readOnly,
        (((world.reply request).record?).map Prod.fst).or cursor?⟩ :=
      answered.answers.moves seated (stays mine)
    have place : (world.step request).session who = (world.outcome request).2.1 := by
      rw [← mine]
      exact Function.update_self _ _ _
    refine ⟨scanning.valid.land lands request.who, place ▸ answered.plain, readOnly, ?_⟩
    rw [place, moved, found?, if_pos mine]
  · have place : (world.step request).session who = world.session who :=
      Function.update_of_ne (Ne.symm mine) _ _
    refine ⟨scanning.valid.land lands request.who, place ▸ scanning.plain, ?_⟩
    rw [place, found?, if_neg mine]
    exact scanning.seated

theorem Scanning.seeks (scanning : world.Scanning who cursor? contents age) (request : Request)
    (recent : age < UInt64.size) (mine : request.who = who) {move : CursorMove}
    (seek : request.call = .seek move) :
    Seeks contents request.room (move.origin? cursor?) (world.reply request) := by
  obtain ⟨_, answered⟩ := scanning.answered recent mine (by rw [seek]; exact id)
  obtain ⟨readOnly, seated⟩ := (scanning.caller mine).2
  have answers := answered.answers
  rw [seek] at answers
  have sought := answers.seeks seated
  cases move with
  | first => exact sought
  | next => exact sought

def Continues (who : Nat) (request : Request) : Prop :=
  Stays who request ∧ ∀ move, request.who = who → request.call = .seek move → move = .next

theorem Scanning.found (scanning : world.Scanning who cursor? contents age)
    (recent : age < UInt64.size) (continues : Continues who request) {record : Record}
    (found : found? who world request = some record) :
    Records.IsNext contents.records.find? cursor? (some record) := by
  unfold found? at found
  split at found
  · next mine =>
      obtain ⟨_, answered⟩ := scanning.answered recent mine (continues.1 mine)
      obtain ⟨readOnly, seated⟩ := (scanning.caller mine).2
      obtain ⟨move, seek, next⟩ := answered.answers.found seated found
      cases continues.2 move mine seek
      exact next
  · cases found

/-! ### Runs -/

/-- The cursor of a session ends at the record that the session was returned last. -/
theorem Scanning.run (scanning : world.Scanning who cursor? contents age)
    (safe : Along Sessions.step (fun world request => ¬ world.CutsBack request) requests world)
    (recent : age + requests.length ≤ UInt64.size)
    (stays : ∀ request ∈ requests, Stays who request) :
    ∃ after, (run requests world).Scanning who
      (((returned who requests world).getLast?.map Prod.fst).or cursor?) after
      (age + requests.length) := by
  induction requests generalizing world cursor? contents age with
  | nil => exact ⟨contents, scanning⟩
  | cons request rest ih =>
      rw [List.length_cons] at recent
      obtain ⟨_, stepped⟩ := scanning.step (by omega) safe.1 (stays request List.mem_cons_self)
      obtain ⟨after, ended⟩ := ih stepped safe.2 (by omega)
        fun later member => stays later (List.mem_cons_of_mem request member)
      refine ⟨after, ?_⟩
      rw [List.length_cons, Nat.add_comm rest.length, ← Nat.add_assoc]
      have place : ((returned who (request :: rest) world).getLast?.map Prod.fst).or cursor? =
          ((returned who rest (world.step request)).getLast?.map Prod.fst).or
            (((found? who world request).map Prod.fst).or cursor?) := by
        rw [returned_cons, List.getLast?_append, Option.map_or, Option.or_assoc]
        cases found? who world request with
        | none => rfl
        | some record => rfl
      rw [place]
      exact ended

/-- What comes after the cursor has gone to a record is above that record. -/
private theorem ascending_append {found? : Option Record} {later : List Record}
    (sorted : (later.map Prod.fst).Pairwise (· < ·))
    (above : ∀ record ∈ later, ∀ last, (found?.map Prod.fst).or cursor? = some last →
      last < record.1) : ((found?.toList ++ later).map Prod.fst).Pairwise (· < ·) := by
  cases found? with
  | none => exact sorted
  | some record =>
      rw [Option.toList_some, List.singleton_append, List.map_cons, List.pairwise_cons]
      refine ⟨?_, sorted⟩
      intro key member
      obtain ⟨next, among, rfl⟩ := List.mem_map.mp member
      exact above next among record.1 rfl

/-- A scan that goes on returns ascending keys above the place of the cursor. -/
theorem Scanning.ascends (scanning : world.Scanning who cursor? contents age)
    (safe : Along Sessions.step (fun world request => ¬ world.CutsBack request) requests world)
    (recent : age + requests.length ≤ UInt64.size)
    (continues : ∀ request ∈ requests, Continues who request) :
    ((returned who requests world).map Prod.fst).Pairwise (· < ·) ∧
      ∀ record ∈ returned who requests world, ∀ last, cursor? = some last → last < record.1 := by
  induction requests generalizing world cursor? contents age with
  | nil => simp [returned]
  | cons request rest ih =>
      rw [List.length_cons] at recent
      have here := continues request List.mem_cons_self
      obtain ⟨_, stepped⟩ := scanning.step (by omega) safe.1 here.1
      obtain ⟨sorted, above⟩ := ih stepped safe.2 (by omega)
        fun later member => continues later (List.mem_cons_of_mem request member)
      refine ⟨ascending_append sorted above, ?_⟩
      intro record member last same
      rw [returned_cons] at member
      cases found : found? who world request with
      | none =>
          rw [found] at member above
          exact above record member last same
      | some head =>
          have passed := (scanning.found (by omega) here found).1.2 last same
          rw [found] at member above
          rcases List.mem_cons.mp member with rfl | among
          · exact passed
          · exact Bytes.lt_trans passed (above record among head.1 rfl)

/-! ### Keys that stay -/

def Stores (key : Bytes) (world : Sessions) : Prop :=
  ∃ contents, world.file.Holds contents ∧ contents.records.find? key ≠ none

/-- What holds before a run, and after each of its calls. -/
def Throughout (law : Sessions → Prop) : List Request → Sessions → Prop
  | [], world => law world
  | request :: rest, world => law world ∧ Throughout law rest (world.step request)

theorem Throughout.here {law : Sessions → Prop} (throughout : Throughout law requests world) :
    law world := by
  cases requests with
  | nil => exact throughout
  | cons request rest => exact throughout.1

theorem Scanning.stored (scanning : world.Scanning who cursor? contents age) {key : Bytes}
    (stores : Stores key world) : ∃ value, contents.records.find? key = some value := by
  obtain ⟨found, holds, present⟩ := stores
  cases holds.unique scanning.valid.holds
  exact Option.ne_none_iff_exists'.mp present

/-- A key that stays present above the cursor has been returned when the end is reached. -/
theorem Scanning.complete (scanning : world.Scanning who cursor? contents age)
    (safe : Along Sessions.step (fun world request => ¬ world.CutsBack request) requests world)
    (recent : age + requests.length < UInt64.size)
    (continues : ∀ request ∈ requests, Continues who request) {key : Bytes}
    (stays : Throughout (Stores key) requests world)
    (ahead : ∀ last, cursor? = some last → last < key) (mine : request.who = who)
    (seek : request.call = .seek .next)
    (ended : (Sessions.run requests world).reply request = .record none) :
    key ∈ (returned who requests world).map Prod.fst := by
  obtain ⟨value, present⟩ := scanning.stored stays.here
  induction requests generalizing world cursor? contents age value with
  | nil =>
      rcases scanning.seeks request (by simpa using recent) mine seek with
        ⟨record?, replied, next⟩ | ⟨_, cause, replied⟩
      · cases replied.symm.trans ended
        exact absurd ⟨present, ahead⟩ (next (key, value))
      · cases replied.symm.trans ended
  | cons first rest ih =>
      rw [List.length_cons] at recent
      have here := continues first List.mem_cons_self
      obtain ⟨_, stepped⟩ := scanning.step (by omega) safe.1 here.1
      obtain ⟨_, present'⟩ := stepped.stored stays.2.here
      have later := fun ahead => ih stepped safe.2 (by omega)
        (fun later member => continues later (List.mem_cons_of_mem first member)) stays.2 ahead
        ended _ present'
      rw [returned_cons]
      cases found : found? who world first with
      | none =>
          rw [found] at later
          exact later ahead
      | some record =>
          rw [found] at later
          have next := scanning.found (by omega) here found
          rcases next.2 (key, value) ⟨present, ahead⟩ with same | beyond
          · exact List.mem_map.mpr ⟨record, List.mem_cons_self, by rw [← same]⟩
          · refine List.mem_cons_of_mem _ (later ?_)
            intro last passed
            cases passed
            exact beyond

/-! ### Scans -/

def firstSeek (who room : Nat) : Request :=
  ⟨who, .seek .first, room⟩

theorem stays_firstSeek (who room : Nat) : Stays who (firstSeek who room) :=
  fun _ => id

variable {rest : List Request} {room : Nat}

theorem Scanning.ascending (scanning : world.Scanning who cursor? contents age)
    (safe : Along Sessions.step (fun world request => ¬ world.CutsBack request)
      (firstSeek who room :: rest) world)
    (recent : age + (firstSeek who room :: rest).length ≤ UInt64.size)
    (continues : ∀ request ∈ rest, Continues who request) :
    ((returned who (firstSeek who room :: rest) world).map Prod.fst).Pairwise (· < ·) := by
  rw [List.length_cons] at recent
  obtain ⟨_, stepped⟩ := scanning.step (by omega) safe.1 (stays_firstSeek who room)
  obtain ⟨sorted, above⟩ := stepped.ascends safe.2 (by omega) continues
  exact ascending_append sorted above

def threeStored : List Request :=
  [⟨0, .open "x.mdb" { create := true } false, 65536⟩, ⟨1, .open "x.mdb" {} false, 65536⟩,
    ⟨1, .put [97] [1] false, 65536⟩, ⟨1, .put [98] [2] false, 65536⟩,
    ⟨1, .put [99] [3] false, 65536⟩]

end Sessions

end RecordFile
