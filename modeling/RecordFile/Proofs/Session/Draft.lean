/-
What a bulk session works on.

A bulk session reads and writes a draft of the records. The draft is what the pending
transaction holds, and before one begins it is what the file holds. A call edits the draft, or
publishes or discards all of it; nothing else of a bulk session reaches the file, but for the
size of its map.
-/

import RecordFile.Proofs.Session.Ledger

namespace RecordFile

namespace Session

open Environment (readHeader Mappable Kin)

def draft (session : Session) (committed : Records) : Records :=
  match session.pending? with
  | some txn => txn.records
  | none => committed

structure Drafts (session : Session) (contents : Contents) (age : Nat) : Prop where
  bulk : session.bulk = true
  follows : session.Follows contents age
  writer : ∃ env, session.env? = some env ∧ env.flags.readOnly = false

def Mapped (session : Session) (contents : Contents) : Prop :=
  session.pending? ≠ none → ∀ env, session.env? = some env →
    env.mapSize = contents.header.mapSize

/-- What a call answers from a draft, and what it makes of the draft and of the cursor. -/
inductive Edits (draft : Records) (seat : Seat) : Call → Reply → Records → Seat → Prop
  | got {key : Bytes} : Edits draft seat (.get key) (.value (draft.find? key)) draft seat
  | sought {move : CursorMove} {record? : Option Record}
      (next : Records.IsNext draft.find? (seat.origin? move) record?) :
      Edits draft seat (.seek move) (.record record?) draft (seat.moved record?)
  | stored {key value : Bytes} {keepExisting : Bool}
      (admitted : (putRules draft.find? key value keepExisting).admits) :
      Edits draft seat (.put key value keepExisting) .done (draft.insert key value) seat
  | denied {key value : Bytes} {keepExisting : Bool} {failure : EngineError}
      (denied : (putRules draft.find? key value keepExisting).denies failure) :
      Edits draft seat (.put key value keepExisting) (.failed failure) draft seat
  | deleted {key : Bytes} :
      Edits draft seat (.delete key) (.found (draft.find? key).isSome) (draft.erase key) seat

def Call.Reads : Call → Prop
  | .get _ => True
  | .seek _ => True
  | _ => False

/-- Calls that may meet a full map. -/
def Call.Fills : Call → Prop
  | .put _ _ _ => True
  | .commit => True
  | _ => False

inductive Discards (overgrown : Prop) (limit : Nat) : EngineError → Prop
  | retry : Discards overgrown limit .retry
  | retryLimit {cause : EngineError} (full : cause.isMapFull = true) :
      Discards overgrown limit (.retryLimit limit cause)
  | io {cause : SystemError} (refused : overgrown) : Discards overgrown limit (.io cause)

/-- The system refuses the next growth step, which starts from all of the map if that is
mapped. -/
def Overgrown (session : Session) (contents : Contents) : Prop :=
  session.Mapped contents → ∃ env, session.env? = some env ∧
    ¬ Mappable env.room (nextSize session.config contents.header.mapSize)

inductive Drafted (session : Session) (file : Image) (contents : Contents) (age : Nat) :
    Call → Reply × Session × Image → Prop
  | edited {call : Call} {reply : Reply} {session' : Session} {txn : Transaction}
      (begun : session'.pending? = some txn)
      (edits : Edits (session.draft contents.records) ⟨false, session.cursor?⟩ call reply
        txn.records ⟨false, session'.cursor?⟩)
      (drafts : session'.Drafts contents age)
      (mapped : session.Mapped contents → session'.Mapped contents) :
      Drafted session file contents age call (reply, session', file)
  /-- No transaction could begin, because the map cannot be mapped. -/
  | refused {call : Call} {env : Environment} {cause : SystemError} (asks : call ≠ .commit)
      (idle : session.pending? = none) (here : session.env? = some env)
      (far : ¬ Mappable env.room contents.header.mapSize) :
      Drafted session file contents age call (.failed (.io cause), session, file)
  | discarded {call : Call} {failure : EngineError} {session' : Session} {file' : Image}
      {after : Contents} (fills : call.Fills)
      (discards : Discards (session.Overgrown contents) session.bulkRetryLimit failure)
      (advances : Advances 0 file contents file' after) (drafts : session'.Drafts after age)
      (idle : session'.pending? = none) (noCursor : session'.cursor? = none) :
      Drafted session file contents age call (.failed failure, session', file')
  | published {session' : Session} {file' : Image} {after : Contents} {bumps : Nat}
      (advances : Advances bumps file contents file' after) (once : bumps ≤ 1)
      (mapSize_eq : after.header.mapSize = contents.header.mapSize)
      (records_eq : after.records = session.draft contents.records)
      (drafts : session'.Drafts after age) (idle : session'.pending? = none)
      (cursor_eq : session'.cursor? = session.cursor?) :
      Drafted session file contents age .commit (.done, session', file')

variable {session session' : Session} {env : Environment} {file file' : Image}
  {contents after : Contents} {age : Nat} {txn : Transaction} {call : Call} {records : Records}

theorem Edits.get_eq {draft draft' : Records} {seat seat' : Seat} {key : Bytes} {reply : Reply}
    (edits : Edits draft seat (.get key) reply draft' seat') :
    reply = .value (draft.find? key) ∧ draft' = draft := by
  cases edits
  exact ⟨rfl, rfl⟩

theorem Edits.seek_eq {draft draft' : Records} {seat seat' : Seat} {move : CursorMove}
    {reply : Reply} (edits : Edits draft seat (.seek move) reply draft' seat') :
    (∃ record?, reply = .record record?) ∧ draft' = draft := by
  cases edits
  exact ⟨⟨_, rfl⟩, rfl⟩

theorem Edits.delete_eq {draft draft' : Records} {seat seat' : Seat} {key : Bytes} {reply : Reply}
    (edits : Edits draft seat (.delete key) reply draft' seat') :
    reply = .found (draft.find? key).isSome ∧ draft' = draft.erase key := by
  cases edits
  exact ⟨rfl, rfl⟩

theorem Edits.put_cases {draft draft' : Records} {seat seat' : Seat} {key value : Bytes}
    {keepExisting : Bool} {reply : Reply}
    (edits : Edits draft seat (.put key value keepExisting) reply draft' seat') :
    (reply = .done ∧ (putRules draft.find? key value keepExisting).admits ∧
      draft' = draft.insert key value) ∨
    (∃ failure, reply = .failed failure ∧
      (putRules draft.find? key value keepExisting).denies failure ∧ draft' = draft) := by
  cases edits with
  | stored admitted => exact Or.inl ⟨rfl, admitted, rfl⟩
  | denied denied => exact Or.inr ⟨_, rfl, denied, rfl⟩

theorem draft_of_idle (idle : session.pending? = none) (committed : Records) :
    session.draft committed = committed := by
  rw [draft, idle]

theorem draft_of_pending (waiting : session.pending? = some txn) (committed : Records) :
    session.draft committed = txn.records := by
  rw [draft, waiting]

theorem mapped_of_idle (idle : session.pending? = none) : session.Mapped contents :=
  fun waits => absurd idle waits

/-- A session that maps all of the map when it restarts does not cut the file back. -/
theorem Mapped.not_cutsBack (mapped : session.Mapped contents) (holds : file.Holds contents)
    (call : Call) : ¬ session.CutsBack call file := by
  rintro ⟨meets, header, read, falls⟩
  rw [holds.readable] at read
  cases read
  obtain ⟨env, here, _, _⟩ := falls.2
  have waits : session.pending? ≠ none := by
    cases call with
    | put key value keepExisting =>
        obtain ⟨_, txn, _, waiting, _⟩ := meets
        rw [waiting]
        exact Option.some_ne_none txn
    | commit =>
        obtain ⟨txn, _, _, waiting, _⟩ := meets
        rw [waiting]
        exact Option.some_ne_none txn
    | «open» _ _ _ => exact meets.elim
    | get _ => exact meets.elim
    | delete _ => exact meets.elim
    | seek _ => exact meets.elim
  exact not_fallsShort here (mapped waits env here) falls

theorem Drafts.retold (drafts : session.Drafts contents age) (retries : Nat)
    (notifications : List Notification) :
    Drafts { session with bulkRetries := retries, notifications := notifications } contents age :=
  ⟨drafts.bulk, drafts.follows.retold retries notifications, drafts.writer⟩

theorem Drafts.withRoom (drafts : session.Drafts contents age) (room : Nat) :
    (session.withRoom room).Drafts contents age where
  bulk := drafts.bulk
  follows := drafts.follows.withRoom room
  writer := by
    obtain ⟨env, here, writer⟩ := drafts.writer
    unfold Session.withRoom
    rw [here]
    exact ⟨_, rfl, writer⟩

theorem Mapped.withRoom (mapped : session.Mapped contents) (room : Nat) :
    (session.withRoom room).Mapped contents := by
  intro waits env here
  obtain ⟨found, there, rfl⟩ := Option.map_eq_some_iff.mp here
  exact mapped waits found there

/-! ### The pending transaction -/

structure Resumes (session : Session) (contents : Contents) (age : Nat) (txn : Transaction)
    (session' : Session) : Prop where
  waiting : session'.pending? = some txn
  records_eq : txn.records = session.draft contents.records
  follows : session'.Follows contents age
  alike : session.Alike { session' with pending? := session.pending? }
  fresh : session' = session ∨
    ∃ env, session'.env? = some env ∧ env.mapSize = contents.header.mapSize

namespace Resumes

theorem cursor?_eq (resumes : session.Resumes contents age txn session') :
    session'.cursor? = session.cursor? :=
  resumes.alike.cursor?_eq

theorem drafts (resumes : session.Resumes contents age txn session')
    (before : session.Drafts contents age) : session'.Drafts contents age where
  bulk := resumes.alike.bulk_eq.trans before.bulk
  follows := resumes.follows
  writer := resumes.follows.writer txn resumes.waiting

theorem mapped (resumes : session.Resumes contents age txn session')
    (before : session.Mapped contents) : session'.Mapped contents := by
  rcases resumes.fresh with rfl | ⟨env, here, mapSize_eq⟩
  · exact before
  · intro _ found there
    rw [here] at there
    cases there
    exact mapSize_eq

end Resumes

theorem bulkTransaction_resumes (holds : file.Holds contents)
    (drafts : session.Drafts contents age) (recent : age < UInt64.size) :
    (∃ txn session', session.bulkTransaction file = (.ok txn, session') ∧
      session.Resumes contents age txn session') ∨
    (session.pending? = none ∧ ∃ env cause, session.env? = some env ∧
      ¬ Mappable env.room contents.header.mapSize ∧
      session.bulkTransaction file = (.error (.io cause), session)) := by
  obtain ⟨env, here, writer⟩ := drafts.writer
  have begins := bulkTransaction_begins holds drafts.follows
  generalize session.bulkTransaction file = result at begins ⊢
  cases begins with
  | resumed waiting =>
      exact Or.inl ⟨_, _, rfl, waiting, (draft_of_pending waiting _).symm, drafts.follows,
        Alike.refl session, Or.inl rfl⟩
  | began idle waiting alike follows there mapSize_eq records_eq =>
      refine Or.inl ⟨_, _, rfl, waiting, ?_, follows, ?_, Or.inr ⟨_, there, mapSize_eq⟩⟩
      · rw [draft_of_idle idle, records_eq recent]
      · rw [idle]
        exact alike
  | closed _ noEnv =>
      rw [here] at noEnv
      cases noEnv
  | readOnly _ there reader =>
      rw [here] at there
      cases there
      rw [writer] at reader
      cases reader
  | unmapped idle there far => exact Or.inr ⟨idle, _, _, there, far, rfl⟩

/-! ### Reading -/

/-- Reading answers from the records in view and moves nothing but the cursor. -/
theorem act_of_view (reads : call.Reads) (viewed : session.view file = (.ok records, session'))
    (still : session'.cursor? = session.cursor?) (readOnly : Bool) (room : Nat) :
    ∃ reply cursor?,
      session.act call room file = (reply, { session' with cursor? := cursor? }, file) ∧
      Edits records ⟨readOnly, session.cursor?⟩ call reply records ⟨readOnly, cursor?⟩ := by
  cases call with
  | get key =>
      unfold act get
      rw [viewed]
      rw [← still]
      exact ⟨_, _, rfl, .got⟩
  | seek move =>
      have next := isNext_destination ⟨readOnly, session.cursor?⟩ move records
      unfold act seek
      rw [viewed]
      dsimp only at next ⊢
      rw [still]
      cases found : destination session.cursor? move records with
      | none =>
          rw [found] at next
          refine ⟨_, session'.cursor?, rfl, ?_⟩
          rw [still]
          exact .sought next
      | some record =>
          rw [found] at next
          exact ⟨_, _, rfl, .sought next⟩
  | «open» _ _ _ => exact reads.elim
  | put _ _ _ => exact reads.elim
  | delete _ => exact reads.elim
  | commit => exact reads.elim

theorem act_of_view_error (reads : call.Reads) {failure : EngineError}
    (refused : session.view file = (.error failure, session')) (room : Nat) :
    session.act call room file = (.failed failure, session', file) := by
  cases call with
  | get key =>
      unfold act get
      rw [refused]
      rfl
  | seek move =>
      unfold act seek
      rw [refused]
      rfl
  | «open» _ _ _ => exact reads.elim
  | put _ _ _ => exact reads.elim
  | delete _ => exact reads.elim
  | commit => exact reads.elim

theorem Call.Reads.ne_commit (reads : call.Reads) : call ≠ .commit := by
  rintro rfl
  exact reads

theorem Call.Reads.not_fills (reads : call.Reads) : ¬ call.Fills := by
  intro fills
  cases call with
  | get _ => exact fills
  | seek _ => exact fills
  | «open» _ _ _ => exact reads
  | put _ _ _ => exact reads
  | delete _ => exact reads
  | commit => exact reads

theorem Call.Reads.ne_open (reads : call.Reads) (path : String) (flags : OpenFlags)
    (bulk : Bool) : call ≠ .open path flags bulk := by
  rintro rfl
  exact reads

theorem Follows.seated (follows : session.Follows contents age) (cursor? : Option Bytes) :
    Follows { session with cursor? := cursor? } contents age :=
  ⟨follows.valid, follows.tracks, follows.sound, follows.writer⟩

theorem view_of_bulk (bulk : session.bulk = true) {result : Except EngineError Transaction}
    (begun : session.bulkTransaction file = (result, session')) :
    session.view file = (result.map (·.records), session') := by
  unfold view
  rw [if_pos bulk, begun]
  cases result with
  | error failure => rfl
  | ok txn => rfl

theorem read_drafted (holds : file.Holds contents) (drafts : session.Drafts contents age)
    (recent : age < UInt64.size) (reads : call.Reads) (room : Nat) :
    session.Drafted file contents age call (session.act call room file) := by
  rcases bulkTransaction_resumes holds drafts recent with
    ⟨txn, session', begun, resumes⟩ | ⟨idle, env, cause, here, far, refused⟩
  · have viewed := view_of_bulk drafts.bulk begun
    obtain ⟨reply, cursor?, acted, edits⟩ :=
      act_of_view reads viewed resumes.cursor?_eq false room
    have drafts' := resumes.drafts drafts
    rw [acted]
    refine .edited resumes.waiting ?_ ⟨drafts'.bulk, drafts'.follows.seated cursor?,
      drafts'.writer⟩ resumes.mapped
    rw [← resumes.records_eq]
    exact edits
  · rw [act_of_view_error reads (view_of_bulk drafts.bulk refused) room]
    exact .refused reads.ne_commit idle here far

/-! ### Writing -/

/-- The transaction of the session may be replaced by any other that is sound. -/
theorem Resumes.replace (resumes : session.Resumes contents age txn session')
    (before : session.Drafts contents age) {later : Transaction} (sound : later.Sound) :
    Drafts { session' with pending? := some later } contents age ∧
      (session.Mapped contents → Mapped { session' with pending? := some later } contents) := by
  have drafts := resumes.drafts before
  obtain ⟨env, here, writer⟩ := drafts.writer
  refine ⟨⟨drafts.bulk, drafts.follows.pend sound here writer, drafts.writer⟩, ?_⟩
  intro mapped _
  apply resumes.mapped mapped
  rw [resumes.waiting]
  exact Option.some_ne_none txn

/-- A restart discards the draft. -/
theorem restart_discards {α : Type} (holds : file.Holds contents)
    (drafts : session.Drafts contents age) (safe : ¬ session.FallsShort contents.header)
    (cause : EngineError) :
    ∃ failure session' file' after,
      session.restart (α := α) cause file = (.error failure, session', file') ∧
      session.Abandons cause failure ∧ Advances 0 file contents file' after ∧
      session'.Drafts after age ∧ session'.pending? = none ∧ session'.cursor? = none := by
  obtain ⟨env, here, writer⟩ := drafts.writer
  obtain ⟨failure, session', retries, file', after, restarted, abandons, alike, advances,
    follows⟩ := restart_cases (α := α) holds drafts.follows here writer safe cause
  obtain ⟨env', there, kin⟩ := alike.env env here
  refine ⟨failure, _, file', after, restarted, abandons, advances, ⟨?_, follows, ?_⟩, ?_, ?_⟩
  · exact alike.bulk_eq.trans drafts.bulk
  · exact ⟨env', there, by rw [kin.flags_eq, writer]⟩
  · exact alike.pending?_eq
  · exact alike.cursor?_eq

/-- What a session gives up after it has begun its transaction, it gives up from the state
before. -/
theorem Resumes.discards (resumes : session.Resumes contents age txn session')
    (before : session.Drafts contents age) {cause failure : EngineError}
    (full : cause.isMapFull = true) (abandons : session'.Abandons cause failure) :
    Discards (session.Overgrown contents) session.bulkRetryLimit failure := by
  obtain ⟨env, here, _⟩ := before.writer
  cases abandons with
  | retry => exact .retry
  | retryLimit =>
      have limit : session'.bulkRetryLimit = session.bulkRetryLimit :=
        resumes.alike.bulkRetryLimit_eq
      rw [limit]
      exact .retryLimit full
  | io there far =>
      obtain ⟨env', again, kin⟩ := resumes.alike.env env here
      have config : session'.config = session.config := resumes.alike.config_eq
      rw [there] at again
      cases again
      apply Discards.io
      intro mapped
      refine ⟨env, here, ?_⟩
      have waits : session'.pending? ≠ none := by
        rw [resumes.waiting]
        exact Option.some_ne_none txn
      rw [← config, ← kin.room_eq, ← resumes.mapped mapped waits _ there]
      exact far

/-- The transaction taken up does not fall short, unless the call cuts back. -/
theorem Resumes.not_fallsShort (resumes : session.Resumes contents age txn session')
    (drafts : session.Drafts contents age) (holds : file.Holds contents) {key value : Bytes}
    {keepExisting : Bool} {failure : EngineError}
    (full : txn.put key value keepExisting = .error failure) (isFull : failure.isMapFull = true)
    (safe : ¬ session.CutsBack (.put key value keepExisting) file) :
    ¬ session'.FallsShort contents.header := by
  rcases resumes.fresh with rfl | ⟨env, here, mapped⟩
  · intro falls
    exact safe ⟨⟨drafts.bulk, txn, failure, resumes.waiting, full, isFull⟩, _, holds.readable,
      falls⟩
  · exact Session.not_fallsShort here mapped

theorem put_drafted (holds : file.Holds contents) (drafts : session.Drafts contents age)
    (recent : age < UInt64.size) (key value : Bytes) (keepExisting : Bool) (room : Nat)
    (safe : ¬ session.CutsBack (.put key value keepExisting) file) :
    session.Drafted file contents age (.put key value keepExisting)
      (session.act (.put key value keepExisting) room file) := by
  unfold act
  dsimp only
  rcases bulkTransaction_resumes holds drafts recent with
    ⟨txn, session', begun, resumes⟩ | ⟨idle, env, cause, here, far, refused⟩
  · have sound := resumes.follows.sound txn resumes.waiting
    have records_eq := resumes.records_eq
    have kept : ∀ {failure : EngineError}, txn.put key value keepExisting = .error failure →
        failure.isMapFull = false →
        (putRules (session.draft contents.records).find? key value keepExisting).denies failure →
        session.Drafted file contents age (.put key value keepExisting)
          (Reply.of (fun _ => .done) (session.put key value keepExisting file).1,
            (session.put key value keepExisting file).2) := by
      intro failure put other denies
      unfold Session.put
      rw [if_pos drafts.bulk, begun]
      dsimp only
      rw [put]
      dsimp only
      rw [if_neg (Bool.eq_false_iff.mp other)]
      refine .edited resumes.waiting ?_ (resumes.drafts drafts) resumes.mapped
      rw [records_eq, resumes.cursor?_eq]
      exact .denied denies
    rcases txn.put_cases key value keepExisting with
      ⟨large, put⟩ | ⟨fits, clashes, put⟩ | ⟨_, _, _, put⟩ | ⟨fits, free, _, put⟩
    · exact kept put rfl (Or.inl ⟨large, rfl⟩)
    · rw [records_eq] at clashes
      exact kept put rfl (Or.inr ⟨fits, clashes, rfl⟩)
    · obtain ⟨failure, session'', file', after, restarted, abandons, advances, drafts', idle,
        noCursor⟩ := restart_discards (α := Unit) holds (resumes.drafts drafts)
          (resumes.not_fallsShort drafts holds put rfl safe)
          (.mapFull (Layout.headerSize + txn.lengthAfterPut key value) txn.limit)
      rw [put_of_full drafts.bulk begun put rfl, restarted]
      exact .discarded trivial (resumes.discards drafts rfl abandons) advances drafts' idle
        noCursor
    · obtain ⟨drafts', mapped⟩ := resumes.replace drafts (sound.put put)
      unfold Session.put
      rw [if_pos drafts.bulk, begun]
      dsimp only
      rw [put]
      refine .edited rfl ?_ drafts' mapped
      dsimp only
      rw [records_eq] at free ⊢
      rw [resumes.cursor?_eq]
      exact .stored ⟨fits, free⟩
  · unfold Session.put
    rw [if_pos drafts.bulk, refused]
    exact .refused (by simp) idle here far

theorem delete_drafted (holds : file.Holds contents) (drafts : session.Drafts contents age)
    (recent : age < UInt64.size) (key : Bytes) (room : Nat) :
    session.Drafted file contents age (.delete key) (session.act (.delete key) room file) := by
  unfold act
  dsimp only
  unfold delete
  rw [if_pos drafts.bulk]
  rcases bulkTransaction_resumes holds drafts recent with
    ⟨txn, session', begun, resumes⟩ | ⟨idle, env, cause, here, far, refused⟩
  · obtain ⟨drafts', mapped⟩ :=
      resumes.replace drafts ((resumes.follows.sound txn resumes.waiting).delete key)
    rw [begun]
    dsimp only
    rw [txn.fst_delete, resumes.records_eq]
    refine .edited rfl ?_ drafts' mapped
    dsimp only
    rw [txn.records_delete, resumes.records_eq, resumes.cursor?_eq]
    exact .deleted
  · rw [refused]
    exact .refused (by simp) idle here far

theorem commit_drafted (holds : file.Holds contents) (drafts : session.Drafts contents age)
    (room : Nat) (safe : ¬ session.CutsBack .commit file) :
    session.Drafted file contents age .commit (session.act .commit room file) := by
  unfold act
  dsimp only
  cases waiting : session.pending? with
  | none =>
      unfold commit
      rw [waiting]
      exact .published (Advances.refl holds) (Nat.zero_le 1) rfl (draft_of_idle waiting _).symm
        drafts waiting rfl
  | some txn =>
      obtain ⟨env, here, writer⟩ := drafts.writer
      have tracks := drafts.follows.tracks env here
      rcases env.commit_cases txn holds with
        ⟨reader, _⟩ | ⟨_, _, full⟩ | ⟨_, offset, place, done⟩
      · rw [writer] at reader
        cases reader
      · have drafts' : Drafts { session with pending? := none, env? := some env.forget }
            contents age :=
          { bulk := drafts.bulk
            follows := follows_of_idle drafts.follows.valid
              (tracks_of_env rfl (Environment.tracks_forget tracks.mapSize_le age)) rfl
            writer := ⟨env.forget, rfl, writer⟩ }
        have safe' : ¬ FallsShort { session with pending? := none, env? := some env.forget }
            contents.header := by
          rintro ⟨spare, found, there, more, less⟩
          cases there
          exact safe ⟨⟨txn, env, _, waiting, here, by rw [full], rfl⟩, _, holds.readable, spare,
            env, here, more, less⟩
        obtain ⟨failure, session', file', after, restarted, abandons, advances, last, idle,
          noCursor⟩ := restart_discards (α := Unit) holds drafts' safe'
            (.mapFull (Layout.headerSize + contents.header.dataLength.toNat + txn.dataLength)
              env.mapSize.toNat)
        rw [commit_of_full waiting here full rfl, restarted]
        refine .discarded trivial ?_ advances last idle noCursor
        cases abandons with
        | retry => exact .retry
        | retryLimit => exact .retryLimit rfl
        | io there far =>
            cases there
            apply Discards.io
            intro mapped
            refine ⟨env, here, ?_⟩
            have waits : session.pending? ≠ none := by
              rw [waiting]
              exact Option.some_ne_none txn
            rw [← mapped waits env here]
            exact far
      · have placed : Environment.Placed contents txn env.mapSize.toNat offset :=
          .of_le (drafts.follows.sound txn waiting) tracks.mapSize_le place
        unfold commit
        rw [waiting, here]
        dsimp only
        rw [done]
        refine .published (placed.advances holds env.flags) (Nat.le_refl 1) rfl
          (draft_of_pending waiting _).symm ?_ rfl rfl
        exact
          { bulk := drafts.bulk
            follows := follows_of_idle drafts.follows.valid
              (tracks_of_env rfl
                (Environment.tracks_published env placed tracks.mapSize_le age)) rfl
            writer := ⟨_, rfl, writer⟩ }

/-- What a call of a bulk session comes to that neither opens nor cuts back. -/
theorem act_drafted (holds : file.Holds contents) (drafts : session.Drafts contents age)
    (recent : age < UInt64.size) (room : Nat)
    (other : ∀ path flags bulk, call ≠ .open path flags bulk)
    (safe : ¬ session.CutsBack call file) :
    session.Drafted file contents age call (session.act call room file) := by
  cases call with
  | «open» path flags bulk => exact absurd rfl (other path flags bulk)
  | get key =>
      have reads : (Call.get key).Reads := trivial
      exact read_drafted holds drafts recent reads room
  | put key value keepExisting =>
      exact put_drafted holds drafts recent key value keepExisting room safe
  | delete key => exact delete_drafted holds drafts recent key room
  | seek move =>
      have reads : (Call.seek move).Reads := trivial
      exact read_drafted holds drafts recent reads room
  | commit => exact commit_drafted holds drafts room safe

end Session

end RecordFile
