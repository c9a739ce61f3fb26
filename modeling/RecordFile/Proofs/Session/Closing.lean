/-
Publishing what a bulk writer has written.

A transaction takes a record only while its payload has room beside the committed one. As long as
nobody else writes, there is the same room when it is committed. So whoever has stored a record
publishes it, and what was deleted since takes no room. But a transaction in which nothing was
stored may hold a payload that never had room beside the committed one, which may be that payload
itself. This is not published: the draft is given up, and the map grows.
-/

import RecordFile.Proofs.Session.Isolation
import RecordFile.Proofs.Session.Opening

namespace RecordFile

/-- What publishing a draft comes to. One that is `idle` is not of a transaction, and publishing it
changes nothing. A draft without room is given up, and the map gets the size `grown` if it can
have that. -/
inductive Closes (contents : Contents) (draft : Records) (idle growable : Prop)
    (grown : UInt64) : Except EngineError Unit → Contents → Prop
  | published {after : Contents} (fits : idle ∨ draft.encodedLength ≤ contents.capacity)
      (records_eq : after.records = draft)
      (mapSize_eq : after.header.mapSize = contents.header.mapSize) :
      Closes contents draft idle growable grown (.ok ()) after
  | outgrown {failure : EngineError} {after : Contents} (begun : ¬ idle)
      (full : contents.capacity < draft.encodedLength)
      (records_eq : after.records = contents.records)
      (mapSize_eq : after.header.mapSize = contents.header.mapSize ∨
        after.header.mapSize = grown)
      (retry : growable → failure = .retry ∧ after.header.mapSize = grown) :
      Closes contents draft idle growable grown (.error failure) after

theorem Closes.published_of_fits {contents after : Contents} {draft : Records}
    {idle growable : Prop} {grown : UInt64} {result : Except EngineError Unit}
    (closes : Closes contents draft idle growable grown result after)
    (fits : draft.encodedLength ≤ contents.capacity) :
    result = .ok () ∧ after.records = draft ∧
      after.header.mapSize = contents.header.mapSize := by
  cases closes with
  | published _ recordsEq mapSizeEq => exact ⟨rfl, recordsEq, mapSizeEq⟩
  | outgrown _ full _ _ _ => exact absurd fits (Nat.not_le_of_lt full)

namespace Environment

theorem open_readOnly {flags : OpenFlags} (reader : flags.readOnly = true) {file : Image}
    {contents : Contents} (holds : file.Holds contents) (path : String) (mapSize : UInt64)
    (room : Nat) : (Environment.open path flags mapSize room file).2 = file := by
  unfold Environment.open
  dsimp only
  rw [openingHeader_of_holds holds]
  dsimp only
  rw [if_pos reader]
  split
  · rfl
  · rfl

/-- Growing gives the file the size asked for, whether that can be mapped or not, or leaves it as
it is. -/
theorem image_grow (env : Environment) {file : Image} {contents : Contents}
    (holds : file.Holds contents) (size : UInt64) :
    (env.grow size file).2.2 = file ∨
      (size.toNat ≤ Image.longest ∧
        (env.grow size file).2.2 = resized contents.header size file) := by
  unfold grow
  split
  · exact Or.inl rfl
  · split
    · exact Or.inl rfl
    · rw [holds.readable]
      dsimp only
      by_cases short : size.toNat ≤ Image.longest
      · rw [setMapSize_of_le contents.header file short]
        dsimp only
        split
        · exact Or.inr ⟨short, rfl⟩
        · exact Or.inr ⟨short, rfl⟩
      · rw [setMapSize_of_lt contents.header file (Nat.lt_of_not_le short)]
        exact Or.inl rfl

end Environment

namespace Session

open Environment (Mappable)

def Call.change (records : Records) : Call → Records
  | .put key value _ => records.insert key value
  | .delete key => records.erase key
  | _ => records

def Call.Stores : Call → Prop
  | .put _ _ _ => True
  | _ => False

/-- A restart may grow the map by one step. -/
def Growable (session : Session) (contents : Contents) : Prop :=
  session.bulkRetries < session.bulkRetryLimit ∧
    contents.header.mapSize < session.config.maxMapSize ∧
    ∃ env, session.env? = some env ∧
      Mappable env.room (nextSize session.config contents.header.mapSize)

structure Bounded (session : Session) (contents : Contents) : Prop where
  drafts : session.Drafts contents 0
  mapped : session.Mapped contents
  limit_eq : ∀ txn, session.pending? = some txn →
    txn.limit = Layout.headerSize + contents.capacity

variable {session session' : Session} {env : Environment} {file file' : Image}
  {contents after : Contents} {txn txn' : Transaction} {call : Call} {room : Nat}

theorem encodedLength_change_le (records : Records) (keeps : ¬ call.Stores) :
    (call.change records).encodedLength ≤ records.encodedLength := by
  cases call with
  | put _ _ _ => exact absurd trivial keeps
  | delete key =>
      have total := Records.encodedLength_erase records key
      change (records.erase key).encodedLength ≤ _
      omega
  | «open» _ _ _ => exact Nat.le_refl _
  | get _ => exact Nat.le_refl _
  | seek _ => exact Nat.le_refl _
  | commit => exact Nat.le_refl _

theorem Edits.change_eq {draft draft' : Records} {seat seat' : Seat} {reply : Reply}
    (edits : Edits draft seat call reply draft' seat') (succeeds : ¬ reply.Failed) :
    draft' = call.change draft := by
  cases edits with
  | got => rfl
  | sought _ => rfl
  | stored _ => rfl
  | denied _ => exact absurd ⟨_, rfl⟩ succeeds
  | deleted => rfl

theorem bounded_of_idle (drafts : session.Drafts contents 0) (idle : session.pending? = none) :
    session.Bounded contents where
  drafts := drafts
  mapped := mapped_of_idle idle
  limit_eq := by
    intro txn waiting
    rw [idle] at waiting
    cases waiting

namespace Bounded

theorem withRoom (bounded : session.Bounded contents) (room : Nat) :
    (session.withRoom room).Bounded contents :=
  ⟨bounded.drafts.withRoom room, bounded.mapped.withRoom room, bounded.limit_eq⟩

/-! ### The limit of the transaction -/

/-- A transaction that begins now has read where the committed payload is. -/
theorem limit_of_begun (bounded : session.Bounded contents) (holds : file.Holds contents)
    (begun : session.bulkTransaction file = (.ok txn, session')) :
    txn.limit = Layout.headerSize + contents.capacity := by
  unfold bulkTransaction at begun
  split at begun
  · next waiting =>
      cases begun
      exact bounded.limit_eq txn waiting
  · split at begun
    · cases begun
    · next env here =>
        rcases Environment.beginWrite_cases holds (bounded.drafts.follows.tracks env here) with
          ⟨_, refused⟩ | ⟨_, env', began, tracks, current, _⟩ | ⟨_, _, cause, refused⟩
        · rw [refused] at begun
          cases begun
        · rw [began] at begun
          cases begun
          have shows := tracks.shows (by decide) current.generation?_eq
          change env'.transactionLimit = _
          unfold Environment.transactionLimit Contents.capacity
          rw [current.mapSize_eq, shows.dataOffset_eq, shows.dataLength_eq]
        · rw [refused] at begun
          cases begun

/-- A put leaves the limit of the transaction as it is, and a payload within it. -/
theorem limit_put (bounded : session.Bounded contents) (holds : file.Holds contents)
    {key value : Bytes} {keepExisting : Bool}
    (waiting : (session.put key value keepExisting file).2.1.pending? = some txn') :
    txn'.limit = Layout.headerSize + contents.capacity ∧
      ((session.put key value keepExisting file).1 = .ok () →
        Layout.headerSize + txn'.dataLength ≤ txn'.limit) := by
  rcases bulkTransaction_resumes holds bounded.drafts (by decide) with
    ⟨txn, session', begun, resumes⟩ | ⟨idle, _, cause, _, _, refused⟩
  · have limit := bounded.limit_of_begun holds begun
    -- Refused puts leave the transaction as it is, unless there is no room: this one ends it.
    have kept : ∀ {failure : EngineError}, txn.put key value keepExisting = .error failure →
        failure.isMapFull = false →
        session.put key value keepExisting file = (.error failure, session', file) := by
      intro failure put other
      unfold Session.put
      rw [if_pos bounded.drafts.bulk, begun]
      dsimp only
      rw [put]
      dsimp only
      rw [if_neg (Bool.eq_false_iff.mp other)]
    have stays : ∀ {failure : EngineError},
        session.put key value keepExisting file = (.error failure, session', file) →
        txn'.limit = Layout.headerSize + contents.capacity ∧
          ((session.put key value keepExisting file).1 = .ok () →
            Layout.headerSize + txn'.dataLength ≤ txn'.limit) := by
      intro failure refused
      rw [refused] at waiting ⊢
      have same := resumes.waiting.symm.trans waiting
      cases same
      exact ⟨limit, nofun⟩
    rcases txn.put_cases key value keepExisting with
      ⟨_, put⟩ | ⟨_, _, put⟩ | ⟨_, _, _, put⟩ | ⟨_, _, fits, put⟩
    · exact stays (kept put rfl)
    · exact stays (kept put rfl)
    · obtain ⟨failure, session'', file', after, restarted, _, _, _, idle, _⟩ :=
        restart_discards (α := Unit) holds (resumes.drafts bounded.drafts)
          (resumes.not_fallsShort bounded.drafts holds put rfl
            (bounded.mapped.not_cutsBack holds _))
          (.mapFull (Layout.headerSize + txn.lengthAfterPut key value) txn.limit)
      rw [put_of_full bounded.drafts.bulk begun put rfl, restarted] at waiting
      rw [show session''.pending? = some txn' from waiting] at idle
      cases idle
    · have stored : session.put key value keepExisting file =
          (.ok (), { session' with pending? := some { txn with
            records := txn.records.insert key value
            dataLength := txn.lengthAfterPut key value } }, file) := by
        unfold Session.put
        rw [if_pos bounded.drafts.bulk, begun]
        dsimp only
        rw [put]
      rw [stored] at waiting ⊢
      cases waiting
      exact ⟨limit, fun _ => fits⟩
  · have failed : session.put key value keepExisting file =
        (.error (.io cause), session, file) := by
      unfold Session.put
      rw [if_pos bounded.drafts.bulk, refused]
    rw [failed] at waiting
    rw [show session.pending? = some txn' from waiting] at idle
    cases idle

theorem limit_act (bounded : session.Bounded contents) (holds : file.Holds contents)
    (other : ∀ path flags bulk, call ≠ .open path flags bulk)
    (waiting : (session.act call room file).2.1.pending? = some txn') :
    txn'.limit = Layout.headerSize + contents.capacity := by
  have mode := bounded.drafts.bulk
  -- What reads does it in the transaction, which it begins where there is none.
  by_cases reads : call.Reads
  · rcases bulkTransaction_resumes holds bounded.drafts (by decide) with
      ⟨txn, session', begun, resumes⟩ | ⟨idle, _, cause, _, _, refused⟩
    · obtain ⟨reply, cursor?, acted, _⟩ :=
        act_of_view reads (view_of_bulk mode begun) resumes.cursor?_eq false room
      rw [acted] at waiting
      have same := resumes.waiting.symm.trans waiting
      cases same
      exact bounded.limit_of_begun holds begun
    · rw [act_of_view_error reads (view_of_bulk mode refused)] at waiting
      rw [show session.pending? = some txn' from waiting] at idle
      cases idle
  · cases call with
    | «open» path flags bulk => exact absurd rfl (other path flags bulk)
    | get _ => exact absurd trivial reads
    | seek _ => exact absurd trivial reads
    | put key value keepExisting => exact (bounded.limit_put holds waiting).1
    | delete key =>
        unfold act at waiting
        dsimp only at waiting
        unfold delete at waiting
        rw [if_pos mode] at waiting
        rcases bulkTransaction_resumes holds bounded.drafts (by decide) with
          ⟨txn, session', begun, _⟩ | ⟨idle, _, cause, _, _, refused⟩
        · rw [begun] at waiting
          cases waiting
          rw [txn.limit_delete]
          exact bounded.limit_of_begun holds begun
        · rw [refused] at waiting
          rw [show session.pending? = some txn' from waiting] at idle
          cases idle
    | commit =>
        have drafted := commit_drafted holds bounded.drafts room
          (bounded.mapped.not_cutsBack holds .commit)
        generalize session.act .commit room file = outcome at drafted waiting
        cases drafted with
        | edited _ edits _ _ => cases edits
        | refused asks _ _ _ => exact absurd rfl asks
        | discarded _ _ _ _ idle _ =>
            rw [show _ = some txn' from waiting] at idle
            cases idle
        | published _ _ _ _ _ idle _ =>
            rw [show _ = some txn' from waiting] at idle
            cases idle

/-! ### One call -/

/-- Whatever a call comes to, the writer stays bounded by what the file holds then. -/
theorem act (bounded : session.Bounded contents) (holds : file.Holds contents)
    (other : ∀ path flags bulk, call ≠ .open path flags bulk) (room : Nat) :
    ∃ after, (session.act call room file).2.2.Holds after ∧
      (session.act call room file).2.1.Bounded after := by
  have limit : ∀ txn', (session.act call room file).2.1.pending? = some txn' →
      txn'.limit = Layout.headerSize + contents.capacity :=
    fun txn' waiting => bounded.limit_act holds other waiting
  have drafted := act_drafted holds bounded.drafts (by decide) room other
    (bounded.mapped.not_cutsBack holds call)
  generalize session.act call room file = outcome at drafted limit ⊢
  cases drafted with
  | edited _ _ drafts mapped => exact ⟨contents, holds, drafts, mapped bounded.mapped, limit⟩
  | refused _ _ _ _ => exact ⟨contents, holds, bounded⟩
  | discarded _ _ advances drafts idle _ =>
      exact ⟨_, advances.holds, bounded_of_idle drafts idle⟩
  | published advances _ _ _ drafts idle _ =>
      exact ⟨_, advances.holds, bounded_of_idle drafts idle⟩

theorem fits_act (bounded : session.Bounded contents) (holds : file.Holds contents)
    (stores : call.Stores) (succeeds : ¬ (session.act call room file).1.Failed)
    (waiting : (session.act call room file).2.1.pending? = some txn') :
    Layout.headerSize + txn'.dataLength ≤ txn'.limit := by
  cases call with
  | put key value keepExisting =>
      apply (bounded.limit_put holds waiting).2
      unfold Session.act at succeeds
      dsimp only at succeeds
      cases stored : (session.put key value keepExisting file).1 with
      | error failure => exact absurd ⟨failure, congrArg (Reply.of fun _ => .done) stored⟩ succeeds
      | ok done => rfl
  | «open» _ _ _ => exact stores.elim
  | get _ => exact stores.elim
  | delete _ => exact stores.elim
  | seek _ => exact stores.elim
  | commit => exact stores.elim

/-- A call that succeeds and is no commit changes the draft alone. What it stores has room. -/
theorem writes (bounded : session.Bounded contents) (holds : file.Holds contents)
    (other : ∀ path flags bulk, call ≠ .open path flags bulk) (asks : call ≠ .commit)
    (succeeds : ¬ (session.act call room file).1.Failed) :
    (session.act call room file).2.2 = file ∧
      (session.act call room file).2.1.Bounded contents ∧
      (session.act call room file).2.1.draft contents.records =
        call.change (session.draft contents.records) ∧
      (call.Stores → ((session.act call room file).2.1.draft contents.records).encodedLength ≤
        contents.capacity) := by
  have limit : ∀ txn', (session.act call room file).2.1.pending? = some txn' →
      txn'.limit = Layout.headerSize + contents.capacity :=
    fun txn' waiting => bounded.limit_act holds other waiting
  have fits : call.Stores → ∀ txn', (session.act call room file).2.1.pending? = some txn' →
      Layout.headerSize + txn'.dataLength ≤ txn'.limit :=
    fun stores txn' waiting => bounded.fits_act holds stores succeeds waiting
  have drafted := act_drafted holds bounded.drafts (by decide) room other
    (bounded.mapped.not_cutsBack holds call)
  generalize session.act call room file = outcome at drafted limit fits succeeds ⊢
  cases drafted with
  | @edited _ _ session' txn begun edits drafts mapped =>
      have draftEq : session'.draft contents.records = txn.records :=
        draft_of_pending begun contents.records
      refine ⟨rfl, ⟨drafts, mapped bounded.mapped, limit⟩, ?_, fun stores => ?_⟩
      · rw [draftEq]
        exact edits.change_eq succeeds
      · have within := fits stores txn begun
        have carried := (drafts.follows.sound txn begun).dataLength_eq
        rw [limit txn begun] at within
        rw [draftEq, ← carried]
        omega
  | refused _ _ _ _ => exact absurd ⟨_, rfl⟩ succeeds
  | discarded _ _ _ _ _ _ => exact absurd ⟨_, rfl⟩ succeeds
  | published _ _ _ _ _ _ _ => exact absurd rfl asks

end Bounded

/-! ### Publishing -/

/-- A growth step leaves the map as it is or gives it the next size. -/
theorem mapSize_grow (holds : file.Holds contents) (here : session.env? = some env)
    (larger : contents.header.mapSize ≤ nextSize session.config env.mapSize)
    (holds' : (session.grow file).2.2.Holds after) :
    after.header.mapSize = contents.header.mapSize ∨
      after.header.mapSize = nextSize session.config env.mapSize := by
  have image : (session.grow file).2.2 = file ∨
      (session.grow file).2.2 = (env.grow (nextSize session.config env.mapSize) file).2.2 := by
    unfold grow
    rw [here]
    dsimp only
    split
    · exact Or.inl rfl
    · split
      · next grown => exact Or.inr (congrArg (·.2.2) grown).symm
      · next grown => exact Or.inr (congrArg (·.2.2) grown).symm
  have kept : (session.grow file).2.2 = file →
      after.header.mapSize = contents.header.mapSize := by
    intro same
    rw [same] at holds'
    rw [holds.unique holds']
  rcases image with same | grown
  · exact Or.inl (kept same)
  · rcases env.image_grow holds (nextSize session.config env.mapSize) with
      same | ⟨short, resized⟩
    · exact Or.inl (kept (grown.trans same))
    · rw [grown, resized] at holds'
      rw [← (Environment.advances_resized holds larger short).holds.unique holds']
      exact Or.inr rfl

theorem restart_of_grown {α : Type} (spare : session.bulkRetries < session.bulkRetryLimit)
    (grown : session.emptied.grow file = (.ok true, session', file')) (cause : EngineError) :
    ∃ last, session.restart (α := α) cause file = (.error .retry, last, file') := by
  unfold restart
  dsimp only
  rw [if_neg (Nat.not_le_of_lt spare)]
  unfold emptied at grown
  rw [grown]
  exact ⟨_, rfl⟩

/-- A restart keeps the committed records and grows the map by one step, if it can. -/
theorem restart_grows {α : Type} (holds : file.Holds contents)
    (drafts : session.Drafts contents 0) (here : session.env? = some env)
    (mapped : env.mapSize = contents.header.mapSize) (cause : EngineError) :
    ∃ failure last file' after,
      session.restart (α := α) cause file = (.error failure, last, file') ∧
      file'.Holds after ∧ after.records = contents.records ∧
      (after.header.mapSize = contents.header.mapSize ∨
        after.header.mapSize = nextSize session.config contents.header.mapSize) ∧
      (session.Growable contents → failure = .retry ∧
        after.header.mapSize = nextSize session.config contents.header.mapSize) := by
  have tracks := drafts.follows.tracks env here
  have still : session.emptied.env? = some env := here
  have writer : env.flags.readOnly = false := by
    obtain ⟨found, there, writer⟩ := drafts.writer
    rw [here] at there
    cases there
    exact writer
  have larger : env.mapSize < session.config.maxMapSize →
      contents.header.mapSize ≤ nextSize session.config env.mapSize :=
    fun smaller => mapped ▸ le_nextSize drafts.follows.valid smaller
  by_cases spare : session.bulkRetries < session.bulkRetryLimit
  · rcases grow_cases holds still tracks larger with
      ⟨largest, ended⟩ | ⟨smaller, result, session', env', file', after, grown, advances, _, _, _,
        _, came⟩
    · obtain ⟨failure, retries, _, restarted⟩ :=
        restart_of_ok (α := α) spare ended (Alike.refl _) cause
      refine ⟨failure, _, file, contents, restarted, holds, rfl, Or.inl rfl, ?_⟩
      rintro ⟨_, smaller, _⟩
      rw [← mapped] at smaller
      exact absurd largest (UInt64.not_le.mpr smaller)
    · rcases came with ⟨rfl, _, mapEq⟩ | ⟨reader, _⟩ | ⟨_, far, refusal, rfl⟩
      · obtain ⟨last, restarted⟩ := restart_of_grown (α := α) spare grown cause
        rw [mapped] at mapEq
        exact ⟨_, last, file', after, restarted, advances.holds, advances.records_eq rfl,
          Or.inr mapEq, fun _ => ⟨rfl, mapEq⟩⟩
      · rw [writer] at reader
        cases reader
      · refine ⟨_, session', file', after, restart_of_error spare grown cause, advances.holds,
          advances.records_eq rfl, ?_, ?_⟩
        · have left : (session.emptied.grow file).2.2.Holds after := by
            rw [grown]
            exact advances.holds
          have sizes := mapSize_grow holds still (larger smaller) left
          rw [mapped] at sizes
          exact sizes
        · rintro ⟨_, _, found, there, mappable⟩
          rw [here] at there
          cases there
          rw [← mapped] at mappable
          exact absurd mappable far
  · refine ⟨_, _, file, contents, restart_of_spent (Nat.le_of_not_lt spare) cause file, holds, rfl,
      Or.inl rfl, ?_⟩
    rintro ⟨spare', _⟩
    exact absurd spare' spare

/-- A commit publishes the draft if there is room for it, and otherwise gives it up. -/
theorem Bounded.closes (bounded : session.Bounded contents) (holds : file.Holds contents) :
    ∃ after, (session.commit file).2.2.Holds after ∧
      Closes contents (session.draft contents.records) (session.pending? = none)
        (session.Growable contents) (nextSize session.config contents.header.mapSize)
        (session.commit file).1 after := by
  have drafts := bounded.drafts
  cases waiting : session.pending? with
  | none =>
      rw [commit_of_idle waiting]
      exact ⟨contents, holds, .published (Or.inl rfl) (draft_of_idle waiting _).symm rfl⟩
  | some txn =>
      obtain ⟨env, here, writer⟩ := drafts.writer
      have sound := drafts.follows.sound txn waiting
      have tracks := drafts.follows.tracks env here
      have mapped : env.mapSize = contents.header.mapSize := by
        apply bounded.mapped _ env here
        rw [waiting]
        exact Option.some_ne_none txn
      have draftEq : session.draft contents.records = txn.records :=
        draft_of_pending waiting contents.records
      have room := holds.place?_isSome_iff txn.dataLength
      rw [sound.dataLength_eq] at room
      rw [draftEq]
      rcases env.commit_cases txn holds with
        ⟨reader, _⟩ | ⟨_, place, full⟩ | ⟨_, offset, place, done⟩
      · rw [writer] at reader
        cases reader
      · have drafts' : Drafts { session with pending? := none, env? := some env.forget }
            contents 0 :=
          { bulk := drafts.bulk
            follows := follows_of_idle drafts.follows.valid
              (tracks_of_env rfl (Environment.tracks_forget tracks.mapSize_le 0)) rfl
            writer := ⟨env.forget, rfl, writer⟩ }
        obtain ⟨failure, last, file', after, restarted, holds', recordsEq, sizes, grows⟩ :=
          restart_grows (α := Unit) holds drafts' rfl mapped
            (.mapFull (Layout.headerSize + contents.header.dataLength.toNat + txn.dataLength)
              env.mapSize.toNat)
        rw [commit_of_full waiting here full rfl, restarted]
        rw [mapped, sound.dataLength_eq] at place
        rw [place] at room
        refine ⟨after, holds', .outgrown (Option.some_ne_none txn) ?_ recordsEq sizes ?_⟩
        · exact Nat.lt_of_not_le fun fits => Bool.false_ne_true (room.mpr fits)
        · rintro ⟨spare, smaller, found, there, mappable⟩
          rw [here] at there
          cases there
          exact grows ⟨spare, smaller, env.forget, rfl, mappable⟩
      · have placed : Environment.Placed contents txn env.mapSize.toNat offset :=
          .of_le sound tracks.mapSize_le place
        have published : session.commit file = (.ok (),
            { session with
              pending? := none
              env? := some (env.published contents.header offset txn)
              bulkRetries := 0 },
            Environment.publish env.flags (Environment.successor contents.header offset txn)
              txn.records.encode file) := by
          unfold commit
          rw [waiting, here]
          dsimp only
          rw [done]
        rw [published]
        rw [mapped, sound.dataLength_eq] at place
        rw [place] at room
        exact ⟨_, (placed.advances holds env.flags).holds,
          .published (Or.inr (room.mp rfl)) rfl rfl⟩

theorem act_looks (looks : call.Looks) (holds : file.Holds contents) :
    (session.act call room file).2.2 = file := by
  cases call with
  | «open» path flags bulk =>
      have same := Environment.open_readOnly looks holds path session.config.initialMapSize room
      unfold act Session.open
      dsimp only
      rcases opened : Environment.open path flags session.config.initialMapSize room file with
        ⟨failure | env, file'⟩
      · rw [opened] at same
        exact same
      · rw [opened] at same
        exact same
  | get _ => rfl
  | seek _ => rfl
  | put _ _ _ => exact looks.elim
  | delete _ => exact looks.elim
  | commit => exact looks.elim

end Session

namespace Sessions

/-! ### Runs -/

def Writes (writer : Nat) (world : Sessions) (request : Request) : Prop :=
  request.who = writer → request.call ≠ .commit ∧ ¬ (world.reply request).Failed

def written (writer : Nat) : List Request → Records → Records
  | [], records => records
  | request :: rest, records =>
      written writer rest
        (if request.who = writer then request.call.change records else records)

structure Bounds (world : Sessions) (writer : Nat) (contents : Contents) : Prop where
  holds : world.file.Holds contents
  bounded : (world.session writer).Bounded contents

variable {world : Sessions} {writer : Nat} {contents : Contents} {request : Request}
  {requests : List Request}

theorem not_open_of_not_opens (other : ¬ request.call.Opens) (path : String) (flags : OpenFlags)
    (bulk : Bool) : request.call ≠ .open path flags bulk := by
  intro same
  rw [same] at other
  exact other trivial

theorem Bounds.caller (bounds : world.Bounds writer contents) (mine : request.who = writer) :
    (world.caller request).Bounded contents := by
  subst mine
  exact bounds.bounded.withRoom request.room

theorem Bounds.step_other (bounds : world.Bounds writer contents) (theirs : request.who ≠ writer)
    (looks : request.call.Looks) :
    (world.step request).file = world.file ∧
      (world.step request).session writer = world.session writer :=
  ⟨Session.act_looks looks bounds.holds, Function.update_of_ne (Ne.symm theirs) _ _⟩

theorem session_step (mine : request.who = writer) :
    (world.step request).session writer = (world.outcome request).2.1 := by
  subst mine
  exact Function.update_self _ _ _

theorem Bounds.of_run (bounds : world.Bounds writer contents) (alone : SoleWriter writer requests) :
    ∃ after, (run requests world).Bounds writer after := by
  induction requests generalizing world contents with
  | nil => exact ⟨contents, bounds⟩
  | cons request rest ih =>
      obtain ⟨mine, theirs⟩ := alone request List.mem_cons_self
      have later := fun later member => alone later (List.mem_cons_of_mem request member)
      by_cases same : request.who = writer
      · obtain ⟨after, holds, bounded⟩ := (bounds.caller same).act bounds.holds
          (not_open_of_not_opens (mine same)) request.room
        exact ih ⟨holds, (session_step same).symm ▸ bounded⟩ later
      · obtain ⟨fileEq, sessionEq⟩ := bounds.step_other same (theirs same)
        exact ih ⟨fileEq.symm ▸ bounds.holds, sessionEq.symm ▸ bounds.bounded⟩ later

/-- What a run leaves of the writer in which its calls succeed and none is a commit. The file keeps
what it holds, and the writes wait in the draft. This has room once one of them has stored
something. -/
structure Wrote (world : Sessions) (writer : Nat) (contents : Contents) (requests : List Request)
    (last : Sessions) : Prop where
  bounds : last.Bounds writer contents
  draft_eq : (last.session writer).draft contents.records =
    written writer requests ((world.session writer).draft contents.records)
  fits : ((world.session writer).draft contents.records).encodedLength ≤ contents.capacity ∨
      (∃ request ∈ requests, request.who = writer ∧ request.call.Stores) →
    ((last.session writer).draft contents.records).encodedLength ≤ contents.capacity

theorem Wrote.cons {last : Sessions}
    (first : world.Wrote writer contents [request] (world.step request))
    (later : (world.step request).Wrote writer contents requests last) :
    world.Wrote writer contents (request :: requests) last where
  bounds := later.bounds
  draft_eq := by
    rw [later.draft_eq, first.draft_eq]
    rfl
  fits := by
    rintro (room | ⟨found, member, stores⟩)
    · exact later.fits (Or.inl (first.fits (Or.inl room)))
    · rcases List.mem_cons.mp member with rfl | member
      · exact later.fits (Or.inl (first.fits (Or.inr ⟨found, List.mem_cons_self, stores⟩)))
      · exact later.fits (Or.inr ⟨found, member, stores⟩)

theorem Bounds.step_writes (bounds : world.Bounds writer contents) (mine : request.who = writer)
    (other : ¬ request.call.Opens) (writes : world.Writes writer request) :
    world.Wrote writer contents [request] (world.step request) := by
  subst mine
  obtain ⟨asks, succeeds⟩ := writes rfl
  obtain ⟨fileEq, bounded, draftEq, stored⟩ := (bounds.caller rfl).writes bounds.holds
    (not_open_of_not_opens other) asks succeeds
  have left : (world.step request).session request.who = (world.outcome request).2.1 :=
    session_step rfl
  refine ⟨⟨?_, ?_⟩, ?_, ?_⟩
  · change (world.outcome request).2.2.Holds contents
    rw [show (world.outcome request).2.2 = world.file from fileEq]
    exact bounds.holds
  · rw [left]
    exact bounded
  · rw [left]
    exact draftEq.trans (if_pos rfl).symm
  · rw [left]
    intro before
    by_cases stores : request.call.Stores
    · exact stored stores
    · rcases before with room | ⟨found, member, _, puts⟩
      · rw [show (world.outcome request).2.1.draft contents.records = _ from draftEq]
        exact Nat.le_trans (Session.encodedLength_change_le _ stores) room
      · cases List.mem_singleton.mp member
        exact absurd puts stores

theorem Bounds.step_looks (bounds : world.Bounds writer contents) (theirs : request.who ≠ writer)
    (looks : request.call.Looks) :
    world.Wrote writer contents [request] (world.step request) := by
  obtain ⟨fileEq, sessionEq⟩ := bounds.step_other theirs looks
  refine ⟨⟨fileEq.symm ▸ bounds.holds, sessionEq.symm ▸ bounds.bounded⟩, ?_, ?_⟩
  · rw [sessionEq]
    exact (if_neg theirs).symm
  · rw [sessionEq]
    rintro (room | ⟨found, member, mine, _⟩)
    · exact room
    · cases List.mem_singleton.mp member
      exact absurd mine theirs

theorem Bounds.run_writes (bounds : world.Bounds writer contents)
    (alone : SoleWriter writer requests)
    (writes : Along Sessions.step (Writes writer) requests world) :
    world.Wrote writer contents requests (run requests world) := by
  -- `contents` stays fixed: calls that succeed leave the file with what it holds.
  induction requests generalizing world with
  | nil =>
      refine ⟨bounds, rfl, ?_⟩
      rintro (room | ⟨_, member, _⟩)
      · exact room
      · cases member
  | cons request rest ih =>
      obtain ⟨mine, theirs⟩ := alone request List.mem_cons_self
      have rests := fun later member => alone later (List.mem_cons_of_mem request member)
      have first : world.Wrote writer contents [request] (world.step request) := by
        by_cases same : request.who = writer
        · exact bounds.step_writes same (mine same) writes.1
        · exact bounds.step_looks same (theirs same)
      exact first.cons (ih first.bounds rests writes.2)

/-- A bulk writer opens, and from then on nobody else writes. It comes to a world in which nothing
is pending. Then its calls succeed up to the last world, and none of them is a commit. -/
structure Fills (start : Sessions) (opening : Request) (earlier : List Request) (world : Sessions)
    (asked : List Request) (last : Sessions) : Prop where
  usable : start.file.Usable
  valid : (start.session opening.who).config.Valid
  opens : ∃ path flags, opening.call = .open path flags true ∧ flags.readOnly = false
  opened : start.reply opening = .done
  alone : SoleWriter opening.who (earlier ++ asked)
  begins : run earlier (start.step opening) = world
  idle : (world.session opening.who).pending? = none
  succeeds : Along step (Writes opening.who) asked world
  ends : run asked world = last

variable {start last : Sessions} {opening : Request} {earlier asked : List Request}

/-- What a session follows that has been opened, and its file. -/
theorem step_opened {path : String} {flags : OpenFlags} {bulk : Bool}
    (usable : start.file.Usable) (valid : (start.session opening.who).config.Valid)
    (opens : opening.call = .open path flags bulk) (opened : start.reply opening = .done) :
    ∃ contents env, (start.step opening).file.Holds contents ∧
      ((start.step opening).session opening.who).Follows contents 0 ∧
      ((start.step opening).session opening.who).env? = some env ∧ env.Attached flags contents ∧
      ((start.step opening).session opening.who).bulk = bulk ∧
      ((start.step opening).session opening.who).pending? = none := by
  have adjusted : (start.caller opening).config.Valid := valid
  rcases ran : (start.caller opening).open path flags bulk opening.room start.file with
    ⟨result, session', file'⟩
  have acted : start.outcome opening =
      (Session.Reply.of (fun _ => .done) result, session', file') := by
    unfold outcome Session.act
    rw [opens]
    dsimp only
    rw [ran]
  cases result with
  | error failure =>
      unfold reply at opened
      rw [acted] at opened
      cases opened
  | ok done =>
      obtain ⟨contents, env, holds, follows, here, attached, bulkEq, idle, _⟩ :=
        Session.open_follows adjusted usable ran
      have holds' : (start.step opening).file.Holds contents := by
        change (start.outcome opening).2.2.Holds contents
        rw [acted]
        exact holds
      rw [session_step rfl, acted]
      exact ⟨contents, env, holds', follows, here, attached, bulkEq, idle⟩

theorem Fills.bounds (fills : start.Fills opening earlier world asked last) :
    ∃ contents, (start.step opening).Bounds opening.who contents := by
  obtain ⟨path, flags, opens, writer⟩ := fills.opens
  obtain ⟨contents, env, holds, follows, here, attached, bulkEq, idle⟩ :=
    step_opened fills.usable fills.valid opens fills.opened
  exact ⟨contents, holds, Session.bounded_of_idle
    ⟨bulkEq, follows, env, here, attached.flags_eq ▸ writer⟩ idle⟩

/-- What committing or closing comes to in the last world: whatever memory there is to map, what the
writer has written since `world` is published, if there is room for it beside the committed payload.
There is if the writer has stored something. -/
def Settles (world : Sessions) (writer : Nat) (asked : List Request) (last : Sessions) : Prop :=
  ∃ before, world.file.Holds before ∧
    ((∃ request ∈ asked, request.who = writer ∧ request.call.Stores) →
      (written writer asked before.records).encodedLength ≤ before.capacity) ∧
    ∀ room session, session = (last.session writer).withRoom room →
      ∀ publish ∈ [Session.commit, Session.close], ∃ after,
        (publish session last.file).2.2.Holds after ∧
        Closes before (written writer asked before.records) (session.pending? = none)
          (session.Growable before) (Session.nextSize session.config before.header.mapSize)
          (publish session last.file).1 after

theorem Fills.settles (fills : start.Fills opening earlier world asked last) :
    world.Settles opening.who asked last := by
  obtain ⟨contents, opened⟩ := fills.bounds
  obtain ⟨before, bounds⟩ := opened.of_run
    fun request member => fills.alone request (List.mem_append_left asked member)
  rw [fills.begins] at bounds
  have wrote := bounds.run_writes
    (fun request member => fills.alone request (List.mem_append_right earlier member))
    fills.succeeds
  have draftEq := wrote.draft_eq
  have fits := wrote.fits
  rw [fills.ends] at wrote draftEq fits
  rw [Session.draft_of_idle fills.idle] at draftEq fits
  rw [draftEq] at fits
  refine ⟨before, bounds.holds, fun stores => fits (Or.inr stores), ?_⟩
  rintro room session rfl publish finishes
  obtain ⟨after, holds, closes⟩ :=
    (wrote.bounds.bounded.withRoom room).closes wrote.bounds.holds
  have sameDraft : ((last.session opening.who).withRoom room).draft before.records =
      written opening.who asked before.records := draftEq
  rw [sameDraft] at closes
  have same : publish = Session.commit := by
    rcases List.mem_cons.mp finishes with rfl | finishes
    · rfl
    · exact List.mem_singleton.mp finishes
  rw [same]
  exact ⟨after, holds, closes⟩

end Sessions

end RecordFile
