/-
When a bulk writer has to start over.

A put is taken into the transaction exactly when its payload has room beside the committed one, and
so is the whole draft when it is committed. Where there is no room the transaction is given up and
the map grows by one step, with one restart more on the count. The committed payload stays where
it is. So the room that there is settles how often a writer that repeats its calls has to start
over. The writer may have missed what others have committed before its transaction begins.
-/

import RecordFile.Proofs.Environment.Refreshing
import RecordFile.Proofs.Session.Closing
import RecordFile.Proofs.Session.Settings

namespace RecordFile

namespace Session

open Environment (Mappable)

variable {session session' : Session} {env : Environment} {file file' : Image}
  {contents after : Contents} {txn : Transaction} {call : Call} {room restarts age : Nat}

structure Filling (session : Session) (contents : Contents) (room restarts : Nat) : Prop where
  drafts : ∃ age < UInt64.size, session.Drafts contents age
  bounded : session.pending? ≠ none → session.Bounded contents
  restarts_eq : session.bulkRetries = restarts
  roomy : ∀ env, session.env? = some env → env.room = room

theorem Filling.of_bounded (bounded : session.Bounded contents)
    (restartsEq : session.bulkRetries = restarts)
    (roomy : ∀ env, session.env? = some env → env.room = room) :
    session.Filling contents room restarts :=
  ⟨⟨0, by decide, bounded.drafts⟩, fun _ => bounded, restartsEq, roomy⟩

theorem Filling.retold (filling : session.Filling contents room restarts)
    (notifications : List Notification) :
    Filling { session with notifications := notifications } contents room restarts := by
  obtain ⟨age, recent, drafts⟩ := filling.drafts
  constructor
  · exact ⟨age, recent, drafts.retold _ _⟩
  · intro begun
    have bounded := filling.bounded begun
    exact ⟨bounded.drafts.retold _ _, bounded.mapped, bounded.limit_eq⟩
  · exact filling.restarts_eq
  · exact filling.roomy

theorem Alike.roomy (alike : session.Alike session') (here : session.env? = some env)
    (roomy : ∀ env, session.env? = some env → env.room = room) :
    ∀ env', session'.env? = some env' → env'.room = room := by
  intro env' there
  obtain ⟨found, again, kin⟩ := alike.env env here
  rw [there] at again
  cases again
  exact kin.room_eq.trans (roomy env here)

/-! ### Beginning -/

/-- A transaction that begins now is over what the file holds, and has the room that there is. -/
theorem bounded_of_began (holds : file.Holds contents) (drafts : session.Drafts contents age)
    (recent : age < UInt64.size) (idle : session.pending? = none)
    (begun : session.bulkTransaction file = (.ok txn, session')) :
    session'.Bounded contents := by
  obtain ⟨env, here, writer⟩ := drafts.writer
  unfold bulkTransaction at begun
  split at begun
  · next waiting =>
      rw [idle] at waiting
      cases waiting
  · split at begun
    · cases begun
    · next found there =>
        rw [here] at there
        cases there
        rcases Environment.beginWrite_cases holds (drafts.follows.tracks env here) with
          ⟨reader, _⟩ | ⟨_, env', began, tracks, current, kin⟩ | ⟨_, _, cause, refused⟩
        · rw [writer] at reader
          cases reader
        · rw [began] at begun
          cases begun
          obtain ⟨last, there, mapEq, _, reported⟩ :=
            reportResize_cases { session with env? := some env' } rfl
          have alike := (alike_withEnv here kin).trans reported
          have writer' : last.flags.readOnly = false := by
            obtain ⟨found, again, lastKin⟩ := alike.env env here
            rw [there] at again
            cases again
            rw [lastKin.flags_eq, writer]
          have follows := drafts.follows.alike alike
            (tracks_reportResize (tracks_withEnv session (tracks.renew recent current)))
          have shows := tracks.shows recent current.generation?_eq
          constructor
          · constructor
            · exact alike.bulk_eq.trans drafts.bulk
            · exact follows.pend (tracks.sound_transaction current) there writer'
            · exact ⟨last, there, writer'⟩
          · intro _ found again
            rw [show _ = some found from again] at there
            cases there
            exact mapEq.trans current.mapSize_eq
          · intro txn waiting
            cases waiting
            change env'.transactionLimit = _
            unfold Environment.transactionLimit Contents.capacity
            rw [current.mapSize_eq, shows.dataOffset_eq, shows.dataLength_eq]
        · rw [refused] at begun
          cases begun

/-- The writer takes up its transaction or begins one, unless the map cannot be mapped. -/
theorem Filling.begins (filling : session.Filling contents room restarts)
    (holds : file.Holds contents) :
    (∃ txn session', session.bulkTransaction file = (.ok txn, session') ∧
      session'.pending? = some txn ∧ txn.records = session.draft contents.records ∧
      session.Retains session' ∧ session'.Filling contents room restarts) ∨
    (¬ Mappable room contents.header.mapSize ∧
      ∃ cause, session.bulkTransaction file = (.error (.io cause), session)) := by
  obtain ⟨age, recent, drafts⟩ := filling.drafts
  obtain ⟨env, here, _⟩ := drafts.writer
  rcases bulkTransaction_resumes holds drafts recent with
    ⟨txn, session', begun, resumes⟩ | ⟨_, env', cause, there, far, refused⟩
  · have retains := retains_bulkTransaction session file
    rw [begun] at retains
    have bounded : session'.Bounded contents := by
      cases waiting : session.pending? with
      | none => exact bounded_of_began holds drafts recent waiting begun
      | some found =>
          rw [bulkTransaction_of_pending waiting] at begun
          cases begun
          exact filling.bounded (by rw [waiting]; exact Option.some_ne_none txn)
    exact .inl ⟨txn, session', begun, resumes.waiting, resumes.records_eq, retains,
      .of_bounded bounded (resumes.alike.bulkRetries_eq.trans filling.restarts_eq)
        (resumes.alike.roomy here filling.roomy)⟩
  · rw [filling.roomy env' there] at far
    exact .inr ⟨far, cause, refused⟩

/-! ### Restarting -/

inductive Restarts (config : SessionConfig) (limit : Nat) (file : Image) (contents : Contents)
    (room restarts : Nat) : EngineError → Session → Image → Prop
  | replay {session' : Session} {file' : Image} {after : Contents}
      (advances : Advances 0 file contents file' after)
      (mapSize_eq : after.header.mapSize = nextSize config contents.header.mapSize)
      (filling : session'.Filling after room (restarts + 1))
      (idle : session'.pending? = none) :
      Restarts config limit file contents room restarts .retry session' file'
  | refused {cause : SystemError} {session' : Session} {file' : Image} {after : Contents}
      (advances : Advances 0 file contents file' after)
      (far : ¬ Mappable room (nextSize config contents.header.mapSize)) :
      Restarts config limit file contents room restarts (.io cause) session' file'
  | spent {cause : EngineError} {session' : Session}
      (spent : limit ≤ restarts ∨ config.maxMapSize ≤ contents.header.mapSize) :
      Restarts config limit file contents room restarts (.retryLimit limit cause) session' file

theorem Restarts.ne_keyExists {config : SessionConfig} {limit : Nat} {failure : EngineError}
    (came : Restarts config limit file contents room restarts failure session' file') :
    failure ≠ .keyExists := by
  cases came with
  | replay _ _ _ _ => nofun
  | refused _ _ => nofun
  | spent _ => nofun

theorem restart_restarts {α : Type} (holds : file.Holds contents)
    (drafts : session.Drafts contents 0) (here : session.env? = some env)
    (mapped : env.mapSize = contents.header.mapSize)
    (restartsEq : session.bulkRetries = restarts)
    (roomy : ∀ env, session.env? = some env → env.room = room) (cause : EngineError) :
    ∃ failure session' file', session.restart (α := α) cause file =
        (.error failure, session', file') ∧
      Restarts session.config session.bulkRetryLimit file contents room restarts failure session'
        file' := by
  have tracks := drafts.follows.tracks env here
  have still : session.emptied.env? = some env := here
  have writer : env.flags.readOnly = false := by
    obtain ⟨found, there, writer⟩ := drafts.writer
    rw [here] at there
    cases there
    exact writer
  have larger : env.mapSize < session.config.maxMapSize →
      contents.header.mapSize ≤ nextSize session.config env.mapSize :=
    fun smaller => mapped ▸ le_nextSize drafts.follows.valid smaller
  by_cases spent : session.bulkRetryLimit ≤ session.bulkRetries
  · exact ⟨_, _, file, restart_of_spent spent cause file, .spent (.inl (restartsEq ▸ spent))⟩
  · have spare := Nat.lt_of_not_le spent
    rcases grow_cases holds still tracks larger with
      ⟨largest, ended⟩ | ⟨smaller, result, session', env', file', after, grown, advances, alike,
        there, kin, tracks', came⟩
    · unfold restart
      dsimp only
      rw [if_neg spent]
      unfold emptied at ended
      rw [ended]
      rw [show session.emptied.config = session.config from rfl, mapped] at largest
      exact ⟨_, _, file, rfl, .spent (.inr largest)⟩
    · rcases came with ⟨rfl, _, mapEq⟩ | ⟨reader, _⟩ | ⟨_, far, refusal, rfl⟩
      · unfold restart
        dsimp only
        rw [if_neg spent]
        unfold emptied at grown
        rw [grown]
        rw [mapped] at mapEq
        have follows : session'.Follows after 0 := by
          apply follows_of_idle
          · exact alike.config_eq ▸ drafts.follows.valid
          · exact tracks_of_env there tracks'
          · exact alike.pending?_eq
        have drafts' : Drafts { session' with bulkRetries := session'.bulkRetries + 1 } after 0 :=
          Drafts.retold ⟨alike.bulk_eq.trans drafts.bulk, follows, env', there,
            by rw [kin.flags_eq, writer]⟩ _ _
        refine ⟨_, _, file', rfl, .replay advances mapEq ?_ alike.pending?_eq⟩
        apply Filling.of_bounded (bounded_of_idle drafts' alike.pending?_eq)
        · exact congrArg (· + 1) (alike.bulkRetries_eq.trans restartsEq)
        · exact alike.roomy still roomy
      · rw [writer] at reader
        cases reader
      · rw [roomy env here, mapped] at far
        exact ⟨_, session', file', restart_of_error spare grown cause, .refused advances far⟩

/-! ### Writing and committing -/

/-- A put that keeps nothing, or a deletion. -/
def Call.Overwrites : Call → Prop
  | .put _ _ keepExisting => keepExisting = false
  | .delete _ => True
  | _ => False

def Call.Storable : Call → Prop
  | .put key value _ => Record.Storable (key, value)
  | _ => True

inductive Fills (session : Session) (file : Image) (contents : Contents) (room restarts : Nat)
    (call : Call) : Reply → Session → Image → Prop
  | edited {reply : Reply} {session' : Session} (storable : call.Storable)
      (succeeds : ¬ reply.Failed)
      (filling : session'.Filling contents room restarts) (begun : session'.pending? ≠ none)
      (draft_eq : session'.draft contents.records =
        call.change (session.draft contents.records))
      (fits : call.Stores →
        (call.change (session.draft contents.records)).encodedLength ≤ contents.capacity) :
      Fills session file contents room restarts call reply session' file
  | tooLarge {key value : Bytes} {keepExisting : Bool} {session' : Session}
      (call_eq : call = .put key value keepExisting) (large : ¬ Record.Storable (key, value)) :
      Fills session file contents room restarts call
        (.failed (.invalid (.recordTooLarge key.length value.length))) session' file
  | unmapped {cause : SystemError} {session' : Session}
      (far : ¬ Mappable room contents.header.mapSize) :
      Fills session file contents room restarts call (.failed (.io cause)) session' file
  | full {failure : EngineError} {session' : Session} {file' : Image}
      (storable : call.Storable) (stores : call.Stores)
      (full : contents.capacity <
        (call.change (session.draft contents.records)).encodedLength)
      (came : Restarts session.config session.bulkRetryLimit file contents room restarts
        failure session' file') :
      Fills session file contents room restarts call (.failed failure) session' file'

/-- The transaction of a writer may be replaced by one with the same limit. -/
theorem Filling.replace (filling : session.Filling contents room restarts)
    (waiting : session.pending? = some txn) {later : Transaction} (sound : later.Sound)
    (limitEq : later.limit = txn.limit) :
    Filling { session with pending? := some later } contents room restarts := by
  have bounded := filling.bounded (by rw [waiting]; exact Option.some_ne_none txn)
  have drafts := bounded.drafts
  obtain ⟨env, here, writer⟩ := drafts.writer
  apply Filling.of_bounded
  · constructor
    · exact ⟨drafts.bulk, drafts.follows.pend sound here writer, drafts.writer⟩
    · intro _
      apply bounded.mapped
      rw [waiting]
      exact Option.some_ne_none txn
    · intro found replaced
      cases replaced
      exact limitEq.trans (bounded.limit_eq txn waiting)
  · exact filling.restarts_eq
  · exact filling.roomy

theorem Filling.put_fills (filling : session.Filling contents room restarts)
    (holds : file.Holds contents) (key value : Bytes) :
    ∃ result session' file', session.put key value false file = (result, session', file') ∧
      session.Fills file contents room restarts (.put key value false)
        (.of (fun _ => .done) result) session' file' := by
  obtain ⟨_, _, drafts⟩ := filling.drafts
  unfold put
  rw [if_pos drafts.bulk]
  rcases filling.begins holds with
    ⟨txn, session', begun, waiting, recordsEq, retains, filling'⟩ | ⟨far, cause, refused⟩
  · have pending : session'.pending? ≠ none := by
      rw [waiting]
      exact Option.some_ne_none txn
    have bounded := filling'.bounded pending
    have sound := bounded.drafts.follows.sound txn waiting
    have limit := bounded.limit_eq txn waiting
    have length := Transaction.lengthAfterPut_eq sound key value
    rw [begun]
    dsimp only
    rcases txn.put_cases key value false with
      ⟨large, put⟩ | ⟨_, clashes, _⟩ | ⟨storable, _, exceeds, put⟩ |
      ⟨storable, _, within, put⟩
    · rw [put]
      exact ⟨_, session', file, rfl, .tooLarge rfl large⟩
    · exact absurd clashes.1 Bool.false_ne_true
    · rw [put]
      obtain ⟨env, here, _⟩ := bounded.drafts.writer
      obtain ⟨failure, last, file', restarted, came⟩ :=
        restart_restarts (α := Unit) holds bounded.drafts here (bounded.mapped pending env here)
          filling'.restarts_eq filling'.roomy
          (.mapFull (Layout.headerSize + txn.lengthAfterPut key value) txn.limit)
      dsimp only
      rw [if_pos (show (EngineError.mapFull _ _).isMapFull = true from rfl), restarted]
      rw [retains.config_eq, retains.bulkRetryLimit_eq] at came
      refine ⟨_, last, file', rfl, .full storable trivial ?_ came⟩
      rw [limit, length, recordsEq] at exceeds
      exact Nat.lt_of_add_lt_add_left exceeds
    · rw [put]
      refine ⟨_, _, file, rfl, .edited storable ?_
        (filling'.replace waiting (sound.put put) rfl) ?_ ?_ ?_⟩
      · rintro ⟨_, failed⟩
        cases failed
      · exact Option.some_ne_none _
      · exact congrArg (Records.insert · key value) recordsEq
      · intro _
        rw [limit, length, recordsEq] at within
        exact Nat.le_of_add_le_add_left within
  · rw [refused]
    exact ⟨_, session, file, rfl, .unmapped far⟩

theorem Filling.delete_fills (filling : session.Filling contents room restarts)
    (holds : file.Holds contents) (key : Bytes) :
    ∃ result session' file', session.delete key file = (result, session', file') ∧
      session.Fills file contents room restarts (.delete key) (.of .found result) session'
        file' := by
  obtain ⟨_, _, drafts⟩ := filling.drafts
  unfold delete
  rw [if_pos drafts.bulk]
  rcases filling.begins holds with
    ⟨txn, session', begun, waiting, recordsEq, _, filling'⟩ | ⟨far, cause, refused⟩
  · have bounded := filling'.bounded (by rw [waiting]; exact Option.some_ne_none txn)
    have sound := bounded.drafts.follows.sound txn waiting
    rw [begun]
    refine ⟨_, _, file, rfl, .edited trivial ?_
      (filling'.replace waiting (sound.delete key) (txn.limit_delete key)) ?_ ?_ nofun⟩
    · rintro ⟨_, failed⟩
      cases failed
    · exact Option.some_ne_none _
    · exact (txn.records_delete key).trans (congrArg (Records.erase · key) recordsEq)
  · rw [refused]
    exact ⟨_, session, file, rfl, .unmapped far⟩

theorem Filling.act_fills (filling : session.Filling contents room restarts)
    (holds : file.Holds contents) (overwrites : call.Overwrites) :
    ∃ reply session' file', session.act call 0 file = (reply, session', file') ∧
      session.Fills file contents room restarts call reply session' file' := by
  cases call with
  | put key value keepExisting =>
      subst overwrites
      obtain ⟨result, session', file', put, fills⟩ := filling.put_fills holds key value
      refine ⟨_, session', file', ?_, fills⟩
      unfold act
      dsimp only
      rw [put]
  | delete key =>
      obtain ⟨result, session', file', deleted, fills⟩ := filling.delete_fills holds key
      refine ⟨_, session', file', ?_, fills⟩
      unfold act
      dsimp only
      rw [deleted]
  | «open» _ _ _ => cases overwrites
  | get _ => cases overwrites
  | seek _ => cases overwrites
  | commit => cases overwrites

inductive Finishes (session : Session) (file : Image) (contents : Contents)
    (room restarts : Nat) : Except EngineError Unit → Session → Image → Prop
  | published {session' : Session} {file' : Image} {after : Contents}
      (fits : (session.draft contents.records).encodedLength ≤ contents.capacity)
      (holds : file'.Holds after) (records_eq : after.records = session.draft contents.records)
      (mapSize_eq : after.header.mapSize = contents.header.mapSize)
      (limit : session'.limit? = some contents.header.mapSize) :
      Finishes session file contents room restarts (.ok ()) session' file'
  | full {failure : EngineError} {session' : Session} {file' : Image}
      (full : contents.capacity < (session.draft contents.records).encodedLength)
      (came : Restarts session.config session.bulkRetryLimit file contents room restarts
        failure session' file') :
      Finishes session file contents room restarts (.error failure) session' file'

theorem Filling.commit_finishes (filling : session.Filling contents room restarts)
    (holds : file.Holds contents) (begun : session.pending? ≠ none) :
    ∃ result session' file', session.commit file = (result, session', file') ∧
      session.Finishes file contents room restarts result session' file' := by
  have bounded := filling.bounded begun
  have drafts := bounded.drafts
  obtain ⟨txn, waiting⟩ := Option.ne_none_iff_exists'.mp begun
  obtain ⟨env, here, writer⟩ := drafts.writer
  have sound := drafts.follows.sound txn waiting
  have tracks := drafts.follows.tracks env here
  have mapped := bounded.mapped begun env here
  have draftEq := draft_of_pending waiting contents.records
  have fits := holds.place?_isSome_iff txn.dataLength
  rw [sound.dataLength_eq, ← draftEq] at fits
  rcases env.commit_cases txn holds with
    ⟨reader, _⟩ | ⟨_, place, full⟩ | ⟨_, offset, place, done⟩
  · rw [writer] at reader
    cases reader
  · have drafts' : Drafts { session with pending? := none, env? := some env.forget }
        contents 0 :=
      { bulk := drafts.bulk
        follows := follows_of_idle drafts.follows.valid
          (tracks_of_env rfl (Environment.tracks_forget tracks.mapSize_le 0)) rfl
        writer := ⟨env.forget, rfl, writer⟩ }
    have roomy : ∀ found, some env.forget = some found → found.room = room := by
      intro found same
      cases same
      exact filling.roomy env here
    obtain ⟨failure, last, file', restarted, came⟩ :=
      restart_restarts (α := Unit) holds drafts' rfl mapped filling.restarts_eq roomy
        (.mapFull (Layout.headerSize + contents.header.dataLength.toNat + txn.dataLength)
          env.mapSize.toNat)
    rw [commit_of_full waiting here full rfl, restarted]
    rw [mapped, sound.dataLength_eq, ← draftEq] at place
    rw [place] at fits
    refine ⟨_, last, file', rfl, .full ?_ came⟩
    exact Nat.lt_of_not_le fun within => Bool.false_ne_true (fits.mpr within)
  · have placed : Environment.Placed contents txn env.mapSize.toNat offset :=
      .of_le sound tracks.mapSize_le place
    unfold commit
    rw [waiting, here]
    dsimp only
    rw [done]
    rw [mapped, sound.dataLength_eq, ← draftEq] at place
    rw [place] at fits
    refine ⟨_, _, _, rfl, .published (fits.mp rfl) (placed.advances holds env.flags).holds ?_ rfl
      ?_⟩
    · exact draftEq.symm
    · exact congrArg some mapped

end Session

end RecordFile
