/-
Bulk transactions, and the growth step between two attempts at one.

A restart computes the next map size from what its session has mapped. That is all of the map
when the transaction has only begun, and may be less when others have raised the map since.
A step to a size between the two sets the map back and cuts the file off. Short of that no
call makes map or file smaller, and a call that fails leaves the committed records alone.
-/

import RecordFile.Proofs.Session.Calls

namespace RecordFile

namespace Session

open Environment (readHeader Mappable Kin)

variable {session session' : Session} {env env' : Environment} {file file' : Image}
  {contents after : Contents} {age bumps : Nat} {txn : Transaction}

/-! ### The pending transaction -/

/-- The growth step that this session takes next leads to less than the map has. -/
def FallsShort (session : Session) (header : Header) : Prop :=
  session.bulkRetries < session.bulkRetryLimit ∧ ∃ env, session.env? = some env ∧
    env.mapSize < nextSize session.config env.mapSize ∧
    nextSize session.config env.mapSize < header.mapSize

theorem not_fallsShort {header : Header} (here : session.env? = some env)
    (mapped : env.mapSize = header.mapSize) : ¬ session.FallsShort header := by
  rintro ⟨_, found, there, more, less⟩
  rw [here] at there
  cases there
  rw [← mapped] at less
  exact UInt64.lt_irrefl _ (UInt64.lt_trans more less)

theorem bulkTransaction_of_pending (waiting : session.pending? = some txn) (file : Image) :
    session.bulkTransaction file = (.ok txn, session) := by
  unfold bulkTransaction
  rw [waiting]

/-- What asking for the pending transaction comes to. It is taken up again, or one begins over
what the file holds, with all of the map mapped. -/
inductive Begins (session : Session) (contents : Contents) (age : Nat) :
    Except EngineError Transaction × Session → Prop
  | resumed {txn : Transaction} (waiting : session.pending? = some txn) :
      Begins session contents age (.ok txn, session)
  | began {txn : Transaction} {session' : Session} {env : Environment}
      (idle : session.pending? = none) (waiting : session'.pending? = some txn)
      (alike : session.Alike { session' with pending? := none })
      (follows : session'.Follows contents age) (here : session'.env? = some env)
      (mapSize_eq : env.mapSize = contents.header.mapSize)
      (records_eq : age < UInt64.size → txn.records = contents.records) :
      Begins session contents age (.ok txn, session')
  | closed (idle : session.pending? = none) (noEnv : session.env? = none) :
      Begins session contents age (.error .notOpen, session)
  | readOnly {env : Environment} (idle : session.pending? = none)
      (here : session.env? = some env) (reader : env.flags.readOnly = true) :
      Begins session contents age (.error .readOnly, session)
  | unmapped {env : Environment} {cause : SystemError} (idle : session.pending? = none)
      (here : session.env? = some env) (far : ¬ Mappable env.room contents.header.mapSize) :
      Begins session contents age (.error (.io cause), session)

theorem bulkTransaction_begins (holds : file.Holds contents)
    (follows : session.Follows contents age) :
    session.Begins contents age (session.bulkTransaction file) := by
  unfold bulkTransaction
  split
  · next txn waiting => exact .resumed waiting
  · next idle =>
      split
      · next noEnv => exact .closed idle noEnv
      · next env here =>
          have same : { session with env? := some env } = session := by rw [← here]
          rcases Environment.beginWrite_cases holds (follows.tracks env here) with
            ⟨reader, refused⟩ | ⟨writer, env', began, tracks', current, kin⟩ |
            ⟨_, far, cause, refused⟩
          · rw [refused]
            dsimp only
            rw [same]
            exact .readOnly idle here reader
          · obtain ⟨last, there, mapEq, _, reported⟩ :=
              reportResize_cases { session with env? := some env' } rfl
            have alike := (alike_withEnv here kin).trans reported
            have stays := follows.alike alike
              (tracks_reportResize (tracks_withEnv session tracks'))
            obtain ⟨found, again, lastKin⟩ := alike.env env here
            rw [there] at again
            cases again
            rw [began]
            dsimp only
            have writer' : last.flags.readOnly = false := by rw [lastKin.flags_eq, writer]
            refine .began idle rfl ?_ ?_ there (mapEq.trans current.mapSize_eq) ?_
            · exact ⟨alike.config_eq, alike.bulk_eq, idle.symm, alike.bulkRetries_eq,
                alike.apiRetryLimit_eq, alike.bulkRetryLimit_eq, alike.cursor?_eq, alike.env⟩
            · exact stays.pend (tracks'.sound_transaction current) there writer'
            · intro short
              exact (tracks'.shows short current.generation?_eq).records_eq
          · rw [refused]
            dsimp only
            rw [same]
            exact .unmapped idle here far

/-- Of a transaction that begins now the growth step does not fall short. -/
theorem bulkTransaction_cases (holds : file.Holds contents)
    (follows : session.Follows contents age) :
    (∃ txn session', session.bulkTransaction file = (.ok txn, session') ∧
      session'.Follows contents age ∧ session'.pending? = some txn ∧
      (session' = session ∨ ¬ session'.FallsShort contents.header)) ∨
    (∃ failure, session.bulkTransaction file = (.error failure, session)) := by
  have begins := bulkTransaction_begins holds follows
  generalize session.bulkTransaction file = result at begins ⊢
  cases begins with
  | resumed waiting => exact Or.inl ⟨_, _, rfl, follows, waiting, Or.inl rfl⟩
  | began _ waiting _ follows' here mapped _ =>
      exact Or.inl ⟨_, _, rfl, follows', waiting, Or.inr (not_fallsShort here mapped)⟩
  | closed _ _ => exact Or.inr ⟨_, rfl⟩
  | readOnly _ _ _ => exact Or.inr ⟨_, rfl⟩
  | unmapped _ _ _ => exact Or.inr ⟨_, rfl⟩

/-! ### Restarting -/

/-- A step to what is mapped anyway is none. -/
theorem grow_of_mapped (here : session.env? = some env) (writer : env.flags.readOnly = false)
    (mapped : nextSize session.config env.mapSize ≤ env.mapSize) (file : Image) :
    ∃ more session', session.grow file = (.ok more, session', file) ∧ session.Alike session' ∧
      session'.env? = some env := by
  have same : session.Alike { session with env? := some env } :=
    alike_withEnv here (Kin.refl env)
  unfold grow
  rw [here]
  dsimp only
  split
  · exact ⟨_, _, rfl, Alike.refl session, here⟩
  · rw [env.grow_of_mapped writer mapped file]
    exact ⟨_, _, rfl, same.trans (alike_emit _ _), env?_emit _ _⟩

def emptied (session : Session) : Session :=
  { session with pending? := none, cursor? := none }

inductive Abandons (session : Session) (cause : EngineError) : EngineError → Prop
  | retry : Abandons session cause .retry
  | retryLimit : Abandons session cause (.retryLimit session.bulkRetryLimit cause)
  | io {env : Environment} {refusal : SystemError} (here : session.env? = some env)
      (far : ¬ Mappable env.room (nextSize session.config env.mapSize)) :
      Abandons session cause (.io refusal)

theorem restart_of_spent {α : Type} (spent : session.bulkRetryLimit ≤ session.bulkRetries)
    (cause : EngineError) (file : Image) :
    session.restart (α := α) cause file =
      (.error (.retryLimit session.bulkRetryLimit cause), session.emptied, file) := by
  unfold restart
  rw [if_pos spent]
  rfl

/-- A restart whose growth step is refused fails as that does. -/
theorem restart_of_error {α : Type} (spare : session.bulkRetries < session.bulkRetryLimit)
    {failure : EngineError} (grown : session.emptied.grow file = (.error failure, session', file'))
    (cause : EngineError) :
    session.restart (α := α) cause file = (.error failure, session', file') := by
  unfold restart
  dsimp only
  rw [if_neg (Nat.not_le_of_lt spare)]
  unfold emptied at grown
  rw [grown]

/-- With or without a larger map, the restart fails. -/
theorem restart_of_ok {α : Type} (spare : session.bulkRetries < session.bulkRetryLimit)
    {more : Bool} (grown : session.emptied.grow file = (.ok more, session', file'))
    (alike : session.emptied.Alike session') (cause : EngineError) :
    ∃ failure retries, session.Abandons cause failure ∧ session.restart (α := α) cause file =
      (.error failure, { session' with bulkRetries := retries }, file') := by
  have limit : session'.bulkRetryLimit = session.bulkRetryLimit := alike.bulkRetryLimit_eq
  have spends : session.Abandons cause (.retryLimit session'.bulkRetryLimit cause) :=
    limit ▸ .retryLimit
  unfold restart
  dsimp only
  rw [if_neg (Nat.not_le_of_lt spare)]
  unfold emptied at grown
  rw [grown]
  cases more with
  | false => exact ⟨_, session'.bulkRetries, spends, rfl⟩
  | true => exact ⟨_, _, .retry, rfl⟩

/-- Whatever the growth step comes to, the restart leaves the file as that does. -/
theorem file_restart {α : Type} (spare : session.bulkRetries < session.bulkRetryLimit)
    {result : Except EngineError Bool}
    (grown : session.emptied.grow file = (result, session', file')) {cause : EngineError} :
    (session.restart (α := α) cause file).2.2 = file' := by
  unfold restart
  dsimp only
  rw [if_neg (Nat.not_le_of_lt spare)]
  unfold emptied at grown
  rw [grown]
  rcases result with failure | more
  · rfl
  · cases more with
    | false => rfl
    | true => rfl

theorem restart_refuses {α : Type} (session : Session) (cause : EngineError) (file : Image) :
    ∃ failure last, session.restart (α := α) cause file = (.error failure, last) := by
  unfold restart
  dsimp only
  split
  · exact ⟨_, _, rfl⟩
  · split
    · exact ⟨_, _, rfl⟩
    · exact ⟨_, _, rfl⟩
    · exact ⟨_, _, rfl⟩

/-- A restart keeps what is committed, unless the growth step falls short. -/
theorem restart_cases {α : Type} (holds : file.Holds contents)
    (follows : session.Follows contents age) (here : session.env? = some env)
    (writer : env.flags.readOnly = false) (safe : ¬ session.FallsShort contents.header)
    (cause : EngineError) :
    ∃ failure session' retries file' after,
      session.restart (α := α) cause file =
        (.error failure, { session' with bulkRetries := retries }, file') ∧
      session.Abandons cause failure ∧ session.emptied.Alike session' ∧
      Advances 0 file contents file' after ∧
      Follows { session' with bulkRetries := retries } after age := by
  have tracks := follows.tracks env here
  have same := Advances.refl holds
  have still : session.emptied.env? = some env := here
  have started : session.emptied.Follows contents age :=
    follows_of_idle follows.valid follows.tracks rfl
  have stays : ∀ {session' : Session} {after : Contents} (retries : Nat),
      session.emptied.Alike session' → session'.Tracks after age →
        Follows { session' with bulkRetries := retries } after age := by
    intro session' after retries alike tracks'
    have followed := started.alike alike tracks'
    exact ⟨followed.valid, followed.tracks, followed.sound, followed.writer⟩
  by_cases spent : session.bulkRetryLimit ≤ session.bulkRetries
  · exact ⟨_, session.emptied, session.bulkRetries, file, contents, restart_of_spent spent _ _,
      .retryLimit, Alike.refl _, same, started⟩
  · have spare := Nat.lt_of_not_le spent
    by_cases mapped : nextSize session.config env.mapSize ≤ env.mapSize
    · obtain ⟨more, session', grown, alike, there⟩ := grow_of_mapped still writer mapped file
      obtain ⟨failure, retries, abandons, restarted⟩ :=
        restart_of_ok (α := α) spare grown alike cause
      exact ⟨failure, session', retries, file, contents, restarted, abandons, alike, same,
        stays retries alike (tracks_of_env there tracks)⟩
    · have larger : contents.header.mapSize ≤ nextSize session.config env.mapSize := by
        apply UInt64.not_lt.mp
        intro short
        exact safe ⟨spare, env, here, UInt64.not_le.mp mapped, short⟩
      rcases grow_cases holds still tracks (fun _ => larger) with
        ⟨_, ended⟩ | ⟨_, result, session', env', file', after, grown, advances, alike, there, _,
          tracks', came⟩
      · obtain ⟨failure, retries, abandons, restarted⟩ :=
          restart_of_ok (α := α) spare ended (Alike.refl _) cause
        exact ⟨failure, _, retries, file, contents, restarted, abandons, Alike.refl _, same,
          stays retries (Alike.refl _) (tracks_of_env still tracks)⟩
      · have tracks'' := tracks_of_env there tracks'
        rcases came with ⟨rfl, _, _⟩ | ⟨reader, _⟩ | ⟨_, far, refusal, rfl⟩
        · obtain ⟨failure, retries, abandons, restarted⟩ :=
            restart_of_ok (α := α) spare grown alike cause
          exact ⟨failure, session', retries, file', after, restarted, abandons, alike, advances,
            stays retries alike tracks''⟩
        · rw [writer] at reader
          cases reader
        · exact ⟨_, session', session'.bulkRetries, file', after,
            restart_of_error spare grown cause, .io here far, alike, advances,
            stays _ alike tracks''⟩

theorem restart_of_fallsShort {α : Type} (holds : file.Holds contents)
    (exact : file.size = contents.header.mapSize.toNat) (short : file.size ≤ Image.longest)
    (here : session.env? = some env) (writer : env.flags.readOnly = false)
    (falls : session.FallsShort contents.header) (cause : EngineError) :
    (session.restart (α := α) cause file).2.2.size < file.size := by
  obtain ⟨spare, found, there, less, falls⟩ := falls
  rw [here] at there
  cases there
  have smaller : ¬ session.config.maxMapSize ≤ env.mapSize :=
    UInt64.not_le.mpr (UInt64.lt_of_lt_of_le less (nextSize_le _ _))
  obtain ⟨result, env', file', cut, shorter⟩ :=
    Environment.grow_of_lt holds exact short writer less falls
  have grown : ∃ result session', session.emptied.grow file = (result, session', file') := by
    unfold grow emptied
    rw [here]
    dsimp only
    rw [if_neg smaller, cut]
    rcases result with failure | done
    · exact ⟨_, _, rfl⟩
    · exact ⟨_, _, rfl⟩
  obtain ⟨_, session', grown⟩ := grown
  rw [file_restart spare grown]
  exact shorter

/-! ### What a call leaves behind -/

def Call.Discards : Call → Prop
  | .open _ flags _ => flags.discards = true
  | _ => False

def Call.Touches (key : Bytes) : Call → Prop
  | .put other _ _ => other = key
  | .delete other => other = key
  | _ => False

/-- A call leaves contents that its session follows. A call that fails leaves the records
alone, and one that makes the map larger leaves alone all but the record that it is for. -/
structure Lands (call : Call) (file : Image) (contents : Contents) (age : Nat)
    (outcome : Reply × Session × Image) (bumps : Nat) (after : Contents) : Prop where
  advances : Advances bumps file contents outcome.2.2 after
  once : bumps ≤ 1
  follows : outcome.2.1.Follows after (age + bumps)
  kept : outcome.1.Failed → ¬ call.Discards → bumps = 0
  others : age < UInt64.size → contents.header.mapSize < after.header.mapSize →
    ¬ call.Discards → ∀ key, ¬ call.Touches key →
      after.records.find? key = contents.records.find? key

variable {call : Call} {reply : Reply}

theorem lands_of_kept (advances : Advances 0 file contents file' after)
    (follows : session'.Follows after age) :
    Lands call file contents age (reply, session', file') 0 after where
  advances := advances
  once := Nat.zero_le 1
  follows := follows
  kept := fun _ _ => rfl
  others := fun _ _ _ key _ => by rw [advances.records_eq rfl]

/-- Without a larger map, a call that succeeds may have published anything. -/
theorem lands_of_done (advances : Advances bumps file contents file' after) (once : bumps ≤ 1)
    (mapSize_eq : after.header.mapSize = contents.header.mapSize)
    (follows : session'.Follows after (age + bumps)) (succeeded : ¬ reply.Failed) :
    Lands call file contents age (reply, session', file') bumps after where
  advances := advances
  once := once
  follows := follows
  kept := fun failed => absurd failed succeeded
  others := by
    intro _ larger
    rw [mapSize_eq] at larger
    exact absurd larger (UInt64.lt_irrefl _)

theorem open_lands {fresh : Image} (holds : fresh.Holds contents)
    (follows : session.Follows contents age) {path : String} {flags : OpenFlags} {room : Nat}
    (opening : Environment.Opening flags session.config.initialMapSize room fresh contents
      (Environment.open path flags session.config.initialMapSize room file)) (bulk : Bool) :
    ∃ bumps after, Lands (.open path flags bulk) fresh contents age
      (session.act (.open path flags bulk) room file) bumps after := by
  have kept : ∀ {bumps : Nat}, (flags.discards = false → bumps = 0) →
      ¬ (Call.open path flags bulk).Discards → bumps = 0 := by
    intro bumps none keeps
    exact none (Bool.eq_false_iff.mpr keeps)
  rcases open_cases session path flags bulk room opening with
    ⟨bumps, after, env, file', opened, prepared, attached⟩ |
    ⟨cause, bumps, after, file', refused, prepared, _, _⟩ | ⟨refused, _, _⟩
  · rw [opened]
    refine ⟨bumps, after, prepared.advances, prepared.once, ?_, ?_, ?_⟩
    · exact follows_of_idle follows.valid
        (tracks_of_env rfl (attached.tracks.mono (Nat.zero_le _))) rfl
    · exact fun _ keeps => kept prepared.bumps_eq keeps
    · intro _ _ keeps key _
      rw [prepared.advances.records_eq (kept prepared.bumps_eq keeps)]
  · rw [refused]
    refine ⟨bumps, after, prepared.advances, prepared.once, ?_, ?_, ?_⟩
    · exact follows.advance prepared.advances
    · exact fun _ keeps => kept prepared.bumps_eq keeps
    · intro _ _ keeps key _
      rw [prepared.advances.records_eq (kept prepared.bumps_eq keeps)]
  · rw [refused]
    exact ⟨0, contents, lands_of_kept (Advances.refl holds) follows⟩

/-- Reading leaves the file alone, in bulk mode too. -/
theorem view_follows (holds : file.Holds contents) (follows : session.Follows contents age) :
    ∃ result session', session.view file = (result, session') ∧
      session'.Follows contents age := by
  cases mode : session.bulk with
  | true =>
      unfold view
      rw [if_pos mode]
      rcases bulkTransaction_cases holds follows with
        ⟨txn, session', begun, follows', _⟩ | ⟨failure, refused⟩
      · rw [begun]
        exact ⟨_, _, rfl, follows'⟩
      · rw [refused]
        exact ⟨_, _, rfl, follows⟩
  | false =>
      cases here : session.env? with
      | none =>
          refine ⟨.error .notOpen, session, ?_, follows⟩
          unfold view
          rw [mode, here]
          rfl
      | some env =>
          rcases view_cases holds mode here (follows.tracks env here) with
            ⟨records, session', viewed, alike, tracks', _⟩ | ⟨_, cause, refused⟩
          · exact ⟨_, _, viewed, follows.alike alike tracks'⟩
          · exact ⟨_, _, refused, follows⟩

theorem Outcome.lands {α : Type} {done : α → Records → Prop}
    {refused : EngineError → Prop} {answer : α → Reply}
    {outcome : Except EngineError α × Session × Image}
    (result : session.Outcome file contents age done refused outcome)
    (follows : session.Follows contents age) (answers : ∀ value, ¬ (answer value).Failed)
    (others : ∀ value after, done value after → ∀ key, ¬ call.Touches key →
      after.find? key = contents.records.find? key) :
    ∃ bumps after, Lands call file contents age
      (Reply.of answer outcome.1, outcome.2) bumps after := by
  cases result with
  | @ok value _ _ after bumps advances once alike tracks does =>
      exact ⟨bumps, after,
        { advances := advances
          once := once
          follows := follows.alike alike tracks
          kept := fun failed => absurd failed (answers value)
          others := fun short _ _ key untouched => others value _ (does short) key untouched }⟩
  | error advances alike tracks _ =>
      exact ⟨0, _, lands_of_kept advances (follows.alike alike tracks)⟩

/-! ### Cutting back -/

/-- The call has the pending transaction meet a full map, which restarts it. -/
def MeetsFullMap (session : Session) (file : Image) : Call → Prop
  | .put key value keepExisting => session.bulk = true ∧ ∃ txn failure,
      session.pending? = some txn ∧ txn.put key value keepExisting = .error failure ∧
      failure.isMapFull = true
  | .commit => ∃ txn env failure, session.pending? = some txn ∧ session.env? = some env ∧
      (env.commit txn file).1 = .error failure ∧ failure.isMapFull = true
  | _ => False

/-- The call restarts the pending transaction over a map that is smaller than the one in the
header. -/
def CutsBack (session : Session) (call : Call) (file : Image) : Prop :=
  session.MeetsFullMap file call ∧
    ∃ header, readHeader file = .ok header ∧ session.FallsShort header

theorem put_of_full (mode : session.bulk = true)
    (begun : session.bulkTransaction file = (.ok txn, session')) {key value : Bytes}
    {keepExisting : Bool} {failure : EngineError}
    (full : txn.put key value keepExisting = .error failure)
    (isFull : failure.isMapFull = true) :
    session.put key value keepExisting file = session'.restart failure file := by
  unfold put
  rw [if_pos mode, begun]
  dsimp only
  rw [full]
  exact if_pos isFull

theorem bulkPut_lands (holds : file.Holds contents) (follows : session.Follows contents age)
    (mode : session.bulk = true) (key value : Bytes) (keepExisting : Bool) (room : Nat)
    (safe : ¬ session.CutsBack (.put key value keepExisting) file) :
    ∃ bumps after, Lands (.put key value keepExisting) file contents age
      (session.act (.put key value keepExisting) room file) bumps after := by
  have same := Advances.refl holds
  unfold act
  dsimp only
  unfold put
  rw [if_pos mode]
  rcases bulkTransaction_cases holds follows with
    ⟨txn, session', begun, follows', waiting, unchanged⟩ | ⟨failure, refused⟩
  · obtain ⟨env, here, writer⟩ := follows'.writer txn waiting
    rw [begun]
    dsimp only
    cases put : txn.put key value keepExisting with
    | ok later =>
        have sound := (follows'.sound txn waiting).put put
        exact ⟨0, contents, lands_of_kept same (follows'.pend sound here writer)⟩
    | error failure =>
        dsimp only
        split
        · next isFull =>
            have safe' : ¬ session'.FallsShort contents.header := by
              rcases unchanged with rfl | safe'
              · intro falls
                exact safe ⟨⟨mode, txn, failure, waiting, put, isFull⟩, _, holds.readable, falls⟩
              · exact safe'
            obtain ⟨failure', session'', retries, file', after, restarted, _, _, advances, last⟩ :=
              restart_cases (α := Unit) holds follows' here writer safe' failure
            rw [restarted]
            exact ⟨0, after, lands_of_kept advances last⟩
        · exact ⟨0, contents, lands_of_kept same follows'⟩
  · rw [refused]
    exact ⟨0, contents, lands_of_kept same follows⟩

theorem put_lands (holds : file.Holds contents) (follows : session.Follows contents age)
    (key value : Bytes) (keepExisting : Bool) (room : Nat)
    (safe : ¬ session.CutsBack (.put key value keepExisting) file) :
    ∃ bumps after, Lands (.put key value keepExisting) file contents age
      (session.act (.put key value keepExisting) room file) bumps after := by
  have same := Advances.refl holds
  unfold act
  dsimp only
  cases mode : session.bulk with
  | false =>
      cases here : session.env? with
      | none =>
          refine ⟨0, contents, ?_⟩
          unfold put growing
          rw [mode, here]
          exact lands_of_kept same follows
      | some env =>
          have outcome := put_outcome holds mode here (follows.tracks env here) follows.valid
            key value keepExisting
          apply outcome.lands follows
          · rintro _ ⟨_, failed⟩
            cases failed
          · intro _ after does other untouched
            rw [does.after_eq, Records.find?_insert]
            exact if_neg fun same => untouched same.symm
  | true => exact bulkPut_lands holds follows mode key value keepExisting room safe

theorem delete_lands (holds : file.Holds contents) (follows : session.Follows contents age)
    (key : Bytes) (room : Nat) :
    ∃ bumps after, Lands (.delete key) file contents age
      (session.act (.delete key) room file) bumps after := by
  have same := Advances.refl holds
  unfold act
  dsimp only
  cases mode : session.bulk with
  | false =>
      cases here : session.env? with
      | none =>
          refine ⟨0, contents, ?_⟩
          unfold delete growing
          rw [mode, here]
          exact lands_of_kept same follows
      | some env =>
          have outcome := delete_outcome holds mode here (follows.tracks env here) follows.valid
            key
          apply outcome.lands follows
          · rintro _ ⟨_, failed⟩
            cases failed
          · intro _ after does other untouched
            rw [does.after_eq, Records.find?_erase]
            exact if_neg fun same => untouched same.symm
  | true =>
      unfold delete
      rw [if_pos mode]
      rcases bulkTransaction_cases holds follows with
        ⟨txn, session', begun, follows', waiting, _⟩ | ⟨failure, refused⟩
      · obtain ⟨env, here, writer⟩ := follows'.writer txn waiting
        have sound := (follows'.sound txn waiting).delete key
        rw [begun]
        exact ⟨0, contents, lands_of_kept same (follows'.pend sound here writer)⟩
      · rw [refused]
        exact ⟨0, contents, lands_of_kept same follows⟩

theorem commit_of_full (waiting : session.pending? = some txn) (here : session.env? = some env)
    {failure : EngineError}
    (full : env.commit txn file = (.error failure, env', file'))
    (isFull : failure.isMapFull = true) :
    session.commit file =
      Session.restart { session with pending? := none, env? := some env' } failure file' := by
  unfold commit
  rw [waiting, here]
  dsimp only
  rw [full]
  exact if_pos isFull

theorem commit_of_idle (idle : session.pending? = none) (file : Image) :
    session.commit file = (.ok (), session, file) := by
  unfold commit
  rw [idle]

theorem idle_of_commit (done : session.commit file = (.ok (), session', file')) :
    session'.pending? = none := by
  unfold commit at done
  split at done
  · next idle =>
      cases done
      exact idle
  · dsimp only at done
    split at done
    · cases done
    · split at done
      · cases done
        rfl
      · split at done
        · obtain ⟨failure, last, refused⟩ := restart_refuses (α := Unit) _ _ _
          rw [refused] at done
          cases done
        · cases done

theorem commit_lands (holds : file.Holds contents) (follows : session.Follows contents age)
    (room : Nat) (safe : ¬ session.CutsBack .commit file) :
    ∃ bumps after, Lands .commit file contents age (session.act .commit room file) bumps after := by
  have same := Advances.refl holds
  unfold act
  dsimp only
  cases waiting : session.pending? with
  | none =>
      rw [commit_of_idle waiting]
      exact ⟨0, contents, lands_of_kept same follows⟩
  | some txn =>
      obtain ⟨env, here, writer⟩ := follows.writer txn waiting
      have tracks := follows.tracks env here
      rcases env.commit_cases txn holds with
        ⟨reader, _⟩ | ⟨_, _, full⟩ | ⟨_, offset, place, done⟩
      · rw [writer] at reader
        cases reader
      · have follows' : Follows { session with pending? := none, env? := some env.forget }
            contents age :=
          follows_of_idle follows.valid
            (tracks_of_env rfl (Environment.tracks_forget tracks.mapSize_le age)) rfl
        have safe' : ¬ FallsShort { session with pending? := none, env? := some env.forget }
            contents.header := by
          rintro ⟨spare, found, there, more, less⟩
          cases there
          exact safe ⟨⟨txn, env, _, waiting, here, by rw [full], rfl⟩, _, holds.readable, spare,
            env, here, more, less⟩
        have writer' : env.forget.flags.readOnly = false := writer
        obtain ⟨failure, session', retries, file', after, restarted, _, _, advances, last⟩ :=
          restart_cases (α := Unit) holds follows' rfl writer' safe'
            (.mapFull (Layout.headerSize + contents.header.dataLength.toNat + txn.dataLength)
              env.mapSize.toNat)
        rw [commit_of_full waiting here full rfl, restarted]
        exact ⟨0, after, lands_of_kept advances last⟩
      · have placed : Environment.Placed contents txn env.mapSize.toNat offset :=
          .of_le (follows.sound txn waiting) tracks.mapSize_le place
        unfold commit
        rw [waiting, here]
        dsimp only
        rw [done]
        refine ⟨1, _, lands_of_done (placed.advances holds env.flags) (Nat.le_refl 1) rfl ?_ ?_⟩
        · exact follows_of_idle follows.valid
            (tracks_of_env rfl (Environment.tracks_published env placed tracks.mapSize_le _)) rfl
        · rintro ⟨_, failed⟩
          cases failed

/-- Every call of a session that does not cut back lands. -/
theorem act_lands (holds : file.Holds contents) (follows : session.Follows contents age)
    (call : Call) (room : Nat) (safe : ¬ session.CutsBack call file) :
    ∃ bumps after, Lands call file contents age (session.act call room file) bumps after := by
  have same := Advances.refl holds
  cases call with
  | «open» path flags bulk =>
      exact open_lands holds follows
        (Environment.open_opening holds path flags session.config.initialMapSize room) bulk
  | get key =>
      obtain ⟨result, session', viewed, follows'⟩ := view_follows holds follows
      refine ⟨0, contents, ?_⟩
      unfold act get
      rw [viewed]
      cases result with
      | error failure => exact lands_of_kept same follows'
      | ok records => exact lands_of_kept same follows'
  | put key value keepExisting => exact put_lands holds follows key value keepExisting room safe
  | delete key => exact delete_lands holds follows key room
  | seek move =>
      obtain ⟨result, session', viewed, follows'⟩ := view_follows holds follows
      refine ⟨0, contents, ?_⟩
      unfold act seek
      rw [viewed]
      cases result with
      | error failure => exact lands_of_kept same follows'
      | ok records =>
          dsimp only
          cases destination session'.cursor? move records with
          | none => exact lands_of_kept same follows'
          | some record =>
              exact lands_of_kept same
                ⟨follows'.valid, follows'.tracks, follows'.sound, follows'.writer⟩
  | commit => exact commit_lands holds follows room safe

/-- A call that cuts back leaves a shorter file. -/
theorem act_of_cutsBack (holds : file.Holds contents) (follows : session.Follows contents age)
    (exact : file.size = contents.header.mapSize.toNat) (short : file.size ≤ Image.longest)
    {call : Call} (room : Nat) (cuts : session.CutsBack call file) :
    (session.act call room file).2.2.size < file.size := by
  obtain ⟨meets, header, read, falls⟩ := cuts
  rw [holds.readable] at read
  cases read
  cases call with
  | put key value keepExisting =>
      obtain ⟨mode, txn, failure, waiting, full, isFull⟩ := meets
      obtain ⟨env, here, writer⟩ := follows.writer txn waiting
      have cut := restart_of_fallsShort (α := Unit) holds exact short here writer falls failure
      change (session.put key value keepExisting file).2.2.size < file.size
      rw [put_of_full mode (bulkTransaction_of_pending waiting file) full isFull]
      exact cut
  | commit =>
      obtain ⟨txn, env, failure, waiting, here, full, isFull⟩ := meets
      obtain ⟨found, again, writer⟩ := follows.writer txn waiting
      rw [here] at again
      cases again
      rcases env.commit_cases txn holds with
        ⟨reader, _⟩ | ⟨_, _, refused⟩ | ⟨_, offset, _, done⟩
      · rw [writer] at reader
        cases reader
      · obtain ⟨spare, found, there, more, less⟩ := falls
        rw [here] at there
        cases there
        change (session.commit file).2.2.size < file.size
        rw [commit_of_full waiting here refused rfl]
        have writer' : env.forget.flags.readOnly = false := writer
        apply restart_of_fallsShort holds exact short _ writer'
        · exact ⟨spare, env.forget, rfl, more, less⟩
        · rfl
      · rw [done] at full
        cases full
  | «open» _ _ _ => exact meets.elim
  | get _ => exact meets.elim
  | delete _ => exact meets.elim
  | seek _ => exact meets.elim

end Session

end RecordFile
