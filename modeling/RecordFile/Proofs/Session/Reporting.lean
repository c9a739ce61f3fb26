/-
What one call of a session reports.

A call looks at the header before it does anything else, and it takes a growth step only from a map
that is mapped as a whole. So it reports the size that it finds, if that is news, and after it the
sizes that it grows the map to, and all that it has mapped when it ends is reported. A size that
the system refuses to map is not reported, although header and file have got it.
-/

import RecordFile.Proofs.Session.Budget
import RecordFile.Proofs.Session.Ledger
import RecordFile.Proofs.Session.Searching
import RecordFile.Proofs.Session.Settings

namespace RecordFile

def Notification.size? : Notification → Option UInt64
  | .mapFull size => some size
  | .mapResized size => some size
  | _ => none

/-- Sizes that get larger, from above the first size to the last. -/
inductive Ascends : UInt64 → List UInt64 → UInt64 → Prop
  | nil {size : UInt64} : Ascends size [] size
  | cons {first next last : UInt64} {sizes : List UInt64} (less : first < next)
      (later : Ascends next sizes last) : Ascends first (next :: sizes) last

theorem Ascends.append {first middle last : UInt64} {sizes sizes' : List UInt64}
    (before : Ascends first sizes middle) (after : Ascends middle sizes' last) :
    Ascends first (sizes ++ sizes') last := by
  induction before with
  | nil => exact after
  | cons less _ ih => exact .cons less (ih after)

theorem Ascends.le {first last : UInt64} {sizes : List UInt64}
    (ascends : Ascends first sizes last) : first ≤ last := by
  induction ascends with
  | nil => exact UInt64.le_refl _
  | cons less _ ih => exact UInt64.le_trans (UInt64.le_of_lt less) ih

/-! ### Operations of an environment -/

namespace Environment

variable {env : Environment} {file : Image} {contents : Contents} {age : Nat} {α : Type}

/-- A commit is for what is mapped already. -/
theorem commit_keepsMap (env : Environment) (txn : Transaction) (file : Image) :
    (env.commit txn file).2.1.mapSize = env.mapSize ∧
      (env.commit txn file).2.1.resized? = env.resized? := by
  unfold commit
  split
  · exact ⟨rfl, rfl⟩
  · split
    · exact ⟨rfl, rfl⟩
    · split
      · exact ⟨rfl, rfl⟩
      · exact ⟨rfl, rfl⟩

theorem transact_keepsMap (env : Environment)
    (operation : Transaction → Except EngineError (α × Transaction)) (file : Image) :
    (env.transact operation file).2.1.mapSize = env.mapSize ∧
      (env.transact operation file).2.1.resized? = env.resized? := by
  unfold transact
  split
  · exact ⟨rfl, rfl⟩
  · next result txn _ =>
      have kept := commit_keepsMap
        { env with snapshot := { env.snapshot with records := Records.empty } } txn file
      split
      · next committed =>
          rw [committed] at kept
          exact kept
      · next committed =>
          rw [committed] at kept
          exact kept

def Looks (operation : Environment → Image → Except EngineError α × Environment × Image) : Prop :=
  ∀ (env : Environment) (file : Image) (contents : Contents) (age : Nat), file.Holds contents →
    env.Tracks contents age → env.resized? = none →
      (∃ failure, operation env file = (.error failure, env, file) ∧
        failure.isMapFull = false) ∨
      env.Notices contents.header.mapSize (operation env file).2.1

theorem looks_put (key value : Bytes) (keepExisting : Bool) :
    Looks fun env file => env.put key value keepExisting file := by
  intro env file contents age holds tracks taken
  unfold put
  dsimp only
  split
  · exact Or.inl ⟨.readOnly, rfl, rfl⟩
  · rcases refresh_cases holds tracks with ⟨env', refreshed, _⟩ | ⟨_, cause, _, refused⟩
    · obtain ⟨mapSizeEq, resizedEq⟩ := refresh_notices holds tracks.mapSize_le taken refreshed
      rw [refreshed]
      obtain ⟨keepsSize, keepsNews⟩ := env'.transact_keepsMap
        (fun txn => (txn.put key value keepExisting).map fun txn => ((), txn)) file
      exact Or.inr ⟨keepsSize.trans mapSizeEq, keepsNews.trans resizedEq⟩
    · rw [refused]
      exact Or.inl ⟨.io cause, rfl, rfl⟩

theorem looks_delete (key : Bytes) : Looks fun env file => env.delete key file := by
  intro env file contents age holds tracks taken
  unfold delete
  dsimp only
  split
  · exact Or.inl ⟨.readOnly, rfl, rfl⟩
  · rcases refresh_cases holds tracks with ⟨env', refreshed, _⟩ | ⟨_, cause, _, refused⟩
    · have noticed := refresh_notices holds tracks.mapSize_le taken refreshed
      rw [refreshed]
      dsimp only
      split
      · exact Or.inr noticed
      · obtain ⟨keepsSize, keepsNews⟩ :=
          env'.transact_keepsMap (fun txn => .ok (txn.delete key)) file
        exact Or.inr ⟨keepsSize.trans noticed.mapSize_eq, keepsNews.trans noticed.resized?_eq⟩
    · rw [refused]
      exact Or.inl ⟨.io cause, rfl, rfl⟩

/-- What growing comes to that is not refused for the size of the file. -/
theorem grow_steps (holds : file.Holds contents) (tracks : env.Tracks contents age)
    {size : UInt64} (larger : contents.header.mapSize < size) :
    ∃ result env' file' after, env.grow size file = (result, env', file') ∧
      Advances 0 file contents file' after ∧ env'.Tracks after age ∧
      env'.resized? = env.resized? ∧ env.Kin env' ∧
      ((result = .ok () ∧ env'.mapSize = size ∧ after.header.mapSize = size) ∨
        ∃ failure, result = .error failure ∧ env'.mapSize = env.mapSize ∧
          (after.header.mapSize = contents.header.mapSize ∨
            (after.header.mapSize = size ∧ ∃ cause, failure = .io cause))) := by
  unfold grow
  split
  · exact ⟨_, _, _, contents, rfl, Advances.refl holds, tracks, rfl, Kin.refl env,
      Or.inr ⟨_, rfl, rfl, Or.inl rfl⟩⟩
  · have further := UInt64.lt_of_le_of_lt tracks.mapSize_le larger
    rw [if_neg (UInt64.not_le.mpr further), holds.readable]
    dsimp only
    by_cases short : size.toNat ≤ Image.longest
    · have advances := advances_resized holds (UInt64.le_of_lt larger) short
      have behind := tracks.advance advances
      rw [setMapSize_of_le contents.header file short]
      dsimp only
      rcases env.remap_cases size with ⟨_, done⟩ | ⟨_, cause, _, refused⟩
      · rw [done]
        exact ⟨_, _, _, _, rfl, advances, ⟨UInt64.le_refl _, behind.sound, behind.lag⟩, rfl,
          ⟨rfl, rfl⟩, Or.inl ⟨rfl, rfl, rfl⟩⟩
      · rw [refused]
        exact ⟨_, _, _, _, rfl, advances, behind, rfl, Kin.refl env,
          Or.inr ⟨_, rfl, rfl, Or.inr ⟨rfl, cause, rfl⟩⟩⟩
    · rw [setMapSize_of_lt contents.header file (Nat.lt_of_not_le short)]
      exact ⟨_, _, _, contents, rfl, Advances.refl holds, tracks, rfl, Kin.refl env,
        Or.inr ⟨_, rfl, rfl, Or.inl rfl⟩⟩

end Environment

namespace Session

open Environment (news? news?_self Looks)

/-! ### From one map to another -/

/-- How a call takes a session from one map to another. Of either map there is the size that the
session has mapped and the size in the header. -/
inductive Moves (config : SessionConfig) (refuses : Prop) :
    UInt64 → UInt64 → List Notification → UInt64 → UInt64 → Prop
  | stays {mapped size : UInt64} : Moves config refuses mapped size [] mapped size
  | follows {mapped size mapped' size' : UInt64} {notes : List Notification}
      (news : mapped < size) (later : Moves config refuses size size notes mapped' size') :
      Moves config refuses mapped size (.mapResized size :: notes) mapped' size'
  | grows {size mapped' size' : UInt64} {notes : List Notification}
      (smaller : size < config.maxMapSize)
      (later : Moves config refuses (nextSize config size) (nextSize config size) notes mapped'
        size') :
      Moves config refuses size size (.mapFull (nextSize config size) :: notes) mapped' size'
  /-- The next size is in the header, and cannot be mapped. -/
  | refused {size : UInt64} (far : refuses) (smaller : size < config.maxMapSize) :
      Moves config refuses size size [] size (nextSize config size)

variable {config : SessionConfig} {refuses refuses' : Prop}
  {mapped size mapped' size' found : UInt64} {notes notes' : List Notification}

theorem Moves.imp (moves : Moves config refuses mapped size notes mapped' size')
    (weaken : refuses → refuses') : Moves config refuses' mapped size notes mapped' size' := by
  induction moves with
  | stays => exact .stays
  | follows news _ ih => exact .follows news ih
  | grows smaller _ ih => exact .grows smaller ih
  | refused far smaller => exact .refused (weaken far) smaller

theorem Moves.follow (within : mapped ≤ size)
    (moves : Moves config refuses size size notes mapped' size') :
    Moves config refuses mapped size ((news? mapped size).toList.map .mapResized ++ notes) mapped'
      size' := by
  by_cases less : mapped < size
  · rw [news?, if_pos less]
    exact .follows less moves
  · rw [news?, if_neg less]
    rw [UInt64.le_antisymm within (UInt64.not_lt.mp less)]
    exact moves

theorem Moves.followed (within : mapped ≤ size) :
    Moves config refuses mapped size ((news? mapped size).toList.map .mapResized) size size := by
  have none : Moves config refuses size size [] size size := .stays
  have moves := none.follow within
  rw [List.append_nil] at moves
  exact moves

theorem Moves.ascends (moves : Moves config refuses mapped size notes mapped' size')
    (valid : config.Valid) (least : Layout.minimumMapSize ≤ size) :
    Ascends mapped (notes.filterMap Notification.size?) mapped' := by
  induction moves with
  | stays => exact .nil
  | follows news _ ih => exact .cons news (ih least)
  | grows smaller _ ih =>
      have less := lt_nextSize valid least smaller
      exact .cons less (ih (UInt64.le_trans least (UInt64.le_of_lt less)))
  | refused => exact .nil

theorem Moves.size_le (moves : Moves config refuses mapped size notes mapped' size')
    (valid : config.Valid) (least : Layout.minimumMapSize ≤ size) (within : mapped ≤ size) :
    size ≤ size' ∧ mapped' ≤ size' := by
  induction moves with
  | stays => exact ⟨UInt64.le_refl _, within⟩
  | follows _ _ ih => exact ih least (UInt64.le_refl _)
  | grows smaller _ ih =>
      have less := UInt64.le_of_lt (lt_nextSize valid least smaller)
      obtain ⟨larger, within'⟩ := ih (UInt64.le_trans least less) (UInt64.le_refl _)
      exact ⟨UInt64.le_trans less larger, within'⟩
  | refused _ smaller =>
      have less := UInt64.le_of_lt (lt_nextSize valid least smaller)
      exact ⟨less, less⟩

/-- What is reported as grown has been grown by this call, and is mapped. -/
theorem Moves.of_mapFull (moves : Moves config refuses mapped size notes mapped' size')
    (valid : config.Valid) (least : Layout.minimumMapSize ≤ size)
    (told : .mapFull found ∈ notes) : size < found ∧ found ≤ mapped' := by
  induction moves with
  | stays => cases told
  | follows _ _ ih =>
      rcases List.mem_cons.mp told with same | later
      · cases same
      · exact ih least later
  | @grows size mapped' size' notes smaller later ih =>
      have less := lt_nextSize valid least smaller
      have least' := UInt64.le_trans least (UInt64.le_of_lt less)
      rcases List.mem_cons.mp told with same | told
      · cases same
        exact ⟨less, (later.ascends valid least').le⟩
      · obtain ⟨more, within⟩ := ih least' told
        exact ⟨UInt64.lt_trans less more, within⟩
  | refused => cases told

/-- What is reported as found was in the header before the call. -/
theorem Moves.of_mapResized (moves : Moves config refuses mapped size notes mapped' size')
    (told : .mapResized found ∈ notes) : found = size ∧ mapped < size := by
  induction moves with
  | stays => cases told
  | follows news _ ih =>
      rcases List.mem_cons.mp told with same | later
      · cases same
        exact ⟨rfl, news⟩
      · exact absurd (ih later).2 (UInt64.lt_irrefl _)
  | grows _ _ ih =>
      rcases List.mem_cons.mp told with same | later
      · cases same
      · exact absurd (ih later).2 (UInt64.lt_irrefl _)
  | refused => cases told

/-- A map that has grown is reported with its size, unless that was refused. -/
theorem Moves.told (moves : Moves config refuses mapped size notes mapped' size')
    (valid : config.Valid) (least : Layout.minimumMapSize ≤ size) (larger : size < size') :
    .mapFull size' ∈ notes ∨ refuses := by
  induction moves with
  | stays => exact absurd larger (UInt64.lt_irrefl _)
  | follows _ _ ih => exact (ih least larger).imp_left (List.mem_cons_of_mem _)
  | @grows size mapped' size' notes smaller later ih =>
      have less := lt_nextSize valid least smaller
      have least' := UInt64.le_trans least (UInt64.le_of_lt less)
      by_cases more : nextSize config size < size'
      · exact (ih least' more).imp_left (List.mem_cons_of_mem _)
      · obtain ⟨reached, _⟩ := later.size_le valid least' (UInt64.le_refl _)
        rw [UInt64.le_antisymm (UInt64.not_lt.mp more) reached]
        exact Or.inl List.mem_cons_self
  | refused far _ => exact Or.inr far

/-- When the map has grown beyond what is mapped, that was refused. -/
theorem Moves.refuses_of_lt (moves : Moves config refuses mapped size notes mapped' size')
    (valid : config.Valid) (least : Layout.minimumMapSize ≤ size) (larger : size < size')
    (behind : mapped' < size') : refuses := by
  rcases moves.told valid least larger with told | refused
  · exact absurd (moves.of_mapFull valid least told).2 (UInt64.not_le.mpr behind)
  · exact refused

/-! ### Sessions that are listened to -/

structure Attends (session : Session) (mapped : UInt64) : Prop where
  listening : session.listening = true
  settled : ∃ env, session.env? = some env ∧ env.mapSize = mapped ∧ env.resized? = none

structure Tells (session : Session) (notes : List Notification) (session' : Session)
    (mapped : UInt64) : Prop where
  attends : session'.Attends mapped
  notifications_eq : session'.notifications = session.notifications ++ notes

variable {session session' session'' : Session} {env env' : Environment} {file : Image}
  {contents : Contents} {age : Nat} {α : Type}

theorem Attends.mapSize_eq (attends : session.Attends mapped) (here : session.env? = some env) :
    env.mapSize = mapped ∧ env.resized? = none := by
  obtain ⟨found, there, mappedEq, taken⟩ := attends.settled
  rw [here] at there
  cases there
  exact ⟨mappedEq, taken⟩

theorem Attends.limit?_eq (attends : session.Attends mapped) : session.limit? = some mapped := by
  obtain ⟨env, here, mappedEq, _⟩ := attends.settled
  rw [limit?, here, ← mappedEq]
  rfl

theorem Attends.withRoom (attends : session.Attends mapped) (room : Nat) :
    (session.withRoom room).Attends mapped := by
  obtain ⟨env, here, mappedEq, taken⟩ := attends.settled
  refine ⟨attends.listening, { env with room := room }, ?_, mappedEq, taken⟩
  unfold Session.withRoom
  rw [here]
  rfl

theorem Attends.mapped_le (attends : session.Attends mapped)
    (tracks : session.Tracks contents age) : mapped ≤ contents.header.mapSize := by
  obtain ⟨env, here, rfl, _⟩ := attends.settled
  exact (tracks env here).mapSize_le

/-- A session that is listened to, between its calls. While a transaction is pending all of the map
is mapped. -/
structure Watched (session : Session) (file : Image) (contents : Contents) (age : Nat)
    (mapped : UInt64) : Prop where
  holds : file.Holds contents
  follows : session.Follows contents age
  orderly : session.Orderly
  attends : session.Attends mapped
  whole : session.pending? = none ∨ mapped = contents.header.mapSize

theorem watched_of_idle (holds : file.Holds contents) (follows : session.Follows contents age)
    (idle : session.pending? = none) (attends : session.Attends mapped) :
    session.Watched file contents age mapped :=
  ⟨holds, follows, fun _ => idle, attends, Or.inl idle⟩

theorem Watched.withRoom (watched : session.Watched file contents age mapped) (room : Nat) :
    (session.withRoom room).Watched file contents age mapped where
  holds := watched.holds
  follows := watched.follows.withRoom room
  orderly := watched.orderly
  attends := watched.attends.withRoom room
  whole := watched.whole

theorem Watched.within (watched : session.Watched file contents age mapped) :
    mapped ≤ contents.header.mapSize := watched.attends.mapped_le watched.follows.tracks

theorem Watched.not_cutsBack (watched : session.Watched file contents age mapped) (call : Call) :
    ¬ session.CutsBack call file := by
  have mapped : session.Mapped contents := by
    rcases watched.whole with idle | same
    · exact mapped_of_idle idle
    · intro _ env here
      exact (watched.attends.mapSize_eq here).1.trans same
  exact mapped.not_cutsBack watched.holds call

theorem Attends.tells (attends : session.Attends mapped) : session.Tells [] session mapped :=
  ⟨attends, (List.append_nil _).symm⟩

theorem Tells.trans (first : session.Tells notes session' mapped)
    (second : session'.Tells notes' session'' mapped') :
    session.Tells (notes ++ notes') session'' mapped' where
  attends := second.attends
  notifications_eq := by
    rw [second.notifications_eq, first.notifications_eq, List.append_assoc]

/-- What waits and where the cursor is have no part in what is told. -/
theorem Tells.adjusted (told : session.Tells notes session' mapped)
    (pending? : Option Transaction) (cursor? : Option Bytes) :
    session.Tells notes { session' with pending? := pending?, cursor? := cursor? } mapped :=
  ⟨⟨told.attends.listening, told.attends.settled⟩, told.notifications_eq⟩

theorem Tells.of_refreshed (told : (session.refreshed env).Tells notes session' mapped) :
    session.Tells notes session' mapped :=
  ⟨told.attends, told.notifications_eq⟩

theorem tells_emit (session : Session) (listening : session.listening = true)
    (here : session.env? = some env) (taken : env.resized? = none) (note : Notification) :
    session.Tells [note] (session.emit note) env.mapSize := by
  unfold emit
  rw [if_pos listening]
  exact ⟨⟨listening, env, here, rfl, taken⟩, rfl⟩

theorem tells_reportResize (session : Session) (listening : session.listening = true)
    (here : session.env? = some env) :
    session.Tells (env.resized?.toList.map .mapResized) session.reportResize env.mapSize := by
  cases resized : env.resized? with
  | none =>
      rw [reportResize_of_none here resized]
      exact Attends.tells ⟨listening, env, here, rfl, resized⟩
  | some size =>
      rw [reportResize_of_some here resized]
      exact ((session.refreshed (env.withResized none)).tells_emit listening rfl rfl
        (.mapResized size)).of_refreshed

/-- The header is followed, and what was news in it is reported. -/
theorem Attends.tells_follow (attends : session.Attends mapped) (here : session.env? = some env)
    (notices : env.Notices size env') :
    session.Tells ((news? mapped size).toList.map .mapResized)
      (session.refreshed env').reportResize size := by
  obtain ⟨mappedEq, _⟩ := attends.mapSize_eq here
  have told := (session.refreshed env').tells_reportResize attends.listening rfl
  rw [notices.mapSize_eq, notices.resized?_eq, mappedEq] at told
  exact told.of_refreshed

/-! ### Growing -/

/-- What is left of an operation of a session: what it reports, how it gets from one map to the
other, and that all of the map is mapped when it has done its work. -/
structure Leaves (session : Session) (contents : Contents) (mapped : UInt64)
    (result : Except EngineError α) (session' : Session) (after : Contents)
    (notes : List Notification) (mapped' : UInt64) : Prop where
  tells : session.Tells notes session' mapped'
  moves : Moves session.config (∃ cause, result = .error (.io cause)) mapped
    contents.header.mapSize notes mapped' after.header.mapSize
  done : (∃ value, result = .ok value) → mapped' = after.header.mapSize

/-- A growth step from a map that is mapped as a whole. -/
theorem grow_leaves (holds : file.Holds contents) (here : session.env? = some env)
    (tracks : env.Tracks contents age) (attends : session.Attends contents.header.mapSize)
    (valid : session.config.Valid) :
    (session.config.maxMapSize ≤ contents.header.mapSize ∧
      session.grow file = (.ok false, session, file)) ∨
    (contents.header.mapSize < session.config.maxMapSize ∧
      ∃ result session' file' after env', session.grow file = (result, session', file') ∧
        Advances 0 file contents file' after ∧ session.Alike session' ∧
        session'.env? = some env' ∧ env'.Tracks after age ∧
        ((result = .ok true ∧
            after.header.mapSize = nextSize session.config contents.header.mapSize ∧
            session.Tells [.mapFull after.header.mapSize] session' after.header.mapSize) ∨
          ∃ failure, result = .error failure ∧
            session.Tells [] session' contents.header.mapSize ∧
            Moves session.config (∃ cause, failure = .io cause) contents.header.mapSize
              contents.header.mapSize [] contents.header.mapSize after.header.mapSize)) := by
  obtain ⟨mappedEq, taken⟩ := attends.mapSize_eq here
  unfold grow
  rw [here]
  dsimp only
  rw [mappedEq]
  split
  · next largest => exact Or.inl ⟨largest, rfl⟩
  · next smaller =>
      have smaller := UInt64.not_le.mp smaller
      obtain ⟨result, env', file', after, grown, advances, tracks', resizedEq, kin, came⟩ :=
        env.grow_steps holds tracks (lt_nextSize valid holds.fits.mapSize_ge smaller)
      have alike := alike_withEnv here kin
      refine Or.inr ⟨smaller, ?_⟩
      rw [grown]
      rcases came with ⟨rfl, mapEq, headerEq⟩ | ⟨failure, rfl, mapEq, headerEq⟩
      · have told := (session.refreshed env').tells_emit attends.listening rfl
          (resizedEq.trans taken) (.mapFull (nextSize session.config contents.header.mapSize))
        rw [mapEq] at told
        refine ⟨_, _, file', after, env', rfl, advances, alike.trans (alike_emit _ _),
          env?_emit _ _, tracks', Or.inl ⟨rfl, headerEq, ?_⟩⟩
        rw [headerEq]
        exact told.of_refreshed
      · refine ⟨_, _, file', after, env', rfl, advances, alike, rfl, tracks',
          Or.inr ⟨failure, rfl, ?_, ?_⟩⟩
        · exact ⟨⟨attends.listening, env', rfl, mapEq.trans mappedEq, resizedEq.trans taken⟩,
            (List.append_nil _).symm⟩
        · rcases headerEq with same | ⟨next, far⟩
          · rw [same]
            exact .stays
          · rw [next]
            exact .refused far smaller

theorem not_done {failure : EngineError} (done : ∃ value : α, Except.error failure = .ok value) :
    False := by
  obtain ⟨_, done⟩ := done
  cases done

theorem Attends.failed (attends : session.Attends mapped) (contents : Contents)
    (failure : EngineError) :
    session.Leaves (α := α) contents mapped (.error failure) session contents [] mapped :=
  ⟨attends.tells, .stays, fun done => (not_done done).elim⟩

/-- Nothing is left to report once the header has been followed. -/
theorem Tells.leaves
    (told : session.Tells ((news? mapped contents.header.mapSize).toList.map .mapResized) session'
      contents.header.mapSize)
    (within : mapped ≤ contents.header.mapSize) (result : Except EngineError α) :
    session.Leaves contents mapped result session' contents
      ((news? mapped contents.header.mapSize).toList.map .mapResized) contents.header.mapSize :=
  ⟨told, .followed within, fun _ => rfl⟩

/-- What comes after all of the map has been mapped. -/
theorem Leaves.of_follow {result : Except EngineError α} {after : Contents}
    (leaves : session'.Leaves contents contents.header.mapSize result session'' after notes
      mapped')
    (told : session.Tells ((news? mapped contents.header.mapSize).toList.map .mapResized) session'
      contents.header.mapSize)
    (within : mapped ≤ contents.header.mapSize) (config_eq : session'.config = session.config) :
    session.Leaves contents mapped result session'' after
      ((news? mapped contents.header.mapSize).toList.map .mapResized ++ notes) mapped' where
  tells := told.trans leaves.tells
  moves := (config_eq ▸ leaves.moves).follow within
  done := leaves.done

variable {readOnly : Bool} {records : Records} {length : Nat} {does : α → Records → Prop}
  {rules : Rules}
  {operation : Environment → Image → Except EngineError α × Environment × Image}

/-- One attempt ends the call, or the map is full. -/
theorem attempt_leaves (writes : Writes readOnly records age length does rules operation)
    (looks : Looks operation) (budget : Nat) (holds : file.Holds contents)
    (same : contents.records = records) (here : session.env? = some env)
    (tracks : env.Tracks contents age) (mode : env.flags.readOnly = readOnly)
    (attends : session.Attends mapped) :
    (∃ result session' file' after notes mapped',
      growing operation budget session file = (result, session', file') ∧ file'.Holds after ∧
      session.Alike session' ∧
      session.Leaves contents mapped result session' after notes mapped') ∨
    ∃ failure session' env',
      growing operation budget session file = regrow operation budget session' failure file ∧
      session.Alike session' ∧ session'.env? = some env' ∧ env'.Tracks contents age ∧
      env'.flags.readOnly = readOnly ∧
      session.Tells ((news? mapped contents.header.mapSize).toList.map .mapResized) session'
        contents.header.mapSize := by
  obtain ⟨mappedEq, taken⟩ := attends.mapSize_eq here
  have within := attends.mapped_le (tracks_of_env here tracks)
  have attempt := writes env file contents holds tracks same mode
  have looked := looks env file contents age holds tracks taken
  unfold growing
  rw [here]
  dsimp only
  generalize operation env file = result at attempt looked
  cases attempt with
  | @ok value env' file' after _ advances _ mapSizeEq kin tracks' _ =>
      rcases looked with ⟨_, failed, _⟩ | notices
      · cases failed
      · obtain ⟨_, _, _, _, reported⟩ := reportResize_cases (session.refreshed env') rfl
        have alike := (alike_withEnv here kin).trans reported
        refine Or.inl ⟨_, _, _, after, _, _, rfl, advances.holds, alike,
          attends.tells_follow here notices, ?_, fun _ => mapSizeEq.symm⟩
        rw [mapSizeEq]
        exact .followed within
  | @error failure env' kin tracks' _ fresh =>
      obtain ⟨_, _, _, _, reported⟩ := reportResize_cases (session.refreshed env') rfl
      have alike := (alike_withEnv here kin).trans reported
      have stays := tracks_reportResize (tracks_withEnv session tracks')
      rcases looked with ⟨_, failed, other⟩ | notices
      · cases failed
        have told := (session.refreshed env).tells_reportResize attends.listening rfl
        rw [taken, mappedEq] at told
        dsimp only
        rw [if_neg (by rw [other]; exact Bool.false_ne_true)]
        exact Or.inl ⟨_, _, _, contents, _, _, rfl, holds, alike, told.of_refreshed, .stays,
          fun done => (not_done done).elim⟩
      · have told := attends.tells_follow here notices
        dsimp only
        split
        · obtain ⟨last, lastHere, lastKin⟩ := alike.env env here
          refine Or.inr ⟨failure, _, last, ?_, alike, lastHere, stays last lastHere,
            lastKin.flags_eq ▸ mode, told⟩
          cases budget with
          | zero => rfl
          | succ budget => rfl
        · exact Or.inl ⟨_, _, _, contents, _, _, rfl, holds, alike, told.leaves within _⟩

theorem growing_leaves (writes : Writes readOnly records age length does rules operation)
    (looks : Looks operation) (budget : Nat) (holds : file.Holds contents)
    (same : contents.records = records) (here : session.env? = some env)
    (tracks : env.Tracks contents age) (mode : env.flags.readOnly = readOnly)
    (attends : session.Attends mapped) (valid : session.config.Valid) :
    ∃ result session' file' after notes mapped',
      growing operation budget session file = (result, session', file') ∧ file'.Holds after ∧
      session.Alike session' ∧
      session.Leaves contents mapped result session' after notes mapped' := by
  have within := attends.mapped_le (tracks_of_env here tracks)
  induction budget generalizing session env file contents mapped with
  | zero =>
      rcases attempt_leaves writes looks 0 holds same here tracks mode attends with
        ended | ⟨failure, session', _, goesOn, alike, _, _, _, told⟩
      · exact ended
      · rw [goesOn]
        exact ⟨_, _, _, contents, _, _, rfl, holds, alike, told.leaves within _⟩
  | succ budget ih =>
      rcases attempt_leaves writes looks (budget + 1) holds same here tracks mode attends with
        ended | ⟨failure, session', env', goesOn, alike, here', tracks', mode', told⟩
      · exact ended
      · rw [goesOn]
        unfold regrow
        dsimp only
        rcases grow_leaves holds here' tracks' told.attends (alike.config_eq ▸ valid) with
          ⟨_, ended⟩ | ⟨smaller, result, session'', file', after, env'', grown, advances, alike',
            here'', tracks'', came⟩
        · rw [ended]
          exact ⟨_, _, _, contents, _, _, rfl, holds, alike, told.leaves within _⟩
        · have both := alike.trans alike'
          rw [grown]
          rcases came with ⟨rfl, headerEq, grew⟩ | ⟨cause, rfl, kept, moves⟩
          · obtain ⟨found, there, kin⟩ := alike'.env env' here'
            rw [here''] at there
            cases there
            obtain ⟨result, last, file'', ends, notes, mapped', goes, holds', alike'', leaves⟩ :=
              ih advances.holds ((advances.records_eq rfl).trans same) here'' tracks''
                (kin.flags_eq ▸ mode') grew.attends (both.config_eq ▸ valid) (UInt64.le_refl _)
            have rest : session'.Leaves contents contents.header.mapSize result last ends
                (.mapFull after.header.mapSize :: notes) mapped' := by
              refine ⟨grew.trans leaves.tells, ?_, leaves.done⟩
              have moves := leaves.moves
              rw [alike'.config_eq, headerEq] at moves
              rw [headerEq]
              exact .grows smaller moves
            exact ⟨_, _, _, ends, _, _, goes, holds', both.trans alike'',
              rest.of_follow told within alike.config_eq⟩
          · have rest : session'.Leaves (α := α) contents contents.header.mapSize (.error cause)
                session'' after [] contents.header.mapSize :=
              ⟨kept, moves.imp fun ⟨refusal, same⟩ => ⟨refusal, congrArg Except.error same⟩,
                fun done => (not_done done).elim⟩
            exact ⟨_, _, _, after, _, _, rfl, advances.holds, both,
              rest.of_follow told within alike.config_eq⟩

/-! ### The bulk transaction -/

/-- A transaction is over a map that is mapped as a whole. -/
theorem Watched.tells_bulkTransaction {txn : Transaction}
    (watched : session.Watched file contents age mapped)
    (begun : session.bulkTransaction file = (.ok txn, session')) :
    session.Tells ((news? mapped contents.header.mapSize).toList.map .mapResized) session'
      contents.header.mapSize := by
  unfold bulkTransaction at begun
  split at begun
  · next waiting =>
      cases begun
      rcases watched.whole with idle | same
      · rw [idle] at waiting
        cases waiting
      · rw [same, news?_self]
        exact same ▸ watched.attends.tells
  · split at begun
    · cases begun
    · next env here =>
        obtain ⟨_, taken⟩ := watched.attends.mapSize_eq here
        unfold Environment.beginWrite at begun
        split at begun
        · cases begun
        · next env' began =>
            split at began
            · cases began
            · split at began
              · cases began
              · next refreshed =>
                  cases began
                  cases begun
                  have within := (watched.follows.tracks env here).mapSize_le
                  exact (watched.attends.tells_follow here
                    (Environment.refresh_notices watched.holds within taken refreshed)).adjusted
                      _ _

/-- A restart takes one growth step at most. -/
theorem restart_leaves (session : Session) (cause : EngineError) (holds : file.Holds contents)
    (here : session.env? = some env) (tracks : env.Tracks contents age)
    (attends : session.Attends contents.header.mapSize) (valid : session.config.Valid) :
    ∃ failure session' file' after notes mapped',
      session.restart (α := α) cause file = (.error failure, session', file') ∧
      file'.Holds after ∧ session'.pending? = none ∧
      session.Leaves (α := α) contents contents.header.mapSize (.error failure) session' after notes
        mapped' := by
  have attends' : session.emptied.Attends contents.header.mapSize :=
    ⟨attends.listening, attends.settled⟩
  have still : session.Tells [] session.emptied contents.header.mapSize :=
    ⟨attends', (List.append_nil _).symm⟩
  by_cases spent : session.bulkRetryLimit ≤ session.bulkRetries
  · rw [restart_of_spent spent]
    exact ⟨_, _, _, contents, _, _, rfl, holds, rfl, still, .stays,
      fun done => (not_done done).elim⟩
  · have spare := Nat.lt_of_not_le spent
    rcases session.emptied.grow_leaves holds here tracks attends' valid with
      ⟨_, ended⟩ | ⟨smaller, result, session', file', after, env', grown, advances, alike, _, _,
        came⟩
    · obtain ⟨failure, retries, _, restarted⟩ :=
        restart_of_ok (α := α) spare ended (Alike.refl _) cause
      rw [restarted]
      exact ⟨_, _, _, contents, _, _, rfl, holds, rfl,
        ⟨⟨attends'.listening, attends'.settled⟩, still.notifications_eq⟩, .stays,
        fun done => (not_done done).elim⟩
    · rcases came with ⟨rfl, headerEq, grew⟩ | ⟨failure, rfl, kept, moves⟩
      · obtain ⟨failure, retries, _, restarted⟩ := restart_of_ok (α := α) spare grown alike cause
        rw [restarted]
        refine ⟨_, _, _, after, [.mapFull after.header.mapSize], after.header.mapSize, rfl,
          advances.holds, alike.pending?_eq,
          ⟨⟨grew.attends.listening, grew.attends.settled⟩, grew.notifications_eq⟩, ?_,
          fun done => (not_done done).elim⟩
        rw [headerEq]
        exact .grows smaller .stays
      · rw [restart_of_error spare grown]
        exact ⟨_, _, _, after, _, _, rfl, advances.holds, alike.pending?_eq,
          ⟨kept.attends, kept.notifications_eq⟩,
          moves.imp fun ⟨refusal, same⟩ => ⟨refusal, congrArg Except.error same⟩,
          fun done => (not_done done).elim⟩

/-! ### Calls -/

structure Reported (session : Session) (contents : Contents) (mapped : UInt64) (call : Call)
    (outcome : Reply × Session × Image) (after : Contents) (notes : List Notification)
    (mapped' : UInt64) : Prop where
  holds : outcome.2.2.Holds after
  tells : session.Tells notes outcome.2.1 mapped'
  moves : Moves session.config (∃ cause, outcome.1 = .failed (.io cause)) mapped
    contents.header.mapSize notes mapped' after.header.mapSize
  whole : outcome.2.1.pending? = none ∨ mapped' = after.header.mapSize
  upToDate : call ≠ .commit → ¬ outcome.1.Failed → mapped' = after.header.mapSize

variable {call : Call} {after : Contents}

theorem Leaves.reported {result : Except EngineError α}
    (leaves : session.Leaves contents mapped result session' after notes mapped') (call : Call)
    (holds : file.Holds after) (whole : session'.pending? = none ∨ mapped' = after.header.mapSize)
    (answer : α → Reply) :
    session.Reported contents mapped call (Reply.of answer result, session', file) after notes
      mapped' where
  holds := holds
  tells := leaves.tells
  moves := by
    refine leaves.moves.imp ?_
    rintro ⟨cause, rfl⟩
    exact ⟨cause, rfl⟩
  whole := whole
  upToDate := by
    intro _ succeeded
    cases result with
    | error failure => exact absurd ⟨failure, rfl⟩ succeeded
    | ok value => exact leaves.done ⟨value, rfl⟩

theorem Watched.bulkTransaction_cases (watched : session.Watched file contents age mapped) :
    (∃ txn session', session.bulkTransaction file = (.ok txn, session') ∧
      session'.Follows contents age ∧ session'.config = session.config ∧
      session.Tells ((news? mapped contents.header.mapSize).toList.map .mapResized) session'
        contents.header.mapSize) ∨
    ∃ failure, session.bulkTransaction file = (.error failure, session) := by
  rcases Session.bulkTransaction_cases watched.holds watched.follows with
    ⟨txn, session', begun, follows', _⟩ | ⟨failure, refused⟩
  · have kept := retains_bulkTransaction session file
    rw [begun] at kept
    exact Or.inl ⟨txn, session', begun, follows', kept.config_eq,
      watched.tells_bulkTransaction begun⟩
  · exact Or.inr ⟨failure, refused⟩

theorem Watched.view_leaves (watched : session.Watched file contents age mapped) :
    ∃ result session' notes mapped', session.view file = (result, session') ∧
      session.Leaves contents mapped result session' contents notes mapped' ∧
      (session'.pending? = none ∨ mapped' = contents.header.mapSize) := by
  cases mode : session.bulk with
  | true =>
      unfold view
      rw [if_pos mode]
      rcases watched.bulkTransaction_cases with
        ⟨txn, session', begun, _, _, told⟩ | ⟨failure, refused⟩
      · rw [begun]
        exact ⟨_, _, _, _, rfl, told.leaves watched.within _, Or.inr rfl⟩
      · rw [refused]
        exact ⟨_, _, _, _, rfl, watched.attends.failed contents failure, watched.whole⟩
  | false =>
      obtain ⟨env, here, mappedEq, taken⟩ := watched.attends.settled
      have tracks := watched.follows.tracks env here
      unfold view
      rw [if_neg (by rw [mode]; exact Bool.false_ne_true), here]
      dsimp only
      rcases Environment.refresh_cases watched.holds tracks with
        ⟨env', refreshed, _, _, kin⟩ | ⟨_, cause, _, refused⟩
      · have told := watched.attends.tells_follow here
          (Environment.refresh_notices watched.holds tracks.mapSize_le taken refreshed)
        rw [refreshed]
        exact ⟨_, _, _, _, rfl, told.leaves watched.within _, Or.inr rfl⟩
      · rw [refused]
        exact ⟨_, _, _, _, rfl, ⟨⟨⟨watched.attends.listening, env, rfl, mappedEq, taken⟩,
          (List.append_nil _).symm⟩, .stays, fun done => (not_done done).elim⟩,
          Or.inl (watched.orderly mode)⟩

theorem Watched.get_reported (watched : session.Watched file contents age mapped) (key : Bytes)
    (room : Nat) :
    ∃ notes mapped', session.Reported contents mapped (.get key)
      (session.act (.get key) room file) contents notes mapped' := by
  obtain ⟨result, session', notes, mapped', viewed, leaves, whole⟩ := watched.view_leaves
  have acted : session.act (.get key) room file =
      (Reply.of (fun records => .value (records.find? key)) result, session', file) := by
    unfold act get
    dsimp only
    rw [viewed]
    cases result with
    | error failure => rfl
    | ok records => rfl
  rw [acted]
  exact ⟨notes, mapped', leaves.reported _ watched.holds whole _⟩

theorem Watched.seek_reported (watched : session.Watched file contents age mapped)
    (move : CursorMove) (room : Nat) :
    ∃ notes mapped', session.Reported contents mapped (.seek move)
      (session.act (.seek move) room file) contents notes mapped' := by
  obtain ⟨result, session', notes, mapped', viewed, leaves, whole⟩ := watched.view_leaves
  have acted : ∃ cursor?, session.act (.seek move) room file =
      (Reply.of (fun records => .record (destination session'.cursor? move records)) result,
        { session' with cursor? := cursor? }, file) := by
    unfold act seek
    dsimp only
    rw [viewed]
    cases result with
    | error failure => exact ⟨session'.cursor?, rfl⟩
    | ok records =>
        unfold Reply.of
        dsimp only
        cases destination session'.cursor? move records with
        | none => exact ⟨session'.cursor?, rfl⟩
        | some record => exact ⟨some record.1, rfl⟩
  obtain ⟨cursor?, acted⟩ := acted
  have moved : session.Leaves contents mapped result { session' with cursor? := cursor? } contents
      notes mapped' := ⟨leaves.tells.adjusted _ _, leaves.moves, leaves.done⟩
  rw [acted]
  exact ⟨notes, mapped', moved.reported _ watched.holds whole _⟩

/-- A write outside bulk mode. -/
theorem Watched.growing_reported {does : Bool → α → Records → Prop}
    (watched : session.Watched file contents age mapped) (single : session.bulk = false)
    (writes : ∀ readOnly,
      Writes readOnly contents.records age length (does readOnly) rules operation)
    (looks : Looks operation) (call : Call) (answer : α → Reply) :
    ∃ after notes mapped', session.Reported contents mapped call
      (Reply.of answer (growing operation session.apiRetryLimit session file).1,
        (growing operation session.apiRetryLimit session file).2) after notes mapped' := by
  obtain ⟨env, here, _⟩ := watched.attends.settled
  obtain ⟨result, session', file', after, notes, mapped', grown, holds, alike, leaves⟩ :=
    growing_leaves (writes env.flags.readOnly) looks session.apiRetryLimit watched.holds rfl here
      (watched.follows.tracks env here) rfl watched.attends watched.follows.valid
  rw [grown]
  exact ⟨after, notes, mapped', leaves.reported call holds
    (Or.inl (alike.pending?_eq.trans (watched.orderly single))) answer⟩

theorem Watched.put_reported (watched : session.Watched file contents age mapped)
    (key value : Bytes) (keepExisting : Bool) (room : Nat) :
    ∃ after notes mapped', session.Reported contents mapped (.put key value keepExisting)
      (session.act (.put key value keepExisting) room file) after notes mapped' := by
  unfold act put
  dsimp only
  cases mode : session.bulk with
  | true =>
      rw [if_pos rfl]
      rcases watched.bulkTransaction_cases with
        ⟨txn, session', begun, follows, kept, told⟩ | ⟨failure, refused⟩
      · rw [begun]
        dsimp only
        cases txn.put key value keepExisting with
        | ok txn' =>
            have leaves := (told.adjusted (some txn') session'.cursor?).leaves watched.within
              (.ok ())
            exact ⟨contents, _, _, leaves.reported _ watched.holds (Or.inr rfl) _⟩
        | error failure =>
            dsimp only
            split
            · obtain ⟨env, here, _⟩ := told.attends.settled
              obtain ⟨_, _, _, after, _, _, restarted, holds, idle, leaves⟩ :=
                session'.restart_leaves (α := Unit) failure watched.holds here
                  (follows.tracks env here) told.attends (kept ▸ watched.follows.valid)
              rw [restarted]
              exact ⟨after, _, _, (leaves.of_follow told watched.within kept).reported _ holds
                (Or.inl idle) _⟩
            · have leaves := told.leaves watched.within (.error (α := Unit) failure)
              exact ⟨contents, _, _, leaves.reported _ watched.holds (Or.inr rfl) _⟩
      · rw [refused]
        exact ⟨contents, _, _,
          (watched.attends.failed contents failure).reported _ watched.holds watched.whole _⟩
  | false =>
      rw [if_neg Bool.false_ne_true]
      exact watched.growing_reported mode
        (fun readOnly => writes_put readOnly _ age key value keepExisting)
        (Environment.looks_put key value keepExisting) _ _

theorem Watched.delete_reported (watched : session.Watched file contents age mapped)
    (key : Bytes) (room : Nat) :
    ∃ after notes mapped', session.Reported contents mapped (.delete key)
      (session.act (.delete key) room file) after notes mapped' := by
  unfold act delete
  dsimp only
  cases mode : session.bulk with
  | true =>
      rw [if_pos rfl]
      rcases watched.bulkTransaction_cases with
        ⟨txn, session', begun, _, _, told⟩ | ⟨failure, refused⟩
      · have leaves := (told.adjusted (some (txn.delete key).2) session'.cursor?).leaves
          watched.within (.ok (txn.delete key).1)
        rw [begun]
        exact ⟨contents, _, _, leaves.reported _ watched.holds (Or.inr rfl) _⟩
      · rw [refused]
        exact ⟨contents, _, _,
          (watched.attends.failed contents failure).reported _ watched.holds watched.whole _⟩
  | false =>
      rw [if_neg Bool.false_ne_true]
      exact watched.growing_reported mode (fun readOnly => writes_delete readOnly _ age key)
        (Environment.looks_delete key) _ _

theorem Watched.commit_reported (watched : session.Watched file contents age mapped)
    (room : Nat) :
    ∃ after notes mapped', session.Reported contents mapped .commit
      (session.act .commit room file) after notes mapped' := by
  unfold act
  dsimp only
  cases waiting : session.pending? with
  | none =>
      rw [commit_of_idle waiting]
      exact ⟨contents, [], mapped, watched.holds, watched.attends.tells, .stays, Or.inl waiting,
        fun other => absurd rfl other⟩
  | some txn =>
      have same : mapped = contents.header.mapSize := by
        rcases watched.whole with idle | same
        · rw [idle] at waiting
          cases waiting
        · exact same
      subst same
      obtain ⟨env, here, writer⟩ := watched.follows.writer txn waiting
      obtain ⟨mappedEq, taken⟩ := watched.attends.mapSize_eq here
      have tracks := watched.follows.tracks env here
      rcases env.commit_cases txn watched.holds with
        ⟨reader, _⟩ | ⟨_, _, full⟩ | ⟨_, offset, place, done⟩
      · rw [writer] at reader
        cases reader
      · have attends : Attends { session with pending? := none, env? := some env.forget }
            contents.header.mapSize :=
          ⟨watched.attends.listening, env.forget, rfl, mappedEq, taken⟩
        obtain ⟨failure, session', file', after, notes, mapped', restarted, holds, idle, leaves⟩ :=
          restart_leaves (α := Unit) { session with pending? := none, env? := some env.forget }
            (.mapFull (Layout.headerSize + contents.header.dataLength.toNat + txn.dataLength)
              env.mapSize.toNat)
            watched.holds rfl (Environment.tracks_forget tracks.mapSize_le age) attends
            watched.follows.valid
        rw [commit_of_full waiting here full rfl, restarted]
        have reported := leaves.reported .commit holds (Or.inl idle) fun _ => .done
        exact ⟨after, notes, mapped', reported.holds,
          ⟨reported.tells.attends, reported.tells.notifications_eq⟩, reported.moves,
          reported.whole, reported.upToDate⟩
      · have placed : Environment.Placed contents txn env.mapSize.toNat offset :=
          .of_le (watched.follows.sound txn waiting) tracks.mapSize_le place
        unfold commit
        rw [waiting, here]
        dsimp only
        rw [done]
        exact ⟨_, [], contents.header.mapSize, (placed.advances watched.holds env.flags).holds,
          ⟨⟨watched.attends.listening, _, rfl, mappedEq, taken⟩, (List.append_nil _).symm⟩,
          .stays, Or.inr rfl, fun other => absurd rfl other⟩

/-- Every call but an open. -/
theorem Watched.act_reported (watched : session.Watched file contents age mapped)
    (other : ¬ call.Opens) (room : Nat) :
    ∃ after notes mapped', session.Reported contents mapped call (session.act call room file) after
      notes mapped' := by
  cases call with
  | «open» path flags bulk => exact absurd trivial other
  | get key => exact ⟨contents, watched.get_reported key room⟩
  | put key value keepExisting => exact watched.put_reported key value keepExisting room
  | delete key => exact watched.delete_reported key room
  | seek move => exact ⟨contents, watched.seek_reported move room⟩
  | commit => exact watched.commit_reported room

end Session

end RecordFile
