/-
Any number of environments on one file, in any order of calls.

No environment knows of another one. What each of them maps and has read is still bounded by
the file: every call either leaves header and payload alone or replaces them by others that
are as consistent, and it never makes the map smaller. Growing is the exception, so a call
that would set the map size back is not permitted here.

A snapshot is told from an old one by its generation, of which there are `UInt64.size`. What
is said of refreshed snapshots is for runs of fewer calls than that.
-/

import RecordFile.Proofs.Environment.Opening
import RecordFile.Proofs.Environment.Writing
import RecordFile.Proofs.Parties

namespace RecordFile

structure Environments where
  file : Image
  env? : Nat → Option Environment
  txn? : Nat → Option Transaction

namespace Environments

open Environment (readHeader Mappable)

/-! ### Calls -/

/-- A call, with the numbers of the environment and of the transaction it is for. A commit
takes a copy of its transaction. -/
inductive Call where
  | «open» (index : Nat) (path : String) (flags : OpenFlags) (asked : UInt64)
  | refresh (index : Nat)
  | beginWrite (index slot : Nat)
  | copy (source target : Nat)
  | putInto (slot : Nat) (key value : Bytes) (keepExisting : Bool)
  | deleteFrom (slot : Nat) (key : Bytes)
  | commit (index slot : Nat)
  | put (index : Nat) (key value : Bytes) (keepExisting : Bool)
  | delete (index : Nat) (key : Bytes)
  | grow (index : Nat) (size : UInt64)

/-- A call and the longest mapping that there are addresses for while it runs. -/
structure Request where
  call : Call
  room : Nat

def at? (world : Environments) (room index : Nat) : Option Environment :=
  (world.env? index).map fun env => { env with room := room }

def keep (world : Environments) (index : Nat) (env : Environment) (file : Image) :
    Environments :=
  { world with file := file, env? := Function.update world.env? index (some env) }

def hold (world : Environments) (slot : Nat) (txn : Transaction) : Environments :=
  { world with txn? := Function.update world.txn? slot (some txn) }

def operate {α : Type} (world : Environments) (room index : Nat)
    (operation : Environment → Image → Except EngineError α × Environment × Image) :
    Environments :=
  match world.at? room index with
  | none => world
  | some env => world.keep index (operation env world.file).2.1 (operation env world.file).2.2

def opened (world : Environments) (index : Nat) :
    Except EngineError Environment × Image → Environments
  | (.ok env, file) => world.keep index env file
  | (.error _, file) => { world with file := file }

/-- A call for what does not exist is none. -/
def step (world : Environments) (request : Request) : Environments :=
  match request.call with
  | .open index path flags asked =>
      world.opened index (Environment.open path flags asked request.room world.file)
  | .refresh index =>
      world.operate request.room index fun env file =>
        ((env.refresh file).1, (env.refresh file).2, file)
  | .beginWrite index slot =>
      match world.at? request.room index with
      | none => world
      | some env =>
          match env.beginWrite world.file with
          | (.ok txn, env) => (world.keep index env world.file).hold slot txn
          | (.error _, env) => world.keep index env world.file
  | .copy source target =>
      match world.txn? source with
      | none => world
      | some txn => world.hold target txn
  | .putInto slot key value keepExisting =>
      match world.txn? slot with
      | none => world
      | some txn =>
          match txn.put key value keepExisting with
          | .error _ => world
          | .ok txn => world.hold slot txn
  | .deleteFrom slot key =>
      match world.txn? slot with
      | none => world
      | some txn => world.hold slot (txn.delete key).2
  | .commit index slot =>
      match world.txn? slot with
      | none => world
      | some txn => world.operate request.room index fun env file => env.commit txn file
  | .put index key value keepExisting =>
      world.operate request.room index fun env file => env.put key value keepExisting file
  | .delete index key => world.operate request.room index fun env file => env.delete key file
  | .grow index size => world.operate request.room index fun env file => env.grow size file

def run (requests : List Request) (world : Environments) : Environments :=
  requests.foldl step world

inductive Comes (world : Environments) (room : Nat) : Call → Environments → Prop
  /-- What the call is for is not there, or the transaction refuses the put. -/
  | idle {call : Call} : Comes world room call world
  | opened {index : Nat} {path : String} {flags : OpenFlags} {asked : UInt64} :
      Comes world room (.open index path flags asked)
        (world.opened index (Environment.open path flags asked room world.file))
  | began {index slot : Nat} {env env' : Environment} {txn : Transaction}
      (here : world.at? room index = some env)
      (began : env.beginWrite world.file = (.ok txn, env')) :
      Comes world room (.beginWrite index slot) ((world.keep index env' world.file).hold slot txn)
  | refused {index slot : Nat} {env env' : Environment} {failure : EngineError}
      (here : world.at? room index = some env)
      (refused : env.beginWrite world.file = (.error failure, env')) :
      Comes world room (.beginWrite index slot) (world.keep index env' world.file)
  | copied {source target : Nat} {txn : Transaction} (held : world.txn? source = some txn) :
      Comes world room (.copy source target) (world.hold target txn)
  | stored {slot : Nat} {key value : Bytes} {keepExisting : Bool} {txn after : Transaction}
      (held : world.txn? slot = some txn) (done : txn.put key value keepExisting = .ok after) :
      Comes world room (.putInto slot key value keepExisting) (world.hold slot after)
  | removed {slot : Nat} {key : Bytes} {txn : Transaction} (held : world.txn? slot = some txn) :
      Comes world room (.deleteFrom slot key) (world.hold slot (txn.delete key).2)
  | refreshed {index : Nat} {env : Environment} (here : world.at? room index = some env) :
      Comes world room (.refresh index) (world.keep index (env.refresh world.file).2 world.file)
  | committed {index slot : Nat} {env : Environment} {txn : Transaction}
      (held : world.txn? slot = some txn) (here : world.at? room index = some env) :
      Comes world room (.commit index slot)
        (world.keep index (env.commit txn world.file).2.1 (env.commit txn world.file).2.2)
  | put {index : Nat} {key value : Bytes} {keepExisting : Bool} {env : Environment}
      (here : world.at? room index = some env) :
      Comes world room (.put index key value keepExisting)
        (world.keep index (env.put key value keepExisting world.file).2.1
          (env.put key value keepExisting world.file).2.2)
  | deleted {index : Nat} {key : Bytes} {env : Environment}
      (here : world.at? room index = some env) :
      Comes world room (.delete index key)
        (world.keep index (env.delete key world.file).2.1 (env.delete key world.file).2.2)
  | grown {index : Nat} {size : UInt64} {env : Environment}
      (here : world.at? room index = some env) :
      Comes world room (.grow index size)
        (world.keep index (env.grow size world.file).2.1 (env.grow size world.file).2.2)

theorem step_comes (world : Environments) (request : Request) :
    world.Comes request.room request.call (world.step request) := by
  obtain ⟨call, room⟩ := request
  unfold step operate
  cases call with
  | «open» index path flags asked => exact .opened
  | refresh index =>
      dsimp only
      cases here : world.at? room index with
      | none => exact .idle
      | some env => exact .refreshed here
  | beginWrite index slot =>
      dsimp only
      cases here : world.at? room index with
      | none => exact .idle
      | some env =>
          dsimp only
          rcases began : env.beginWrite world.file with ⟨failure | txn, env'⟩
          · exact .refused here began
          · exact .began here began
  | copy source target =>
      dsimp only
      cases held : world.txn? source with
      | none => exact .idle
      | some txn => exact .copied held
  | putInto slot key value keepExisting =>
      dsimp only
      cases held : world.txn? slot with
      | none => exact .idle
      | some txn =>
          dsimp only
          cases done : txn.put key value keepExisting with
          | error failure => exact .idle
          | ok after => exact .stored held done
  | deleteFrom slot key =>
      dsimp only
      cases held : world.txn? slot with
      | none => exact .idle
      | some txn => exact .removed held
  | commit index slot =>
      dsimp only
      cases held : world.txn? slot with
      | none => exact .idle
      | some txn =>
          dsimp only
          cases here : world.at? room index with
          | none => exact .idle
          | some env => exact .committed held here
  | put index key value keepExisting =>
      dsimp only
      cases here : world.at? room index with
      | none => exact .idle
      | some env => exact .put here
  | delete index key =>
      dsimp only
      cases here : world.at? room index with
      | none => exact .idle
      | some env => exact .deleted here
  | grow index size =>
      dsimp only
      cases here : world.at? room index with
      | none => exact .idle
      | some env => exact .grown here

/-! ### Permitted runs -/

/-- No map size below the one in the header is asked for. -/
def Request.Permitted (request : Request) (file : Image) : Prop :=
  ∀ index size, request.call = .grow index size →
    ∀ header, readHeader file = .ok header → header.mapSize ≤ size

def Permitted : List Request → Environments → Prop :=
  Along step fun world request => request.Permitted world.file

/-- A writable open for a size that a file can have makes a database of a file without
bytes. -/
def Request.Initializes (request : Request) : Prop :=
  ∃ index path flags asked, request.call = .open index path flags asked ∧
    flags.readOnly = false ∧ (max asked Layout.minimumMapSize).toNat ≤ Image.longest

structure Starts (world : Environments) (requests : List Request) : Prop where
  noEnv : ∀ index, world.env? index = none
  noTxn : ∀ slot, world.txn? slot = none
  file : (∃ contents, world.file.Holds contents) ∨
    (world.file.size = 0 ∧ ∃ request rest, requests = request :: rest ∧ request.Initializes)

/-! ### The invariant -/

structure Valid (world : Environments) (contents : Contents) (age : Nat) : Prop where
  holds : world.file.Holds contents
  tracks : ∀ index env, world.env? index = some env → env.Tracks contents age
  sound : ∀ slot txn, world.txn? slot = some txn → txn.Sound

variable {world : Environments} {contents after : Contents} {age bumps : Nat}
  {env : Environment} {file : Image}

def Leads (world : Environments) (contents : Contents) (age : Nat) (next : Environments) : Prop :=
  ∃ bumps after, Advances bumps world.file contents next.file after ∧ next.Valid after (age + 1)

theorem Valid.mono (valid : world.Valid contents age) : world.Valid contents (age + 1) where
  holds := valid.holds
  tracks := fun index env here => (valid.tracks index env here).mono (Nat.le_succ age)
  sound := valid.sound

theorem Valid.leads (valid : world.Valid contents age) {next : Environments}
    (same : next.file = world.file) (later : next.Valid contents (age + 1)) :
    world.Leads contents age next := by
  refine ⟨0, contents, ?_, later⟩
  rw [same]
  exact Advances.refl valid.holds

/-- The environments that did not run a call are older after it. -/
theorem Valid.keep (valid : world.Valid contents age)
    (advances : Advances bumps world.file contents file after) (once : bumps ≤ 1)
    (tracks : env.Tracks after (age + bumps)) (index : Nat) :
    (world.keep index env file).Valid after (age + 1) where
  holds := advances.holds
  tracks := by
    have later : age + bumps ≤ age + 1 := Nat.add_le_add_left once age
    apply forall_update
    · intro found here
      cases here
      exact tracks.mono later
    · intro other found here
      exact ((valid.tracks other found here).advance advances).mono later
  sound := valid.sound

theorem Valid.advance (valid : world.Valid contents age)
    (advances : Advances bumps world.file contents file after) (once : bumps ≤ 1) :
    Valid { world with file := file } after (age + 1) where
  holds := advances.holds
  tracks := fun index found here =>
    ((valid.tracks index found here).advance advances).mono (Nat.add_le_add_left once age)
  sound := valid.sound

theorem Valid.hold (valid : world.Valid contents age) {txn : Transaction} (sound : txn.Sound)
    (slot : Nat) : (world.hold slot txn).Valid contents age where
  holds := valid.holds
  tracks := valid.tracks
  sound := by
    apply forall_update
    · intro found here
      cases here
      exact sound
    · exact valid.sound

theorem Valid.at? (valid : world.Valid contents age) {room index : Nat}
    (here : world.at? room index = some env) : env.Tracks contents age := by
  obtain ⟨found, there, rfl⟩ := Option.map_eq_some_iff.mp here
  exact (valid.tracks index found there).withRoom room

/-! ### What one call preserves -/

/-- An operation publishes at most once and leaves its environment tracking. -/
def Careful {α : Type} (file : Image) (contents : Contents) (age : Nat)
    (result : Except EngineError α × Environment × Image) : Prop :=
  ∃ bumps after, Advances bumps file contents result.2.2 after ∧ bumps ≤ 1 ∧
    result.2.1.Tracks after (age + bumps)

theorem Valid.operated {α : Type} (valid : world.Valid contents age)
    {result : Except EngineError α × Environment × Image}
    (careful : Careful world.file contents age result) (index : Nat) :
    world.Leads contents age (world.keep index result.2.1 result.2.2) := by
  obtain ⟨bumps, after, advances, once, tracks⟩ := careful
  exact ⟨bumps, after, advances, valid.keep advances once tracks index⟩

theorem careful_of_kept {α : Type} (holds : file.Holds contents) (tracks : env.Tracks contents age)
    (result : Except EngineError α) : Careful file contents age (result, env, file) :=
  ⟨0, contents, Advances.refl holds, Nat.zero_le 1, tracks⟩

theorem careful_of_outcome {α : Type} {done : α → Records → Prop} {refused : EngineError → Prop}
    {result : Except EngineError α × Environment × Image} (holds : file.Holds contents)
    (outcome : env.Outcome file contents age done refused result) :
    Careful file contents age result := by
  cases outcome with
  | ok advances once _ _ tracks _ => exact ⟨_, _, advances, once, tracks⟩
  | error _ tracks _ _ => exact careful_of_kept holds tracks _

theorem careful_commit {txn : Transaction} (holds : file.Holds contents)
    (tracks : env.Tracks contents age) (sound : txn.Sound) :
    Careful file contents age (env.commit txn file) := by
  rcases env.commit_cases txn holds with
    ⟨_, refused⟩ | ⟨_, _, refused⟩ | ⟨_, offset, place, done⟩
  · rw [refused]
    exact careful_of_kept holds (Environment.tracks_forget tracks.mapSize_le _) _
  · rw [refused]
    exact careful_of_kept holds (Environment.tracks_forget tracks.mapSize_le _) _
  · rw [done]
    have placed : Environment.Placed contents txn env.mapSize.toNat offset :=
      .of_le sound tracks.mapSize_le place
    exact ⟨1, _, placed.advances holds env.flags, Nat.le_refl 1,
      Environment.tracks_published env placed tracks.mapSize_le _⟩

theorem careful_grow (holds : file.Holds contents) (tracks : env.Tracks contents age)
    {size : UInt64} (larger : contents.header.mapSize ≤ size) :
    Careful file contents age (env.grow size file) := by
  obtain ⟨result, env', file', after, grown, advances, _, tracks', _⟩ :=
    Environment.grow_outcome holds tracks larger
  rw [grown]
  exact ⟨0, after, advances, Nat.zero_le 1, tracks'⟩

theorem Valid.opened {flags : OpenFlags} {asked : UInt64} {room : Nat}
    {result : Except EngineError Environment × Image}
    (valid : Valid { world with file := file } contents age)
    (opening : Environment.Opening flags asked room file contents result) (index : Nat) :
    Leads { world with file := file } contents age (world.opened index result) := by
  cases opening with
  | ok prepared attached =>
      exact ⟨_, _, prepared.advances, valid.keep prepared.advances prepared.once
        (attached.tracks.mono (Nat.zero_le _)) index⟩
  | unmapped prepared _ _ =>
      exact ⟨_, _, prepared.advances, valid.advance prepared.advances prepared.once⟩
  | tooLong _ _ => exact valid.leads rfl valid.mono

theorem Valid.refreshed (valid : world.Valid contents age) {room index : Nat}
    (here : world.at? room index = some env) : (env.refresh world.file).2.Tracks contents age := by
  rcases Environment.refresh_cases valid.holds (valid.at? here) with
    ⟨env', refreshed, tracks, _, _⟩ | ⟨_, cause, _, refused⟩
  · rw [refreshed]
    exact tracks
  · rw [refused]
    exact valid.at? here

theorem Valid.mapSize_le_of_refresh (valid : world.Valid contents age) {room index : Nat}
    {env' : Environment} (here : world.at? room index = some env)
    (refreshed : env.refresh world.file = (.ok (), env')) :
    env'.mapSize ≤ contents.header.mapSize := by
  have tracks := valid.refreshed here
  rw [refreshed] at tracks
  exact tracks.mapSize_le

theorem Valid.began (valid : world.Valid contents age) {room index : Nat} {env' : Environment}
    {result : Except EngineError Transaction} (here : world.at? room index = some env)
    (began : env.beginWrite world.file = (result, env')) :
    env'.Tracks contents age ∧ ∀ txn, result = .ok txn → txn.Sound := by
  rcases Environment.beginWrite_cases valid.holds (valid.at? here) with
    ⟨_, refused⟩ | ⟨_, found, done, tracks, current, _⟩ | ⟨_, _, cause, refused⟩
  · rw [refused] at began
    cases began
    exact ⟨valid.at? here, nofun⟩
  · rw [done] at began
    cases began
    refine ⟨tracks, ?_⟩
    intro txn same
    cases same
    exact tracks.sound_transaction current
  · rw [refused] at began
    cases began
    exact ⟨valid.at? here, nofun⟩

theorem Valid.step (valid : world.Valid contents age) {request : Request}
    (permitted : request.Permitted world.file) :
    world.Leads contents age (world.step request) := by
  obtain ⟨call, room⟩ := request
  have comes := world.step_comes ⟨call, room⟩
  have same := Advances.refl valid.holds
  generalize world.step ⟨call, room⟩ = next at comes ⊢
  dsimp only at comes
  cases comes with
  | idle => exact valid.leads rfl valid.mono
  | @opened index path flags asked =>
      exact valid.opened (Environment.open_opening valid.holds path flags asked room) index
  | began here began =>
      obtain ⟨tracks, sound⟩ := valid.began here began
      exact valid.leads rfl ((valid.keep same (Nat.zero_le 1) tracks _).hold (sound _ rfl) _)
  | refused here refused =>
      exact valid.leads rfl (valid.keep same (Nat.zero_le 1) (valid.began here refused).1 _)
  | copied held => exact valid.leads rfl (valid.mono.hold (valid.sound _ _ held) _)
  | stored held done => exact valid.leads rfl (valid.mono.hold ((valid.sound _ _ held).put done) _)
  | @removed _ key _ held =>
      exact valid.leads rfl (valid.mono.hold ((valid.sound _ _ held).delete key) _)
  | refreshed here =>
      exact valid.leads rfl (valid.keep same (Nat.zero_le 1) (valid.refreshed here) _)
  | committed held here =>
      exact valid.operated (careful_commit valid.holds (valid.at? here) (valid.sound _ _ held)) _
  | put here =>
      exact valid.operated (careful_of_outcome valid.holds
        (Environment.put_outcome valid.holds (valid.at? here) _ _ _)) _
  | deleted here =>
      exact valid.operated (careful_of_outcome valid.holds
        (Environment.delete_outcome valid.holds (valid.at? here) _)) _
  | @grown index size _ here =>
      have larger := permitted index size rfl _ valid.holds.readable
      exact valid.operated (careful_grow valid.holds (valid.at? here) larger) index

/-! ### What a run preserves -/

theorem Valid.run (valid : world.Valid contents age) {requests : List Request}
    (permitted : Permitted requests world) :
    ∃ after, (run requests world).Valid after (age + requests.length) := by
  induction requests generalizing world contents age with
  | nil => exact ⟨contents, valid⟩
  | cons request rest ih =>
      obtain ⟨_, after, _, stepped⟩ := valid.step permitted.1
      obtain ⟨last, done⟩ := ih stepped permitted.2
      refine ⟨last, ?_⟩
      rw [List.length_cons, Nat.add_comm rest.length 1, ← Nat.add_assoc]
      exact done

theorem run_append (first second : List Request) (world : Environments) :
    Environments.run (first ++ second) world =
      Environments.run second (Environments.run first world) :=
  List.foldl_append

theorem permitted_append {first second : List Request} :
    Permitted (first ++ second) world ↔
      Permitted first world ∧ Permitted second (Environments.run first world) :=
  along_append first second

theorem valid_of_closed (holds : file.Holds contents) (noEnv : ∀ index, world.env? index = none)
    (noTxn : ∀ slot, world.txn? slot = none) :
    Valid { world with file := file } contents 0 where
  holds := holds
  tracks := by
    intro index env here
    rw [noEnv index] at here
    cases here
  sound := by
    intro slot txn here
    rw [noTxn slot] at here
    cases here

theorem valid_initialized {request : Request} (nothing : world.file.size = 0)
    (noEnv : ∀ index, world.env? index = none) (noTxn : ∀ slot, world.txn? slot = none)
    (initializes : request.Initializes) : ∃ after, (world.step request).Valid after 1 := by
  obtain ⟨call, room⟩ := request
  obtain ⟨index, path, flags, asked, opens, writer, short⟩ := initializes
  cases opens
  rcases Environment.open_of_nothing nothing path flags asked room with
    ⟨_, _, beyond⟩ | ⟨_, _, fresh, _, holds, opening⟩
  · exact absurd short (Nat.not_le_of_lt (beyond writer))
  · obtain ⟨_, after, _, valid⟩ := (valid_of_closed holds noEnv noTxn).opened opening index
    exact ⟨after, valid⟩

/-- What is reached from nowhere open is valid, as old as there were calls. -/
theorem Starts.valid {requests : List Request} (starts : world.Starts requests)
    (permitted : Permitted requests world) :
    ∃ contents, (run requests world).Valid contents requests.length := by
  rcases starts.file with ⟨contents, holds⟩ | ⟨nothing, request, rest, rfl, initializes⟩
  · have valid : world.Valid contents 0 := valid_of_closed holds starts.noEnv starts.noTxn
    obtain ⟨after, done⟩ := valid.run permitted
    rw [Nat.zero_add] at done
    exact ⟨after, done⟩
  · obtain ⟨contents, valid⟩ := valid_initialized nothing starts.noEnv starts.noTxn initializes
    obtain ⟨after, done⟩ := valid.run permitted.2
    rw [Nat.add_comm] at done
    exact ⟨after, done⟩

structure Consistent (world : Environments) (calls : Nat) (header : Header)
    (records : Records) : Prop where
  readable : readHeader world.file = .ok header
  decoded : world.file.recordsOf header = .ok records
  size_eq : records.size = header.entries.toNat
  covered : header.mapSize.toNat ≤ world.file.size
  mapSize_le : ∀ index env, world.env? index = some env → env.mapSize ≤ header.mapSize
  refreshes : ∀ room index env, world.at? room index = some env →
    Mappable room header.mapSize → ∃ env', env.refresh world.file = (.ok (), env')
  refreshed : calls < UInt64.size → ∀ room index env env', world.at? room index = some env →
    env.refresh world.file = (.ok (), env') → env'.snapshot.records = records

theorem Valid.consistent (valid : world.Valid contents age) :
    world.Consistent age contents.header contents.records where
  readable := valid.holds.readable
  decoded := valid.holds.decoded
  size_eq := valid.holds.size_eq_entries
  covered := valid.holds.covered
  mapSize_le := fun index env here => (valid.tracks index env here).mapSize_le
  refreshes := by
    intro room index env here mappable
    rcases Environment.refresh_cases valid.holds (valid.at? here) with
      ⟨env', done, _, _, _⟩ | ⟨far, _⟩
    · exact ⟨env', done⟩
    · obtain ⟨_, _, rfl⟩ := Option.map_eq_some_iff.mp here
      exact absurd mappable far
  refreshed := by
    intro short room index env env' here refreshed
    rcases Environment.refresh_cases valid.holds (valid.at? here) with
      ⟨found, done, tracks, current, _⟩ | ⟨_, cause, _, refused⟩
    · rw [done] at refreshed
      cases refreshed
      exact (tracks.shows short current.generation?_eq).records_eq
    · rw [refused] at refreshed
      cases refreshed

/-- Every permitted run, in whatever order its calls come and whichever of them fail, leaves
a consistent file and consistent environments. -/
theorem run_consistent {requests : List Request} (starts : world.Starts requests)
    (permitted : Permitted requests world) :
    ∃ header records, (run requests world).Consistent requests.length header records := by
  obtain ⟨contents, valid⟩ := starts.valid permitted
  exact ⟨_, _, valid.consistent⟩

def untouched : Environments :=
  ⟨Image.empty, fun _ => none, fun _ => none⟩

def overtaken : List Request :=
  [.open 0 "x.mdb" { create := true } 4096, .open 1 "x.mdb" { writeMap := true } 4096,
    .beginWrite 0 0, .putInto 0 [1] [2] false, .grow 1 8192, .put 1 [3] [4] false, .commit 0 0,
    .refresh 1].map fun call => ⟨call, 65536⟩

set_option maxRecDepth 10000 in
theorem run_consistent_overtaken :
    Starts untouched overtaken ∧
      Permitted overtaken untouched ∧
      ∃ header records, Consistent (run overtaken untouched) 8 header records := by
  have starts : Starts untouched overtaken :=
    ⟨fun _ => rfl, fun _ => rfl, Or.inr ⟨rfl, _, _, rfl, _, _, _, _, rfl, rfl, by decide⟩⟩
  have permitted : Permitted overtaken untouched := by
    refine ⟨nofun, nofun, nofun, nofun, ?_, nofun, nofun, nofun, trivial⟩
    intro index size grows header read
    cases grows
    cases read
    decide
  exact ⟨starts, permitted, run_consistent starts permitted⟩

end Environments

end RecordFile
