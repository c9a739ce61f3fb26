/-
What can be seen of environments with writable mappings and without.

Any number of environments may be open on one file. After each call there is its answer, what
every environment has mapped and read, and the file. None of this shows how payloads are written,
whatever the file held to begin with, as long as nobody sets the map size below what somebody
else has mapped. With one environment open at a time nobody can.
-/

import RecordFile.Proofs.Environment.Sharing
import RecordFile.Proofs.Environment.WriteMap

namespace RecordFile

namespace Environments

/-! ### Calls and their answers -/

inductive Action where
  | call (request : Request)
  | close (index : Nat)

/-- What a caller is told. Whoever asks what is not there is told just that. -/
inductive Answer where
  | absent
  | closed
  | done (result : Except EngineError Unit)
  | found (result : Except EngineError Bool)
  | began (result : Except EngineError Transaction)
  | copied (txn : Transaction)
  | removed (present : Bool)

def operate? {α : Type} (world : Environments) (room index : Nat)
    (report : Except EngineError α → Answer)
    (operation : Environment → Image → Option (Except EngineError α × Environment × Image)) :
    Option (Answer × Environments) :=
  match world.at? room index with
  | none => some (.absent, world)
  | some env => (operation env world.file).map fun (result, env, file) =>
      (report result, world.keep index env file)

def edit (world : Environments) (slot : Nat)
    (operation : Transaction → Answer × Transaction) : Answer × Environments :=
  match world.txn? slot with
  | none => (.absent, world)
  | some txn => ((operation txn).1, world.hold slot (operation txn).2)

def perform? (world : Environments) : Action → Option (Answer × Environments)
  | .close index =>
      some (.closed, { world with env? := Function.update world.env? index none })
  | .call ⟨.open index path flags asked, room⟩ =>
      some (.done ((Environment.open path flags asked room world.file).1.map fun _ => ()),
        world.opened index (Environment.open path flags asked room world.file))
  | .call ⟨.refresh index, room⟩ =>
      world.operate? room index .done fun env file =>
        some ((env.refresh file).1, (env.refresh file).2, file)
  | .call ⟨.beginWrite index slot, room⟩ =>
      match world.at? room index with
      | none => some (.absent, world)
      | some env =>
          match env.beginWrite world.file with
          | (.error failure, env) =>
              some (.began (.error failure), world.keep index env world.file)
          | (.ok txn, env) =>
              some (.began (.ok txn), (world.keep index env world.file).hold slot txn)
  | .call ⟨.copy source target, _⟩ =>
      match world.txn? source with
      | none => some (.absent, world)
      | some txn => some (.copied txn, world.hold target txn)
  | .call ⟨.putInto slot key value keepExisting, _⟩ =>
      some (world.edit slot fun txn =>
        match txn.put key value keepExisting with
        | .error failure => (.done (.error failure), txn)
        | .ok txn => (.done (.ok ()), txn))
  | .call ⟨.deleteFrom slot key, _⟩ =>
      some (world.edit slot fun txn => (.removed (txn.delete key).1, (txn.delete key).2))
  | .call ⟨.commit index slot, room⟩ =>
      match world.txn? slot with
      | none => some (.absent, world)
      | some txn => world.operate? room index .done fun env file => env.commitMapped? txn file
  | .call ⟨.put index key value keepExisting, room⟩ =>
      world.operate? room index .done fun env file =>
        env.putMapped? key value keepExisting file
  | .call ⟨.delete index key, room⟩ =>
      world.operate? room index .found fun env file => env.deleteMapped? key file
  | .call ⟨.grow index size, room⟩ =>
      world.operate? room index .done fun env file => some (env.grow size file)

/-- What can be seen after a call. The file is seen with its length and all its bytes. -/
structure Report where
  answer : Answer
  mapSize? : Nat → Option UInt64
  records? : Nat → Option Records
  file : Image

def report (answer : Answer) (world : Environments) : Report where
  answer := answer
  mapSize? index := (world.env? index).map (·.mapSize)
  records? index := (world.env? index).map (·.snapshot.records)
  file := world.file

/-- The reports of calls one after another. There are none if a call would touch what is not
there. -/
def reports? : List Action → Environments → Option (List Report)
  | [], _ => some []
  | action :: rest, world =>
      match world.perform? action with
      | none => none
      | some (answer, after) => (reports? rest after).map (report answer after :: ·)

/-! ### Writable mappings or none -/

def withWriteMap (world : Environments) (writable : Bool) : Environments :=
  { world with env? := fun index => (world.env? index).map (·.withWriteMap writable) }

def Action.withWriteMap : Action → Bool → Action
  | .call ⟨.open index path flags asked, room⟩, writable =>
      .call ⟨.open index path { flags with writeMap := writable } asked, room⟩
  | action, _ => action

def closed (file : Image) : Environments :=
  ⟨file, fun _ => none, fun _ => none⟩

/-- No environment but the one that grows has mapped more than the size it asks for. -/
def Action.Spares (action : Action) (world : Environments) : Prop :=
  ∀ index size room, action = .call ⟨.grow index size, room⟩ →
    ∀ other env, other ≠ index → world.env? other = some env → env.mapSize ≤ size

def Spares : List Action → Environments → Prop
  | [], _ => True
  | action :: rest, world => action.Spares world ∧
      ∀ answer after, world.perform? action = some (answer, after) → Spares rest after

structure Covered (world : Environments) : Prop where
  housed : ∀ index env, world.env? index = some env → env.Housed world.file
  sound : ∀ slot txn, world.txn? slot = some txn → txn.Sound

variable {world : Environments} {env : Environment} {file : Image}

theorem covered_closed (file : Image) : (closed file).Covered :=
  ⟨nofun, nofun⟩

theorem report_withWriteMap (answer : Answer) (world : Environments) (writable : Bool) :
    report answer (world.withWriteMap writable) = report answer world := by
  unfold report withWriteMap
  simp only [Option.map_map]
  rfl

theorem at?_withWriteMap (world : Environments) (room index : Nat) (writable : Bool) :
    (world.withWriteMap writable).at? room index =
      (world.at? room index).map (·.withWriteMap writable) := by
  unfold at? withWriteMap
  dsimp only
  rw [Option.map_map, Option.map_map]
  rfl

theorem update_withWriteMap (env? : Nat → Option Environment) (index : Nat)
    (found? : Option Environment) (writable : Bool) :
    (fun other => (Function.update env? index found? other).map (·.withWriteMap writable)) =
      Function.update (fun other => (env? other).map (·.withWriteMap writable)) index
        (found?.map (·.withWriteMap writable)) := by
  funext other
  by_cases same : other = index
  · rw [same, Function.update_self, Function.update_self]
  · rw [Function.update_of_ne same, Function.update_of_ne same]

theorem keep_withWriteMap (world : Environments) (index : Nat) (env : Environment)
    (file : Image) (writable : Bool) :
    (world.withWriteMap writable).keep index (env.withWriteMap writable) file =
      (world.keep index env file).withWriteMap writable := by
  unfold keep withWriteMap
  dsimp only
  rw [update_withWriteMap]
  rfl

theorem Covered.at? (covered : world.Covered) {room index : Nat}
    (here : world.at? room index = some env) : env.Housed world.file := by
  obtain ⟨found, there, rfl⟩ := Option.map_eq_some_iff.mp here
  have housed := covered.housed index found there
  exact ⟨housed.houses, housed.sound⟩

theorem Covered.keep (covered : world.Covered) {index : Nat} (housed : env.Housed file)
    (others : ∀ other found, other ≠ index → world.env? other = some found →
      file.Houses found.mapSize) : (world.keep index env file).Covered where
  housed := by
    apply (Function.forall_update_iff world.env? fun _ found? =>
      ∀ found, found? = some found → found.Housed file).mpr
    constructor
    · intro found here
      cases here
      exact housed
    · intro other different found here
      exact ⟨others other found different here, (covered.housed other found here).sound⟩
  sound := covered.sound

theorem Covered.hold (covered : world.Covered) {txn : Transaction} (sound : txn.Sound)
    (slot : Nat) : (world.hold slot txn).Covered where
  housed := covered.housed
  sound := by
    apply forall_update
    · intro found here
      cases here
      exact sound
    · exact covered.sound

/-! ### One call -/

/-- With writable mappings and without a step gives the same answer and the same world. -/
def StepsAlike (step : Bool → Option (Answer × Environments)) : Prop :=
  ∃ answer, ∃ after : Environments, after.Covered ∧
    ∀ writable, step writable = some (answer, after.withWriteMap writable)

theorem operate?_alike {α : Type} (covered : world.Covered) {room index : Nat}
    {report : Except EngineError α → Answer} {spared : UInt64 → Prop}
    {operation : Environment → Image → Option (Except EngineError α × Environment × Image)}
    (uniform : ∀ env : Environment, env.Housed world.file →
      env.Uniform world.file operation spared)
    (spares : ∀ other found, other ≠ index → world.env? other = some found →
      spared found.mapSize) :
    StepsAlike fun writable =>
      (world.withWriteMap writable).operate? room index report operation := by
  cases here : world.at? room index with
  | none =>
      refine ⟨.absent, world, covered, fun writable => ?_⟩
      unfold operate?
      dsimp only
      rw [at?_withWriteMap, here]
      rfl
  | some env =>
      obtain ⟨result, env', file', runs, housed, others⟩ := uniform env (covered.at? here)
      refine ⟨report result, world.keep index env' file', covered.keep housed ?_,
        fun writable => ?_⟩
      · intro other found different there
        exact others _ (spares other found different there)
          (covered.housed other found there).houses
      · have same : (world.withWriteMap writable).file = world.file := rfl
        unfold operate?
        dsimp only
        rw [at?_withWriteMap, here]
        dsimp only [Option.map]
        rw [same, runs writable]
        dsimp only
        rw [keep_withWriteMap]

theorem edit_alike (covered : world.Covered) {slot : Nat}
    {operation : Transaction → Answer × Transaction}
    (sound : ∀ txn, txn.Sound → (operation txn).2.Sound) :
    StepsAlike fun writable => some ((world.withWriteMap writable).edit slot operation) := by
  refine ⟨(world.edit slot operation).1, (world.edit slot operation).2, ?_, fun writable => ?_⟩
  · unfold edit
    cases here : world.txn? slot with
    | none => exact covered
    | some txn => exact covered.hold (sound txn (covered.sound slot txn here)) slot
  · have same : (world.withWriteMap writable).txn? = world.txn? := rfl
    unfold edit
    dsimp only
    rw [same]
    cases world.txn? slot with
    | none => rfl
    | some txn => rfl

theorem open_alike (covered : world.Covered) (index : Nat) (path : String) (flags : OpenFlags)
    (asked : UInt64) (room : Nat) :
    StepsAlike fun writable => (world.withWriteMap writable).perform?
      (Action.withWriteMap (.call ⟨.open index path flags asked, room⟩) writable) := by
  obtain ⟨housed, others⟩ := Environment.open_housed path flags asked room world.file
  have steps : ∀ writable, (world.withWriteMap writable).perform?
      (Action.withWriteMap (.call ⟨.open index path flags asked, room⟩) writable) =
        some (.done ((Environment.open path flags asked room world.file).1.map fun _ => ()),
          (world.opened index
            (Environment.open path flags asked room world.file)).withWriteMap writable) := by
    intro writable
    have opens := Environment.open_withWriteMap path flags asked room world.file writable
    have same : (world.withWriteMap writable).file = world.file := rfl
    unfold Action.withWriteMap perform?
    dsimp only
    rw [same, opens]
    rcases Environment.open path flags asked room world.file with ⟨failure | env, file⟩
    · rfl
    · dsimp only [Except.map, opened]
      rw [keep_withWriteMap]
  refine ⟨_, _, ?_, steps⟩
  generalize Environment.open path flags asked room world.file = result at housed others
  rcases result with ⟨failure | env, file⟩
  · exact ⟨fun other found there =>
      ⟨others _ (covered.housed other found there).houses,
        (covered.housed other found there).sound⟩, covered.sound⟩
  · exact covered.keep (housed env rfl) fun other found _ there =>
      others _ (covered.housed other found there).houses

theorem beginWrite_alike (covered : world.Covered) (index slot room : Nat) :
    StepsAlike fun writable =>
      (world.withWriteMap writable).perform? (.call ⟨.beginWrite index slot, room⟩) := by
  cases here : world.at? room index with
  | none =>
      refine ⟨.absent, world, covered, fun writable => ?_⟩
      unfold perform?
      dsimp only
      rw [at?_withWriteMap, here]
      rfl
  | some env =>
      have same : ∀ writable, (world.withWriteMap writable).file = world.file := fun _ => rfl
      have others : ∀ other found, other ≠ index → world.env? other = some found →
          world.file.Houses found.mapSize :=
        fun other found _ there => (covered.housed other found there).houses
      rcases Environment.beginWrite_alike (covered.at? here) with
        ⟨failure, env', housed, begins⟩ | ⟨txn, env', housed, sound, begins⟩
      · refine ⟨.began (.error failure), world.keep index env' world.file,
          covered.keep housed others, fun writable => ?_⟩
        unfold perform?
        dsimp only
        rw [at?_withWriteMap, here]
        dsimp only [Option.map]
        rw [same, begins]
        dsimp only
        rw [keep_withWriteMap]
      · refine ⟨.began (.ok txn), (world.keep index env' world.file).hold slot txn,
          (covered.keep housed others).hold sound slot, fun writable => ?_⟩
        unfold perform?
        dsimp only
        rw [at?_withWriteMap, here]
        dsimp only [Option.map]
        rw [same, begins]
        dsimp only
        rw [keep_withWriteMap]
        rfl

theorem perform?_alike (covered : world.Covered) {action : Action}
    (spares : action.Spares world) :
    StepsAlike fun writable =>
      (world.withWriteMap writable).perform? (action.withWriteMap writable) := by
  have anybody : ∀ index other found, other ≠ index → world.env? other = some found → True :=
    fun _ _ _ _ _ => trivial
  cases action with
  | close index =>
      refine ⟨.closed, { world with env? := Function.update world.env? index none }, ?_,
        fun writable => ?_⟩
      · refine ⟨?_, covered.sound⟩
        exact forall_update nofun covered.housed
      · unfold perform? withWriteMap
        dsimp only
        rw [update_withWriteMap]
        rfl
  | call request =>
      obtain ⟨call, room⟩ := request
      cases call with
      | «open» index path flags asked => exact open_alike covered index path flags asked room
      | refresh index =>
          exact operate?_alike covered (fun env housed => Environment.refresh_uniform housed)
            (anybody index)
      | beginWrite index slot => exact beginWrite_alike covered index slot room
      | copy source target =>
          cases here : world.txn? source with
          | none =>
              refine ⟨.absent, world, covered, fun writable => ?_⟩
              have there : (world.withWriteMap writable).txn? source = none := here
              unfold Action.withWriteMap perform?
              dsimp only
              rw [there]
          | some txn =>
              refine ⟨.copied txn, world.hold target txn,
                covered.hold (covered.sound source txn here) target, fun writable => ?_⟩
              have there : (world.withWriteMap writable).txn? source = some txn := here
              unfold Action.withWriteMap perform?
              dsimp only
              rw [there]
              rfl
      | putInto slot key value keepExisting =>
          apply edit_alike covered
          intro txn sound
          cases put : txn.put key value keepExisting with
          | error failure => exact sound
          | ok later => exact sound.put put
      | deleteFrom slot key => exact edit_alike covered fun txn sound => sound.delete key
      | commit index slot =>
          cases here : world.txn? slot with
          | none =>
              refine ⟨.absent, world, covered, fun writable => ?_⟩
              have there : (world.withWriteMap writable).txn? slot = none := here
              unfold Action.withWriteMap perform?
              dsimp only
              rw [there]
          | some txn =>
              obtain ⟨answer, after, covered', steps⟩ := operate?_alike covered
                (fun env housed => Environment.commitMapped?_uniform housed.houses
                  (covered.sound slot txn here)) (anybody index)
              refine ⟨answer, after, covered', fun writable => ?_⟩
              have there : (world.withWriteMap writable).txn? slot = some txn := here
              unfold Action.withWriteMap perform?
              dsimp only
              rw [there]
              exact steps writable
      | put index key value keepExisting =>
          exact operate?_alike covered
            (fun env housed => Environment.putMapped?_uniform housed key value keepExisting)
            (anybody index)
      | delete index key =>
          exact operate?_alike covered
            (fun env housed => Environment.deleteMapped?_uniform housed key) (anybody index)
      | grow index size =>
          exact operate?_alike covered
            (fun env housed => Environment.grow_uniform housed size)
            (spares index size room rfl)

/-! ### Calls one after another -/

theorem reports?_alike {actions : List Action} (covered : world.Covered)
    (spares : Spares (actions.map (·.withWriteMap false)) (world.withWriteMap false)) :
    ∃ reports, ∀ writable,
      reports? (actions.map (·.withWriteMap writable)) (world.withWriteMap writable) =
        some reports := by
  induction actions generalizing world with
  | nil => exact ⟨[], fun _ => rfl⟩
  | cons action rest ih =>
      obtain ⟨now, later⟩ := spares
      have nowSpares : action.Spares world := by
        intro index size room grows other found different there
        apply now index size room (by rw [grows]; rfl) other (found.withWriteMap false) different
        exact congrArg (Option.map (·.withWriteMap false)) there
      obtain ⟨answer, after, covered', steps⟩ := perform?_alike covered nowSpares
      dsimp only at steps
      obtain ⟨reports, same⟩ := ih covered' (later answer _ (steps false))
      refine ⟨report answer after :: reports, fun writable => ?_⟩
      rw [List.map_cons]
      unfold reports?
      rw [steps writable]
      dsimp only
      rw [same writable, report_withWriteMap]
      rfl

def Action.handle? : Action → Option Nat
  | .close index => some index
  | .call ⟨.open index _ _ _, _⟩ => some index
  | .call ⟨.refresh index, _⟩ => some index
  | .call ⟨.beginWrite index _, _⟩ => some index
  | .call ⟨.commit index _, _⟩ => some index
  | .call ⟨.put index _ _ _, _⟩ => some index
  | .call ⟨.delete index _, _⟩ => some index
  | .call ⟨.grow index _, _⟩ => some index
  | .call _ => none

theorem env?_keep {index other : Nat} (different : other ≠ index) (env : Environment)
    (file : Image) : (world.keep index env file).env? other = world.env? other := by
  unfold keep
  exact Function.update_of_ne different _ _

theorem env?_operate? {α : Type} {room index other : Nat} {report : Except EngineError α → Answer}
    {operation : Environment → Image → Option (Except EngineError α × Environment × Image)}
    {answer : Answer} {after : Environments}
    (operated : world.operate? room index report operation = some (answer, after))
    (different : other ≠ index) : after.env? other = world.env? other := by
  unfold operate? at operated
  split at operated
  · cases operated
    rfl
  · obtain ⟨⟨result, env, file⟩, _, same⟩ := Option.map_eq_some_iff.mp operated
    cases same
    exact env?_keep different env file

theorem env?_edit {slot : Nat} {operation : Transaction → Answer × Transaction}
    {answer : Answer} {after : Environments}
    (edited : world.edit slot operation = (answer, after)) (other : Nat) :
    after.env? other = world.env? other := by
  unfold edit at edited
  split at edited
  · cases edited
    rfl
  · cases edited
    rfl

/-- An action touches no environment but its own. -/
theorem env?_perform? {action : Action} {answer : Answer} {after : Environments}
    (performed : world.perform? action = some (answer, after)) {other : Nat}
    (different : action.handle? ≠ some other) : after.env? other = world.env? other := by
  have apart : ∀ {index}, some index ≠ some other → other ≠ index :=
    fun differ same => differ (congrArg some same.symm)
  cases action with
  | close index =>
      cases performed
      exact Function.update_of_ne (apart different) none world.env?
  | call request =>
      obtain ⟨call, room⟩ := request
      cases call with
      | «open» index path flags asked =>
          cases performed
          rcases Environment.open path flags asked room world.file with ⟨failure | env, file⟩
          · rfl
          · exact env?_keep (apart different) env file
      | refresh index =>
          unfold perform? at performed
          exact env?_operate? performed (apart different)
      | beginWrite index slot =>
          unfold perform? at performed
          dsimp only at performed
          split at performed
          · cases performed
            rfl
          · split at performed
            · cases performed
              exact env?_keep (apart different) _ world.file
            · cases performed
              exact env?_keep (apart different) _ world.file
      | copy source target =>
          unfold perform? at performed
          dsimp only at performed
          split at performed
          · cases performed
            rfl
          · cases performed
            rfl
      | putInto slot key value keepExisting =>
          unfold perform? at performed
          exact env?_edit (Option.some.inj performed) other
      | deleteFrom slot key =>
          unfold perform? at performed
          exact env?_edit (Option.some.inj performed) other
      | commit index slot =>
          unfold perform? at performed
          dsimp only at performed
          split at performed
          · cases performed
            rfl
          · exact env?_operate? performed (apart different)
      | put index key value keepExisting => exact env?_operate? performed (apart different)
      | delete index key => exact env?_operate? performed (apart different)
      | grow index size =>
          unfold perform? at performed
          exact env?_operate? performed (apart different)

def OneHandle (actions : List Action) : Prop :=
  ∃ index, ∀ action ∈ actions, ∀ other, action.handle? = some other → other = index

theorem spares_of_oneHandle {actions : List Action} {index : Nat}
    (one : ∀ action ∈ actions, ∀ other, action.handle? = some other → other = index)
    (alone : ∀ other, other ≠ index → world.env? other = none) : Spares actions world := by
  induction actions generalizing world with
  | nil => trivial
  | cons action rest ih =>
      refine ⟨?_, ?_⟩
      · intro own size room grows other found different there
        have ownIndex : own = index := one action List.mem_cons_self own (by rw [grows]; rfl)
        rw [alone other (ownIndex ▸ different)] at there
        cases there
      · intro answer after performed
        apply ih fun later member => one later (List.mem_cons_of_mem _ member)
        intro other different
        rw [env?_perform? performed, alone other different]
        exact fun own => different (one action List.mem_cons_self other own)

theorem handle?_withWriteMap (action : Action) (writable : Bool) :
    (action.withWriteMap writable).handle? = action.handle? := by
  unfold Action.withWriteMap
  split
  · rfl
  · rfl

/-- Whatever a file holds, calls are answered alike with writable mappings and without, and the
environments have mapped and read the same after each of them, and the file is the same to the
last byte. This is so for the calls of one environment, closed and opened as may be, and for
those of many of which none grows the map to less than another one has mapped. -/
theorem runs_indistinguishable (file : Image) {actions : List Action}
    (sparing : OneHandle actions ∨ Spares (actions.map (·.withWriteMap false)) (closed file)) :
    ∃ reports, reports? (actions.map (·.withWriteMap true)) (closed file) = some reports ∧
      reports? (actions.map (·.withWriteMap false)) (closed file) = some reports := by
  have spares : Spares (actions.map (·.withWriteMap false)) (closed file) := by
    rcases sparing with ⟨index, one⟩ | spares
    · apply spares_of_oneHandle _ (fun _ _ => rfl)
      · exact index
      · intro action member other own
        obtain ⟨plain, among, rfl⟩ := List.mem_map.mp member
        rw [handle?_withWriteMap] at own
        exact one plain among other own
    · exact spares
  obtain ⟨reports, same⟩ := reports?_alike (covered_closed file) spares
  exact ⟨reports, same true, same false⟩

def growsBetween : List Action :=
  [.open 0 "x.mdb" { create := true } 4096, .put 0 [1] [2] false, .beginWrite 0 0,
    .putInto 0 [3] [4] false, .grow 0 8192, .commit 0 0, .delete 0 [1]].map
      (fun call => .call ⟨call, 65536⟩) ++
    [.close 0, .call ⟨.open 0 "x.mdb" {} 0, 65536⟩]

set_option maxRecDepth 10000 in
theorem runs_indistinguishable_growsBetween :
    OneHandle growsBetween ∧
      ∃ reports, reports? (growsBetween.map (·.withWriteMap true)) (closed Image.empty) =
          some reports ∧
        reports? (growsBetween.map (·.withWriteMap false)) (closed Image.empty) = some reports ∧
        reports.map (·.mapSize? 0) = [some 4096, some 4096, some 4096, some 4096, some 8192,
          some 8192, some 8192, none, some 8192] ∧
        reports.map (fun report => (report.records? 0).map (·.size)) =
          [some 0, some 1, some 1, some 1, some 1, some 2, some 1, none, some 1] := by
  have one : OneHandle growsBetween := ⟨0, by decide⟩
  obtain ⟨reports, through, beside⟩ := runs_indistinguishable Image.empty (Or.inl one)
  have mapped : (reports? (growsBetween.map (·.withWriteMap true)) (closed Image.empty)).map
      (·.map (·.mapSize? 0)) = some [some 4096, some 4096, some 4096, some 4096, some 8192,
        some 8192, some 8192, none, some 8192] := by
    decide +kernel
  have read : (reports? (growsBetween.map (·.withWriteMap true)) (closed Image.empty)).map
      (·.map fun report => (report.records? 0).map (·.size)) =
        some [some 0, some 1, some 1, some 1, some 1, some 2, some 1, none, some 1] := by
    decide +kernel
  rw [through] at mapped read
  exact ⟨one, reports, through, beside, Option.some.inj mapped, Option.some.inj read⟩

end Environments

end RecordFile
