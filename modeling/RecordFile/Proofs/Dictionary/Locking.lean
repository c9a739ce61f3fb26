/-
Locks of handles.

An operation of a handle that locks makes all its calls of the engine under one lock, shared
for reading and exclusive for writing, and its descriptor holds none when it returns. This is
so whatever the operation returns and whatever the descriptor held before. A handle that does
not lock leaves all locks as they are, and nobody changes the lock of another descriptor.
-/

import RecordFile.Proofs.Dictionary.Requests
import RecordFile.Proofs.Dictionary.Updates
import RecordFile.Proofs.Session.Settings

namespace RecordFile

namespace Dictionary

variable {dict dict' dict'' : Dictionary} {file file' file'' : SharedFile}

/-! ### Calls of the engine -/

def MadeUnder (descriptor : Descriptor) (lock? : Option LockMode) (calls : List Access) : Prop :=
  ∀ call ∈ calls, call.descriptor = descriptor ∧ call.lock? = lock?

structure Uses (dict : Dictionary) (file : SharedFile) (dict' : Dictionary) (file' : SharedFile) :
    Prop where
  flags_eq : dict'.flags = dict.flags
  descriptor_eq : dict'.descriptor = dict.descriptor
  retains : dict.session.Retains dict'.session
  locks_eq : file'.locks = file.locks
  calls : ∃ calls, file'.accesses = calls ++ file.accesses ∧
    MadeUnder dict.descriptor (file.locks.held? dict.descriptor) calls

theorem Uses.refl (dict : Dictionary) (file : SharedFile) : dict.Uses file dict file :=
  ⟨rfl, rfl, .refl dict.session, rfl, [], rfl, fun _ none => absurd none List.not_mem_nil⟩

theorem Uses.trans (first : dict.Uses file dict' file') (second : dict'.Uses file' dict'' file'') :
    dict.Uses file dict'' file'' where
  flags_eq := second.flags_eq.trans first.flags_eq
  descriptor_eq := second.descriptor_eq.trans first.descriptor_eq
  retains := first.retains.trans second.retains
  locks_eq := second.locks_eq.trans first.locks_eq
  calls := by
    obtain ⟨earlier, before, made⟩ := first.calls
    obtain ⟨later, after, made'⟩ := second.calls
    rw [first.descriptor_eq, first.locks_eq] at made'
    refine ⟨later ++ earlier, by rw [after, before, List.append_assoc], ?_⟩
    intro call member
    rcases List.mem_append.mp member with new | old
    · exact made' call new
    · exact made call old

theorem Uses.relabel (uses : dict.Uses file dict' file') (flagsEq : dict''.flags = dict'.flags)
    (descriptorEq : dict''.descriptor = dict'.descriptor)
    (sessionEq : dict''.session = dict'.session) : dict.Uses file dict'' file' where
  flags_eq := flagsEq.trans uses.flags_eq
  descriptor_eq := descriptorEq.trans uses.descriptor_eq
  retains := sessionEq ▸ uses.retains
  locks_eq := uses.locks_eq
  calls := uses.calls

theorem engine_uses {α : Type} (dict : Dictionary) (call : EngineCall)
    (run : Session → Image → α × Session × Image) (file : SharedFile)
    (retains : dict.session.Retains (run dict.session file.image).2.1) :
    dict.Uses file (dict.engine call run file).2.1 (dict.engine call run file).2.2 := by
  have noticed : dict.session.Retains (dict.engine call run file).2.1.session :=
    retains.trans ⟨rfl, rfl, rfl, rfl, rfl⟩
  refine ⟨rfl, rfl, noticed, rfl, [⟨dict.descriptor, call, file.locks.held? dict.descriptor⟩],
    rfl, ?_⟩
  intro made member
  cases List.mem_singleton.mp member
  exact ⟨rfl, rfl⟩

theorem fetch_uses (key : Bytes) (dict : Dictionary) (file : SharedFile) :
    dict.Uses file (fetch key dict file).2.1 (fetch key dict file).2.2 :=
  engine_uses dict .get _ file (Session.retains_get _ _ key)

theorem remove_uses (key : Bytes) (dict : Dictionary) (file : SharedFile) :
    dict.Uses file (remove key dict file).2.1 (remove key dict file).2.2 := by
  have kept := Session.retains_delete dict.session file.image key
  refine engine_uses dict .delete _ file ?_
  split
  · next failed => rw [failed] at kept; exact kept
  · next removed => rw [removed] at kept; exact kept

theorem tryForms_uses {α : Type} (key : Bytes) (action : EngineAction)
    {attempt : Bytes → Dictionary → SharedFile →
      Except EngineError (Option α) × Dictionary × SharedFile}
    (attempts : ∀ key dict file,
      Uses dict file (attempt key dict file).2.1 (attempt key dict file).2.2)
    (forms : List Form) (dict : Dictionary) (file : SharedFile) :
    dict.Uses file (tryForms key action attempt forms dict file).2.1
      (tryForms key action attempt forms dict file).2.2 := by
  induction forms generalizing dict file with
  | nil => exact .refl dict file
  | cons form rest ih =>
      have tried := attempts (form.encode key) dict file
      unfold tryForms
      split
      · next failed => rw [failed] at tried; exact tried
      · next missed =>
          rw [missed] at tried
          exact tried.trans (ih _ _)
      · next hit =>
          rw [hit] at tried
          exact tried.relabel rfl rfl rfl

/-! ### Operations -/

inductive Guards (locks : Bool) (descriptor : Descriptor) (file : SharedFile) :
    Option LockMode → SharedFile → Prop
  | locked {mode : LockMode} {file' : SharedFile} {calls : List Access} (asked : locks = true)
      (accesses_eq : file'.accesses = calls ++ file.accesses)
      (made : MadeUnder descriptor (some mode) calls)
      (released : file'.locks.held? descriptor = none)
      (others : ∀ other, other ≠ descriptor →
        file'.locks.held? other = file.locks.held? other) :
      Guards locks descriptor file (some mode) file'
  | unlocked {mode : LockMode} {file' : SharedFile} {calls : List Access}
      (unasked : locks = false) (accesses_eq : file'.accesses = calls ++ file.accesses)
      (made : MadeUnder descriptor (file.locks.held? descriptor) calls)
      (locks_eq : file'.locks = file.locks) :
      Guards locks descriptor file (some mode) file'
  | idle : Guards locks descriptor file none file

structure Remains (dict dict' : Dictionary) : Prop where
  flags_eq : dict'.flags = dict.flags
  descriptor_eq : dict'.descriptor = dict.descriptor
  retains : dict.session.Retains dict'.session

theorem Uses.remains (uses : dict.Uses file dict' file') : dict.Remains dict' :=
  ⟨uses.flags_eq, uses.descriptor_eq, uses.retains⟩

structure Obeys (dict : Dictionary) (mode? : Option LockMode) (file : SharedFile)
    (dict' : Dictionary) (file' : SharedFile) : Prop where
  remains : dict.Remains dict'
  guards : Guards dict.flags.lock dict.descriptor file mode? file'

theorem locked_obeys {α : Type} (dict : Dictionary) (mode : LockMode)
    {operation : Dictionary → SharedFile → α × Dictionary × SharedFile} (file : SharedFile)
    (uses : dict.Uses (dict.lock mode file) (operation dict (dict.lock mode file)).2.1
      (operation dict (dict.lock mode file)).2.2) :
    dict.Obeys (some mode) file (dict.locked mode operation file).2.1
      (dict.locked mode operation file).2.2 := by
  unfold locked
  dsimp only
  rcases ran : operation dict (dict.lock mode file) with ⟨result, dict', file'⟩
  rw [ran] at uses
  refine ⟨uses.remains, ?_⟩
  obtain ⟨calls, accessesEq, made⟩ := uses.calls
  have locksEq := uses.locks_eq
  unfold lock at accessesEq made locksEq
  unfold unlock
  split at made
  · next asked =>
      rw [if_pos asked] at accessesEq locksEq
      rw [if_pos asked]
      change file'.locks = file.locks.acquire dict.descriptor mode at locksEq
      change MadeUnder _ ((file.locks.acquire dict.descriptor mode).held? _) _ at made
      rw [Locks.held?_acquire_self] at made
      refine .locked asked accessesEq made (Locks.held?_release_self _ _) ?_
      intro other different
      change (file'.locks.release dict.descriptor).held? other = _
      rw [Locks.held?_release_of_ne _ different, locksEq,
        Locks.held?_acquire_of_ne _ mode different]
  · next unasked =>
      rw [if_neg unasked] at accessesEq locksEq
      rw [if_neg unasked]
      exact .unlocked (Bool.eq_false_iff.mpr unasked) accessesEq made locksEq

theorem locked_engine_obeys {α : Type} (dict : Dictionary) (mode : LockMode) (call : EngineCall)
    (run : Dictionary → Session → Image → α × Session × Image) (file : SharedFile)
    (retains : ∀ session image, Session.Retains session (run dict session image).2.1) :
    dict.Obeys (some mode) file
      (dict.locked mode (fun dict file => dict.engine call (run dict) file) file).2.1
      (dict.locked mode (fun dict file => dict.engine call (run dict) file) file).2.2 :=
  locked_obeys dict mode file (engine_uses dict call (run dict) _ (retains _ _))

theorem lookup_obeys (dict : Dictionary) (name : String) (file : SharedFile) :
    dict.Obeys (some .shared) file (dict.lookup name file).2.1 (dict.lookup name file).2.2 := by
  refine locked_obeys dict .shared file ?_
  have uses := tryForms_uses (Bytes.ofText (dict.fold name)) .reading fetch_uses
    dict.encoding.candidates dict (dict.lock .shared file)
  split
  · next failed => rw [failed] at uses; exact uses
  · next found => rw [found] at uses; exact uses

theorem delete_obeys (dict : Dictionary) (name : String) (file : SharedFile) :
    dict.Obeys (some .exclusive) file (dict.delete name file).2.1
      (dict.delete name file).2.2 := by
  refine locked_obeys dict .exclusive file ?_
  have uses := tryForms_uses (Bytes.ofText (dict.fold name)) .deletingFrom remove_uses
    dict.encoding.candidates dict (dict.lock .exclusive file)
  split
  · next failed => rw [failed] at uses; exact uses
  · next found => rw [found] at uses; exact uses

theorem sequence_obeys (dict : Dictionary) (move : CursorMove) (file : SharedFile) :
    dict.Obeys (some .shared) file (dict.sequence move file).2.1
      (dict.sequence move file).2.2 := by
  refine locked_obeys dict .shared file ?_
  have uses := engine_uses dict .seek
    (fun session image => ((session.seek move image).1, (session.seek move image).2, image))
    (dict.lock .shared file) (Session.retains_seek _ _ move)
  unfold engineRead
  split
  · next failed => rw [failed] at uses; exact uses
  · next found => rw [found] at uses; exact uses

theorem updateResult_remains (dict : Dictionary) (key : String)
    (stored : Except EngineError Unit) : dict.Remains (dict.updateResult key stored).2 := by
  unfold updateResult
  split
  · exact ⟨rfl, rfl, .refl dict.session⟩
  · split
    · exact ⟨rfl, rfl, .refl dict.session⟩
    · exact ⟨rfl, rfl, .refl dict.session⟩
    · exact ⟨rfl, rfl, .refl dict.session⟩
    · exact ⟨rfl, rfl, .refl dict.session⟩
  · exact ⟨rfl, rfl, .refl dict.session⟩

theorem Remains.trans (first : dict.Remains dict') (second : dict'.Remains dict'') :
    dict.Remains dict'' :=
  ⟨second.flags_eq.trans first.flags_eq, second.descriptor_eq.trans first.descriptor_eq,
    first.retains.trans second.retains⟩

theorem update_obeys (dict : Dictionary) (name : String) (value : Bytes) (file : SharedFile) :
    dict.Obeys (some .exclusive) file (dict.update name value file).2.1
      (dict.update name value file).2.2 := by
  obtain ⟨ready, readyEq⟩ : ∃ ready : Dictionary,
      ready = { dict with encoding := dict.encoding.forWrite dict.defaultForm } := ⟨_, rfl⟩
  obtain ⟨form, formEq⟩ : ∃ form, form = dict.encoding.formToWrite dict.defaultForm := ⟨_, rfl⟩
  have stored := locked_engine_obeys ready .exclusive .put
    (fun ready session image => session.put (form.encode (Bytes.ofText (dict.fold name)))
      (form.encode value) (!ready.policy.overwrites) image) file
    fun _ _ => Session.retains_put _ _ _ _ _
  have remains : dict.Remains ready := by
    rw [readyEq]
    exact ⟨rfl, rfl, .refl dict.session⟩
  unfold update
  dsimp only
  rw [← formEq, ← readyEq]
  exact ⟨(remains.trans stored.remains).trans (updateResult_remains _ _ _),
    remains.flags_eq ▸ remains.descriptor_eq ▸ stored.guards⟩

theorem commit_obeys (dict : Dictionary) (file : SharedFile) :
    dict.Obeys (if dict.session.bulk then some .exclusive else none) file (dict.commit file).2.1
      (dict.commit file).2.2 := by
  unfold commit
  split
  · refine locked_obeys dict .exclusive file ?_
    have uses := engine_uses dict .commit (fun session image => session.commit image)
      (dict.lock .exclusive file) (Session.retains_commit _ _)
    split
    · next failed => rw [failed] at uses; exact uses
    · next done => rw [done] at uses; exact uses
  · exact ⟨⟨rfl, rfl, .refl dict.session⟩, .idle⟩

def Command.Operates : Command → Prop
  | .close => False
  | .drop => False
  | _ => True

theorem obey_obeys (dict : Dictionary) {command : Command} (operates : command.Operates)
    (file : SharedFile) :
    dict.Obeys (Handles.lockFor? dict command) file (dict.obey command file).2.1
      (dict.obey command file).2.2 := by
  cases command with
  | perform operation =>
      cases operation with
      | lookup name => exact lookup_obeys dict name file
      | update name value => exact update_obeys dict name value file
      | delete name => exact delete_obeys dict name file
  | scan move => exact sequence_obeys dict move file
  | commit => exact commit_obeys dict file
  | close => exact operates.elim
  | drop => exact operates.elim

/-! ### Other descriptors -/

structure Spares (dict : Dictionary) (file : SharedFile) (dict' : Dictionary)
    (file' : SharedFile) : Prop where
  remains : dict.Remains dict'
  others : ∀ other, other ≠ dict.descriptor →
    file'.locks.held? other = file.locks.held? other

theorem Obeys.spares {mode? : Option LockMode} (obeys : dict.Obeys mode? file dict' file') :
    dict.Spares file dict' file' := by
  refine ⟨obeys.remains, fun other different => ?_⟩
  cases obeys.guards with
  | locked _ _ _ _ others => exact others other different
  | unlocked _ _ _ locksEq => rw [locksEq]
  | idle => rfl

theorem close_spares (dict : Dictionary) (file : SharedFile) :
    dict.Spares file (dict.close file).2.1 (dict.close file).2.2 := by
  have committed := (commit_obeys dict file).spares
  unfold close
  split
  · next failed => rw [failed] at committed; exact committed
  · next dict' file' done =>
      rw [done] at committed
      have uses := engine_uses dict' .close (fun session image => session.close image) file'
        (Session.retains_commit _ _)
      have spares : dict.Spares file
          (dict'.engine .close (fun session image => session.close image) file').2.1
          (dict'.engine .close (fun session image => session.close image) file').2.2 := by
        refine ⟨committed.remains.trans uses.remains, fun other different => ?_⟩
        rw [uses.locks_eq]
        exact committed.others other different
      split
      · next failed => rw [failed] at spares; exact spares
      · next closed => rw [closed] at spares; exact spares

theorem obey_spares (dict : Dictionary) (command : Command) (file : SharedFile) :
    dict.Spares file (dict.obey command file).2.1 (dict.obey command file).2.2 := by
  cases command with
  | perform operation =>
      have operates : (Command.perform operation).Operates := trivial
      exact (obey_obeys dict operates file).spares
  | scan move => exact (sequence_obeys dict move file).spares
  | commit => exact (commit_obeys dict file).spares
  | close => exact close_spares dict file
  | drop => exact ⟨⟨rfl, rfl, .refl dict.session⟩, fun _ _ => rfl⟩

end Dictionary

namespace Handles

open Dictionary (Guards)

variable {world : Handles} {turn : Turn} {dict : Dictionary} {who : Descriptor}
  {flags : DictionaryFlags} {opening : Opening} {room : Nat} {file' : SharedFile}

/-! ### Runs -/

def Named (world : Handles) : Prop :=
  ∀ who dict, world.handle? who = some dict → dict.descriptor = who

inductive Disciplined (who : Descriptor) (flags : DictionaryFlags) (world : Handles)
    (turn : Turn) : Prop
  | own {dict : Dictionary} {command : Dictionary.Command} (own : turn.who = who)
      (asks : turn.deed = .obey command) (here : world.user? turn = some dict)
      (flags_eq : dict.flags = flags) (bulk_eq : dict.session.bulk = flags.bulk)
      (guards : Guards flags.lock who world.file (lockFor? dict command) (world.step turn).file)
  | other (different : turn.who ≠ who)
      (unchanged : (world.step turn).file.locks.held? who = world.file.locks.held? who)

def Has (world : Handles) (who : Descriptor) (flags : DictionaryFlags) : Prop :=
  ∃ dict, world.handle? who = some dict ∧ dict.flags = flags ∧ dict.session.bulk = flags.bulk

theorem open_locks {session : Session} {path : String} {mode : OpenMode}
    {config : DictionaryConfig} {owner : Owner} {source? : Option Nat} {now : Nat}
    {file : SharedFile} {result : Except OpenError Dictionary}
    (opened : Dictionary.open session path mode flags config who owner room source? now file =
      (result, file')) :
    (∀ other, other ≠ who → file'.locks.held? other = file.locks.held? other) ∧
      ∀ dict, result = .ok dict →
        dict.descriptor = who ∧ dict.flags = flags ∧ dict.session.bulk = flags.bulk := by
  have replaced : ∀ image, (file.replace image now).locks = file.locks := by
    intro image
    unfold SharedFile.replace SharedFile.touch
    split
    · rfl
    · rfl
  unfold Dictionary.open at opened
  split at opened
  · cases opened
    refine ⟨fun other _ => by rw [replaced], ?_⟩
    intro dict made
    cases made
  · next session' image' done =>
      cases opened
      constructor
      · intro other different
        unfold Dictionary.handshake
        split
        · change ((((file.replace image' now).locks.acquire who .exclusive).acquire who
            .shared).held? other) = _
          rw [Locks.held?_acquire_of_ne _ _ different, Locks.held?_acquire_of_ne _ _ different,
            replaced]
        · rw [replaced]
      · intro dict made
        cases made
        obtain ⟨listening, tuned⟩ := Dictionary.tune_eq config session'
        refine ⟨rfl, rfl, ?_⟩
        dsimp only
        rw [tuned]
        unfold Session.open at done
        split at done
        · cases done
        · cases done
          rfl

theorem run_opening {result : Except OpenError Dictionary}
    (opened : opening.run who room world.file = (result, file')) :
    (∀ other, other ≠ who → file'.locks.held? other = world.file.locks.held? other) ∧
      ∀ dict, result = .ok dict →
        dict.descriptor = who ∧ dict.flags = opening.flags ∧
          dict.session.bulk = opening.flags.bulk := by
  unfold Opening.run at opened
  split at opened
  · cases opened
    refine ⟨fun _ _ => rfl, ?_⟩
    intro dict made
    cases made
  · exact open_locks opened

theorem Named.user (named : world.Named) (here : world.user? turn = some dict) :
    dict.descriptor = turn.who := by
  obtain ⟨found, there, rfl⟩ := Option.map_eq_some_iff.mp here
  exact named turn.who found there

theorem Named.update (named : world.Named) (file : SharedFile) {next? : Option Dictionary}
    (own : ∀ dict, next? = some dict → dict.descriptor = who) :
    Named ⟨file, Function.update world.handle? who next?⟩ :=
  (Function.forall_update_iff world.handle? fun who found? =>
    ∀ dict, found? = some dict → dict.descriptor = who).mpr ⟨own, fun other _ => named other⟩

/-- A turn keeps handles under their descriptors, and the locks of others as they are. -/
theorem Named.step (named : world.Named) (turn : Turn) :
    (world.step turn).Named ∧ ∀ other, other ≠ turn.who →
      (world.step turn).file.locks.held? other = world.file.locks.held? other := by
  cases asks : turn.deed with
  | «open» opening =>
      unfold Handles.step
      rw [asks]
      dsimp only
      rcases opened : opening.run turn.who turn.room world.file with ⟨result, file'⟩
      obtain ⟨others, made⟩ := run_opening opened
      cases result with
      | error failure => exact ⟨named, others⟩
      | ok dict =>
          refine ⟨named.update file' ?_, others⟩
          intro found same
          cases same
          exact (made dict rfl).1
  | obey command =>
      cases here : world.user? turn with
      | none =>
          rw [step_of_absent asks here]
          exact ⟨named, fun _ _ => rfl⟩
      | some dict =>
          have spares := Dictionary.obey_spares dict command world.file
          rcases obeyed : dict.obey command world.file with ⟨result, dict', file'⟩
          rw [obeyed] at spares
          rw [(obey_eq asks here obeyed).2]
          have own : dict.descriptor = turn.who := named.user here
          refine ⟨named.update file' ?_, own ▸ spares.others⟩
          intro found left
          rw [Dictionary.Command.eq_of_next? left]
          exact spares.remains.descriptor_eq.trans own

theorem Named.step_disciplined (named : world.Named) (has : world.Has who flags)
    (uses : turn.who = who → ∃ command, turn.deed = .obey command ∧ command.Operates) :
    world.Disciplined who flags turn ∧ (world.step turn).Has who flags := by
  by_cases own : turn.who = who
  · obtain ⟨command, asks, operates⟩ := uses own
    obtain ⟨found, there, flagsEq, bulkEq⟩ := has
    have here : world.user? turn = some (found.withRoom turn.room) := by
      unfold user?
      rw [own, there]
      rfl
    have obeys := Dictionary.obey_obeys (found.withRoom turn.room) operates world.file
    rcases obeyed : (found.withRoom turn.room).obey command world.file with
      ⟨result, dict', file'⟩
    rw [obeyed] at obeys
    obtain ⟨remains, guards⟩ := obeys
    have descriptorEq : (found.withRoom turn.room).descriptor = who :=
      (named.user here).trans own
    have stepped := (obey_eq asks here obeyed).2
    have left : command.next? dict' = some dict' := by
      cases command with
      | perform _ => rfl
      | scan _ => rfl
      | commit => rfl
      | close => exact operates.elim
      | drop => exact operates.elim
    constructor
    · refine .own own asks here flagsEq bulkEq ?_
      rw [stepped]
      rw [descriptorEq] at guards
      exact flagsEq ▸ guards
    · rw [stepped, own, left]
      exact ⟨dict', Function.update_self _ _ _, remains.flags_eq.trans flagsEq,
        remains.retains.bulk_eq.trans bulkEq⟩
  · have different : who ≠ turn.who := fun same => own same.symm
    obtain ⟨found, there, kept⟩ := has
    exact ⟨.other own ((named.step turn).2 who different), found,
      (handle?_step different).trans there, kept⟩

theorem Named.run_disciplined {turns : List Turn} (named : world.Named)
    (has : world.Has who flags)
    (uses : ∀ turn ∈ turns, turn.who = who →
      ∃ command, turn.deed = .obey command ∧ command.Operates) :
    Along Handles.step (Disciplined who flags) turns world := by
  induction turns generalizing world with
  | nil => trivial
  | cons turn rest ih =>
      obtain ⟨disciplined, has'⟩ :=
        named.step_disciplined has (uses turn List.mem_cons_self)
      exact ⟨disciplined, ih (named.step turn).1 has'
        fun later member => uses later (List.mem_cons_of_mem turn member)⟩

/-- From the opening of a handle on, whatever others do meanwhile, each of its operations makes
its calls of the engine under the lock that it is to take and returns with none, if the handle
was opened for locking; otherwise it leaves all locks as they are. -/
theorem run_locks {start : Handles} {turns : List Turn} (named : start.Named)
    (opened : opening.run who room start.file = (.ok dict, file'))
    (uses : ∀ turn ∈ turns, turn.who = who →
      ∃ command, turn.deed = .obey command ∧ command.Operates) :
    Along step (Disciplined who opening.flags) turns (start.step ⟨who, .open opening, room⟩) := by
  obtain ⟨_, flagsEq, bulkEq⟩ := (run_opening opened).2 dict rfl
  have stepped : start.step ⟨who, .open opening, room⟩ =
      ⟨file', Function.update start.handle? who (some dict)⟩ := by
    unfold Handles.step
    dsimp only
    rw [opened]
  refine (named.step ⟨who, .open opening, room⟩).1.run_disciplined ?_ uses
  rw [stepped]
  exact ⟨dict, Function.update_self _ _ _, flagsEq, bulkEq⟩

def bulkOpening : Opening :=
  ⟨"t", .create, { tryBare := true, lock := true, bulk := true }, { mapSize := 4096 },
    Owner.ofUser 0, none, 0⟩

/-- Another handle is opened and used in between. Its second update fails. -/
def besideOther : List Turn :=
  [updates 3 "a" [49], opens 4 .readWrite {}, looksUp 4 "a", updates 4 "b" [50],
    updates 4 "b" [51], looksUp 3 "b", commits 3]

set_option maxRecDepth 20000 in
/-- The calls that the two handles made, newest first, and the lock that is left. -/
theorem run_locks_besideOther :
    Along step (Disciplined 3 bulkOpening.flags) besideOther
        (untouched.step ⟨3, .open bulkOpening, 65536⟩) ∧
      (run besideOther (untouched.step ⟨3, .open bulkOpening, 65536⟩)).file.accesses =
        [⟨3, .commit, some .exclusive⟩, ⟨3, .get, some .shared⟩, ⟨4, .put, some .exclusive⟩,
          ⟨4, .put, some .exclusive⟩, ⟨4, .get, some .shared⟩, ⟨3, .put, some .exclusive⟩] ∧
      (run besideOther (untouched.step ⟨3, .open bulkOpening, 65536⟩)).file.locks = [] := by
  have opened : (bulkOpening.run 3 65536 untouched.file).1.toOption.isSome = true := by
    decide +kernel
  refine ⟨run_locks (fun _ _ none => ?_) (Dictionary.eq_ok_get _ opened) ?_, ?_, ?_⟩
  · cases none
  · unfold besideOther
    intro turn member own
    simp only [List.mem_cons, List.not_mem_nil, or_false] at member
    rcases member with rfl | rfl | rfl | rfl | rfl | rfl | rfl
    · exact ⟨_, rfl, trivial⟩
    · exact absurd own (by decide)
    · exact ⟨_, rfl, trivial⟩
    · exact ⟨_, rfl, trivial⟩
    · exact ⟨_, rfl, trivial⟩
    · exact ⟨_, rfl, trivial⟩
    · exact ⟨_, rfl, trivial⟩
  · decide +kernel
  · decide +kernel

end Handles

end RecordFile
