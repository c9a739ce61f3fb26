/-
The lock that a bulk handle is opened with.

A handle has one lock for its descriptor, and an operation that locks gives it back when it
returns, whatever it was before. So the shared lock of the handshake keeps writers out up to
the first operation of a handle that locks, even one that only reads, and for good if the
handle does not lock.
-/

import RecordFile.Proofs.Dictionary.Locking

namespace RecordFile

/-- Whoever holds a lock keeps all others from an exclusive one. -/
theorem Locks.grantable_exclusive_of_held {locks : Locks} {descriptor other : Descriptor}
    {mode : LockMode} (held : locks.held? descriptor = some mode)
    (different : other ≠ descriptor) : locks.grantable other .exclusive = false := by
  rw [← held?_release_of_ne locks different.symm] at held
  unfold held? at held
  obtain ⟨lock, found, -⟩ := Option.map_eq_some_iff.mp held
  unfold grantable
  exact List.all_eq_false.mpr ⟨lock, List.mem_of_find?_eq_some found, by simp⟩

namespace Handles

open Dictionary (Guards)

variable {world : Handles} {turn : Turn} {turns : List Turn} {dict : Dictionary}
  {who : Descriptor} {flags : DictionaryFlags} {opening : Opening} {room : Nat}
  {file' : SharedFile}

/-- A turn takes an exclusive lock. -/
def Excludes (world : Handles) (turn : Turn) : Prop :=
  match turn.deed with
  | .open opening => opening.flags.bulk = true
  | .obey command =>
      ∃ dict, world.user? turn = some dict ∧ dict.flags.lock = true ∧
        lockFor? dict command = some .exclusive

structure KeepsOut (world : Handles) (who : Descriptor) : Prop where
  held : world.file.locks.held? who = some .shared
  excluded : ∀ other, other ≠ who → world.file.locks.grantable other .exclusive = false
  waits : ∀ turn, turn.who ≠ who → world.Excludes turn → world.waits turn = true

theorem keepsOut_of_held (held : world.file.locks.held? who = some .shared) :
    world.KeepsOut who := by
  have excluded : ∀ other, other ≠ who →
      world.file.locks.grantable other .exclusive = false :=
    fun _ different => Locks.grantable_exclusive_of_held held different
  refine ⟨held, excluded, ?_⟩
  intro turn different excludes
  unfold Excludes at excludes
  unfold waits
  cases asks : turn.deed with
  | «open» opening =>
      rw [asks] at excludes
      change opening.flags.bulk = true at excludes
      simp [excludes, excluded turn.who different]
  | obey command =>
      rw [asks] at excludes
      obtain ⟨dict, here, locks, exclusive⟩ := excludes
      simp [here, locks, exclusive, excluded turn.who different]

/-! ### Opening -/

theorem open_holds {session : Session} {path : String} {mode : OpenMode}
    {config : DictionaryConfig} {owner : Owner} {source? : Option Nat} {now : Nat}
    {file : SharedFile}
    (opened : Dictionary.open session path mode flags config who owner room source? now file =
      (.ok dict, file')) (bulk : flags.bulk = true) :
    file'.locks.held? who = some .shared := by
  unfold Dictionary.open at opened
  split at opened
  · cases opened
  · cases opened
    unfold Dictionary.handshake
    rw [if_pos bulk]
    exact Locks.held?_acquire_self _ who .shared

theorem Opening.run_holds {file : SharedFile}
    (opened : opening.run who room file = (.ok dict, file'))
    (bulk : opening.flags.bulk = true) : file'.locks.held? who = some .shared := by
  unfold Opening.run at opened
  split at opened
  · cases opened
  · exact open_holds opened bulk

/-! ### Turns -/

theorem held_of_unasked {file : SharedFile} {mode? : Option LockMode}
    (guards : Guards false who file mode? file') :
    file'.locks.held? who = file.locks.held? who := by
  cases guards with
  | locked asked => cases asked
  | unlocked _ _ _ locksEq => rw [locksEq]
  | idle => rfl

theorem held_of_taken {file : SharedFile} {mode : LockMode}
    (guards : Guards true who file (some mode) file') : file'.locks.held? who = none := by
  cases guards with
  | locked _ _ _ released _ => exact released
  | unlocked unasked => cases unasked

/-- A bulk handle takes a lock for all that it is used for. -/
theorem exists_lockFor {command : Dictionary.Command} (operates : command.Operates)
    (bulk : dict.session.bulk = true) : ∃ mode, lockFor? dict command = some mode := by
  cases command with
  | perform operation =>
      cases operation with
      | lookup _ => exact ⟨_, rfl⟩
      | update _ _ => exact ⟨_, rfl⟩
      | delete _ => exact ⟨_, rfl⟩
  | scan _ => exact ⟨_, rfl⟩
  | commit => exact ⟨.exclusive, if_pos bulk⟩
  | close => exact operates.elim
  | drop => exact operates.elim

theorem Disciplined.held_of_spared (disciplined : world.Disciplined who flags turn)
    (spared : flags.lock = false ∨ turn.who ≠ who) :
    (world.step turn).file.locks.held? who = world.file.locks.held? who := by
  cases disciplined with
  | other _ unchanged => exact unchanged
  | own own _ _ _ _ guards =>
      rw [spared.resolve_right (not_not_intro own)] at guards
      exact held_of_unasked guards

theorem Disciplined.held_of_own (disciplined : world.Disciplined who flags turn)
    (locks : flags.lock = true) (bulk : flags.bulk = true) (own : turn.who = who)
    (uses : ∃ command, turn.deed = .obey command ∧ command.Operates) :
    (world.step turn).file.locks.held? who = none := by
  obtain ⟨command, asks, operates⟩ := uses
  cases disciplined with
  | other different _ => exact absurd own different
  | own _ asks' _ _ bulkEq guards =>
      rw [asks] at asks'
      cases asks'
      obtain ⟨mode, takes⟩ := exists_lockFor operates (bulkEq.trans bulk)
      rw [locks, takes] at guards
      exact held_of_taken guards

/-! ### Runs -/

theorem run_held_of_spared (disciplined : Along step (Disciplined who flags) turns world)
    (spared : flags.lock = false ∨ ∀ turn ∈ turns, turn.who ≠ who) :
    (run turns world).file.locks.held? who = world.file.locks.held? who := by
  induction turns generalizing world with
  | nil => rfl
  | cons turn rest ih =>
      obtain ⟨first, others⟩ := disciplined
      have step := first.held_of_spared (spared.imp_right fun all => all turn List.mem_cons_self)
      have later := ih others
        (spared.imp_right fun all turn member => all turn (List.mem_cons_of_mem _ member))
      exact later.trans step

/-- Once a handle that locks has been used, or has no lock, it has none at the end. -/
theorem run_held_of_used (disciplined : Along step (Disciplined who flags) turns world)
    (locks : flags.lock = true) (bulk : flags.bulk = true)
    (uses : ∀ turn ∈ turns, turn.who = who →
      ∃ command, turn.deed = .obey command ∧ command.Operates)
    (used : world.file.locks.held? who = none ∨ ∃ turn ∈ turns, turn.who = who) :
    (run turns world).file.locks.held? who = none := by
  induction turns generalizing world with
  | nil =>
      rcases used with free | ⟨turn, member, _⟩
      · exact free
      · exact absurd member List.not_mem_nil
  | cons turn rest ih =>
      obtain ⟨first, others⟩ := disciplined
      refine ih others (fun later member => uses later (List.mem_cons_of_mem turn member)) ?_
      by_cases own : turn.who = who
      · exact .inl (first.held_of_own locks bulk own (uses turn List.mem_cons_self own))
      · have same := first.held_of_spared (.inr own)
        rcases used with free | ⟨later, member, ofWho⟩
        · exact .inl (same.trans free)
        · rcases List.mem_cons.mp member with rfl | member
          · exact absurd ofWho own
          · exact .inr ⟨later, member, ofWho⟩

/-- From the opening of a bulk handle on, whatever it is used for, it keeps others from an
exclusive lock as long as it does not lock or has not been used at all. A handle that locks has
no lock once it has been used, be it for a lookup. -/
theorem run_keepsHandshake {start : Handles} (named : start.Named)
    (opened : opening.run who room start.file = (.ok dict, file'))
    (bulk : opening.flags.bulk = true)
    (uses : ∀ turn ∈ turns, turn.who = who →
      ∃ command, turn.deed = .obey command ∧ command.Operates) :
    ((opening.flags.lock = false ∨ ∀ turn ∈ turns, turn.who ≠ who) →
        (run turns (start.step ⟨who, .open opening, room⟩)).KeepsOut who) ∧
      (opening.flags.lock = true → (∃ turn ∈ turns, turn.who = who) →
        (run turns (start.step ⟨who, .open opening, room⟩)).file.locks.held? who = none) := by
  obtain ⟨_, flagsEq, bulkEq⟩ := (run_opening opened).2 dict rfl
  have stepped : start.step ⟨who, .open opening, room⟩ =
      ⟨file', Function.update start.handle? who (some dict)⟩ := by
    unfold step
    dsimp only
    rw [opened]
  have has : (start.step ⟨who, .open opening, room⟩).Has who opening.flags := by
    rw [stepped]
    exact ⟨dict, Function.update_self _ _ _, flagsEq, bulkEq⟩
  have disciplined :=
    (named.step ⟨who, .open opening, room⟩).1.run_disciplined has uses
  constructor
  · intro spared
    refine keepsOut_of_held ((run_held_of_spared disciplined spared).trans ?_)
    rw [stepped]
    exact opening.run_holds opened bulk
  · intro locks used
    exact run_held_of_used disciplined locks bulk uses (.inr used)

def bulkUnlocked : Opening :=
  { bulkOpening with flags := { tryBare := true, bulk := true } }

def lookedUpMeanwhile : List Turn :=
  [opens 4 .readWrite {}, looksUp 3 "a"]

set_option maxRecDepth 20000 in
/-- The lookup ends the handshake of the handle that locks, and a writer need not wait. It does
not end that of the handle that does not lock. -/
theorem run_keepsHandshake_lookedUpMeanwhile :
    (run [opens 4 .readWrite {}] (untouched.step ⟨3, .open bulkOpening, 65536⟩)).KeepsOut 3 ∧
      (run lookedUpMeanwhile
        (untouched.step ⟨3, .open bulkOpening, 65536⟩)).file.locks.held? 3 = none ∧
      (run lookedUpMeanwhile
        (untouched.step ⟨3, .open bulkOpening, 65536⟩)).waits (updates 4 "b" [50]) = false ∧
      (run lookedUpMeanwhile
        (untouched.step ⟨3, .open bulkUnlocked, 65536⟩)).KeepsOut 3 ∧
      (run lookedUpMeanwhile
        (untouched.step ⟨3, .open bulkUnlocked, 65536⟩)).waits (updates 4 "b" [50]) = true := by
  have named : untouched.Named := by
    intro who dict none
    cases none
  have locking : (bulkOpening.run 3 65536 untouched.file).1.toOption.isSome = true := by
    decide +kernel
  have unlocked : (bulkUnlocked.run 3 65536 untouched.file).1.toOption.isSome = true := by
    decide +kernel
  have uses : ∀ turn ∈ lookedUpMeanwhile, turn.who = 3 →
      ∃ command, turn.deed = .obey command ∧ command.Operates := by
    unfold lookedUpMeanwhile
    intro turn member own
    simp only [List.mem_cons, List.not_mem_nil, or_false] at member
    rcases member with rfl | rfl
    · exact absurd own (by decide)
    · exact ⟨_, rfl, trivial⟩
  refine ⟨?_, ?_, ?_, ?_, ?_⟩
  · have unused : ∀ turn ∈ [opens 4 .readWrite {}], turn.who ≠ 3 := by
      intro turn member
      rw [List.mem_singleton.mp member]
      decide
    refine (run_keepsHandshake named (Dictionary.eq_ok_get _ locking) rfl ?_).1 (.inr unused)
    exact fun turn member own => absurd own (unused turn member)
  · refine (run_keepsHandshake named (Dictionary.eq_ok_get _ locking) rfl uses).2 rfl ?_
    exact ⟨looksUp 3 "a", List.mem_cons_of_mem _ List.mem_cons_self, rfl⟩
  · decide +kernel
  · exact (run_keepsHandshake named (Dictionary.eq_ok_get _ unlocked) rfl uses).1 (.inl rfl)
  · decide +kernel

end Handles

end RecordFile
