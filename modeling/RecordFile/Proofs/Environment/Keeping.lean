/-
Any number of environments, whoever grows the map to whatever size.

Without asking what the file holds, and with maps that are cut back under other environments, much
is kept along every run. Each environment can write what it has read, and knows it by generation
from what has been published since. Each transaction is sound and no longer than a file can be.
-/

import RecordFile.Proofs.Environment.Sharing
import RecordFile.Proofs.Environment.Words

namespace RecordFile.Environments

open Image (PassesOn)

variable {world : Environments} {age bumps : Nat} {env : Environment} {txn : Transaction}
  {file : Image}

/-- What every environment and every transaction keeps. The file has a header that can be mapped,
unless nothing is open. -/
structure Measures (world : Environments) (age : Nat) : Prop where
  kept : ∀ index env, world.env? index = some env → env.Kept world.file age
  sound : ∀ slot txn, world.txn? slot = some txn → txn.Sound
  moderate : ∀ slot txn, world.txn? slot = some txn → txn.Moderate
  headed : (∀ index, world.env? index = none) ∨ (world.file.size ≠ 0 ∧ world.file.Narrow)

theorem measures_of_closed (noEnv : ∀ index, world.env? index = none)
    (noTxn : ∀ slot, world.txn? slot = none) : world.Measures 0 where
  kept := by
    intro index env here
    rw [noEnv index] at here
    cases here
  sound := by
    intro slot txn here
    rw [noTxn slot] at here
    cases here
  moderate := by
    intro slot txn here
    rw [noTxn slot] at here
    cases here
  headed := Or.inl noEnv

theorem Measures.mono (measures : world.Measures age) : world.Measures (age + 1) where
  kept := fun index env here => (measures.kept index env here).mono (Nat.le_succ age)
  sound := measures.sound
  moderate := measures.moderate
  headed := measures.headed

theorem Measures.at? (measures : world.Measures age) {room index : Nat}
    (here : world.at? room index = some env) : env.Kept world.file age := by
  obtain ⟨found, there, rfl⟩ := Option.map_eq_some_iff.mp here
  exact (measures.kept index found there).withRoom room

theorem Measures.headed_of_at? (measures : world.Measures age) {room index : Nat}
    (here : world.at? room index = some env) : world.file.size ≠ 0 ∧ world.file.Narrow := by
  rcases measures.headed with closed | headed
  · obtain ⟨found, there, _⟩ := Option.map_eq_some_iff.mp here
    rw [closed index] at there
    cases there
  · exact headed

theorem Measures.hold (measures : world.Measures age) (sound : txn.Sound) (moderate : txn.Moderate)
    (slot : Nat) : (world.hold slot txn).Measures age where
  kept := measures.kept
  sound := by
    apply forall_update
    · intro found here
      cases here
      exact sound
    · exact measures.sound
  moderate := by
    apply forall_update
    · intro found here
      cases here
      exact moderate
    · exact measures.moderate
  headed := measures.headed

theorem Measures.edit (measures : world.Measures age) {slot : Nat}
    (here : world.txn? slot = some txn) (edit : Transaction.Edit) : (world.hold slot (txn.edit edit)).Measures age :=
  measures.hold ((measures.sound slot txn here).edit edit)
    ((measures.moderate slot txn here).edit edit) slot

/-! ### What one call preserves -/

/-- The environments that did not write are older afterwards, and a file that had a header still
has one. -/
theorem Measures.passOn (measures : world.Measures age) (passes : world.file.PassesOn bumps file)
    (once : bumps ≤ 1) : Measures { world with file := file } (age + 1) where
  kept := fun index found here =>
    ((measures.kept index found here).passOn passes).mono (Nat.add_le_add_left once age)
  sound := measures.sound
  moderate := measures.moderate
  headed := measures.headed.imp_right fun ⟨filled, narrow⟩ =>
    ⟨passes.some filled, narrow.passOn passes⟩

theorem Measures.keep (measures : world.Measures age) (kept : env.Kept world.file age)
    (headed : world.file.size ≠ 0 ∧ world.file.Narrow) (index : Nat) :
    (world.keep index env world.file).Measures age where
  kept := by
    apply forall_update
    · intro found here
      cases here
      exact kept
    · exact measures.kept
  sound := measures.sound
  moderate := measures.moderate
  headed := Or.inr headed

theorem Measures.operated {α : Type} (measures : world.Measures age) {room index : Nat}
    (here : world.at? room index = some env)
    {result : Except EngineError α × Environment × Image}
    (leaves : Environment.Leaves world.file age result) :
    (world.keep index result.2.1 result.2.2).Measures (age + 1) := by
  obtain ⟨bumps, once, passes, kept⟩ := leaves
  obtain ⟨filled, narrow⟩ := measures.headed_of_at? here
  have later := measures.passOn passes once
  exact later.keep (kept.mono (Nat.add_le_add_left once age))
    ⟨passes.some filled, narrow.passOn passes⟩ index

theorem Measures.opened (measures : world.Measures age) (index : Nat) (path : String)
    (flags : OpenFlags) (asked : UInt64) (room : Nat) :
    (world.opened index (Environment.open path flags asked room world.file)).Measures
      (age + 1) := by
  have later : Measures { world with
      file := (Environment.open path flags asked room world.file).2 } (age + 1) := by
    -- With nothing open no environment is asked for the header that a first open writes.
    rcases measures.headed with closed | ⟨filled, _⟩
    · exact ⟨fun index env here => absurd here (by simp [closed]), measures.sound,
        measures.moderate, Or.inl closed⟩
    · obtain ⟨bumps, once, passes⟩ := Environment.open_passesOn filled path flags asked room
      exact measures.passOn passes once
  cases opened : Environment.open path flags asked room world.file with
  | mk result file =>
      rw [opened] at later
      cases result with
      | error failure => exact later
      | ok env =>
          have fresh := Environment.open_fresh opened
          exact later.keep (fresh.kept.mono (Nat.zero_le _)) ⟨fresh.some, fresh.narrow⟩ index

theorem Measures.began (measures : world.Measures age) {room index : Nat} {env' : Environment}
    {result : Except EngineError Transaction} (here : world.at? room index = some env)
    (began : env.beginWrite world.file = (result, env')) :
    (world.keep index env' world.file).Measures age := by
  have kept := (measures.at? here).beginWrite
  rw [began] at kept
  exact measures.keep kept (measures.headed_of_at? here) index

theorem Measures.step (measures : world.Measures age) (request : Request) :
    (world.step request).Measures (age + 1) := by
  obtain ⟨call, room⟩ := request
  have comes := world.step_comes ⟨call, room⟩
  generalize world.step ⟨call, room⟩ = next at comes ⊢
  dsimp only at comes
  cases comes with
  | idle => exact measures.mono
  | @opened index path flags asked => exact measures.opened index path flags asked room
  | began here began =>
      obtain ⟨refreshed, rfl⟩ := Environment.beginWrite_eq_ok began
      have read := Environment.generation?_of_refresh refreshed
      have kept := (measures.at? here).refresh
      rw [refreshed] at kept
      exact (measures.began here began).mono.hold (kept.sound_transaction read)
        (kept.toModerate.transaction read) _
  | refused here refused => exact (measures.began here refused).mono
  | copied held =>
      exact measures.mono.hold (measures.sound _ _ held) (measures.moderate _ _ held) _
  | @stored _ key value keepExisting _ _ held done =>
      have edited := measures.mono.edit held (.put key value keepExisting)
      rw [Transaction.edit_put_of_ok done] at edited
      exact edited
  | @removed _ key _ held => exact measures.mono.edit held (.delete key)
  | refreshed here =>
      have kept := (measures.at? here).refresh
      exact (measures.keep kept (measures.headed_of_at? here) _).mono
  | committed held here =>
      have moderate := (measures.at? here).toModerate
      exact measures.operated here (moderate.commit (measures.sound _ _ held) world.file age)
  | put here => exact measures.operated here ((measures.at? here).put _ _ _)
  | deleted here => exact measures.operated here ((measures.at? here).delete _)
  | grown here => exact measures.operated here ((measures.at? here).grow _)

/-! ### What a run preserves -/

theorem Measures.run (measures : world.Measures age) (requests : List Request) :
    (run requests world).Measures (age + requests.length) := by
  induction requests generalizing world age with
  | nil => exact measures
  | cons request rest ih =>
      have done := ih (measures.step request)
      rw [List.length_cons, Nat.add_comm rest.length 1, ← Nat.add_assoc]
      exact done

end RecordFile.Environments
