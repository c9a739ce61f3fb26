/-
How often a load runs, and how often its session asks for that.

There are two counters. A load counts its replays by itself, whatever the routine answers and
whatever it does to the handle, and a session counts the restarts that it has asked for. Neither
relies on the other.
-/

import RecordFile.Proofs.Dictionary.Requests
import RecordFile.Proofs.Session.Budget

namespace RecordFile

namespace Dictionary

variable {σ : Type} {fill : Routine σ} {state last : σ} {dict dict' : Dictionary}
  {file file' : SharedFile}

def Routine.counted (fill : Routine σ) : Routine (σ × Nat) :=
  fun (state, runs) dict file =>
    let outcome := fill state dict file
    (outcome.1, (outcome.2.1, runs + 1), outcome.2.2)

theorem fillAndCommit_counted {result : Except DictionaryError Unit} (runs : Nat)
    (filled : fillAndCommit fill state dict file = (result, last, dict', file')) :
    fillAndCommit fill.counted (state, runs) dict file =
      (result, (last, runs + 1), dict', file') := by
  unfold fillAndCommit at filled ⊢
  unfold Routine.counted
  dsimp only at filled ⊢
  rcases ran : fill state dict file with ⟨failure | done, state', dict', file'⟩
  · rw [ran] at filled
    cases filled
    rfl
  · rw [ran] at filled
    cases filled
    rfl

/-- How often a load that has replays left runs its routine. One that is committed has counted
each run but the first, and one that asks for yet another replay had none left. -/
inductive Replays (replays budget : Nat) : Except DictionaryError Nat → Nat → Prop
  | committed {later : Nat} (few : later ≤ budget) :
      Replays replays budget (.ok (replays + later)) (later + 1)
  | failed {failure : DictionaryError} {later : Nat} (few : later ≤ budget)
      (other : failure.isRetry = false) : Replays replays budget (.error failure) (later + 1)
  | spent {failure : DictionaryError} (asks : failure.isRetry = true) :
      Replays replays budget (.error failure) (budget + 1)

theorem Replays.again {replays budget runs : Nat} {result : Except DictionaryError Nat}
    (later : Replays (replays + 1) budget result runs) :
    Replays replays (budget + 1) result (runs + 1) := by
  cases later with
  | @committed later few =>
      rw [Nat.add_assoc, Nat.add_comm 1 later]
      exact .committed (Nat.succ_le_succ few)
  | failed few other => exact .failed (Nat.succ_le_succ few) other
  | spent asks => exact .spent asks

theorem Replays.le {replays budget runs : Nat} {result : Except DictionaryError Nat}
    (spent : Replays replays budget result runs) : runs ≤ budget + 1 := by
  cases spent with
  | committed few => exact Nat.succ_le_succ few
  | failed few other => exact Nat.succ_le_succ few
  | spent asks => exact Nat.le_refl _

structure Routine.Takes (fill : Routine σ) (replays budget : Nat) (state : σ) (dict : Dictionary)
    (file : SharedFile) (spent : Nat) : Prop where
  spends : Replays replays budget (loadFrom fill replays budget state dict file).1 spent
  counted : ∀ runs, loadFrom fill.counted replays budget (state, runs) dict file =
    let outcome := loadFrom fill replays budget state dict file
    (outcome.1, (outcome.2.1, runs + spent), outcome.2.2)

variable {replays budget : Nat}

theorem takes_of_ok (filled : fillAndCommit fill state dict file = (.ok (), last, dict', file')) :
    fill.Takes replays budget state dict file 1 := by
  constructor
  · rw [loadFrom_of_ok filled]
    exact .committed (Nat.zero_le budget)
  · intro runs
    rw [loadFrom_of_ok filled, loadFrom_of_ok (fillAndCommit_counted runs filled)]

theorem takes_of_failed {failure : DictionaryError}
    (filled : fillAndCommit fill state dict file = (.error failure, last, dict', file'))
    (other : failure.isRetry = false) : fill.Takes replays budget state dict file 1 := by
  constructor
  · rw [loadFrom_of_failed filled other]
    exact .failed (Nat.zero_le budget) other
  · intro runs
    rw [loadFrom_of_failed filled other,
      loadFrom_of_failed (fillAndCommit_counted runs filled) other]

theorem takes_of_spent {failure : DictionaryError}
    (filled : fillAndCommit fill state dict file = (.error failure, last, dict', file'))
    (asks : failure.isRetry = true) : fill.Takes replays 0 state dict file 1 := by
  constructor
  · rw [loadFrom, filled]
    dsimp only
    rw [if_pos asks]
    exact .spent asks
  · intro runs
    rw [loadFrom, loadFrom, filled, fillAndCommit_counted runs filled]
    dsimp only
    rw [if_pos asks, if_pos asks]

theorem takes_of_retry {failure : DictionaryError} {spent : Nat}
    (filled : fillAndCommit fill state dict file = (.error failure, last, dict', file'))
    (asks : failure.isRetry = true)
    (later : fill.Takes (replays + 1) budget last dict' file' spent) :
    fill.Takes replays (budget + 1) state dict file (spent + 1) := by
  constructor
  · rw [loadFrom_of_retry filled asks]
    exact later.spends.again
  · intro runs
    rw [loadFrom_of_retry filled asks,
      loadFrom_of_retry (fillAndCommit_counted runs filled) asks, later.counted,
      Nat.add_assoc runs 1 spent, Nat.add_comm 1 spent]

/-- A load comes to an end, whatever the routine does. -/
theorem loadFrom_takes (fill : Routine σ) (replays budget : Nat) (state : σ) (dict : Dictionary)
    (file : SharedFile) : ∃ spent, fill.Takes replays budget state dict file spent := by
  induction budget generalizing replays state dict file with
  | zero =>
      rcases filled : fillAndCommit fill state dict file with ⟨failure | done, last, dict', file'⟩
      · by_cases asks : failure.isRetry = true
        · exact ⟨1, takes_of_spent filled asks⟩
        · exact ⟨1, takes_of_failed filled (Bool.eq_false_iff.mpr asks)⟩
      · exact ⟨1, takes_of_ok filled⟩
  | succ budget ih =>
      rcases filled : fillAndCommit fill state dict file with ⟨failure | done, last, dict', file'⟩
      · by_cases asks : failure.isRetry = true
        · obtain ⟨spent, later⟩ := ih (replays + 1) last dict' file'
          exact ⟨spent + 1, takes_of_retry filled asks later⟩
        · exact ⟨1, takes_of_failed filled (Bool.eq_false_iff.mpr asks)⟩
      · exact ⟨1, takes_of_ok filled⟩

end Dictionary

open Dictionary in
/-- However a routine behaves, a load runs it once more than it may replay it, at most. A bulk
session that was just opened, or has just committed what was pending, does not ask its caller to
start over more often than it may restart, until the next such commit. -/
theorem retries_bounded {σ : Type} (fill : Routine σ) (state : σ) (dict : Dictionary)
    (file : SharedFile) {session : Session} {first : Session.Step} {steps : List Session.Step}
    (made : session.Made) (renews : session.Renews first)
    (mode : (session.step first).2.bulk = true)
    (between : (session.step first).2.Between steps) :
    (∃ runs, runs ≤ replayLimit + 1 ∧ Replays 0 replayLimit (load fill state dict file).1 runs ∧
      load fill.counted (state, 0) dict file =
        let outcome := load fill state dict file
        (outcome.1, (outcome.2.1, runs), outcome.2.2)) ∧
    (session.step first).2.KeepsBudget steps := by
  constructor
  · obtain ⟨runs, takes⟩ := loadFrom_takes fill 0 replayLimit state dict file
    refine ⟨runs, takes.spends.le, takes.spends, ?_⟩
    have counted := takes.counted 0
    rw [Nat.zero_add] at counted
    exact counted
  · exact Session.run_keepsBudget (made.step first).sized mode
      (Session.step_renewed renews) between

namespace Dictionary

def asksAgain : Routine Unit :=
  fun state dict file => (.error (.retry dict.label), state, dict, file)

def doubledOnce : Session :=
  Session.idle { initialMapSize := 4096, growthMultiplier := 2, maxMapSize := 8192 }

theorem made_doubledOnce : doubledOnce.Made := by
  have ready : Session.init { initialMapSize := 4096, growthMultiplier := 2, maxMapSize := 8192 } =
      .ok doubledOnce := rfl
  exact .init ready

def opensInBulk : Session.Step :=
  .call (.open "x.mdb" { create := true } true) 65536 Image.empty

def openedFile : Image :=
  (doubledOnce.open "x.mdb" { create := true } true 65536 Image.empty).2.2

def putsBytes (count : Nat) : Session.Call :=
  .put [107] (List.replicate count 118) false

def doubledFile : Image :=
  (((doubledOnce.step opensInBulk).2.withRoom 65536).act (putsBytes 5000) 65536 openedFile).2.2

set_option maxRecDepth 20000 in
/-- The routine is given up after its last replay. A put of 5000 bytes restarts its session, and
one of 9000 bytes finds that the map has its largest size. -/
theorem retries_bounded_asksAgain :
    ((∃ runs, runs ≤ 129 ∧
        Replays 0 128 (load asksAgain () bulkHandle opening.2).1 runs ∧
        load asksAgain.counted ((), 0) bulkHandle opening.2 =
          let outcome := load asksAgain () bulkHandle opening.2
          (outcome.1, (outcome.2.1, runs), outcome.2.2)) ∧
      (doubledOnce.step opensInBulk).2.KeepsBudget [.call (putsBytes 5000) 65536 openedFile]) ∧
    (load asksAgain.counted ((), 0) bulkHandle opening.2).2.1 = ((), 129) ∧
    ((doubledOnce.step opensInBulk).2.run [.call (putsBytes 5000) 65536 openedFile,
        .call (putsBytes 9000) 65536 doubledFile]).1 =
      [some (.failed .retry), some (.failed (.retryLimit 128 (.mapFull 9073 8192)))] := by
  refine ⟨retries_bounded asksAgain () bulkHandle opening.2 made_doubledOnce ?_ ?_ ?_, ?_, ?_⟩
  · exact ⟨by decide +kernel, _, _, _, rfl, trivial⟩
  · decide +kernel
  · refine ⟨?_, nofun, trivial⟩
    rintro ⟨_, call, room, file, same, renewing⟩
    cases same
    exact renewing
  · decide +kernel
  · decide +kernel

end Dictionary

end RecordFile
