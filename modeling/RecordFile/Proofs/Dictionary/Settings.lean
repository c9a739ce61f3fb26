/-
What the session of every handle is set to.

A handle is opened with a session that doubles its map up to the largest size there is, with the
retry budgets of a dictionary. None of its commands changes that, so it is the same for all handles
of a run.
-/

import RecordFile.Proofs.Dictionary.Locking

namespace RecordFile

open Session (nextSize)

namespace Dictionary

variable {dict : Dictionary} {session : Session} {size : UInt64}

structure Tuned (session : Session) : Prop where
  growthMultiplier_eq : session.config.growthMultiplier = growthMultiplier
  maxMapSize_eq : session.config.maxMapSize = largestMapSize
  apiRetryLimit_eq : session.apiRetryLimit = apiRetryLimit
  bulkRetryLimit_eq : session.bulkRetryLimit = bulkRetryLimit

theorem Tuned.of_retains {session' : Session} (tuned : Tuned session)
    (retains : session.Retains session') : Tuned session' := by
  constructor
  · rw [retains.config_eq]
    exact tuned.growthMultiplier_eq
  · rw [retains.config_eq]
    exact tuned.maxMapSize_eq
  · exact retains.apiRetryLimit_eq.trans tuned.apiRetryLimit_eq
  · exact retains.bulkRetryLimit_eq.trans tuned.bulkRetryLimit_eq

theorem Tuned.nextSize_eq (tuned : Tuned session) (size : UInt64) :
    (nextSize session.config size).toNat = min (2 * size.toNat) largestMapSize.toNat := by
  rw [Session.toNat_nextSize, tuned.growthMultiplier_eq, tuned.maxMapSize_eq, Nat.mul_comm]
  rfl

/-- A map that is at most half as large as the largest one is doubled. -/
theorem Tuned.nextSize_of_half (tuned : Tuned session)
    (half : 2 * size.toNat ≤ largestMapSize.toNat) :
    (nextSize session.config size).toNat = 2 * size.toNat := by
  rw [tuned.nextSize_eq]
  exact Nat.min_eq_left half

theorem newSession_config {config : DictionaryConfig} (made : newSession config = .ok session) :
    session.config.growthMultiplier = growthMultiplier ∧
      session.config.maxMapSize = largestMapSize := by
  obtain ⟨-, configEq, -⟩ := Session.init_eq_ok made
  rw [configEq]
  exact ⟨rfl, rfl⟩

theorem open_tuned {path : String} {mode : OpenMode} {flags : DictionaryFlags}
    {config : DictionaryConfig} {descriptor : Descriptor} {owner : Owner} {room : Nat}
    {source? : Option Nat} {now : Nat} {file file' : SharedFile}
    (made : newSession config = .ok session)
    (opened : Dictionary.open session path mode flags config descriptor owner room source? now
      file = (.ok dict, file')) :
    Tuned dict.session := by
  obtain ⟨multiplier, largest⟩ := newSession_config made
  unfold Dictionary.open at opened
  split at opened
  · cases opened
  · next session' _ done =>
      have configEq : session'.config = session.config := by
        unfold Session.open at done
        split at done
        · cases done
        · cases done
          rfl
      cases opened
      obtain ⟨listening, tuned⟩ := tune_eq config session'
      dsimp only
      rw [tuned]
      constructor
      · exact configEq ▸ multiplier
      · exact configEq ▸ largest
      · rfl
      · rfl

end Dictionary

namespace Handles

open Dictionary (Tuned)

variable {start world : Handles} {turn : Turn} {turns history : List Turn} {who : Descriptor}
  {dict : Dictionary}

def AllTuned (world : Handles) : Prop :=
  ∀ who dict, world.handle? who = some dict → Tuned dict.session

theorem AllTuned.user (tuned : world.AllTuned) (here : world.user? turn = some dict) :
    Tuned dict.session := by
  obtain ⟨found, there, rfl⟩ := Option.map_eq_some_iff.mp here
  exact (tuned turn.who found there).of_retains ⟨rfl, rfl, rfl, rfl, rfl⟩

theorem AllTuned.step (tuned : world.AllTuned) (turn : Turn) : (world.step turn).AllTuned := by
  cases asks : turn.deed with
  | «open» opening =>
      unfold Handles.step
      rw [asks]
      dsimp only
      rcases opened : opening.run turn.who turn.room world.file with ⟨failure | dict, file'⟩
      · exact tuned
      · refine forall_update ?_ tuned
        intro found same
        cases same
        unfold Opening.run at opened
        split at opened
        · cases opened
        · next made => exact Dictionary.open_tuned made opened
  | obey command =>
      cases here : world.user? turn with
      | none =>
          rw [step_of_absent asks here]
          exact tuned
      | some dict =>
          have retains := (Dictionary.obey_spares dict command world.file).remains.retains
          rw [(obey_eq asks here rfl).2]
          refine forall_update ?_ tuned
          intro found left
          rw [Dictionary.Command.eq_of_next? left]
          exact (tuned.user here).of_retains retains

theorem AllTuned.run (tuned : world.AllTuned) (turns : List Turn) :
    (run turns world).AllTuned := by
  induction turns generalizing world with
  | nil => exact tuned
  | cons turn rest ih => exact ih (tuned.step turn)

theorem run_tuned (nobody : ∀ who, world.handle? who = none) (turns : List Turn) :
    (run turns world).AllTuned := by
  apply AllTuned.run
  intro who dict here
  rw [nobody who] at here
  cases here

/-! ### A world that handles come to -/

structure Reaches (start : Handles) (history : List Turn) (world : Handles) (who : Descriptor)
    (dict : Dictionary) : Prop where
  usable : start.file.image.Usable
  nobody : ∀ who, start.handle? who = none
  sound : Along step Sound history start
  recent : 2 * (history.length + 1) ≤ UInt64.size
  ends : run history start = world
  here : world.handle? who = some dict

theorem Reaches.valid (reaches : start.Reaches history world who dict) :
    ∃ contents, world.Valid contents (2 * history.length) := by
  have recent := reaches.recent
  have created := (created_of_usable reaches.usable reaches.nobody).run (by omega) reaches.sound
  rw [reaches.ends, Nat.zero_add] at created
  rcases created with ⟨_, nobody⟩ | valid
  · have here := reaches.here
    rw [nobody who] at here
    cases here
  · exact valid

theorem Reaches.tuned (reaches : start.Reaches history world who dict) (room : Nat) :
    Tuned (dict.withRoom room).session := by
  have all := run_tuned reaches.nobody history
  rw [reaches.ends] at all
  exact (all who dict reaches.here).of_retains ⟨rfl, rfl, rfl, rfl, rfl⟩

end Handles

end RecordFile
