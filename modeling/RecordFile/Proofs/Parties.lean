/-
Any number of parties, and their calls one after the other.

A world changes with each call. What a call may do depends on the world that it finds, so a law of
calls is followed along a run. The parties have numbers, and a call leaves at most its own entry
changed.
-/

import Mathlib.Logic.Function.Basic

namespace RecordFile

variable {World Call Party : Type}

/-- What holds of every call of a run. -/
def Along (step : World → Call → World) (law : World → Call → Prop) : List Call → World → Prop
  | [], _ => True
  | call :: rest, world => law world call ∧ Along step law rest (step world call)

section Along

variable {step : World → Call → World} {law : World → Call → Prop} {calls : List Call}
  {world : World}

theorem Along.imp {weaker : World → Call → Prop} (along : Along step law calls world)
    (weaken : ∀ world call, law world call → weaker world call) :
    Along step weaker calls world := by
  induction calls generalizing world with
  | nil => trivial
  | cons call rest ih => exact ⟨weaken _ _ along.1, ih along.2⟩

theorem along_of_forall (forall_mem : ∀ call ∈ calls, ∀ world, law world call) :
    Along step law calls world := by
  induction calls generalizing world with
  | nil => trivial
  | cons call rest ih =>
      exact ⟨forall_mem call List.mem_cons_self world,
        ih fun later member => forall_mem later (List.mem_cons_of_mem call member)⟩

theorem along_append (first second : List Call) :
    Along step law (first ++ second) world ↔
      Along step law first world ∧ Along step law second (first.foldl step world) := by
  induction first generalizing world with
  | nil => exact ⟨fun along => ⟨trivial, along⟩, fun both => both.2⟩
  | cons call rest ih =>
      change law world call ∧ Along step law (rest ++ second) (step world call) ↔ _
      rw [ih, ← and_assoc]
      rfl

end Along

/-- Nobody but the writer changes the file, and the writer does not open again. -/
def SoleWriter (who : Call → Party) (opens looks : Call → Prop) (writer : Party)
    (calls : List Call) : Prop :=
  ∀ call ∈ calls, (who call = writer → ¬ opens call) ∧ (who call ≠ writer → looks call)

/-- After a call a value is the new one, or one from before. -/
theorem forall_update [DecidableEq Party] {Value : Type} {value? : Party → Option Value}
    {who : Party} {next? : Option Value} {law : Value → Prop}
    (new : ∀ value, next? = some value → law value)
    (others : ∀ other value, value? other = some value → law value) :
    ∀ other value, Function.update value? who next? other = some value → law value :=
  (Function.forall_update_iff value? fun _ found? => ∀ value, found? = some value → law value).mpr
    ⟨new, fun other _ => others other⟩

end RecordFile
