/-
A transaction under a run of puts and deletes.

An edit that is refused changes nothing. Soundness outlives every edit. The limit never changes,
and once a put has been accepted the payload stays within it, whatever is put and deleted
afterwards.
-/

import RecordFile.Proofs.Transaction

namespace RecordFile.Transaction

inductive Edit where
  | put (key value : Bytes) (keepExisting : Bool)
  | delete (key : Bytes)

def edit (txn : Transaction) : Edit → Transaction
  | .put key value keepExisting =>
      match txn.put key value keepExisting with
      | .error _ => txn
      | .ok after => after
  | .delete key => (txn.delete key).2

def edited : List Edit → Transaction → Transaction
  | [], txn => txn
  | edit :: rest, txn => edited rest (txn.edit edit)

def Accepts (txn : Transaction) : Edit → Prop
  | .put key value keepExisting => ∃ after, txn.put key value keepExisting = .ok after
  | .delete _ => False

/-- Some put among the edits is accepted. -/
def Stores : List Edit → Transaction → Prop
  | [], _ => False
  | edit :: rest, txn => txn.Accepts edit ∨ Stores rest (txn.edit edit)

/-- Header and payload together are within the limit. -/
def Within (txn : Transaction) : Prop :=
  Layout.headerSize + txn.dataLength ≤ txn.limit

variable {txn after : Transaction}

theorem edit_put_of_error {key value : Bytes} {keepExisting : Bool} {failure : EngineError}
    (refused : txn.put key value keepExisting = .error failure) :
    txn.edit (.put key value keepExisting) = txn := by
  simp only [edit, refused]

theorem edit_put_of_ok {key value : Bytes} {keepExisting : Bool}
    (done : txn.put key value keepExisting = .ok after) :
    txn.edit (.put key value keepExisting) = after := by
  simp only [edit, done]

/-! ### One edit -/

theorem Sound.edit (sound : txn.Sound) (edit : Edit) : (txn.edit edit).Sound := by
  cases edit with
  | put key value keepExisting =>
      cases ran : txn.put key value keepExisting with
      | error failure =>
          rw [edit_put_of_error ran]
          exact sound
      | ok after =>
          rw [edit_put_of_ok ran]
          exact sound.put ran
  | delete key => exact sound.delete key

/-- What an accepted put comes to is within the limit, and the limit is as before. -/
theorem within_of_put {key value : Bytes} {keepExisting : Bool}
    (done : txn.put key value keepExisting = .ok after) :
    after.Within ∧ after.limit = txn.limit := by
  rcases txn.put_cases key value keepExisting with
    ⟨_, refused⟩ | ⟨_, _, refused⟩ | ⟨_, _, _, refused⟩ | ⟨_, _, fits, stored⟩
  · simp [refused] at done
  · simp [refused] at done
  · simp [refused] at done
  · rw [stored] at done
    cases done
    exact ⟨fits, rfl⟩

theorem dataLength_delete_le (txn : Transaction) (key : Bytes) :
    (txn.delete key).2.dataLength ≤ txn.dataLength := by
  unfold delete
  split
  · exact Nat.sub_le _ _
  · exact Nat.le_refl _

theorem limit_edit (txn : Transaction) (edit : Edit) : (txn.edit edit).limit = txn.limit := by
  cases edit with
  | put key value keepExisting =>
      cases ran : txn.put key value keepExisting with
      | error failure => rw [edit_put_of_error ran]
      | ok after =>
          rw [edit_put_of_ok ran]
          exact (within_of_put ran).2
  | delete key => exact txn.limit_delete key

/-- An edit stores within the limit or makes the payload no longer. -/
theorem edit_within_or_le (txn : Transaction) (edit : Edit) :
    (txn.edit edit).Within ∨ (txn.edit edit).dataLength ≤ txn.dataLength := by
  cases edit with
  | put key value keepExisting =>
      cases ran : txn.put key value keepExisting with
      | error failure =>
          rw [edit_put_of_error ran]
          exact Or.inr (Nat.le_refl _)
      | ok after =>
          rw [edit_put_of_ok ran]
          exact Or.inl (within_of_put ran).1
  | delete key => exact Or.inr (txn.dataLength_delete_le key)

theorem Within.edit (within : txn.Within) (edit : Edit) : (txn.edit edit).Within := by
  rcases txn.edit_within_or_le edit with stored | shorter
  · exact stored
  · unfold Within at within ⊢
    rw [limit_edit]
    omega

theorem within_of_accepts {edit : Edit} (accepts : txn.Accepts edit) :
    (txn.edit edit).Within := by
  cases edit with
  | put key value keepExisting =>
      obtain ⟨after, done⟩ := accepts
      rw [edit_put_of_ok done]
      exact (within_of_put done).1
  | delete key => cases accepts

/-! ### A run of edits -/

theorem limit_edited (txn : Transaction) (edits : List Edit) :
    (edited edits txn).limit = txn.limit := by
  induction edits generalizing txn with
  | nil => rfl
  | cons edit rest ih => exact (ih (txn.edit edit)).trans (txn.limit_edit edit)

theorem Within.edited (within : txn.Within) (edits : List Edit) :
    (edited edits txn).Within := by
  induction edits generalizing txn with
  | nil => exact within
  | cons edit rest ih => exact ih (within.edit edit)

theorem Stores.within {edits : List Edit} (stores : Stores edits txn) :
    (edited edits txn).Within := by
  induction edits generalizing txn with
  | nil => cases stores
  | cons edit rest ih =>
      rcases stores with accepts | later
      · exact (within_of_accepts accepts).edited rest
      · exact ih later

end RecordFile.Transaction
