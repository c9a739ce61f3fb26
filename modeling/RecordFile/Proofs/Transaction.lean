/-
The payload length that a transaction carries along.

A transaction is sound when that length is the one its records take and every record can
be written. Each write keeps this, whatever it is and whatever its result.
-/

import RecordFile.Proofs.Records.Codec
import RecordFile.Proofs.Records.SortedMap
import RecordFile.Transaction

namespace RecordFile

namespace Records

/-! ### Lengths of changed records -/

def lengthAt (records : Records) (key : Bytes) : Nat :=
  match records.find? key with
  | some value => recordLength key value
  | none => 0

@[simp]
theorem lengthAt_of_some {records : Records} {key value : Bytes}
    (here : records.find? key = some value) : records.lengthAt key = recordLength key value := by
  rw [lengthAt, here]

@[simp]
theorem lengthAt_of_none {records : Records} {key : Bytes}
    (absent : records.find? key = none) : records.lengthAt key = 0 := by
  rw [lengthAt, absent]

private theorem lengthAt_cons_of_ne {key : Bytes} {head : Record} {rest : List Record}
    (ascending : Ascending (head :: rest)) (different : head.1 ≠ key) :
    lengthAt ⟨head :: rest, ascending⟩ key = lengthAt ⟨rest, ascending.of_cons⟩ key := by
  unfold lengthAt find?
  rw [List.find?_cons_of_neg (by simpa using different)]

private theorem lengthAt_of_above {key : Bytes} {records : List Record}
    (ascending : Ascending records) (above : ∀ record ∈ records, key < record.1) :
    lengthAt ⟨records, ascending⟩ key = 0 := by
  apply lengthAt_of_none
  apply Option.eq_none_iff_forall_ne_some.mpr
  intro value here
  exact Bytes.lt_irrefl key (above _ ((find?_eq_some_iff _ _ _).mp here))

private theorem lengthAt_cons_self (head : Record) {rest : List Record}
    (ascending : Ascending (head :: rest)) :
    lengthAt ⟨head :: rest, ascending⟩ head.1 = recordLength head.1 head.2 :=
  lengthAt_of_some ((find?_eq_some_iff _ _ _).mpr List.mem_cons_self)

private theorem lengthOf_insertInto (key value : Bytes) {records : List Record}
    (ascending : Ascending records) :
    lengthOf (insertInto key value records) + lengthAt ⟨records, ascending⟩ key =
      lengthOf records + recordLength key value := by
  induction records with
  | nil => exact Nat.add_comm _ _
  | cons head rest ih =>
      have tail := ih ascending.of_cons
      have above : ∀ record ∈ rest, head.1 < record.1 :=
        fun record member => List.rel_of_pairwise_cons ascending member
      unfold insertInto
      split
      · next before =>
          have absent : lengthAt ⟨head :: rest, ascending⟩ key = 0 := by
            apply lengthAt_of_above
            intro record member
            rcases List.mem_cons.mp member with same | deeper
            · exact same ▸ before
            · exact Bytes.lt_trans before (above record deeper)
          simp only [lengthOf]
          omega
      · split
        · next same =>
            have here := lengthAt_cons_self head ascending
            rw [same]
            simp only [lengthOf]
            omega
        · next different =>
            have skip := lengthAt_cons_of_ne ascending (Ne.symm different)
            simp only [lengthOf]
            omega

theorem encodedLength_insert (records : Records) (key value : Bytes) :
    (records.insert key value).encodedLength + records.lengthAt key =
      records.encodedLength + recordLength key value :=
  lengthOf_insertInto key value records.ascending

private theorem lengthOf_filter (key : Bytes) {records : List Record}
    (ascending : Ascending records) :
    lengthOf (records.filter (·.1 != key)) + lengthAt ⟨records, ascending⟩ key =
      lengthOf records := by
  induction records with
  | nil => rfl
  | cons head rest ih =>
      have tail := ih ascending.of_cons
      by_cases same : head.1 = key
      · have here := lengthAt_cons_self head ascending
        have gone : lengthAt ⟨rest, ascending.of_cons⟩ key = 0 :=
          lengthAt_of_above ascending.of_cons
            fun record member => same ▸ List.rel_of_pairwise_cons ascending member
        rw [List.filter_cons_of_neg (by simpa using same)]
        rw [same] at here
        simp only [lengthOf, same]
        omega
      · have skip := lengthAt_cons_of_ne ascending same
        rw [List.filter_cons_of_pos (by simpa using same)]
        simp only [lengthOf]
        omega

theorem encodedLength_erase (records : Records) (key : Bytes) :
    (records.erase key).encodedLength + records.lengthAt key = records.encodedLength :=
  lengthOf_filter key records.ascending

theorem storable_insert {records : Records} (storable : records.Storable) {key value : Bytes}
    (fits : Record.Storable (key, value)) : (records.insert key value).Storable := by
  intro record member
  rcases mem_insertInto member with same | old
  · exact same ▸ fits
  · exact storable record old

theorem storable_erase {records : Records} (storable : records.Storable) (key : Bytes) :
    (records.erase key).Storable :=
  fun record member => storable record (List.mem_filter.mp member).1

end Records

namespace Transaction

structure Sound (txn : Transaction) : Prop where
  dataLength_eq : txn.dataLength = txn.records.encodedLength
  storable : txn.records.Storable

theorem Sound.length_encode {txn : Transaction} (sound : txn.Sound) :
    txn.records.encode.length = txn.dataLength := by
  rw [Records.length_encode, sound.dataLength_eq]

theorem isStorable_iff (key value : Bytes) :
    isStorable key value = true ↔ Record.Storable (key, value) := by
  simp [isStorable, Record.Storable]

theorem lengthAfterPut_eq {txn : Transaction} (sound : txn.Sound) (key value : Bytes) :
    txn.lengthAfterPut key value = (txn.records.insert key value).encodedLength := by
  have total := Records.encodedLength_insert txn.records key value
  have before := Records.encodedLength_erase txn.records key
  have carried := sound.dataLength_eq
  unfold lengthAfterPut get?
  split
  · next old here =>
      rw [Records.lengthAt_of_some here] at total before
      omega
  · next absent =>
      rw [Records.lengthAt_of_none absent] at total
      omega

def Clashes (content : Content) (key : Bytes) (keepExisting : Bool) : Prop :=
  keepExisting = true ∧ content key ≠ none

/-- Everything a put can come to: refused for the size of the record, for a key that is
present or for want of room, and otherwise done. -/
theorem put_cases (txn : Transaction) (key value : Bytes) (keepExisting : Bool) :
    (¬ Record.Storable (key, value) ∧
      txn.put key value keepExisting =
        .error (.invalid (.recordTooLarge key.length value.length))) ∨
    (Record.Storable (key, value) ∧ Clashes txn.records.find? key keepExisting ∧
      txn.put key value keepExisting = .error .keyExists) ∨
    (Record.Storable (key, value) ∧ ¬ Clashes txn.records.find? key keepExisting ∧
      txn.limit < Layout.headerSize + txn.lengthAfterPut key value ∧
      txn.put key value keepExisting =
        .error (.mapFull (Layout.headerSize + txn.lengthAfterPut key value) txn.limit)) ∨
    (Record.Storable (key, value) ∧ ¬ Clashes txn.records.find? key keepExisting ∧
      Layout.headerSize + txn.lengthAfterPut key value ≤ txn.limit ∧
      txn.put key value keepExisting = .ok { txn with
        records := txn.records.insert key value
        dataLength := txn.lengthAfterPut key value }) := by
  have clash : (keepExisting && (txn.get? key).isSome) = true ↔
      Clashes txn.records.find? key keepExisting := by
    rw [Bool.and_eq_true, Option.isSome_iff_ne_none]
    rfl
  have storable := isStorable_iff key value
  unfold put
  split
  · next tooLarge =>
      refine Or.inl ⟨?_, rfl⟩
      rw [← storable]
      simpa using tooLarge
  · next fits =>
      have fits : Record.Storable (key, value) := storable.mp (by simpa using fits)
      split
      · next present => exact Or.inr (Or.inl ⟨fits, clash.mp present, rfl⟩)
      · next free =>
          have free := mt clash.mpr free
          split
          · next full => exact Or.inr (Or.inr (Or.inl ⟨fits, free, full, rfl⟩))
          · next room => exact Or.inr (Or.inr (Or.inr ⟨fits, free, Nat.le_of_not_lt room, rfl⟩))

theorem Sound.put {txn after : Transaction} (sound : txn.Sound) {key value : Bytes}
    {keepExisting : Bool} (done : txn.put key value keepExisting = .ok after) : after.Sound := by
  rcases txn.put_cases key value keepExisting with
    ⟨_, refused⟩ | ⟨_, _, refused⟩ | ⟨_, _, _, refused⟩ | ⟨storable, _, _, stored⟩
  · rw [refused] at done
    cases done
  · rw [refused] at done
    cases done
  · rw [refused] at done
    cases done
  · rw [stored] at done
    cases done
    exact ⟨lengthAfterPut_eq sound key value, Records.storable_insert sound.storable storable⟩

theorem fst_delete (txn : Transaction) (key : Bytes) :
    (txn.delete key).1 = (txn.records.find? key).isSome := by
  unfold delete get?
  split
  · next here => rw [here, Option.isSome_some]
  · next absent => rw [absent, Option.isSome_none]

theorem records_delete (txn : Transaction) (key : Bytes) :
    (txn.delete key).2.records = txn.records.erase key := by
  unfold delete get?
  split
  · rfl
  · next absent => exact (Records.erase_of_absent absent).symm

theorem limit_delete (txn : Transaction) (key : Bytes) :
    (txn.delete key).2.limit = txn.limit := by
  unfold Transaction.delete
  split
  · rfl
  · rfl

theorem Sound.delete {txn : Transaction} (sound : txn.Sound) (key : Bytes) :
    (txn.delete key).2.Sound := by
  have total := Records.encodedLength_erase txn.records key
  have carried := sound.dataLength_eq
  unfold Transaction.delete get?
  split
  · next old here =>
      rw [Records.lengthAt_of_some here] at total
      refine ⟨?_, Records.storable_erase sound.storable key⟩
      dsimp only
      omega
  · exact sound

end Transaction

end RecordFile
