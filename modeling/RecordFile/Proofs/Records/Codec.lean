/-
The payload codec and its inverse.

Reading what was written gives the same records, and whatever is accepted is exactly what
would be written for the records read: every byte belongs to one of them, and their
number is the announced one. Lengths are written in 32 bits, so records are storable when
their keys and values are shorter than `Layout.lengthLimit`.
-/

import RecordFile.Records.Codec

namespace RecordFile

def Record.Storable (record : Record) : Prop :=
  record.1.length < Layout.lengthLimit ∧ record.2.length < Layout.lengthLimit

instance (record : Record) : Decidable record.Storable :=
  inferInstanceAs (Decidable (_ ∧ _))

namespace Records

def Storable (records : Records) : Prop :=
  ∀ record ∈ records.toList, Record.Storable record

instance (records : Records) : Decidable records.Storable :=
  inferInstanceAs (Decidable (∀ _ ∈ _, _))

/-! ### One record -/

private theorem encodeRecord_append (record : Record) (rest : Bytes) :
    encodeRecord record ++ rest =
      (Bytes.ofNat 4 record.1.length ++ Bytes.ofNat 4 record.2.length) ++
        (record.1 ++ (record.2 ++ rest)) := by
  simp only [encodeRecord, List.append_assoc]

theorem decodeRecord_encodeRecord (number : Nat) {record : Record} (storable : record.Storable)
    (rest : Bytes) : decodeRecord number (encodeRecord record ++ rest) = .ok (record, rest) := by
  obtain ⟨key, value⟩ := record
  have keyLength : Bytes.toNat (Bytes.ofNat 4 key.length) = key.length :=
    Bytes.toNat_ofNat_of_lt storable.1
  have valueLength : Bytes.toNat (Bytes.ofNat 4 value.length) = value.length :=
    Bytes.toNat_ofNat_of_lt storable.2
  have prefixLength : (Bytes.ofNat 4 key.length ++ Bytes.ofNat 4 value.length).length =
      Layout.recordPrefixSize := by
    rw [List.length_append, Bytes.length_ofNat, Bytes.length_ofNat]
    rfl
  rw [encodeRecord_append]
  unfold decodeRecord
  dsimp only
  rw [List.take_left' prefixLength, List.drop_left' prefixLength, if_neg (by omega),
    List.take_left' (Bytes.length_ofNat 4 _), List.drop_left' (Bytes.length_ofNat 4 _),
    keyLength, valueLength, List.take_left' rfl, List.drop_left' rfl, if_neg (by omega),
    List.take_left' rfl, List.drop_left' rfl, if_neg (by omega)]

/-- A record that is read is what stands at the start of the payload. -/
theorem eq_encodeRecord_of_decodeRecord {number : Nat} {payload rest : Bytes} {record : Record}
    (read : decodeRecord number payload = .ok (record, rest)) :
    payload = encodeRecord record ++ rest ∧ record.Storable := by
  unfold decodeRecord at read
  dsimp only at read
  generalize headEq : payload.take Layout.recordPrefixSize = head at read
  split at read
  · cases read
  · next headLong =>
      split at read
      · cases read
      · next keyLong =>
          split at read
          · cases read
          · next valueLong =>
              have headLength : head.length = 8 := by
                rw [← headEq, List.length_take] at headLong ⊢
                simp only [Layout.recordPrefixSize] at headLong ⊢
                omega
              have lowLength : (head.take 4).length = 4 := by
                rw [List.length_take, headLength]
                rfl
              have highLength : (head.drop 4).length = 4 := by
                rw [List.length_drop, headLength]
              have low := Bytes.ofNat_toNat (head.take 4)
              have high := Bytes.ofNat_toNat (head.drop 4)
              have lowLt := Bytes.toNat_lt (head.take 4)
              have highLt := Bytes.toNat_lt (head.drop 4)
              rw [lowLength] at low lowLt
              rw [highLength] at high highLt
              rw [List.length_take] at keyLong valueLong
              cases read
              constructor
              · rw [encodeRecord_append, List.length_take, List.length_take,
                  Nat.min_eq_left (by omega), Nat.min_eq_left (by omega), low, high,
                  List.take_append_drop, List.take_append_drop, List.take_append_drop, ← headEq,
                  List.take_append_drop]
              · constructor
                · rw [List.length_take]
                  exact Nat.lt_of_le_of_lt (Nat.min_le_left _ _) lowLt
                · rw [List.length_take]
                  exact Nat.lt_of_le_of_lt (Nat.min_le_left _ _) highLt

/-! ### All records -/

theorem encodeList_cons (record : Record) (rest : List Record) :
    encodeList (record :: rest) = encodeRecord record ++ encodeList rest :=
  List.flatMap_cons

theorem decodeList_encodeList {records : List Record} (ascending : Ascending records)
    (storable : ∀ record ∈ records, record.Storable) (number : Nat) (last? : Option Bytes)
    (follow : ∀ record ∈ records, follows last? record.1 = true) :
    decodeList number last? (encodeList records) records.length = .ok records := by
  induction records generalizing number last? with
  | nil => rfl
  | cons record rest ih =>
      have read := decodeRecord_encodeRecord number (storable record List.mem_cons_self)
        (encodeList rest)
      have tail := ih ascending.of_cons
        (fun later member => storable later (List.mem_cons_of_mem _ member))
        (number + 1) (some record.1)
        (fun later member => decide_eq_true (List.rel_of_pairwise_cons ascending member))
      rw [List.length_cons, decodeList, encodeList_cons, read]
      dsimp only
      rw [if_pos (follow record List.mem_cons_self), tail]

/-- What is accepted is what would be written, and as many records as were announced. -/
theorem eq_encodeList_of_decodeList {remaining number : Nat} {last? : Option Bytes}
    {payload : Bytes} {records : List Record}
    (read : decodeList number last? payload remaining = .ok records) :
    payload = encodeList records ∧ records.length = remaining ∧
      ∀ record ∈ records, record.Storable := by
  induction remaining generalizing number last? payload records with
  | zero =>
      unfold decodeList at read
      split at read
      · next nothing =>
          cases read
          have none : ∀ record ∈ ([] : List Record), record.Storable := by simp
          exact ⟨List.isEmpty_iff.mp nothing, rfl, none⟩
      · cases read
  | succ remaining ih =>
      unfold decodeList at read
      split at read
      · cases read
      · next record rest first =>
          split at read
          · split at read
            · cases read
            · next later tail =>
                cases read
                obtain ⟨restEq, count, storable⟩ := ih tail
                obtain ⟨payloadEq, recordStorable⟩ := eq_encodeRecord_of_decodeRecord first
                refine ⟨?_, ?_, ?_⟩
                · rw [payloadEq, encodeList_cons, ← restEq]
                · rw [List.length_cons, count]
                · intro member belongs
                  rcases List.mem_cons.mp belongs with rfl | deeper
                  · exact recordStorable
                  · exact storable member deeper
          · cases read

theorem decode_eq_ok_iff_decodeList (payload : Bytes) (entries : Nat) (records : Records) :
    decode payload entries = .ok records ↔
      decodeList 0 none payload entries = .ok records.toList := by
  obtain ⟨list, ascending⟩ := records
  unfold decode
  split
  · next fault found =>
      rw [found]
      simp only [reduceCtorEq]
  · next found =>
      simp only [found, Except.ok.injEq, Records.mk.injEq]

/-- Reading back what was written. -/
theorem decode_encode (records : Records) (storable : records.Storable) :
    decode records.encode records.size = .ok records :=
  (decode_eq_ok_iff_decodeList _ _ _).mpr
    (decodeList_encodeList records.ascending storable 0 none fun _ _ => rfl)

/-- A payload is accepted with a number of records exactly when it is what is written for
that many storable records. -/
theorem decode_eq_ok_iff (payload : Bytes) (entries : Nat) (records : Records) :
    decode payload entries = .ok records ↔
      payload = records.encode ∧ records.size = entries ∧ records.Storable := by
  constructor
  · intro read
    exact eq_encodeList_of_decodeList ((decode_eq_ok_iff_decodeList _ _ _).mp read)
  · rintro ⟨rfl, rfl, storable⟩
    exact decode_encode records storable

/-! ### Lengths -/

theorem size_le_encodedLength (records : Records) : records.size ≤ records.encodedLength := by
  unfold size encodedLength
  induction records.toList with
  | nil => exact Nat.le_refl 0
  | cons record rest ih =>
      simp only [List.length_cons, lengthOf, recordLength, Layout.recordPrefixSize]
      omega

end Records

end RecordFile
