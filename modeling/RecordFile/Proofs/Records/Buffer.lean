/-
Every byte of a payload is written once, and read once.

The spans that are written for records follow each other without gap or overlap, and so do
those that are looked at when a payload is accepted. What a buffer holds before plays no part,
and nothing outside a buffer is written or read.
-/

import RecordFile.Proofs.Records.Codec
import RecordFile.Records.Buffer

namespace RecordFile

/-! ### Spans -/

def Tiles (start stop : Nat) : List Span → Prop
  | [] => start = stop
  | span :: rest => span.offset = start ∧ Tiles span.stop stop rest

theorem Tiles.le {start stop : Nat} {spans : List Span} (tiles : Tiles start stop spans) :
    start ≤ stop := by
  induction spans generalizing start with
  | nil => exact Nat.le_of_eq tiles
  | cons span rest ih =>
      have later := ih tiles.2
      have first := tiles.1
      simp only [Span.stop] at later
      omega

/-- Each byte between the two offsets is in one span, and no other byte is. -/
theorem Tiles.countP_covers {start stop : Nat} {spans : List Span} (tiles : Tiles start stop spans)
    (index : Nat) :
    spans.countP (·.covers index) = if start ≤ index ∧ index < stop then 1 else 0 := by
  induction spans generalizing start with
  | nil =>
      have same : start = stop := tiles
      rw [List.countP_nil, if_neg (by omega)]
  | cons span rest ih =>
      have here : span.covers index = true ↔ start ≤ index ∧ index < span.stop := by
        simp [Span.covers, tiles.1]
      have nonneg : start ≤ span.stop := by
        rw [← tiles.1]
        exact Nat.le_add_right _ _
      have later := Tiles.le tiles.2
      rw [List.countP_cons, ih tiles.2]
      simp only [here]
      by_cases inside : start ≤ index ∧ index < span.stop
      · rw [if_neg (by omega), if_pos inside, if_pos (by omega)]
      · rw [if_neg inside, Nat.add_zero]
        by_cases beyond : span.stop ≤ index ∧ index < stop
        · rw [if_pos beyond, if_pos (by omega)]
        · rw [if_neg beyond, if_neg (by omega)]

theorem Tiles.stop_le {start stop : Nat} {spans : List Span} (tiles : Tiles start stop spans) :
    ∀ span ∈ spans, span.stop ≤ stop := by
  induction spans generalizing start with
  | nil => simp
  | cons span rest ih =>
      intro found member
      rcases List.mem_cons.mp member with rfl | later
      · exact Tiles.le tiles.2
      · exact ih tiles.2 found later

theorem Tiles.append {start middle stop : Nat} {first second : List Span}
    (tiles : Tiles start middle first) (later : Tiles middle stop second) :
    Tiles start stop (first ++ second) := by
  induction first generalizing start with
  | nil =>
      cases (tiles : start = middle)
      exact later
  | cons span rest ih => exact ⟨tiles.1, ih tiles.2⟩

theorem Span.bytes?_eq_some {span : Span} {buffer bytes : Bytes}
    (read : span.bytes? buffer = some bytes) :
    span.stop ≤ buffer.length ∧ (buffer.drop span.offset).take span.length = bytes := by
  unfold bytes? at read
  split at read
  · next inside => exact ⟨inside, Option.some.inj read⟩
  · cases read

namespace Records

/-! ### Writing -/

theorem tiles_copies (offset : Nat) (records : List Record) :
    Tiles offset (offset + lengthOf records) ((copies offset records).map Patch.span) := by
  induction records generalizing offset with
  | nil => rfl
  | cons record rest ih =>
      have later := ih (offset + recordLength record.1 record.2)
      rw [Nat.add_assoc] at later
      refine ⟨rfl, ?_, ?_, rfl, ?_⟩
      · simp [Patch.span, Span.stop]
      · simp [Patch.span, Span.stop, Layout.recordPrefixSize]
      · simpa [Patch.span, Span.stop, recordLength, lengthOf, Nat.add_assoc] using later

/-- Copies that lie end to end leave their bytes in place of what stood there. -/
theorem foldlM_into {copies : List Patch} (before rest : Bytes) {stop : Nat}
    (tiles : Tiles before.length stop (copies.map Patch.span))
    (inside : stop ≤ before.length + rest.length) :
    copies.foldlM Patch.into (before ++ rest) =
      some (before ++ copies.flatMap Patch.bytes ++ rest.drop (stop - before.length)) := by
  -- `before` is filled already, and `rest` is what the buffer still holds of old.
  induction copies generalizing before rest with
  | nil =>
      have same : before.length = stop := tiles
      simp [← same]
  | cons copy later ih =>
      obtain ⟨offset, bytes⟩ := copy
      obtain ⟨place, further⟩ := tiles
      have place : offset = before.length := place
      subst place
      have bound := Tiles.le further
      simp only [Patch.span, Span.stop] at further bound
      rw [← List.length_append] at further
      have first : Patch.into (before ++ rest) ⟨before.length, bytes⟩ =
          some ((before ++ bytes) ++ rest.drop bytes.length) := by
        have fits : bytes.length ≤ rest.length := by omega
        simp [Patch.into, Patch.stop, fits]
      rw [List.foldlM_cons, first, Option.bind_eq_bind, Option.bind_some,
        ih _ _ further (by simp; omega)]
      simp
      congr 1
      omega

theorem flatMap_copies (offset : Nat) (records : List Record) :
    (copies offset records).flatMap Patch.bytes = encodeList records := by
  induction records generalizing offset with
  | nil => rfl
  | cons record rest ih => simp [copies, encodeList_cons, encodeRecord, ih]

/-- Nothing is left of what a buffer of the right length held before. -/
theorem encodeInto_eq {records : Records} {buffer : Bytes}
    (room : buffer.length = records.encodedLength) :
    records.encodeInto buffer = some records.encode := by
  have all : lengthOf records.toList = buffer.length := room.symm
  have tiles := tiles_copies 0 records.toList
  rw [Nat.zero_add, all] at tiles
  have written := foldlM_into [] buffer tiles (by simp)
  simpa [flatMap_copies, encode, encodeInto] using written

/-! ### Reading -/

/-- What is cut from the rest of a payload is too short unless it stays inside. -/
private theorem ite_length_take_drop {α : Type} {payload : Bytes} {start : Nat} (length : Nat)
    (refused accepted : α) (inside : start ≤ payload.length) :
    (if ((payload.drop start).take length).length < length then refused else accepted) =
      if start + length ≤ payload.length then accepted else refused := by
  rw [List.length_take, List.length_drop]
  by_cases enough : start + length ≤ payload.length
  · rw [if_neg (by omega), if_pos enough]
  · rw [if_pos (by omega), if_neg enough]

/-- The spans of a record lie end to end inside the payload, and the next record is where
they stop. -/
private theorem decodeRecordAt_tiles {payload : Bytes} {offset : Nat} (number : Nat)
    (start : offset ≤ payload.length) :
    ∃ stop, stop ≤ payload.length ∧ Tiles offset stop (decodeRecordAt payload offset number).1 ∧
      ∀ record next, (decodeRecordAt payload offset number).2 = .ok (record, next) →
        stop = next := by
  unfold decodeRecordAt
  dsimp only
  split
  · exact ⟨offset, start, rfl, by simp⟩
  · next head lengths =>
      have lengthsInside := (Span.bytes?_eq_some lengths).1
      split
      · exact ⟨_, lengthsInside, ⟨rfl, rfl⟩, by simp⟩
      · next key keyRead =>
          have keyInside := (Span.bytes?_eq_some keyRead).1
          split
          · exact ⟨_, keyInside, ⟨rfl, rfl, rfl⟩, by simp⟩
          · next value valueRead =>
              have valueInside := (Span.bytes?_eq_some valueRead).1
              refine ⟨_, valueInside, ⟨rfl, rfl, rfl, rfl⟩, ?_⟩
              intro record next found
              cases found
              rfl

private theorem decodeRecordAt_snd {payload : Bytes} {offset : Nat} (number : Nat)
    (start : offset ≤ payload.length) :
    (decodeRecordAt payload offset number).2.map (fun found => (found.1, payload.drop found.2)) =
      decodeRecord number (payload.drop offset) := by
  unfold decodeRecordAt decodeRecord Span.bytes? Span.stop
  simp only [List.drop_drop]
  rw [ite_length_take_drop _ _ _ start]
  generalize (payload.drop offset).take Layout.recordPrefixSize = head
  by_cases lengths : offset + Layout.recordPrefixSize ≤ payload.length
  · rw [if_pos lengths, if_pos lengths, ite_length_take_drop _ _ _ lengths]
    by_cases keyInside :
        offset + Layout.recordPrefixSize + Bytes.toNat (head.take 4) ≤ payload.length
    · simp only [if_pos keyInside]
      rw [ite_length_take_drop _ _ _ keyInside]
      by_cases valueInside : offset + Layout.recordPrefixSize + Bytes.toNat (head.take 4) +
          Bytes.toNat (head.drop 4) ≤ payload.length
      · simp only [if_pos valueInside, Except.map]
      · simp only [if_neg valueInside, Except.map]
    · simp only [if_neg keyInside, Except.map]
  · rw [if_neg lengths, if_neg lengths]
    rfl

/-- Reading by offset is reading what is left of the payload. -/
theorem decodeAt_snd {payload : Bytes} {offset number : Nat} {last? : Option Bytes}
    {remaining : Nat} (start : offset ≤ payload.length) :
    (decodeAt payload offset number last? remaining).2 =
      decodeList number last? (payload.drop offset) remaining := by
  induction remaining generalizing offset number last? with
  | zero =>
      simp only [decodeAt, decodeList, List.isEmpty_iff, List.drop_eq_nil_iff, List.length_drop]
      by_cases done : offset = payload.length
      · rw [if_pos done, if_pos (Nat.le_of_eq done.symm)]
      · rw [if_neg done, if_neg (by omega)]
  | succ remaining ih =>
      obtain ⟨stop, stopInside, -, next⟩ := decodeRecordAt_tiles number start
      have same := decodeRecordAt_snd number start
      unfold decodeAt decodeList
      rw [← same]
      generalize decodeRecordAt payload offset number = found at next
      obtain ⟨spans, _ | ⟨record, stop'⟩⟩ := found
      · rfl
      · have reached := next record stop' rfl
        dsimp only [Except.map]
        split
        · rw [← ih (reached ▸ stopInside)]
          cases (decodeAt payload stop' (number + 1) (some record.1) remaining).2 <;> rfl
        · rfl

/-- What is looked at lies end to end from the offset on, and is all of the rest of a payload
that is accepted. -/
theorem decodeAt_tiles {payload : Bytes} {offset : Nat} (number : Nat) (last? : Option Bytes)
    (remaining : Nat) (start : offset ≤ payload.length) :
    ∃ stop, stop ≤ payload.length ∧
      Tiles offset stop (decodeAt payload offset number last? remaining).1 ∧
      ∀ records, (decodeAt payload offset number last? remaining).2 = .ok records →
        stop = payload.length := by
  induction remaining generalizing offset number last? with
  | zero =>
      refine ⟨offset, start, rfl, ?_⟩
      intro records accepted
      -- With no record left to read, only a payload that ends here is accepted.
      by_cases done : offset = payload.length
      · exact done
      · simp [decodeAt, done] at accepted
  | succ remaining ih =>
      obtain ⟨stop, stopInside, tiles, next⟩ := decodeRecordAt_tiles number start
      unfold decodeAt
      generalize decodeRecordAt payload offset number = found at tiles next
      obtain ⟨spans, _ | ⟨record, stop'⟩⟩ := found
      · exact ⟨stop, stopInside, tiles, by simp⟩
      · cases next record stop' rfl
        dsimp only
        split
        · obtain ⟨last, lastInside, later, all⟩ :=
            ih (number + 1) (some record.1) stopInside
          refine ⟨last, lastInside, tiles.append later, ?_⟩
          intro records accepted
          cases rest : (decodeAt payload stop (number + 1) (some record.1) remaining).2 with
          | error fault => simp [rest, Except.map] at accepted
          | ok records => exact all records rest
        · exact ⟨stop, stopInside, tiles, by simp⟩

theorem decodeAt_eq_decode (payload : Bytes) (entries : Nat) :
    (decodeAt payload 0 0 none entries).2 = (decode payload entries).map toList := by
  rw [decodeAt_snd (Nat.zero_le _), List.drop_zero]
  unfold decode
  split
  · next fault found => exact found
  · next records found => exact found

/-! ### Both directions -/

/-- Writing storable records over a buffer of their length writes each byte of it once, and
reading gives the same records. Reading any payload with any number of records stays inside
it, and accepts what is written for that many storable records and nothing else; then each
byte is looked at once. -/
theorem codec_exact :
    (∀ (records : Records) (buffer : Bytes), records.Storable →
      buffer.length = records.encodedLength →
        records.encodeInto buffer = some records.encode ∧
        (∀ index < buffer.length,
          ((copies 0 records.toList).map Patch.span).countP (·.covers index) = 1) ∧
        decode records.encode records.size = .ok records) ∧
    ∀ (payload : Bytes) (entries : Nat),
      (decodeAt payload 0 0 none entries).2 = (decode payload entries).map toList ∧
      (∀ span ∈ (decodeAt payload 0 0 none entries).1, span.stop ≤ payload.length) ∧
      ((∃ fault, decode payload entries = .error fault) ∨
        ∃ records, decode payload entries = .ok records ∧ records.size = entries ∧
          records.encode = payload ∧
          ∀ index < payload.length,
            (decodeAt payload 0 0 none entries).1.countP (·.covers index) = 1) ∧
      ∀ records, decode payload entries = .ok records ↔
        payload = records.encode ∧ records.size = entries ∧ records.Storable := by
  constructor
  · intro records buffer storable room
    refine ⟨encodeInto_eq room, ?_, decode_encode records storable⟩
    intro index inside
    rw [(tiles_copies 0 records.toList).countP_covers, Nat.zero_add]
    exact if_pos ⟨Nat.zero_le _, Nat.lt_of_lt_of_eq inside room⟩
  · intro payload entries
    obtain ⟨stop, stopInside, tiles, all⟩ :=
      decodeAt_tiles 0 none entries (Nat.zero_le payload.length)
    have agree := decodeAt_eq_decode payload entries
    refine ⟨agree, ?_, ?_, decode_eq_ok_iff payload entries⟩
    · intro span member
      exact Nat.le_trans (tiles.stop_le span member) stopInside
    · cases read : decode payload entries with
      | error fault => exact Or.inl ⟨fault, rfl⟩
      | ok records =>
          obtain ⟨same, size, -⟩ := (decode_eq_ok_iff payload entries records).mp read
          rw [read] at agree
          cases all records.toList agree
          refine Or.inr ⟨records, rfl, size, same.symm, ?_⟩
          intro index inside
          rw [tiles.countP_covers]
          exact if_pos ⟨Nat.zero_le _, inside⟩

private def prefixes : Records :=
  ofList [([97, 98], [0]), ([], [1, 2]), ([97], [])]

theorem codec_exact_prefixes :
    prefixes.Storable ∧ (List.replicate 30 255).length = prefixes.encodedLength ∧
    prefixes.encodeInto (List.replicate 30 255) = some prefixes.encode ∧
    decode prefixes.encode 3 = .ok prefixes ∧
    decode (prefixes.encode.take 29) 3 = .error (.truncatedValue 2) ∧
    decode prefixes.encode 2 = .error (.trailingBytes 11) := by
  have written := codec_exact.1 prefixes (List.replicate 30 255) (by decide) (by decide)
  exact ⟨by decide, by decide, written.1, written.2.2, rfl, rfl⟩

end Records

end RecordFile
