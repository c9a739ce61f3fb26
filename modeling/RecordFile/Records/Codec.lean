/-
Records as the payload of a database file.

Each record is two 32-bit lengths followed by its key and its value; records follow each
other in key order with nothing between or after them. Reading checks every length against
the bytes that are left, the order of each key against the one before, and that nothing
remains after the announced number of records.
-/

import RecordFile.Bytes.LittleEndian
import RecordFile.Fault
import RecordFile.Records

namespace RecordFile

def recordLength (key value : Bytes) : Nat :=
  Layout.recordPrefixSize + key.length + value.length

namespace Records

/-! ### Writing -/

def encodeRecord (record : Record) : Bytes :=
  Bytes.ofNat 4 record.1.length ++ Bytes.ofNat 4 record.2.length ++ record.1 ++ record.2

def encodeList (records : List Record) : Bytes :=
  records.flatMap encodeRecord

def encode (records : Records) : Bytes :=
  encodeList records.toList

def lengthOf : List Record → Nat
  | [] => 0
  | record :: rest => recordLength record.1 record.2 + lengthOf rest

def encodedLength (records : Records) : Nat :=
  lengthOf records.toList

theorem length_encodeRecord (record : Record) :
    (encodeRecord record).length = recordLength record.1 record.2 := by
  simp only [encodeRecord, recordLength, Layout.recordPrefixSize, List.length_append,
    Bytes.length_ofNat]

theorem length_encodeList (records : List Record) :
    (encodeList records).length = lengthOf records := by
  induction records with
  | nil => rfl
  | cons record rest ih =>
      simp only [encodeList, lengthOf, List.flatMap_cons, List.length_append,
        length_encodeRecord] at ih ⊢
      rw [ih]

@[simp]
theorem length_encode (records : Records) : records.encode.length = records.encodedLength :=
  length_encodeList _

/-! ### Reading -/

def decodeRecord (number : Nat) (payload : Bytes) : Except Fault (Record × Bytes) :=
  let head := payload.take Layout.recordPrefixSize
  if head.length < Layout.recordPrefixSize then .error (.truncatedPrefix number)
  else
    let keyLength := Bytes.toNat (head.take 4)
    let valueLength := Bytes.toNat (head.drop 4)
    let body := payload.drop Layout.recordPrefixSize
    let key := body.take keyLength
    if key.length < keyLength then .error (.truncatedKey number)
    else
      let rest := body.drop keyLength
      let value := rest.take valueLength
      if value.length < valueLength then .error (.truncatedValue number)
      else .ok ((key, value), rest.drop valueLength)

/-- Whether a key may follow the one read before it. -/
def follows (last? : Option Bytes) (key : Bytes) : Bool :=
  match last? with
  | none => true
  | some last => decide (last < key)

def decodeList (number : Nat) (last? : Option Bytes) (payload : Bytes) :
    (remaining : Nat) → Except Fault (List Record)
  | 0 => if payload.isEmpty then .ok [] else .error (.trailingBytes payload.length)
  | remaining + 1 =>
      match decodeRecord number payload with
      | .error fault => .error fault
      | .ok (record, rest) =>
          if follows last? record.1 then
            match decodeList (number + 1) (some record.1) rest remaining with
            | .error fault => .error fault
            | .ok records => .ok (record :: records)
          else .error (.keysOutOfOrder number)

/-- What is read is ascending and above the key before it. -/
theorem ascending_of_decodeList {remaining number : Nat} {last? : Option Bytes} {payload : Bytes}
    {records : List Record} (read : decodeList number last? payload remaining = .ok records) :
    Ascending records ∧ ∀ record ∈ records, follows last? record.1 = true := by
  induction remaining generalizing number last? payload records with
  | zero =>
      unfold decodeList at read
      split at read
      · cases read
        exact ⟨List.Pairwise.nil, by simp⟩
      · cases read
  | succ remaining ih =>
      unfold decodeList at read
      split at read
      · cases read
      · next record rest _ =>
          split at read
          · next order =>
              split at read
              · cases read
              · next records found =>
                  cases read
                  obtain ⟨sorted, above⟩ := ih found
                  refine ⟨List.pairwise_cons.mpr ⟨?_, sorted⟩, ?_⟩
                  · intro later member
                    exact of_decide_eq_true (above later member)
                  · intro member belongs
                    rcases List.mem_cons.mp belongs with rfl | later
                    · exact order
                    · cases last? with
                      | none => rfl
                      | some last =>
                          exact decide_eq_true (Bytes.lt_trans (of_decide_eq_true order)
                            (of_decide_eq_true (above member later)))
          · cases read

def decode (payload : Bytes) (entries : Nat) : Except Fault Records :=
  match found : decodeList 0 none payload entries with
  | .error fault => .error fault
  | .ok records => .ok ⟨records, (ascending_of_decodeList found).1⟩

end Records

end RecordFile
