/-
Records in a buffer, by offset.

A payload is written by copying each length, key and value to its place in a buffer, whatever
the buffer holds before. It is read by looking at one span after another. A copy that does not
stay inside the buffer is refused, and so is a look past the end.
-/

import RecordFile.Bytes.Patch
import RecordFile.Records.Codec

namespace RecordFile

/-! ### Spans -/

structure Span where
  offset : Nat
  length : Nat
  deriving DecidableEq, Repr

namespace Span

def stop (span : Span) : Nat :=
  span.offset + span.length

def covers (span : Span) (index : Nat) : Bool :=
  decide (span.offset ≤ index ∧ index < span.stop)

def bytes? (span : Span) (buffer : Bytes) : Option Bytes :=
  if span.stop ≤ buffer.length then some ((buffer.drop span.offset).take span.length) else none

end Span

namespace Patch

def span (patch : Patch) : Span :=
  ⟨patch.offset, patch.bytes.length⟩

def into (buffer : Bytes) (patch : Patch) : Option Bytes :=
  if patch.stop ≤ buffer.length then
    some (buffer.take patch.offset ++ patch.bytes ++ buffer.drop patch.stop)
  else none

end Patch

namespace Records

/-! ### Writing -/

/-- What is copied for records that stand from an offset on. -/
def copies (offset : Nat) : List Record → List Patch
  | [] => []
  | (key, value) :: rest =>
      ⟨offset, Bytes.ofNat 4 key.length⟩ ::
      ⟨offset + 4, Bytes.ofNat 4 value.length⟩ ::
      ⟨offset + Layout.recordPrefixSize, key⟩ ::
      ⟨offset + Layout.recordPrefixSize + key.length, value⟩ ::
      copies (offset + recordLength key value) rest

def encodeInto (records : Records) (buffer : Bytes) : Option Bytes :=
  (copies 0 records.toList).foldlM Patch.into buffer

/-! ### Reading -/

/-- Read the record at an offset, the `number`-th one, and tell the spans that were looked at
and where the next record is. -/
def decodeRecordAt (payload : Bytes) (offset number : Nat) :
    List Span × Except Fault (Record × Nat) :=
  let lengths : Span := ⟨offset, Layout.recordPrefixSize⟩
  match lengths.bytes? payload with
  | none => ([], .error (.truncatedPrefix number))
  | some head =>
      let keySpan : Span := ⟨lengths.stop, Bytes.toNat (head.take 4)⟩
      match keySpan.bytes? payload with
      | none => ([lengths], .error (.truncatedKey number))
      | some key =>
          let valueSpan : Span := ⟨keySpan.stop, Bytes.toNat (head.drop 4)⟩
          match valueSpan.bytes? payload with
          | none => ([lengths, keySpan], .error (.truncatedValue number))
          | some value => ([lengths, keySpan, valueSpan], .ok ((key, value), valueSpan.stop))

def decodeAt (payload : Bytes) (offset number : Nat) (last? : Option Bytes) :
    (remaining : Nat) → List Span × Except Fault (List Record)
  | 0 =>
      ([], if offset = payload.length then .ok []
        else .error (.trailingBytes (payload.length - offset)))
  | remaining + 1 =>
      match decodeRecordAt payload offset number with
      | (spans, .error fault) => (spans, .error fault)
      | (spans, .ok (record, next)) =>
          if follows last? record.1 then
            let later := decodeAt payload next (number + 1) (some record.1) remaining
            (spans ++ later.1, later.2.map (record :: ·))
          else (spans, .error (.keysOutOfOrder number))

end Records

end RecordFile
