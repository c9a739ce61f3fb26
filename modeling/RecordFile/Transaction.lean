/-
A private, uncommitted set of records with a bound on its payload.

The payload length is carried along and adjusted by each write, and every write is
checked against the limit that was in force when the transaction began. A write that is
refused changes nothing. Deleting is never refused.
-/

import RecordFile.EngineError
import RecordFile.Records.Codec

namespace RecordFile

structure Transaction where
  records : Records
  /-- Length of the payload that the records take. -/
  dataLength : Nat
  /-- Bound on header and payload together. -/
  limit : Nat
  deriving DecidableEq

namespace Transaction

def get? (txn : Transaction) (key : Bytes) : Option Bytes :=
  txn.records.find? key

def size (txn : Transaction) : Nat :=
  txn.records.size

def lengthAfterPut (txn : Transaction) (key value : Bytes) : Nat :=
  match txn.get? key with
  | some old => txn.dataLength - recordLength key old + recordLength key value
  | none => txn.dataLength + recordLength key value

def isStorable (key value : Bytes) : Bool :=
  key.length < Layout.lengthLimit && value.length < Layout.lengthLimit

/-- Store a value. With `keepExisting` a key that is present is refused. -/
def put (txn : Transaction) (key value : Bytes) (keepExisting : Bool) :
    Except EngineError Transaction :=
  if !isStorable key value then
    .error (.invalid (.recordTooLarge key.length value.length))
  else if keepExisting && (txn.get? key).isSome then .error .keyExists
  else if txn.limit < Layout.headerSize + txn.lengthAfterPut key value then
    .error (.mapFull (Layout.headerSize + txn.lengthAfterPut key value) txn.limit)
  else
    .ok { txn with
      records := txn.records.insert key value
      dataLength := txn.lengthAfterPut key value }

def delete (txn : Transaction) (key : Bytes) : Bool × Transaction :=
  match txn.get? key with
  | some old =>
      (true, { txn with
        records := txn.records.erase key
        dataLength := txn.dataLength - recordLength key old })
  | none => (false, txn)

end Transaction

end RecordFile
