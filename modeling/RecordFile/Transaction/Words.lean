/-
A transaction in sixty-four bits.

Its length and its limit are words. A write changes the transaction in place and has its result
beside it. Where a length does not fit into a word, or more is taken off than is there, there is
no result at all.
-/

import RecordFile.Transaction
import RecordFile.Word

namespace RecordFile.Transaction

structure Words where
  records : Records
  dataLength : UInt64
  limit : UInt64

def toWords (txn : Transaction) : Words where
  records := txn.records
  dataLength := UInt64.ofNat txn.dataLength
  limit := UInt64.ofNat txn.limit

namespace Words

def plain (txn : Words) : Transaction where
  records := txn.records
  dataLength := txn.dataLength.toNat
  limit := txn.limit.toNat

end Words

end RecordFile.Transaction
