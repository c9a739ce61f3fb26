/-
Fixed numbers and names of the file format.

A database file is a header of `headerSize` bytes and, somewhere after it, one payload of
records. Everything else in the file is space that the header does not refer to.
-/

import RecordFile.Bytes

namespace RecordFile.Layout

def magic : Bytes :=
  [0x4d, 0x41, 0x50, 0x53, 0x54, 0x4f, 0x52, 0x00]

def formatVersion : UInt32 := 2

def headerSize : Nat := 64

def recordPrefixSize : Nat := 8

/-- Lengths of keys and of values are below this number, so that 32 bits hold them. -/
def lengthLimit : Nat := 4294967296

def fileSuffix : String := "mdb"

def minimumMapSize : UInt64 := 4096

def release : String := "0.2.0"

end RecordFile.Layout
