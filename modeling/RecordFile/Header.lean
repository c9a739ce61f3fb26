/-
The header of a database file and its 64 bytes.

Bytes 0 to 7 hold the magic, 8 to 11 the version, and from byte 16 on five 64-bit numbers
follow: map size, generation, payload length, entry count and payload offset. All numbers
are least significant byte first; bytes 12 to 15 and 56 to 63 are reserved, written as
zero and not looked at when read. A header is accepted exactly when its payload lies after
the header, inside the map and inside the file.
-/

import RecordFile.Bytes.LittleEndian
import RecordFile.Fault

namespace RecordFile

structure Header where
  version : UInt32
  /-- Size of the map, which bounds every payload. -/
  mapSize : UInt64
  /-- Number of the commit that wrote this header. -/
  generation : UInt64
  dataLength : UInt64
  entries : UInt64
  dataOffset : UInt64
  deriving DecidableEq, Repr

namespace Header

def empty (mapSize : UInt64) : Header where
  version := Layout.formatVersion
  mapSize := mapSize
  generation := 0
  dataLength := 0
  entries := 0
  dataOffset := UInt64.ofNat Layout.headerSize

def toBytes (header : Header) : Bytes :=
  Layout.magic
    ++ Bytes.ofNat 4 header.version.toNat
    ++ List.replicate 4 0
    ++ Bytes.ofNat 8 header.mapSize.toNat
    ++ Bytes.ofNat 8 header.generation.toNat
    ++ Bytes.ofNat 8 header.dataLength.toNat
    ++ Bytes.ofNat 8 header.entries.toNat
    ++ Bytes.ofNat 8 header.dataOffset.toNat
    ++ List.replicate 8 0

def payloadStop (header : Header) : Nat :=
  header.dataOffset.toNat + header.dataLength.toNat

def payloadStop? (header : Header) : Option UInt64 :=
  if header.payloadStop < UInt64.size then some (UInt64.ofNat header.payloadStop) else none

def field (data : Bytes) (offset width : Nat) : Nat :=
  Bytes.toNat ((data.drop offset).take width)

def ofFields (data : Bytes) : Header where
  version := UInt32.ofNat (field data 8 4)
  mapSize := UInt64.ofNat (field data 16 8)
  generation := UInt64.ofNat (field data 24 8)
  dataLength := UInt64.ofNat (field data 32 8)
  entries := UInt64.ofNat (field data 40 8)
  dataOffset := UInt64.ofNat (field data 48 8)

def checkBounds (header : Header) (fileLength : Nat) : Except Fault Header :=
  if header.mapSize < Layout.minimumMapSize then .error (.smallMapSize header.mapSize)
  else if header.dataOffset.toNat < Layout.headerSize then
    .error (.payloadInsideHeader header.dataOffset)
  else if UInt64.size ≤ header.payloadStop then
    .error (.payloadOverflow header.dataLength header.dataOffset)
  else if header.mapSize.toNat < header.payloadStop ∨ fileLength < header.payloadStop then
    .error (.payloadBeyond header.payloadStop header.mapSize fileLength)
  else .ok header

def parse (data : Bytes) (fileLength : Nat) : Except Fault Header :=
  if data.length < Layout.headerSize then .error (.shortHeader data.length)
  else if data.take 8 ≠ Layout.magic then .error .badMagic
  else if (ofFields data).version ≠ Layout.formatVersion then
    .error (.unsupportedVersion (ofFields data).version)
  else (ofFields data).checkBounds fileLength

@[simp]
theorem length_toBytes (header : Header) : header.toBytes.length = Layout.headerSize := by
  simp [toBytes, Layout.magic, Layout.headerSize]

end Header

end RecordFile
