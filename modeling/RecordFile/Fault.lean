/-
Reasons why a file is not a usable database, or a request makes no sense for one.

Each reason carries the numbers its text shows, so the text is a function of the reason.
-/

import RecordFile.Layout

namespace RecordFile

inductive Fault where
  /-- Fewer bytes than a header takes. -/
  | shortHeader (length : Nat)
  | badMagic
  | unsupportedVersion (version : UInt32)
  | smallMapSize (mapSize : UInt64)
  | payloadInsideHeader (offset : UInt64)
  /-- The end of the payload is no 64-bit number. -/
  | payloadOverflow (length offset : UInt64)
  /-- The payload ends past the map or past the file. -/
  | payloadBeyond (stop : Nat) (mapSize : UInt64) (fileLength : Nat)
  | truncatedPrefix (record : Nat)
  | truncatedKey (record : Nat)
  | truncatedValue (record : Nat)
  | keysOutOfOrder (record : Nat)
  /-- A key or a value whose length is not written in 32 bits. -/
  | recordTooLarge (keyLength valueLength : Nat)
  /-- Bytes are left after the last record. -/
  | trailingBytes (count : Nat)
  /-- A file without bytes, opened for reading only. -/
  | emptyFile (path : String)
  | shortFile (path : String) (length : Nat)
  /-- A file shorter than its map size, opened for reading only. -/
  | fileBelowMapSize (path : String) (length : Nat) (mapSize : UInt64)
  | smallGrowthMultiplier (multiplier : UInt64)
  | initialMapSizeOutside (initial maximum : UInt64)
  /-- A reason known only by its text. -/
  | stated (text : String)
  deriving DecidableEq, Repr

namespace Fault

def message : Fault → String
  | shortHeader length => s!"file too short for header: {length} bytes"
  | badMagic => "bad magic"
  | unsupportedVersion version => s!"unsupported format version {version}"
  | smallMapSize mapSize =>
      s!"map size {mapSize} below minimum {Layout.minimumMapSize}"
  | payloadInsideHeader offset => s!"payload offset {offset} inside header"
  | payloadOverflow length offset => s!"payload length {length} at offset {offset} overflows"
  | payloadBeyond stop mapSize fileLength =>
      s!"payload end {stop} beyond map size {mapSize} / file length {fileLength}"
  | truncatedPrefix record => s!"record {record}: truncated prefix"
  | truncatedKey record => s!"record {record}: truncated key"
  | truncatedValue record => s!"record {record}: truncated value"
  | keysOutOfOrder record => s!"record {record}: keys out of order"
  | recordTooLarge keyLength valueLength =>
      s!"record too large: key {keyLength} bytes, value {valueLength} bytes"
  | trailingBytes count => s!"{count} trailing payload bytes"
  | emptyFile path => s!"{path}: empty file"
  | shortFile path length => s!"{path}: file too short for header: {length} bytes"
  | fileBelowMapSize path length mapSize =>
      s!"{path}: file length {length} below map size {mapSize}"
  | smallGrowthMultiplier multiplier =>
      s!"growth multiplier {multiplier} must be at least 2"
  | initialMapSizeOutside initial maximum =>
      s!"initial map size {initial} outside {Layout.minimumMapSize}..={maximum}"
  | stated text => text

end Fault

end RecordFile
