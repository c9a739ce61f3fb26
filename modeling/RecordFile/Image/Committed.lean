/-
The committed records of a file, read from its bytes alone.

This is what any reader of the file sees, whatever handles are open on it.
-/

import RecordFile.Header
import RecordFile.Image
import RecordFile.Records.Codec

namespace RecordFile.Image

def header (image : Image) : Except Fault Header :=
  Header.parse (image.read 0 (min Layout.headerSize image.size)) image.size

def payload (image : Image) (header : Header) : Bytes :=
  image.read header.dataOffset.toNat header.dataLength.toNat

def recordsOf (image : Image) (header : Header) : Except Fault Records :=
  Records.decode (image.payload header) header.entries.toNat

def committed (image : Image) : Except Fault Records :=
  match image.header with
  | .error fault => .error fault
  | .ok header => image.recordsOf header

end RecordFile.Image
