/-
An environment by way of its mapping.

Bytes that are looked at through a mapping have to be inside the mapping and inside its file. A
payload is written over a buffer of the length that its transaction carries along: with a writable
mapping this is the place itself with whatever stands there, otherwise a buffer of zeros, which
then goes to the place. Where a look or a write would leave what it may touch there is no result
at all.
-/

import RecordFile.Environment
import RecordFile.Records.Buffer

namespace RecordFile

def Image.view? (image : Image) (mapped offset length : Nat) : Option Bytes :=
  if offset + length ≤ mapped ∧ offset + length ≤ image.size then some (image.read offset length)
  else none

namespace Environment

/-! ### Reading -/

def readHeaderMapped? (mapSize : UInt64) (file : Image) : Option (Except Fault Header) :=
  (file.view? mapSize.toNat 0 Layout.headerSize).map fun bytes => Header.parse bytes file.size

def recordsMapped? (mapSize : UInt64) (header : Header) (file : Image) :
    Option (Except Fault Records) :=
  (file.view? mapSize.toNat header.dataOffset.toNat header.dataLength.toNat).map
    fun payload => Records.decode payload header.entries.toNat

def refreshMapped? (env : Environment) (file : Image) :
    Option (Except EngineError Unit × Environment) :=
  match readHeaderMapped? env.mapSize file with
  | none => none
  | some (.error fault) => some (.error (.invalid fault), env)
  | some (.ok header) =>
      match env.follow header with
      | .error cause => some (.error (.io cause), env)
      | .ok env =>
          if env.snapshot.generation? = some header.generation then some (.ok (), env)
          else
            match recordsMapped? env.mapSize header file with
            | none => none
            | some (.error fault) => some (.error (.invalid fault), env)
            | some (.ok records) =>
                some (.ok (), { env with
                  snapshot :=
                    { generation? := some header.generation
                      records := records
                      dataOffset := header.dataOffset.toNat
                      dataLength := header.dataLength.toNat } })

/-! ### Opening -/

/-- What an open does before it maps the file. The header is read at its place in the file, which
is long enough by then. -/
def ready (path : String) (flags : OpenFlags) (mapSize : UInt64) (file : Image) :
    Except EngineError Header × Image :=
  let mapSize := max mapSize Layout.minimumMapSize
  match openingHeader path flags.readOnly mapSize file with
  | .error failure => (.error failure, file)
  | .ok (header, file) =>
      if flags.readOnly then
        if file.size < header.mapSize.toNat then
          (.error (.invalid (.fileBelowMapSize path file.size header.mapSize)), file)
        else (.ok header, file)
      else
        match prepare flags mapSize header file with
        | .error failure => (.error failure, file)
        | .ok (header, file) => (.ok header, file)

def attachMapped? (path : String) (flags : OpenFlags) (room : Nat) (header : Header)
    (file : Image) : Option (Except EngineError Environment) :=
  match (unmapped path flags room).remap header.mapSize with
  | .error cause => some (.error (.io cause))
  | .ok env =>
      match env.refreshMapped? file with
      | none => none
      | some (.error failure, _) => some (.error failure)
      | some (.ok (), env) => some (.ok env)

def openMapped? (path : String) (flags : OpenFlags) (mapSize : UInt64) (room : Nat)
    (file : Image) : Option (Except EngineError Environment × Image) :=
  match ready path flags mapSize file with
  | (.error failure, file) => some (.error failure, file)
  | (.ok header, file) => (attachMapped? path flags room header file).map fun env => (env, file)

/-! ### Writing -/

def inscribe? (env : Environment) (offset length : Nat) (write : Bytes → Option Bytes)
    (file : Image) : Option Image :=
  if env.flags.mapsWritable then
    match file.view? env.mapSize.toNat offset length with
    | none => none
    | some bytes => (write bytes).map fun bytes => file.overwrite offset bytes
  else (write (List.replicate length 0)).map fun bytes => file.write offset bytes

def publishMapped? (env : Environment) (header : Header) (txn : Transaction) (file : Image) :
    Option Image :=
  match env.inscribe? header.dataOffset.toNat txn.dataLength txn.records.encodeInto file with
  | none => none
  | some file => env.inscribe? 0 Layout.headerSize (fun _ => some header.toBytes) file

def commitMapped? (env : Environment) (txn : Transaction) (file : Image) :
    Option (Except EngineError Unit × Environment × Image) :=
  if env.flags.readOnly then some (.error .readOnly, env.forget, file)
  else
    match readHeader file with
    | .error fault => some (.error (.invalid fault), env.forget, file)
    | .ok header =>
        match Placement.place? env.mapSize.toNat header.dataOffset.toNat
            header.dataLength.toNat txn.dataLength with
        | none =>
            some (.error (.mapFull
              (Layout.headerSize + header.dataLength.toNat + txn.dataLength)
              env.mapSize.toNat), env.forget, file)
        | some offset =>
            (env.publishMapped? (successor header offset txn) txn file).map fun file =>
              (.ok (), { env with
                snapshot :=
                  { generation? := some (header.generation + 1)
                    records := txn.records
                    dataOffset := offset
                    dataLength := txn.dataLength } }, file)

def transactMapped? {α : Type} (env : Environment)
    (operation : Transaction → Except EngineError (α × Transaction)) (file : Image) :
    Option (Except EngineError α × Environment × Image) :=
  match operation env.transaction with
  | .error failure => some (.error failure, env, file)
  | .ok (result, txn) =>
      match commitMapped? { env with snapshot := { env.snapshot with records := Records.empty } }
          txn file with
      | none => none
      | some (.error failure, env, file) => some (.error failure, env, file)
      | some (.ok (), env, file) => some (.ok result, env, file)

def putMapped? (env : Environment) (key value : Bytes) (keepExisting : Bool) (file : Image) :
    Option (Except EngineError Unit × Environment × Image) :=
  if env.flags.readOnly then some (.error .readOnly, env, file)
  else
    match env.refresh file with
    | (.error failure, env) => some (.error failure, env, file)
    | (.ok (), env) =>
        env.transactMapped?
          (fun txn => (txn.put key value keepExisting).map fun txn => ((), txn)) file

def deleteMapped? (env : Environment) (key : Bytes) (file : Image) :
    Option (Except EngineError Bool × Environment × Image) :=
  if env.flags.readOnly then some (.error .readOnly, env, file)
  else
    match env.refresh file with
    | (.error failure, env) => some (.error failure, env, file)
    | (.ok (), env) =>
        if (env.get? key).isNone then some (.ok false, env, file)
        else env.transactMapped? (fun txn => .ok (txn.delete key)) file

end Environment

end RecordFile
