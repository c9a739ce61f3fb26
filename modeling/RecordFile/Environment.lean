/-
An open database file: the part of it that is mapped and the records last read from it.

Any number of environments may be open on one file, and none of them locks. Each keeps a
snapshot of the committed records, tagged with the generation it was read from, and
follows the file only when it refreshes. An operation takes the contents of the file and
returns them with its result, also when it fails, so what a failed operation leaves behind
is part of its result.

A commit puts its payload where the header in the file does not point and then replaces
the header. Anything that stops it in between leaves the old records in place.

A map size above the longest length of a file is refused, and neither file nor mapping
changes. A file can have a length that no mapping can have. Such a map size is refused only
after header and file have got it, and the mapping stays as it was.
-/

import RecordFile.Image.Committed
import RecordFile.OpenFlags
import RecordFile.Placement
import RecordFile.Transaction

namespace RecordFile

structure Snapshot where
  /-- The generation read, or none if the next refresh has to read again. -/
  generation? : Option UInt64
  records : Records
  dataOffset : Nat
  dataLength : Nat
  deriving DecidableEq

def Snapshot.unread : Snapshot where
  generation? := none
  records := Records.empty
  dataOffset := Layout.headerSize
  dataLength := 0

structure Environment where
  path : String
  flags : OpenFlags
  /-- Size of the mapping, which bounds what this environment commits. -/
  mapSize : UInt64
  /-- Longest mapping that there are addresses for. Whoever runs an operation sets it. -/
  room : Nat
  snapshot : Snapshot
  /-- The last growth made by somebody else, until it is taken. -/
  resized? : Option UInt64
  deriving DecidableEq

namespace Environment

/-! ### Mapping -/

/-- Replace the mapping by another one, which is made before the old one is given up. A
mapping may be longer than its file. -/
def remap (env : Environment) (mapSize : UInt64) : Except SystemError Environment :=
  if Image.longest < mapSize.toNat then .error .mappingTooLarge
  else if env.room < mapSize.toNat then .error .outOfAddresses
  else .ok { env with mapSize := mapSize }

theorem remap_of_le (env : Environment) {mapSize : UInt64}
    (short : mapSize.toNat ≤ Image.longest) (fits : mapSize.toNat ≤ env.room) :
    env.remap mapSize = .ok { env with mapSize := mapSize } := by
  unfold remap
  rw [if_neg (Nat.not_lt_of_le short), if_neg (Nat.not_lt_of_le fits)]

/-! ### Reading -/

/-- The header, read through the mapping; the payload is checked against the file. -/
def readHeader (file : Image) : Except Fault Header :=
  Header.parse (file.read 0 Layout.headerSize) file.size

def follow (env : Environment) (header : Header) : Except SystemError Environment :=
  if env.mapSize < header.mapSize then
    match env.remap header.mapSize with
    | .error cause => .error cause
    | .ok env => .ok { env with resized? := some header.mapSize }
  else .ok env

def refresh (env : Environment) (file : Image) : Except EngineError Unit × Environment :=
  match readHeader file with
  | .error fault => (.error (.invalid fault), env)
  | .ok header =>
      match env.follow header with
      | .error cause => (.error (.io cause), env)
      | .ok env =>
          if env.snapshot.generation? = some header.generation then (.ok (), env)
          else
            match file.recordsOf header with
            | .error fault => (.error (.invalid fault), env)
            | .ok records =>
                (.ok (), { env with
                  snapshot :=
                    { generation? := some header.generation
                      records := records
                      dataOffset := header.dataOffset.toNat
                      dataLength := header.dataLength.toNat } })

def get? (env : Environment) (key : Bytes) : Option Bytes :=
  env.snapshot.records.find? key

def first? (env : Environment) : Option Record :=
  env.snapshot.records.first?

def after? (env : Environment) (key : Bytes) : Option Record :=
  env.snapshot.records.after? key

def size (env : Environment) : Nat :=
  env.snapshot.records.size

/-- The last growth seen that somebody else made. It is reported once. -/
def takeResized (env : Environment) : Option UInt64 × Environment :=
  (env.resized?, { env with resized? := none })

/-! ### Opening -/

def setMapSize (header : Header) (mapSize : UInt64) (file : Image) :
    Except EngineError (Header × Image) :=
  match file.setLength mapSize.toNat with
  | .error cause => .error (.io cause)
  | .ok file =>
      .ok ({ header with mapSize := mapSize },
        file.write 0 { header with mapSize := mapSize : Header }.toBytes)

/-- The header that a file is opened with. A file without bytes gets a fresh one. -/
def openingHeader (path : String) (readOnly : Bool) (mapSize : UInt64) (file : Image) :
    Except EngineError (Header × Image) :=
  if file.size = 0 then
    if readOnly then .error (.invalid (.emptyFile path))
    else setMapSize (Header.empty mapSize) mapSize file
  else if file.size < Layout.headerSize then .error (.invalid (.shortFile path file.size))
  else
    match readHeader file with
    | .error fault => .error (.invalid fault)
    | .ok header => .ok (header, file)

def widen (header : Header) (mapSize : UInt64) (file : Image) :
    Except EngineError (Header × Image) :=
  let wanted := max header.mapSize mapSize
  if header.mapSize < wanted ∨ file.size < wanted.toNat then setMapSize header wanted file
  else .ok (header, file)

def withoutRecords (header : Header) : Header :=
  { header with generation := header.generation + 1, dataLength := 0, entries := 0 }

def discard (header : Header) (file : Image) : Header × Image :=
  if 0 < header.entries then
    (withoutRecords header, file.write 0 (withoutRecords header).toBytes)
  else (header, file)

def prepare (flags : OpenFlags) (mapSize : UInt64) (header : Header) (file : Image) :
    Except EngineError (Header × Image) :=
  match widen header mapSize file with
  | .error failure => .error failure
  | .ok (header, file) => .ok (if flags.truncate then discard header file else (header, file))

def unmapped (path : String) (flags : OpenFlags) (room : Nat) : Environment where
  path := path
  flags := flags
  mapSize := 0
  room := room
  snapshot := Snapshot.unread
  resized? := none

def attach (path : String) (flags : OpenFlags) (room : Nat) (header : Header) (file : Image) :
    Except EngineError Environment :=
  match (unmapped path flags room).remap header.mapSize with
  | .error cause => .error (.io cause)
  | .ok env =>
      match env.refresh file with
      | (.error failure, _) => .error failure
      | (.ok (), env) => .ok env

/-- Open a file. A map size below the smallest one is raised to it. A file that cannot get
the map size asked for stays as it was; one that has got it keeps it, also when it cannot be
mapped. -/
def «open» (path : String) (flags : OpenFlags) (mapSize : UInt64) (room : Nat) (file : Image) :
    Except EngineError Environment × Image :=
  let mapSize := max mapSize Layout.minimumMapSize
  match openingHeader path flags.readOnly mapSize file with
  | .error failure => (.error failure, file)
  | .ok (header, file) =>
      if flags.readOnly then
        if file.size < header.mapSize.toNat then
          (.error (.invalid (.fileBelowMapSize path file.size header.mapSize)), file)
        else (attach path flags room header file, file)
      else
        match prepare flags mapSize header file with
        | .error failure => (.error failure, file)
        | .ok (header, file) => (attach path flags room header file, file)

/-! ### Writing -/

/-- Bound for a transaction that begins now: the header and the largest payload that fits
beside the live one. -/
def transactionLimit (env : Environment) : Nat :=
  Layout.headerSize +
    Placement.capacity env.mapSize.toNat env.snapshot.dataOffset env.snapshot.dataLength

def transaction (env : Environment) : Transaction where
  records := env.snapshot.records
  dataLength := env.snapshot.dataLength
  limit := env.transactionLimit

def beginWrite (env : Environment) (file : Image) :
    Except EngineError Transaction × Environment :=
  if env.flags.readOnly then (.error .readOnly, env)
  else
    match env.refresh file with
    | (.error failure, env) => (.error failure, env)
    | (.ok (), env) => (.ok env.transaction, env)

/-- The next refresh reads the records again. -/
def forget (env : Environment) : Environment :=
  { env with snapshot := { env.snapshot with generation? := none } }

def successor (header : Header) (offset : Nat) (txn : Transaction) : Header :=
  { header with
    generation := header.generation + 1
    dataLength := UInt64.ofNat txn.dataLength
    entries := UInt64.ofNat txn.size
    dataOffset := UInt64.ofNat offset }

def store (flags : OpenFlags) (file : Image) (offset : Nat) (bytes : Bytes) : Image :=
  if flags.mapsWritable then file.overwrite offset bytes else file.write offset bytes

def publish (flags : OpenFlags) (header : Header) (payload : Bytes) (file : Image) : Image :=
  store flags (store flags file header.dataOffset.toNat payload) 0 header.toBytes

def commit (env : Environment) (txn : Transaction) (file : Image) :
    Except EngineError Unit × Environment × Image :=
  if env.flags.readOnly then (.error .readOnly, env.forget, file)
  else
    match readHeader file with
    | .error fault => (.error (.invalid fault), env.forget, file)
    | .ok header =>
        match Placement.place? env.mapSize.toNat header.dataOffset.toNat
            header.dataLength.toNat txn.dataLength with
        | none =>
            (.error (.mapFull
              (Layout.headerSize + header.dataLength.toNat + txn.dataLength)
              env.mapSize.toNat), env.forget, file)
        | some offset =>
            (.ok (), { env with
              snapshot :=
                { generation? := some (header.generation + 1)
                  records := txn.records
                  dataOffset := offset
                  dataLength := txn.dataLength } },
              publish env.flags (successor header offset txn) txn.records.encode file)

/-- Run one operation in a transaction of its own over the snapshot and commit it. An
operation that fails leaves the snapshot as it was; when the commit fails the snapshot is
left without records until the next refresh. -/
def transact {α : Type} (env : Environment)
    (operation : Transaction → Except EngineError (α × Transaction)) (file : Image) :
    Except EngineError α × Environment × Image :=
  match operation env.transaction with
  | .error failure => (.error failure, env, file)
  | .ok (result, txn) =>
      match commit { env with snapshot := { env.snapshot with records := Records.empty } }
          txn file with
      | (.error failure, env, file) => (.error failure, env, file)
      | (.ok (), env, file) => (.ok result, env, file)

/-- Store one record. With `keepExisting` a key that is present is refused. -/
def put (env : Environment) (key value : Bytes) (keepExisting : Bool) (file : Image) :
    Except EngineError Unit × Environment × Image :=
  if env.flags.readOnly then (.error .readOnly, env, file)
  else
    match env.refresh file with
    | (.error failure, env) => (.error failure, env, file)
    | (.ok (), env) =>
        env.transact (fun txn => (txn.put key value keepExisting).map fun txn => ((), txn)) file

/-- Delete one record, and tell whether it was present. An absent key is no commit. -/
def delete (env : Environment) (key : Bytes) (file : Image) :
    Except EngineError Bool × Environment × Image :=
  if env.flags.readOnly then (.error .readOnly, env, file)
  else
    match env.refresh file with
    | (.error failure, env) => (.error failure, env, file)
    | (.ok (), env) =>
        if (env.get? key).isNone then (.ok false, env, file)
        else env.transact (fun txn => .ok (txn.delete key)) file

/-- Enlarge the map to `size`, in the header, the file and the mapping. A size that is
already mapped is no change. The file gets exactly this size, so an environment that maps
less than the header announces can cut off what another one added. When the size cannot be
mapped, header and file keep it and the old mapping stays. -/
def grow (env : Environment) (size : UInt64) (file : Image) :
    Except EngineError Unit × Environment × Image :=
  if env.flags.readOnly then (.error .readOnly, env, file)
  else if size ≤ env.mapSize then (.ok (), env, file)
  else
    match readHeader file with
    | .error fault => (.error (.invalid fault), env, file)
    | .ok header =>
        match setMapSize header size file with
        | .error failure => (.error failure, env, file)
        | .ok (_, file) =>
            match env.remap size with
            | .error cause => (.error (.io cause), env, file)
            | .ok env => (.ok (), env, file)

end Environment

end RecordFile
