/-
A volume: directories, files and open descriptors.

Files are found by path and used by descriptor, the least free number at the time of the
open. Closing a descriptor drops the lock that it holds and the mapping made through it.
The clock of the volume gives the time of each change.
-/

import RecordFile.Log
import RecordFile.SharedFile
import RecordFile.Volume.Addresses
import RecordFile.Volume.Path

namespace RecordFile

structure Node where
  kind : Volume.Kind
  file : SharedFile

structure Volume where
  nodes : List (Volume.Place × Node)
  descriptors : List (Descriptor × Volume.Place)
  /-- The addresses that a mapping has, for each descriptor with one. -/
  mappings : List (Descriptor × AddressRange)
  /-- Nanoseconds since the epoch. -/
  now : Nat
  /-- The user whom new files belong to. -/
  user : Nat

namespace Volume

def firstDescriptor : Descriptor := 3

def empty (now user : Nat) : Volume where
  nodes := [([], ⟨.directory, SharedFile.empty now⟩)]
  descriptors := []
  mappings := []
  now := now
  user := user

def tick (volume : Volume) : Volume :=
  { volume with now := volume.now + 1 }

/-! ### Places -/

def node? (volume : Volume) (place : Place) : Option Node :=
  (volume.nodes.find? (·.1 == place)).map (·.2)

def kind? (volume : Volume) (place : Place) : Option Kind :=
  (volume.node? place).map (·.kind)

def locate (volume : Volume) (path : String) : Except SystemError Place :=
  resolve volume.kind? path

def set (volume : Volume) (place : Place) (node : Node) : Volume :=
  { volume with nodes := (place, node) :: volume.nodes.filter (·.1 != place) }

def modify (volume : Volume) (place : Place) (change : SharedFile → SharedFile) : Volume :=
  match volume.node? place with
  | none => volume
  | some node => volume.set place { node with file := change node.file }

def add (volume : Volume) (place : Place) (kind : Kind) : Volume :=
  (volume.set place ⟨kind, SharedFile.empty volume.now⟩).modify place.dropLast
    fun directory => { directory with modified := volume.now }

def find (volume : Volume) (path : String) : Except SystemError (Place × Node) :=
  match volume.locate path with
  | .error cause => .error cause
  | .ok place =>
      match volume.node? place with
      | none => .error .noEntry
      | some node => .ok (place, node)

def findFile (volume : Volume) (path : String) : Except SystemError (Place × SharedFile) :=
  match volume.find path with
  | .error cause => .error cause
  | .ok (place, node) =>
      match node.kind with
      | .directory => .error .isDirectory
      | .file => .ok (place, node.file)

/-- The place of a file to write, which is made if there is none. A path with a slash at the
end is refused before its last name is looked up. -/
def create (volume : Volume) (path : String) : Except SystemError Place × Volume :=
  if path.endsWith "/" then
    match resolveParent volume.kind? path with
    | .error cause => (.error cause, volume)
    | .ok _ => (.error .isDirectory, volume)
  else
    match volume.locate path with
    | .error cause => (.error cause, volume)
    | .ok place =>
        match volume.kind? place with
        | some .directory => (.error .isDirectory, volume)
        | some .file => (.ok place, volume)
        | none => (.ok place, volume.add place .file)

/-! ### Descriptors -/

def leastFree (taken : List Descriptor) : (bound : Nat) → Descriptor → Descriptor
  | 0, candidate => candidate
  | bound + 1, candidate =>
      if taken.contains candidate then leastFree taken bound (candidate + 1) else candidate

def openPlace (volume : Volume) (place : Place) : Descriptor × Volume :=
  let taken := volume.descriptors.map (·.1)
  let descriptor := leastFree taken taken.length firstDescriptor
  (descriptor, { volume with descriptors := (descriptor, place) :: volume.descriptors })

def place? (volume : Volume) (descriptor : Descriptor) : Option Place :=
  (volume.descriptors.find? (·.1 == descriptor)).map (·.2)

def close (volume : Volume) (descriptor : Descriptor) : Volume :=
  match volume.place? descriptor with
  | none => volume
  | some place =>
      { volume.modify place (·.release descriptor) with
        descriptors := volume.descriptors.filter (·.1 != descriptor)
        mappings := volume.mappings.filter (·.1 != descriptor) }

/-! ### Mappings -/

def addresses (volume : Volume) : Addresses :=
  volume.mappings.map (·.2)

def room (volume : Volume) : Nat :=
  volume.addresses.room

/-- Note the length of the mapping made through a descriptor. A mapping of another length
has been placed while the one before it was still there. -/
def noteMapping (volume : Volume) (descriptor : Descriptor) (length : Nat) : Volume :=
  if volume.mappings.any fun mapping => mapping.1 == descriptor && mapping.2.length == length then
    volume
  else
    { volume with
      mappings := (descriptor, volume.addresses.place length) ::
        volume.mappings.filter (·.1 != descriptor) }

/-! ### Using files -/

/-- Run an operation on the file of a descriptor, noting the time if it changes the
contents. A descriptor that is not open stands for an empty file that nobody sees. -/
def onFile {α : Type} (volume : Volume) (descriptor : Descriptor)
    (operation : SharedFile → α × SharedFile) : α × Volume :=
  match (volume.place? descriptor).bind fun place => (volume.node? place).map (place, ·) with
  | none => ((operation (SharedFile.empty volume.now)).1, volume)
  | some (place, node) =>
      let (result, file) := operation node.file
      (result, volume.set place { node with file := node.file.touch file volume.now })

def onImage {α : Type} (volume : Volume) (descriptor : Descriptor)
    (operation : Image → α × Image) : α × Volume :=
  volume.onFile descriptor fun file =>
    let (result, image) := operation file.image
    (result, { file with image := image })

/-! ### Files by path -/

def writeFile (volume : Volume) (path : String) (image : Image) :
    Except SystemError Unit × Volume :=
  match volume.create path with
  | (.error cause, volume) => (.error cause, volume)
  | (.ok place, volume) =>
      (.ok (), volume.modify place fun file =>
        { file with image := image, modified := volume.now })

def changeFile (volume : Volume) (path : String) (change : Image → Except SystemError Image) :
    Except SystemError Unit × Volume :=
  match volume.findFile path with
  | .error cause => (.error cause, volume)
  | .ok (place, file) =>
      match change file.image with
      | .error cause => (.error cause, volume)
      | .ok image => (.ok (), volume.modify place (·.replace image volume.now))

/-- Write into a file that exists, from an offset on. Nothing can be written anywhere. -/
def writeAt (volume : Volume) (path : String) (offset : Nat) (bytes : Bytes) :
    Except SystemError Unit × Volume :=
  volume.changeFile path fun image =>
    if !bytes.isEmpty && Image.longest < offset + bytes.length then .error .invalidArgument
    else .ok (image.write offset bytes)

def setLength (volume : Volume) (path : String) (size : Nat) : Except SystemError Unit × Volume :=
  volume.changeFile path (·.setLength size)

/-- Write runs of bytes at their offsets. The first that fails is the last. -/
def writeRuns (volume : Volume) (path : String) :
    List (Nat × Bytes) → Except SystemError Unit × Volume
  | [] => (.ok (), volume)
  | (offset, bytes) :: rest =>
      match volume.writeAt path offset bytes with
      | (.error cause, volume) => (.error cause, volume)
      | (.ok (), volume) => volume.writeRuns path rest

/-- Make a file anew from runs of bytes over zeros, and then set its length. A failure leaves
what was done before it. -/
def compose (volume : Volume) (path : String) (runs : List (Nat × Bytes)) (size : Nat) :
    Except SystemError Unit × Volume :=
  match volume.writeFile path Image.empty with
  | (.error cause, volume) => (.error cause, volume)
  | (.ok (), volume) =>
      match volume.writeRuns path runs with
      | (.error cause, volume) => (.error cause, volume)
      | (.ok (), volume) => volume.setLength path size

def makeDirectory (volume : Volume) (path : String) : Except SystemError Unit × Volume :=
  match resolveName volume.kind? path with
  | .error cause => (.error cause, volume)
  | .ok place =>
      match volume.node? place with
      | some _ => (.error .alreadyExists, volume)
      | none => (.ok (), volume.add place .directory)

def setModified (volume : Volume) (path : String) (time : Nat) :
    Except SystemError Unit × Volume :=
  match volume.findFile path with
  | .error cause => (.error cause, volume)
  | .ok (place, _) =>
      (.ok (), volume.modify place fun file => { file with modified := time })

def read (volume : Volume) (path : String) : Except SystemError Image :=
  (volume.findFile path).map (·.2.image)

def modified? (volume : Volume) (path : String) : Option Nat :=
  match volume.find path with
  | .error _ => none
  | .ok (_, node) => some node.file.modified

def openForReading (volume : Volume) (path : String) : Except SystemError Descriptor × Volume :=
  match volume.find path with
  | .error cause => (.error cause, volume)
  | .ok (place, _) =>
      let (descriptor, volume) := volume.openPlace place
      (.ok descriptor, volume)

def openDatabase (volume : Volume) (path : String) (creating : Bool) :
    Except SystemError Descriptor × Volume :=
  let found :=
    if creating then volume.create path
    else ((volume.findFile path).map (·.1), volume)
  match found with
  | (.error cause, volume) => (.error cause, volume)
  | (.ok place, volume) =>
      let (descriptor, volume) := volume.openPlace place
      (.ok descriptor, volume)

/-! ### Locks -/

/-- Lock an open descriptor. Whoever would have to wait is taken to have waited. -/
def lock (volume : Volume) (descriptor? : Option Descriptor) (mode : LockMode) :
    Except SystemError Unit × Volume :=
  match descriptor?.bind fun descriptor => (volume.place? descriptor).map (descriptor, ·) with
  | none => (.error .badDescriptor, volume)
  | some (descriptor, place) => (.ok (), volume.modify place (·.acquire descriptor mode))

def unlock (volume : Volume) (descriptor? : Option Descriptor) :
    Except SystemError Unit × Volume :=
  match descriptor?.bind fun descriptor => (volume.place? descriptor).map (descriptor, ·) with
  | none => (.error .badDescriptor, volume)
  | some (descriptor, place) => (.ok (), volume.modify place (·.release descriptor))

def probe (volume : Volume) (path : String) : Except SystemError (Option LockMode) :=
  (volume.find path).map (·.2.file.locks.strongest?)

end Volume

/-- A lock that is held until it is released. One that was not enabled holds nothing. -/
structure LockGuard where
  descriptor? : Option Descriptor
  deriving DecidableEq, Repr

namespace LockGuard

def isHeld (guard : LockGuard) : Bool :=
  guard.descriptor?.isSome

def acquire (volume : Volume) (descriptor? : Option Descriptor) (mode : LockMode)
    (enabled : Bool) : Except SystemError LockGuard × Volume :=
  if enabled then
    match volume.lock descriptor? mode with
    | (.error cause, volume) => (.error cause, volume)
    | (.ok (), volume) => (.ok ⟨descriptor?⟩, volume)
  else (.ok ⟨none⟩, volume)

def release (guard : LockGuard) (volume : Volume) : Except SystemError Unit × Volume :=
  match guard.descriptor? with
  | none => (.ok (), volume)
  | some descriptor => volume.unlock (some descriptor)

/-- Release a guard when nobody looks at the result. A failure is logged. -/
def drop (guard : LockGuard) (volume : Volume) : List LogLine × Volume :=
  match guard.descriptor? with
  | none => ([], volume)
  | some descriptor =>
      match volume.unlock (some descriptor) with
      | (.ok (), volume) => ([], volume)
      | (.error cause, volume) =>
          ([⟨.error, s!"unlock fd {descriptor}: " ++ cause.message⟩], volume)

end LockGuard

end RecordFile
