/-
A dictionary: names and values over a database file.

A name is folded if the handle folds case, and stored in the form that the handle has
settled on. With locking on, each operation holds a lock on the file while it uses the
engine, shared for reading and exclusive for writing, and holds none when it returns,
whatever its result. All use of the engine goes through `engine`, which also notes the
call and the lock held with the file and turns what the session reports into log lines.

The log lines of a handle stay with it, oldest first, until they are taken.
-/

import RecordFile.Dictionary.Config
import RecordFile.Dictionary.Encoding
import RecordFile.Dictionary.Error
import RecordFile.Dictionary.Journal
import RecordFile.Dictionary.Owner
import RecordFile.Session
import RecordFile.SharedFile

namespace RecordFile

structure Dictionary where
  /-- The path it was opened with, without suffix. -/
  name : String
  flags : DictionaryFlags
  defaultForm : Form
  encoding : Encoding
  descriptor : Descriptor
  /-- Time of the last change of the file when it was opened, in nanoseconds. -/
  modified : Nat
  owner : Owner
  session : Session
  log : List LogLine
  deriving DecidableEq

inductive UpdateOutcome where
  | stored
  /-- The key existed, and its value was kept. -/
  | duplicate
  deriving DecidableEq, Repr

namespace Dictionary

def label (dict : Dictionary) : String :=
  labelOf dict.name

def path (dict : Dictionary) : String :=
  databasePath dict.name

def policy (dict : Dictionary) : DuplicatePolicy :=
  dict.flags.policy

def currentFlags (dict : Dictionary) : DictionaryFlags :=
  dict.encoding.showIn dict.flags

def mapLimit (dict : Dictionary) : UInt64 :=
  dict.session.limit?.getD 0

def note (dict : Dictionary) (line : LogLine) : Dictionary :=
  { dict with log := dict.log ++ [line] }

def takeLog (dict : Dictionary) : List LogLine × Dictionary :=
  (dict.log, { dict with log := [] })

def fold (dict : Dictionary) (name : String) : String :=
  if dict.flags.foldCase then name.map Char.toLower else name

/-! ### Engine and lock -/

def engine {α : Type} (dict : Dictionary) (call : EngineCall)
    (run : Session → Image → α × Session × Image) (file : SharedFile) :
    α × Dictionary × SharedFile :=
  let (result, session, image) := run dict.session file.image
  let (notifications, session) := session.takeNotifications
  (result,
    { dict with
      session := session
      log := dict.log ++ notifications.map (notificationLine dict.label) },
    { file with
      image := image
      accesses := ⟨dict.descriptor, call, file.locks.held? dict.descriptor⟩ :: file.accesses })

def engineRead {α : Type} (dict : Dictionary) (call : EngineCall)
    (run : Session → Image → α × Session) (file : SharedFile) : α × Dictionary × SharedFile :=
  dict.engine call
    (fun session image => ((run session image).1, (run session image).2, image)) file

def lock (dict : Dictionary) (mode : LockMode) (file : SharedFile) : SharedFile :=
  if dict.flags.lock then file.acquire dict.descriptor mode else file

def unlock (dict : Dictionary) (file : SharedFile) : SharedFile :=
  if dict.flags.lock then file.release dict.descriptor else file

def locked {α : Type} (dict : Dictionary) (mode : LockMode)
    (operation : Dictionary → SharedFile → α × Dictionary × SharedFile) (file : SharedFile) :
    α × Dictionary × SharedFile :=
  let (result, after, file) := operation dict (dict.lock mode file)
  (result, after, dict.unlock file)

/-! ### Finding -/

/-- Try forms in order, up to the first hit or failure. A hit settles the encoding. -/
def tryForms {α : Type} (key : Bytes) (action : EngineAction)
    (attempt : Bytes → Dictionary → SharedFile →
      Except EngineError (Option α) × Dictionary × SharedFile) :
    List Form → Dictionary → SharedFile →
      Except DictionaryError (Option α) × Dictionary × SharedFile
  | [], dict, file => (.ok none, dict, file)
  | form :: rest, dict, file =>
      match attempt (form.encode key) dict file with
      | (.error failure, dict, file) =>
          (.error (.ofEngine action dict.label failure), dict, file)
      | (.ok none, dict, file) => tryForms key action attempt rest dict file
      | (.ok (some hit), dict, file) =>
          (.ok (some hit), { dict with encoding := dict.encoding.confirm form }, file)

def fetch (key : Bytes) (dict : Dictionary) (file : SharedFile) :
    Except EngineError (Option Bytes) × Dictionary × SharedFile :=
  dict.engineRead .get (fun session image => session.get key image) file

/-- Remove a key through the engine. A key that is absent is no hit. -/
def remove (key : Bytes) (dict : Dictionary) (file : SharedFile) :
    Except EngineError (Option Unit) × Dictionary × SharedFile :=
  dict.engine .delete
    (fun session image =>
      match session.delete key image with
      | (.error failure, after) => (.error failure, after)
      | (.ok present, after) => (.ok (if present then some () else none), after))
    file

def lookup (dict : Dictionary) (name : String) (file : SharedFile) :
    Except DictionaryError (Option Bytes) × Dictionary × SharedFile :=
  dict.locked .shared
    (fun dict file =>
      match tryForms (Bytes.ofText (dict.fold name)) .reading fetch dict.encoding.candidates
          dict file with
      | (.error failure, after) => (.error failure, after)
      | (.ok value?, after) => (.ok (value?.map Bytes.untilZero), after))
    file

def delete (dict : Dictionary) (name : String) (file : SharedFile) :
    Except DictionaryError Bool × Dictionary × SharedFile :=
  dict.locked .exclusive
    (fun dict file =>
      match tryForms (Bytes.ofText (dict.fold name)) .deletingFrom remove
          dict.encoding.candidates dict file with
      | (.error failure, after) => (.error failure, after)
      | (.ok hit?, after) => (.ok hit?.isSome, after))
    file

/-! ### Storing -/

/-- What an update makes of the engine's answer. `key` is the folded name. -/
def updateResult (dict : Dictionary) (key : String) :
    Except EngineError Unit → Except DictionaryError UpdateOutcome × Dictionary
  | .ok () => (.ok .stored, dict)
  | .error .keyExists =>
      match dict.policy with
      | .ignore => (.ok .duplicate, dict)
      | .warn =>
          (.ok .duplicate,
            dict.note ⟨.warn, dict.label ++ ": duplicate entry: \"" ++ key ++ "\""⟩)
      | .fatal | .replace => (.error (.duplicate dict.label key), dict)
  | .error failure => (.error (.ofEngine .updating dict.label failure), dict)

/-- Store a value under a name. An undecided handle settles on its default form first,
whatever comes of the update. -/
def update (dict : Dictionary) (name : String) (value : Bytes) (file : SharedFile) :
    Except DictionaryError UpdateOutcome × Dictionary × SharedFile :=
  let key := dict.fold name
  let form := dict.encoding.formToWrite dict.defaultForm
  let dict := { dict with encoding := dict.encoding.forWrite dict.defaultForm }
  let (stored, dict, file) :=
    dict.locked .exclusive
      (fun dict file =>
        dict.engine .put
          (fun session image =>
            session.put (form.encode (Bytes.ofText key)) (form.encode value)
              (!dict.policy.overwrites) image)
          file)
      file
  let (result, dict) := dict.updateResult key stored
  (result, dict, file)

/-! ### Scanning -/

/-- Step through the records in key order. Key and value are read up to their first zero
byte. The lock is held for one step only. -/
def sequence (dict : Dictionary) (move : CursorMove) (file : SharedFile) :
    Except DictionaryError (Option Record) × Dictionary × SharedFile :=
  dict.locked .shared
    (fun dict file =>
      match dict.engineRead .seek (fun session image => session.seek move image) file with
      | (.error failure, after) => (.error (.ofEngine .seeking dict.label failure), after)
      | (.ok record?, after) =>
          (.ok (record?.map fun record =>
            (Bytes.untilZero record.1, Bytes.untilZero record.2)), after))
    file

/-! ### Committing -/

/-- Publish the pending bulk transaction. Outside bulk mode there is nothing to do. -/
def commit (dict : Dictionary) (file : SharedFile) :
    Except DictionaryError Unit × Dictionary × SharedFile :=
  if dict.session.bulk then
    dict.locked .exclusive
      (fun dict file =>
        match dict.engine .commit (fun session image => session.commit image) file with
        | (.error failure, after) =>
            (.error (.ofEngine .committing dict.label failure), after)
        | (.ok (), after) => (.ok (), after))
      file
  else (.ok (), dict, file)

/-- Commit and close the session. The handle is not used afterwards, whatever the result;
its descriptor is left to whoever opened it. -/
def close (dict : Dictionary) (file : SharedFile) :
    Except DictionaryError Unit × Dictionary × SharedFile :=
  match dict.commit file with
  | (.error failure, after) => (.error failure, after)
  | (.ok (), dict, file) =>
      match dict.engine .close (fun session image => session.close image) file with
      | (.error failure, after) => (.error (.ofEngine .closing dict.label failure), after)
      | (.ok (), after) => (.ok (), after)

end Dictionary

end RecordFile
