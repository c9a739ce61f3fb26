/-
Opening environments, sessions and dictionaries by path, and using them by descriptor.

A failed open closes the descriptor again; what it did to the file stays done. An operation
is told how long a mapping can be at its start, and the mapping that it ends with is noted.
-/

import RecordFile.Dictionary.Load
import RecordFile.Dictionary.Open
import RecordFile.Dictionary.Surrogate
import RecordFile.Volume.Basic

namespace RecordFile.Volume

def openAs (volume : Volume) (path : String) (flags : OpenFlags) :
    Except EngineError Descriptor × Volume :=
  match volume.openDatabase path (flags.create && !flags.readOnly) with
  | (.error cause, volume) => (.error (.io cause), volume)
  | (.ok descriptor, volume) => (.ok descriptor, volume)

/-! ### Environments and sessions -/

def openEnvironment (volume : Volume) (path : String) (flags : OpenFlags) (mapSize : UInt64) :
    Except EngineError (Descriptor × Environment) × Volume :=
  match volume.openAs path flags with
  | (.error failure, volume) => (.error failure, volume)
  | (.ok descriptor, volume) =>
      match volume.onImage descriptor (Environment.open path flags mapSize volume.room) with
      | (.error failure, volume) => (.error failure, volume.close descriptor)
      | (.ok env, volume) =>
          (.ok (descriptor, env), volume.noteMapping descriptor env.mapSize.toNat)

def onEnvironment {α : Type} (volume : Volume) (descriptor : Descriptor) (env : Environment)
    (operation : Environment → Image → α × Environment × Image) : (α × Environment) × Volume :=
  match volume.onImage descriptor fun image =>
      let (result, env, image) := operation { env with room := volume.room } image
      ((result, env), image) with
  | ((result, env), volume) =>
      ((result, env), volume.noteMapping descriptor env.mapSize.toNat)

def noteSession (volume : Volume) (descriptor : Descriptor) (session : Session) : Volume :=
  match session.limit? with
  | none => volume
  | some mapSize => volume.noteMapping descriptor mapSize.toNat

/-- Open a session on another file. A failure leaves it as it was. -/
def openSession (volume : Volume) (session : Session) (path : String) (flags : OpenFlags)
    (bulk : Bool) : Except EngineError (Descriptor × Session) × Volume :=
  match volume.openAs path flags with
  | (.error failure, volume) => (.error failure, volume)
  | (.ok descriptor, volume) =>
      match volume.onImage descriptor (fun image =>
          match session.open path flags bulk volume.room image with
          | (.error failure, _, image) => (Except.error failure, image)
          | (.ok (), session, image) => (.ok session, image)) with
      | (.error failure, volume) => (.error failure, volume.close descriptor)
      | (.ok session, volume) =>
          (.ok (descriptor, session), volume.noteSession descriptor session)

def onSession {α : Type} (volume : Volume) (descriptor : Descriptor) (session : Session)
    (operation : Session → Image → α × Session × Image) : (α × Session) × Volume :=
  match volume.onImage descriptor fun image =>
      let (result, session, image) := operation (session.withRoom volume.room) image
      ((result, session), image) with
  | ((result, session), volume) =>
      ((result, session), volume.noteSession descriptor session)

/-! ### Dictionaries -/

def openDictionary (volume : Volume) (path : String) (mode : OpenMode) (flags : DictionaryFlags)
    (config : DictionaryConfig) : Except OpenError Dictionary × Volume :=
  match Dictionary.newSession config with
  | .error failure => (.error (.engine (Dictionary.databasePath path) failure), volume)
  | .ok session =>
      match volume.openAs (Dictionary.databasePath path) (Dictionary.openFlags mode flags) with
      | (.error failure, volume) =>
          (.error (.engine (Dictionary.databasePath path) failure), volume)
      | (.ok descriptor, volume) =>
          let opened :=
            volume.onFile descriptor
              (Dictionary.open session path mode flags config descriptor
                (Owner.ofUser volume.user) volume.room (volume.modified? path) volume.now)
          match opened with
          | (.error failure, volume) => (.error failure, volume.close descriptor)
          | (.ok dict, volume) => (.ok dict, volume.noteSession descriptor dict.session)

/-- Open a dictionary, or a stand-in when the engine cannot open it. Also gives the lines
to log. -/
def openHandle (volume : Volume) (path : String) (mode : OpenMode) (flags : DictionaryFlags)
    (config : DictionaryConfig) :
    Except OpenError DictionaryHandle × List LogLine × Volume :=
  let (opened, volume) := volume.openDictionary path mode flags config
  let (handle, lines) := DictionaryHandle.ofOpen path flags opened
  (handle, lines, volume)

def onDictionary {α : Type} (volume : Volume) (dict : Dictionary)
    (operation : Dictionary → SharedFile → α × Dictionary × SharedFile) :
    (α × Dictionary) × Volume :=
  match volume.onFile dict.descriptor fun file =>
      let (result, dict, file) :=
        operation { dict with session := dict.session.withRoom volume.room } file
      ((result, dict), file) with
  | ((result, dict), volume) =>
      ((result, dict), volume.noteSession dict.descriptor dict.session)

/-- Run an operation on a handle. A stand-in answers with its failure. -/
def onHandle {α : Type} (volume : Volume) (handle : DictionaryHandle)
    (operation : Dictionary → SharedFile →
      Except DictionaryError α × Dictionary × SharedFile) :
    Except DictionaryError α × DictionaryHandle × Volume :=
  match handle with
  | .surrogate stand => (.error stand.failure, .surrogate stand, volume)
  | .live dict =>
      match volume.onDictionary dict operation with
      | ((result, dict), volume) => (result, .live dict, volume)

def dropHandle (volume : Volume) : DictionaryHandle → Volume
  | .surrogate _ => volume
  | .live dict => volume.close dict.descriptor

/-- Close a handle. It is gone whatever the result; the lines are what it logged. -/
def closeHandle (volume : Volume) (handle : DictionaryHandle) :
    Except DictionaryError Unit × List LogLine × Volume :=
  match handle with
  | .surrogate _ => (.ok (), [], volume)
  | .live dict =>
      match volume.onDictionary dict Dictionary.close with
      | ((result, closed), volume) => (result, closed.log, volume.close dict.descriptor)

end RecordFile.Volume
