/-
A session: an environment whose map grows when a write does not fit.

Outside bulk mode each write is a transaction of its own, and a write that does not fit is
tried again after each growth step, within a budget per call. In bulk mode reads and
writes go to one pending transaction, begun by the first of them and published by `commit`
alone. When that does not fit it is discarded as a whole, the map grows one step and the
call reports `retry`, within a budget that a successful commit renews.

A session that is listened to collects a notification for each change of the map size
that it makes or observes, oldest first, until they are taken.
-/

import RecordFile.Environment
import RecordFile.Notification

namespace RecordFile

structure SessionConfig where
  /-- Map size of a new database, and the least one of any that is opened. -/
  initialMapSize : UInt64 := 8192
  /-- Factor of a growth step. -/
  growthMultiplier : UInt64 := 2
  maxMapSize : UInt64 := 9223372036854775807
  deriving DecidableEq, Repr

inductive CursorMove where
  | first
  | next
  deriving DecidableEq, Repr

inductive Control where
  /-- Retries per call outside bulk mode. -/
  | apiRetryLimit (limit : Nat)
  /-- Restarts per bulk transaction. -/
  | bulkRetryLimit (limit : Nat)
  /-- Collect notifications. -/
  | notify
  deriving DecidableEq, Repr

structure Session where
  config : SessionConfig
  env? : Option Environment
  /-- Whether writes are collected in one transaction. -/
  bulk : Bool
  pending? : Option Transaction
  /-- Restarts since the bulk transaction was last committed. -/
  bulkRetries : Nat
  apiRetryLimit : Nat
  bulkRetryLimit : Nat
  listening : Bool
  notifications : List Notification
  /-- The key that the cursor returned last. -/
  cursor? : Option Bytes
  deriving DecidableEq

namespace Session

def defaultApiRetryLimit : Nat := 2

/-- One restart for each doubling of the map over a 64-bit address space, twice over. -/
def defaultBulkRetryLimit : Nat := 128

def init (config : SessionConfig) : Except EngineError Session :=
  if config.growthMultiplier < 2 then
    .error (.invalid (.smallGrowthMultiplier config.growthMultiplier))
  else if config.initialMapSize < Layout.minimumMapSize ∨
      config.maxMapSize < config.initialMapSize then
    .error (.invalid (.initialMapSizeOutside config.initialMapSize config.maxMapSize))
  else
    .ok
      { config := config
        env? := none
        bulk := false
        pending? := none
        bulkRetries := 0
        apiRetryLimit := defaultApiRetryLimit
        bulkRetryLimit := defaultBulkRetryLimit
        listening := false
        notifications := []
        cursor? := none }

/-- Open a database file. A failure leaves the session as it was. -/
def «open» (session : Session) (path : String) (flags : OpenFlags) (bulk : Bool) (room : Nat)
    (file : Image) : Except EngineError Unit × Session × Image :=
  match Environment.open path flags session.config.initialMapSize room file with
  | (.error failure, file) => (.error failure, session, file)
  | (.ok env, file) =>
      (.ok (), { session with
        env? := some env
        bulk := bulk
        pending? := none
        bulkRetries := 0
        cursor? := none }, file)

def limit? (session : Session) : Option UInt64 :=
  session.env?.map (·.mapSize)

def withRoom (session : Session) (room : Nat) : Session :=
  { session with env? := session.env?.map fun env => { env with room := room } }

/-! ### Notifications -/

def control (session : Session) : Control → Session
  | .apiRetryLimit limit => { session with apiRetryLimit := limit }
  | .bulkRetryLimit limit => { session with bulkRetryLimit := limit }
  | .notify => { session with listening := true }

def emit (session : Session) (notification : Notification) : Session :=
  if session.listening then
    { session with notifications := session.notifications ++ [notification] }
  else session

def takeNotifications (session : Session) : List Notification × Session :=
  (session.notifications, { session with notifications := [] })

def reportResize (session : Session) : Session :=
  match session.env? with
  | none => session
  | some env =>
      match env.takeResized with
      | (none, _) => session
      | (some size, env) => { session with env? := some env }.emit (.mapResized size)

/-! ### Growth -/

/-- The map size after one growth step. -/
def nextSize (config : SessionConfig) (current : UInt64) : UInt64 :=
  UInt64.ofNat (min (current.toNat * config.growthMultiplier.toNat) config.maxMapSize.toNat)

/-- Grow the map by one step. The answer is no when it has its largest size. -/
def grow (session : Session) (file : Image) : Except EngineError Bool × Session × Image :=
  match session.env? with
  | none => (.error .notOpen, session, file)
  | some env =>
      if session.config.maxMapSize ≤ env.mapSize then (.ok false, session, file)
      else
        let size := nextSize session.config env.mapSize
        match env.grow size file with
        | (.error failure, env, file) => (.error failure, { session with env? := some env }, file)
        | (.ok (), env, file) =>
            (.ok true, { session with env? := some env }.emit (.mapFull size), file)

/-- Run an operation on the environment, growing the map and trying again, `budget` times
at most, while it does not fit. -/
def growing {α : Type}
    (operation : Environment → Image → Except EngineError α × Environment × Image) :
    (budget : Nat) → Session → Image → Except EngineError α × Session × Image
  | budget, session, file =>
      match session.env? with
      | none => (.error .notOpen, session, file)
      | some env =>
          match operation env file with
          | (.ok result, env, file) =>
              (.ok result, { session with env? := some env }.reportResize, file)
          | (.error failure, env, file) =>
              let session := { session with env? := some env }.reportResize
              if failure.isMapFull then
                match budget with
                | 0 => (.error (.retryLimit session.apiRetryLimit failure), session, file)
                | budget + 1 =>
                    match session.grow file with
                    | (.error failure, session, file) => (.error failure, session, file)
                    | (.ok false, session, file) =>
                        (.error (.retryLimit session.apiRetryLimit failure), session, file)
                    | (.ok true, session, file) => growing operation budget session file
              else (.error failure, session, file)

/-! ### The bulk transaction -/

/-- The pending transaction. If there is none, one begins over the committed records. -/
def bulkTransaction (session : Session) (file : Image) :
    Except EngineError Transaction × Session :=
  match session.pending? with
  | some txn => (.ok txn, session)
  | none =>
      match session.env? with
      | none => (.error .notOpen, session)
      | some env =>
          match env.beginWrite file with
          | (.error failure, env) => (.error failure, { session with env? := some env })
          | (.ok txn, env) =>
              (.ok txn,
                { { session with env? := some env }.reportResize with pending? := some txn })

/-- Discard the pending transaction, which did not fit, and grow the map so that the caller
can start over. -/
def restart {α : Type} (session : Session) (cause : EngineError) (file : Image) :
    Except EngineError α × Session × Image :=
  let session := { session with pending? := none, cursor? := none }
  if session.bulkRetryLimit ≤ session.bulkRetries then
    (.error (.retryLimit session.bulkRetryLimit cause), session, file)
  else
    match session.grow file with
    | (.error failure, session, file) => (.error failure, session, file)
    | (.ok false, session, file) =>
        (.error (.retryLimit session.bulkRetryLimit cause), session, file)
    | (.ok true, session, file) =>
        (.error .retry, { session with bulkRetries := session.bulkRetries + 1 }, file)

/-! ### Reading -/

/-- Bring the records that this session reads up to date: the pending transaction in bulk
mode, the snapshot otherwise. -/
def view (session : Session) (file : Image) : Except EngineError Records × Session :=
  if session.bulk then
    match session.bulkTransaction file with
    | (.error failure, session) => (.error failure, session)
    | (.ok txn, session) => (.ok txn.records, session)
  else
    match session.env? with
    | none => (.error .notOpen, session)
    | some env =>
        match env.refresh file with
        | (.error failure, env) => (.error failure, { session with env? := some env })
        | (.ok (), env) =>
            (.ok env.snapshot.records, { session with env? := some env }.reportResize)

def get (session : Session) (key : Bytes) (file : Image) :
    Except EngineError (Option Bytes) × Session :=
  match session.view file with
  | (.error failure, session) => (.error failure, session)
  | (.ok records, session) => (.ok (records.find? key), session)

def destination (cursor? : Option Bytes) (move : CursorMove) (records : Records) :
    Option Record :=
  match move, cursor? with
  | .next, some last => records.after? last
  | _, _ => records.first?

/-- Move the cursor. It remembers the last key returned, so the next record is found also
when the database has changed; at the end it stays where it is. -/
def seek (session : Session) (move : CursorMove) (file : Image) :
    Except EngineError (Option Record) × Session :=
  match session.view file with
  | (.error failure, session) => (.error failure, session)
  | (.ok records, session) =>
      match destination session.cursor? move records with
      | none => (.ok none, session)
      | some record => (.ok (some record), { session with cursor? := some record.1 })

/-! ### Writing -/

/-- Store a record. With `keepExisting` a key that is present is refused. -/
def put (session : Session) (key value : Bytes) (keepExisting : Bool) (file : Image) :
    Except EngineError Unit × Session × Image :=
  if session.bulk then
    match session.bulkTransaction file with
    | (.error failure, session) => (.error failure, session, file)
    | (.ok txn, session) =>
        match txn.put key value keepExisting with
        | .ok txn => (.ok (), { session with pending? := some txn }, file)
        | .error failure =>
            if failure.isMapFull then session.restart failure file
            else (.error failure, session, file)
  else
    growing (fun env file => env.put key value keepExisting file) session.apiRetryLimit
      session file

def delete (session : Session) (key : Bytes) (file : Image) :
    Except EngineError Bool × Session × Image :=
  if session.bulk then
    match session.bulkTransaction file with
    | (.error failure, session) => (.error failure, session, file)
    | (.ok txn, session) =>
        (.ok (txn.delete key).1, { session with pending? := some (txn.delete key).2 }, file)
  else
    growing (fun env file => env.delete key file) session.apiRetryLimit session file

def commit (session : Session) (file : Image) : Except EngineError Unit × Session × Image :=
  match session.pending? with
  | none => (.ok (), session, file)
  | some txn =>
      let session := { session with pending? := none }
      match session.env? with
      | none => (.error .notOpen, session, file)
      | some env =>
          match env.commit txn file with
          | (.ok (), env, file) =>
              (.ok (), { session with env? := some env, bulkRetries := 0 }, file)
          | (.error failure, env, file) =>
              if failure.isMapFull then { session with env? := some env }.restart failure file
              else (.error failure, { session with env? := some env }, file)

/-- Publish what is pending. The session is not used afterwards, whatever the result. -/
def close (session : Session) (file : Image) : Except EngineError Unit × Session × Image :=
  session.commit file

end Session

end RecordFile
