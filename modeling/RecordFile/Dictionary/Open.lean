/-
Opening a dictionary on a file that is already open as a descriptor.

In bulk mode the descriptor takes an exclusive lock and at once a shared one instead, so
that nobody still reads when it is granted and other writers that lock stay out until this
handle first releases a lock.
-/

import RecordFile.Dictionary.Basic
import RecordFile.Dictionary.Mode

namespace RecordFile.Dictionary

def growthMultiplier : UInt64 := 2

def largestMapSize : UInt64 := 9223372036854775807

def apiRetryLimit : Nat := 2

def bulkRetryLimit : Nat := 128

/-- The flags that the database file is opened with. A file that everybody can read is
written through the mapping, so that it never shows memory of the process. -/
def openFlags (mode : OpenMode) (flags : DictionaryFlags) : OpenFlags :=
  { mode.openFlags with writeMap := flags.worldReadable }

def newSession (config : DictionaryConfig) : Except EngineError Session :=
  Session.init
    { initialMapSize := config.mapSize
      growthMultiplier := growthMultiplier
      maxMapSize := largestMapSize }

/-- Whether a source file deserves a warning: it is newer than the database, and has not
changed within the grace period. Times are in nanoseconds. -/
def isStale (config : DictionaryConfig) (source database now : Nat) : Bool :=
  database < source && config.staleGrace ≤ now && source < now - config.staleGrace

def handshake (flags : DictionaryFlags) (descriptor : Descriptor) (file : SharedFile) :
    SharedFile :=
  if flags.bulk then (file.acquire descriptor .exclusive).acquire descriptor .shared else file

/-- The session with the retry budgets of a dictionary, and listened to if that is asked. -/
def tune (config : DictionaryConfig) (session : Session) : Session :=
  let session :=
    (session.control (.apiRetryLimit apiRetryLimit)).control (.bulkRetryLimit bulkRetryLimit)
  if config.verbose then session.control .notify else session

/-- What is logged about an open: a source file that is newer, and the map size. -/
def openingLog (path : String) (flags : DictionaryFlags) (config : DictionaryConfig)
    (source? : Option Nat) (database now : Nat) (limit : UInt64) : List LogLine :=
  let stale := flags.lock && source?.any fun source => isStale config source database now
  (if stale then
    [⟨.warn, s!"database {databasePath path} is older than source file {path}"⟩]
  else [])
    ++ if config.verbose then [notificationLine (labelOf path) (.opened limit)] else []

/-- Open a dictionary. `room` is the longest mapping that there are addresses for, `source?`
the time of the last change of the source file, if there is one, and `now` the time of the
open. -/
def «open» (session : Session) (path : String) (mode : OpenMode) (flags : DictionaryFlags)
    (config : DictionaryConfig) (descriptor : Descriptor) (owner : Owner) (room : Nat)
    (source? : Option Nat) (now : Nat) (file : SharedFile) :
    Except OpenError Dictionary × SharedFile :=
  match session.open (databasePath path) (openFlags mode flags) flags.bulk room file.image with
  | (.error failure, _, image) =>
      (.error (.engine (databasePath path) failure), file.replace image now)
  | (.ok (), session, image) =>
      let file := handshake flags descriptor (file.replace image now)
      (.ok
        { name := path
          flags := flags
          defaultForm := config.defaultForm
          encoding := Encoding.ofFlags flags
          descriptor := descriptor
          modified := file.modified
          owner := owner
          session := tune config session
          log := openingLog path flags config source? file.modified now
            (session.limit?.getD 0) },
        file)

end RecordFile.Dictionary
