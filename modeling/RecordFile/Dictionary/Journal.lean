/-
How dictionaries are named in messages, and what they log about their map.
-/

import RecordFile.Layout
import RecordFile.Log
import RecordFile.Notification

namespace RecordFile.Dictionary

def kind : String := "mapstore"

def labelOf (path : String) : String :=
  kind ++ ":" ++ path

def databasePath (path : String) : String :=
  path ++ "." ++ Layout.fileSuffix

def notificationLine (label : String) : Notification → LogLine
  | .opened limit => ⟨.info, s!"database {label}: using size limit {limit} during open"⟩
  | .mapFull limit => ⟨.info, s!"database {label}: using size limit {limit} after map full"⟩
  | .mapResized limit =>
      ⟨.info, s!"database {label}: using size limit {limit} after map resized"⟩
  | .readersFull => ⟨.info, s!"database {label}: pausing after readers full"⟩

end RecordFile.Dictionary
