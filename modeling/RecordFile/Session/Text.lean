/-
Sessions and control requests as diagnostics show them.
-/

import RecordFile.Session
import RecordFile.Text.Quoted

namespace RecordFile

def fieldTexts (fields : List (String × String)) : String :=
  ", ".intercalate (fields.map fun field => field.1 ++ ": " ++ field.2)

def truthText (value : Bool) : String :=
  if value then "true" else "false"

def SessionConfig.describe (config : SessionConfig) : String :=
  "SessionConfig \x7b " ++ fieldTexts
    [("initial_map_size", toString config.initialMapSize),
      ("growth_multiplier", toString config.growthMultiplier),
      ("max_map_size", toString config.maxMapSize)] ++ " \x7d"

/-- The settings and counters of a session. What else it holds is not shown. -/
def Session.describe (session : Session) : String :=
  let path := match session.env? with
    | none => "None"
    | some env => "Some(" ++ Text.quote env.path ++ ")"
  "Session \x7b " ++ fieldTexts
    [("config", session.config.describe),
      ("path", path),
      ("bulk_mode", truthText session.bulk),
      ("bulk_retries", toString session.bulkRetries),
      ("api_retry_limit", toString session.apiRetryLimit),
      ("bulk_retry_limit", toString session.bulkRetryLimit)] ++ ", .. \x7d"

def Control.describe : Control → String
  | .apiRetryLimit limit => "ApiRetryLimit(" ++ toString limit ++ ")"
  | .bulkRetryLimit limit => "BulkRetryLimit(" ++ toString limit ++ ")"
  | .notify => "Notify(..)"

end RecordFile
