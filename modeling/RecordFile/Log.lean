/-
Lines for the log of the host process.
-/

namespace RecordFile

inductive LogLevel where
  | info
  | warn
  | error
  deriving DecidableEq, Repr

structure LogLine where
  level : LogLevel
  text : String
  deriving DecidableEq, Repr

namespace LogLine

def render (line : LogLine) : String :=
  match line.level with
  | .info => "INFO " ++ line.text
  | .warn => "WARN " ++ line.text
  | .error => "ERROR " ++ line.text

end LogLine

end RecordFile
