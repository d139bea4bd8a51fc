import Wiring.Json

/-!
Log events: what happened, where, how severe it is, and what belongs to it.
-/

namespace Wiring

inductive LogLevel where
  | debug
  | info
  | warning
  | error
  | critical
  deriving DecidableEq

namespace LogLevel

def text : LogLevel → String
  | .debug => "debug"
  | .info => "info"
  | .warning => "warning"
  | .error => "error"
  | .critical => "critical"

def weight : LogLevel → Nat
  | .debug => 10
  | .info => 20
  | .warning => 30
  | .error => 40
  | .critical => 50

def commonWords : List (String × LogLevel) :=
  [("debug", .debug), ("info", .info), ("warning", .warning), ("error", .error), ("exception", .error)]

def words : List (String × LogLevel) :=
  commonWords ++ [("warn", .warning), ("critical", .critical), ("fatal", .critical)]

end LogLevel

structure LogEvent where
  logger : String
  level : LogLevel
  event : String
  context : List (String × Json) := []
  deriving DecidableEq

end Wiring
