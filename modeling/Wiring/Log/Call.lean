import Wiring.Assoc
import Wiring.Log

/-!
Calls on loggers, and the events that they make. What goes with a call wins over what was bound to its logger before.
-/

namespace Wiring

structure LogCall where
  method : String
  event : String
  bound : List (String × Json) := []
  context : List (String × Json) := []

namespace LogCall

inductive Fault where
  | reservedName (name : String)
  | unknownMethod (method : String)
  | notARecord
  | notAText
  deriving DecidableEq

def tracing (c : LogCall) : List (String × Json) :=
  if c.method = "exception" then [("exc_info", .bool true)] else []

def reserved : List String :=
  ["self", "event", "method_name"]

def toEvent (logger : String) (methods : List (String × LogLevel)) (c : LogCall) : Except Fault LogEvent := do
  if Assoc.contains "self" c.bound then throw (.reservedName "self")
  match Assoc.find? c.method methods, c.context.find? fun f => f.1 ∈ reserved with
  | none, _ => throw (.unknownMethod c.method)
  | some _, some (name, _) => throw (.reservedName name)
  | some level, none =>
    return { logger, level, event := c.event, context := Assoc.ofPairs (c.bound ++ c.tracing ++ c.context) }

def toEventOfType (logger : String) (c : LogCall) : Except Fault LogEvent :=
  c.toEvent logger (if c.bound.isEmpty then LogLevel.commonWords else ("msg", .info) :: LogLevel.words)

end LogCall

end Wiring
