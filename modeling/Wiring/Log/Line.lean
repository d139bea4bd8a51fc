import Wiring.Log.Call
import Wiring.Settings
import Wiring.Text.Case
import Wiring.Text.Quoted

/-!
How log events are shown. Events below a threshold are not; the others are a document each, or a line whose
columns are the level, the event, the logger and the context by name.
-/

namespace Wiring

structure LogFormat where
  threshold : Nat
  asDocuments : Bool

namespace LogFormat

inductive Level where
  | weight (n : Nat)
  | text (s : String)
  | styles

def levels : List (String × Level) :=
  [("DEBUG", .weight 10), ("INFO", .weight 20), ("WARNING", .weight 30), ("WARN", .weight 30),
    ("ERROR", .weight 40), ("CRITICAL", .weight 50), ("FATAL", .weight 50), ("NOTSET", .weight 0),
    ("BASIC_FORMAT", .text "%(levelname)s:%(name)s:%(message)s"), ("_STYLES", .styles)]

inductive Fault where
  | unknownLevel (text : String)
  | notALevel
  deriving DecidableEq

def Fault.message : Fault → String
  | .unknownLevel text => "Unknown level: " ++ Text.quoted text
  | .notALevel => "Level not an integer or a valid string"

def thresholdOf (level : String) : Except Fault Nat :=
  match Assoc.find? (String.ofList (level.toList.flatMap Text.capitals)) levels with
  | none => .ok LogLevel.info.weight
  | some (.weight n) => .ok n
  | some (.text s) => .error (.unknownLevel s)
  | some .styles => .error .notALevel

def ofSettings (s : Settings) : Except Fault LogFormat := do
  return { threshold := ← thresholdOf s.logLevel, asDocuments := s.jsonLogs }

def shows (f : LogFormat) (e : LogEvent) : Bool :=
  f.threshold ≤ e.level.weight

end LogFormat

namespace LogEvent

def padded (width : Nat) (s : String) : String :=
  s ++ String.ofList (List.replicate (width - s.length) ' ')

def shownValue : Json → String
  | .string s => if s.toList.any (· ∈ [' ', '\t', '=', '\r', '\n', '"', '\'']) then Text.quoted s else s
  | v => v.literal

def details (e : LogEvent) : List (String × Json) :=
  e.context.filter fun f => f.1 ∉ ["event", "level", "logger", "timestamp", "exc_info", "stack_info"]

def traceNames : List String :=
  ["stack", "exception"]

def detailTexts (e : LogEvent) : List String :=
  let own := e.details.filter fun f => f.1 ∉ "logger_name" :: traceNames
  (own.mergeSort fun f g => f.1 ≤ g.1).map fun f => f.1 ++ "=" ++ shownValue f.2

def shownLogger (e : LogEvent) : String :=
  if e.logger = "" then "root" else e.logger

def loggerColumns (e : LogEvent) : List String :=
  let other := match Assoc.find? "logger_name" e.context with
    | none => []
    | some (.string s) => [s]
    | some v => [v.literal]
  (e.shownLogger :: other).map fun name => "[" ++ name ++ "]"

def trimEnd (s : String) : String :=
  String.ofList (s.toList.reverse.dropWhile (· = ' ')).reverse

def hasTextTraces (e : LogEvent) : Bool :=
  traceNames.all fun name =>
    match Assoc.find? name e.context with
    | none | some .null | some (.string _) => true
    | some _ => false

def trace? (e : LogEvent) (name : String) : Option String :=
  match Assoc.find? name e.context with
  | some (.string s) => some s
  | _ => none

def traces (e : LogEvent) : String :=
  match e.trace? "stack", e.trace? "exception" with
  | none, none => ""
  | some stack, none => "\n" ++ stack
  | none, some exception => "\n" ++ exception
  | some stack, some exception =>
    "\n" ++ stack ++ "\n\n" ++ String.ofList (List.replicate 79 '=') ++ "\n\n" ++ exception

def line (timestamp : String) (e : LogEvent) : String :=
  trimEnd (" ".intercalate ([timestamp, "[" ++ padded 9 e.level.text ++ "]", padded 30 e.event] ++
    e.loggerColumns ++ e.detailTexts)) ++ e.traces

def document (e : LogEvent) : Json :=
  .object (e.details ++
    [("event", .string e.event), ("level", .string e.level.text), ("logger", .string e.shownLogger)])

end LogEvent

def LogFormat.accept (f : LogFormat) (e : LogEvent) : Except LogCall.Fault LogEvent :=
  if (Assoc.find? "_record" e.context).any (· ≠ .null) then .error .notARecord
  else if !f.asDocuments && !e.hasTextTraces then .error .notAText
  else .ok e

end Wiring
