import Wiring.Command.Arguments
import Wiring.Generation
import Wiring.Log.Line
import Wiring.Record.Declaration
import Wiring.Settings.Reading
import Wiring.Sink.Directory
import Wiring.Sink.Memory
import Wiring.Text.Escape

/-!
The command line. `generate` writes the units of a declaration file into a directory, `check` only looks at the
file. The status is 0, or 1 where a diagnostic is an error, or 2 where the command line or the file is at fault;
what neither foresees ends a run at once.
-/

namespace Wiring

inductive Verb where
  | generate (output : Path)
  | check
  deriving DecidableEq

structure Command where
  verb : Verb
  file : Path
  assembly : Option String := none
  isVerbose : Bool := false
  jsonLogs : Bool := false
  deriving DecidableEq

inductive Crash where
  | settings (fault : Settings.Fault)
  | logging (fault : LogFormat.Fault)
  | undecodable
  | membersNotIterable
  | duplicateUnit (name : String)
  | file (fault : FileFault)
  | write (fault : WriteFault)
  | generation (fault : GenerationFault)

def Crash.message : Crash → String
  | .settings fault => fault.message
  | .logging fault => fault.message
  | .undecodable => "the declaration file is not UTF-8"
  | .membersNotIterable => ReadingAbort.message .membersNotIterable
  | .duplicateUnit name => MemorySink.duplicateMessage name
  | .file fault => fault.message
  | .write fault => fault.message
  | .generation fault => fault.message

inductive Ending where
  | exit (status : Nat)
  | crash (reason : Crash)

structure Report where
  ending : Ending
  output : List String := []
  errors : List String := []
  format : LogFormat := { threshold := 0, asDocuments := false }
  events : List LogEvent := []

def Report.plain (r : Report) : Report :=
  { r with output := r.output.map Text.plain, errors := r.errors.map Text.plain }

namespace Command

def checkOptions : List OptionSpec :=
  [{ key := "assembly", long := "--assembly", short := 'a', takesValue := true },
    { key := "verbose", long := "--verbose", short := 'v' }]

def generateOptions : List OptionSpec :=
  checkOptions ++
    [{ key := "output", long := "--output", short := 'o', takesValue := true },
      { key := "json-logs", long := "--json-logs" }]

def path? (s : String) : Option Path :=
  if '\x00' ∈ s.toList then none else some (.ofText s)

def ofArguments? (verb : Verb) (a : CommandLine) : Option Command :=
  match a.rest with
  | [file] => do
    let file ← path? file
    return {
      verb
      file
      assembly := a.value? "assembly"
      isVerbose := a.has "verbose"
      jsonLogs := a.has "json-logs" }
  | _ => none

def ofVerb? (verb : String) (words : List String) : Option Command :=
  match verb with
  | "generate" => do
    let a ← CommandLine.read generateOptions words {}
    ofArguments? (.generate (← path? ((a.value? "output").getD "generated"))) a
  | "check" => (CommandLine.read checkOptions words {}).bind (ofArguments? .check)
  | _ => none

def ofWords? : List String → Option Command
  | "--" :: verb :: words => ofVerb? verb words
  | verb :: words => if CommandLine.isOption verb then none else ofVerb? verb words
  | [] => none

def overrides (c : Command) : List (String × Json) :=
  ((c.assembly.filter (· ≠ "")).toList.map fun a => ("assembly_name", .string a)) ++
    (if c.isVerbose then [("log_level", .string "DEBUG")] else []) ++
    (if c.jsonLogs then [("json_logs", .bool true)] else [])

def settings (c : Command) (environment : List (String × String)) : Except Settings.Fault Settings :=
  Settings.read environment c.overrides

def logger : String :=
  "miraveja_digen.infrastructure.cli"

def abortedEvent (reason : String) : LogEvent where
  logger
  level := .error
  event := "generation_aborted"
  context := [("reason", .string reason)]

inductive LoadFault where
  | invalid (message : String)
  | crash (reason : Crash)

def refusal (issues : List Issue) : String :=
  toString issues.length ++ (if issues.length = 1 then " validation error" else " validation errors") ++
    " for DeclarationSet"

def parse (file : Path) (content : ByteArray) : Except LoadFault DeclarationSet :=
  let invalid (message : String) : LoadFault :=
    .invalid ("Error: invalid declaration set " ++ file.text ++ ": " ++ message)
  match String.fromUTF8? content with
  | none => .error (.crash .undecodable)
  | some text =>
    match (Codec.decodeText text : Reading DeclarationSet) with
    | .accepted set => .ok set
    | .refused issues => .error (invalid (refusal issues))
    | .aborted .membersNotIterable => .error (.crash .membersNotIterable)
    | .aborted reason => .error (invalid reason.message)

def load (file : Path) : Except FileFault ByteArray → Except LoadFault DeclarationSet
  | .ok content => parse file content
  | .error fault =>
    if fault.reason = .nullByte then .error (.crash (.file fault))
    else .error (.invalid ("Error: cannot read " ++ file.text ++ ": " ++ fault.message))

def summary (r : GenerationResult) : List String :=
  r.diagnostics.map (·.text) ++
    [toString r.errors.length ++ " error(s), " ++ toString r.warnings.length ++ " warning(s)"]

def status (r : GenerationResult) : Nat :=
  if r.hasErrors then 1 else 0

variable {m : Type → Type} [Monad m]

def writeAll (fs : FileSystem m) (s : DirectorySink) :
    List SourceUnit → m (Option WriteFault × DirectorySink × List LogEvent)
  | [] => return (none, s, [])
  | u :: us => do
    match ← s.add fs u with
    | .error fault => return (some fault, s, [])
    | .ok (s, event) =>
      let (fault, s, events) ← writeAll fs s us
      return (fault, s, event :: events)

def deliver (fs : FileSystem m) (units : List SourceUnit) :
    Verb → m (Option Crash × List Path × List LogEvent)
  | .check =>
    match MemorySink.addAll {} units with
    | .ok _ => return (none, [], [])
    | .error name => return (some (.duplicateUnit name), [], [])
  | .generate output => do
    let (fault, s, events) ← writeAll fs { directory := output } units
    return (fault.map .write, s.written, events)

def runWith (fs : FileSystem m) (c : Command) (s : Settings) (format : LogFormat) (set : DeclarationSet)
    (depth : Nat := walkDepth) : m Report := do
  match Wiring.generate s depth set with
  | (.error (.circularInheritance chain), events) =>
    let reason := (GenerationFault.circularInheritance chain).message
    return { ending := .exit 2, errors := ["Error: " ++ reason], format, events := events ++ [abortedEvent reason] }
  | (.error fault, events) => return { ending := .crash (.generation fault), format, events }
  | (.ok r, events) =>
    let (crash, written, more) ← deliver fs r.units c.verb
    match crash with
    | some reason => return { ending := .crash reason, format, events := events ++ more }
    | none =>
      return {
        ending := .exit (status r)
        output := written.map (fun p => "wrote " ++ p.text) ++ summary r
        format
        events := events ++ more }

def run (fs : FileSystem m) (environment : List (String × String)) (c : Command) (depth : Nat := walkDepth) :
    m Report := do
  match c.settings environment with
  | .error fault => return { ending := .crash (.settings fault) }
  | .ok s =>
    match LogFormat.ofSettings s with
    | .error fault => return { ending := .crash (.logging fault) }
    | .ok format =>
      match load c.file (← fs.readFile c.file) with
      | .error (.invalid message) => return { ending := .exit 2, errors := [message], format }
      | .error (.crash reason) => return { ending := .crash reason, format }
      | .ok set => c.runWith fs s format set depth

def runWords (fs : FileSystem m) (environment : List (String × String)) (words : List String)
    (depth : Nat := walkDepth) : m Report :=
  match ofWords? words with
  | none => return { ending := .exit 2 }
  | some c => return (← c.run fs environment depth).plain

end Command

end Wiring
