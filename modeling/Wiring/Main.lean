import Std.Time.Format
import Wiring.Command

/-!
The program: the command line on the files and the environment of the process. Log lines and errors go to the
error stream, all else to the output.
-/

namespace Wiring.Program

def cause : IO.Error → Nat × String
  | .alreadyExists _ n text | .otherError n text | .resourceBusy n text | .resourceVanished n text
  | .unsupportedOperation n text | .hardwareFault n text | .unsatisfiedConstraints n text
  | .illegalOperation n text | .protocolError n text | .timeExpired n text | .interrupted _ n text
  | .noFileOrDirectory _ n text | .invalidArgument _ n text | .permissionDenied _ n text
  | .resourceExhausted _ n text | .inappropriateType _ n text | .noSuchThing _ n text =>
    (min n.toNat ((1 <<< 32) - n.toNat), text)
  | .unexpectedEof => (0, "unexpected end of file")
  | .userError text => (0, text)

def reason (e : IO.Error) : FileReason :=
  match cause e with
  | (2, _) => .missing
  | (17, _) => .alreadyThere
  | (20, _) => .notADirectory
  | (21, _) => .isADirectory
  | (36, _) => .nameTooLong
  | (n, text) => .other n text

def onFile {α : Type} (act : String → IO α) (p : Path) : IO (Except FileFault α) := do
  if '\x00' ∈ p.text.toList then return .error { reason := .nullByte, path := p }
  match ← (act p.text).toBaseIO with
  | .ok a => return .ok a
  | .error e => return .error { reason := reason e, path := p }

def isDirectory (p : Path) : IO Bool := do
  match ← onFile (fun name => IO.FS.readBinFile name) p with
  | .error fault => return fault.reason = .isADirectory
  | .ok _ => return false

def files : FileSystem IO where
  readFile := onFile fun name => IO.FS.readBinFile name
  writeFile p content := onFile (fun name => IO.FS.writeBinFile name content) p
  makeDirectory := onFile fun name => IO.FS.createDir name
  isDirectory

def assignment? (entry : String) : Option (String × String) :=
  match entry.toList.dropWhile (· ≠ '=') with
  | '=' :: value => some (String.ofList (entry.toList.takeWhile (· ≠ '=')), String.ofList value)
  | _ => none

def environment : IO (List (String × String)) := do
  match ← (IO.FS.readBinFile "/proc/self/environ").toBaseIO with
  | .ok bytes =>
    let entries := (bytes.toList.splitBy fun _ b => b ≠ 0).map fun entry => (entry.filter (· ≠ 0)).toByteArray
    return (entries.filterMap String.fromUTF8?).filterMap assignment?
  | .error _ =>
    Settings.fieldNames.filterMapM fun field => do
      let name := String.ofList ((Settings.Lookup.lead {} ++ field).toList.map Char.toUpper)
      return (← IO.getEnv name).map fun value => (name, value)

def timestamp : IO String := do
  let now := Std.Time.DateTime.ofTimestampWithZone (← Std.Time.Timestamp.now) .UTC
  return now.format "uuuu-MM-dd'T'HH:mm:ss.SSSSSSxxx"

def logText (format : LogFormat) (timestamp : String) (e : LogEvent) : String :=
  if format.asDocuments then
    match e.document with
    | .object fields => (Json.object (fields ++ [("timestamp", .string timestamp)])).text
    | j => j.text
  else e.line timestamp

def printEvents (format : LogFormat) (events : List LogEvent) : IO Unit :=
  (events.filter format.shows).forM fun e => do
    IO.eprintln (logText format (← timestamp) e)

def conclude : Ending → IO UInt32
  | .exit status => return UInt32.ofNat status
  | .crash fault => do
    IO.eprintln fault.message
    return 1

def run (words : List String) : IO UInt32 := do
  let report ← Command.runWords files (← environment) words
  printEvents report.format report.events
  report.errors.forM fun message => IO.eprintln message
  report.output.forM fun line => IO.println line
  conclude report.ending

end Wiring.Program

def main (words : List String) : IO UInt32 :=
  Wiring.Program.run words
