import Wiring.File.System
import Wiring.Log
import Wiring.Plan
import Wiring.Text.Encoding

/-!
A sink that writes every unit to a file of its name in one directory. The file is there, empty, also where the
encoding lacks a character of the text.
-/

namespace Wiring

inductive WriteFault where
  | file (fault : FileFault)
  | nullInEncoding
  | unknownEncoding (name : String)
  | unencoded (fault : Encoding.Fault)
  deriving DecidableEq

def WriteFault.message : WriteFault → String
  | .file fault => fault.message
  | .nullInEncoding => "embedded null character"
  | .unknownEncoding name => "unknown encoding: " ++ name
  | .unencoded fault => fault.message

structure DirectorySink where
  directory : Path
  encoding : String := "utf-8"
  written : List Path := []

namespace DirectorySink

variable {m : Type → Type} [Monad m]

def logger : String :=
  "miraveja_digen.infrastructure.sinks"

def writtenEvent (u : SourceUnit) (p : Path) : LogEvent where
  logger
  level := .debug
  event := "source_written"
  context := [("unit", .string u.name), ("path", .string p.text)]

def bytes (s : DirectorySink) (text : String) : Except WriteFault ByteArray :=
  match Encoding.ofName? s.encoding with
  | none => .error (.unknownEncoding s.encoding)
  | some e => (e.encode text).mapError .unencoded

def add (s : DirectorySink) (fs : FileSystem m) (u : SourceUnit) :
    m (Except WriteFault (DirectorySink × LogEvent)) := do
  match ← fs.ensureDirectory s.directory with
  | .error fault => return .error (.file fault)
  | .ok () =>
    if '\x00' ∈ s.encoding.toList then return .error .nullInEncoding
    let path := s.directory.below u.name
    let content := s.bytes u.text
    match ← fs.writeFile path (content.toOption.getD ByteArray.empty) with
    | .error fault => return .error (.file fault)
    | .ok () => return content.map fun _ => ({ s with written := s.written ++ [path] }, writtenEvent u path)

end DirectorySink

end Wiring
