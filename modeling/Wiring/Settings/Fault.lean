import Wiring.Record.Reading

/-!
Why settings cannot be read.
-/

namespace Wiring.Settings

inductive Source where
  | environment
  | words

inductive Fault where
  | unreadable (field : String) (source : Source)
  | brokenList (field : String) (reason : String)
  | notWords (sort : String)
  | words (reason : String) (isFatal : Bool)
  | mistyped
  | refused (issues : List Issue)

def Source.name : Source → String
  | .environment => "EnvSettingsSource"
  | .words => "CliSettingsSource"

def Fault.message : Fault → String
  | .unreadable field source =>
    "error parsing value for field \"" ++ field ++ "\" from source \"" ++ source.name ++ "\""
  | .brokenList field reason => "Parsing error encountered for " ++ field ++ ": " ++ reason
  | .notWords sort => "cli_parse_args must be a list or tuple of strings, received <class '" ++ sort ++ "'>"
  | .words reason _ => "error parsing CLI: " ++ reason
  | .mistyped => "what is to tell where the settings are is not a text"
  | .refused issues => "the settings have " ++ toString issues.length ++ " fault(s)"

end Wiring.Settings
