import Wiring.Json.Parser
import Wiring.Settings
import Wiring.Settings.Fault
import Wiring.Text.Case

/-!
Settings in the environment: a variable is named by a lead and the field, and its text is the value, or the
document of the value where the field holds more than one text.
-/

namespace Wiring.Settings

def lowered (name : String) : String :=
  String.ofList (name.toList.flatMap Text.small)

/-- How settings are found in the environment. A variable with the text `absent` says that there is no value. -/
structure Lookup where
  lead : String := "MIRAVEJA_DIGEN_"
  isExact : Bool := false
  skipsEmpty : Bool := false
  absent : Option String := none
  joint : Option String := none

namespace Lookup

def names : List String :=
  -- Most of them have no bearing on settings that are texts and flags.
  ["_case_sensitive", "_env_prefix", "_env_prefix_target", "_env_ignore_empty", "_env_parse_none_str", "_env_file",
    "_env_file_encoding", "_env_file_depth", "_env_nested_delimiter", "_env_nested_max_split", "_env_parse_enums",
    "_nested_model_default_partial_update", "_secrets_dir", "_build_sources", "_cli_prog_name", "_cli_parse_args",
    "_cli_settings_source", "_cli_parse_none_str", "_cli_hide_none_type", "_cli_avoid_json",
    "_cli_enforce_required", "_cli_use_class_docs_for_groups", "_cli_exit_on_error", "_cli_prefix",
    "_cli_flag_prefix_char", "_cli_implicit_flags", "_cli_ignore_unknown_args", "_cli_kebab_case",
    "_cli_shortcuts"]

def textOf? (overrides : List (String × Json)) (name : String) : Option String :=
  match Assoc.find? name overrides with
  | some (.string s) => some s
  | _ => none

def holds (overrides : List (String × Json)) (name : String) : Bool :=
  ((Assoc.find? name overrides).map Json.isTruthy).getD false

def lead? (overrides : List (String × Json)) : Option String :=
  match Assoc.find? "_env_prefix_target" overrides with
  | none | some .null | some (.string "variable") | some (.string "all") =>
    match Assoc.find? "_env_prefix" overrides with
    | none | some .null => some "MIRAVEJA_DIGEN_"
    | some (.string s) => some s
    | some _ => none
  | some _ => some ""

def ofOverrides (overrides : List (String × Json)) : Except Fault Lookup :=
  match lead? overrides with
  | none => .error .mistyped
  | some lead => .ok {
      lead
      isExact := holds overrides "_case_sensitive"
      skipsEmpty := holds overrides "_env_ignore_empty"
      absent := textOf? overrides "_env_parse_none_str"
      joint := (textOf? overrides "_env_nested_delimiter").filter (· ≠ "") }

def spelled (l : Lookup) (name : String) : String :=
  if l.isExact then name else lowered name

def same (l : Lookup) (a b : String) : Bool :=
  l.spelled a = l.spelled b

def text? (l : Lookup) (environment : List (String × String)) (field : String) : Option String :=
  let seen := environment.filter fun v => !(l.skipsEmpty && v.2 = "")
  (seen.reverse.find? fun v => l.same v.1 (l.lead ++ field)).map Prod.snd

def parts (l : Lookup) (environment : List (String × String)) (field : String) : List (String × Json) :=
  match l.joint with
  | none => []
  | some joint =>
    let start := l.spelled (l.lead ++ field) ++ joint
    environment.filterMap fun v =>
      if start.toList.isPrefixOf (l.spelled v.1).toList then
        some (String.ofList ((l.spelled v.1).toList.drop start.length), .string v.2)
      else none

end Lookup

def documentOf? (field : String) (source : Source) (text : String) : Except Fault (Option Json) :=
  match Json.parse? 1000 text with
  | some .null => .ok none
  | some j => .ok (some j)
  | none => .error (.unreadable field source)

def fromEnvironment (l : Lookup) (environment : List (String × String)) (field : String) :
    Except Fault (Option Json) :=
  match l.text? environment field with
  | none =>
    match if field ∈ tupleFields then l.parts environment field else [] with
    | [] => .ok none
    | parts => .ok (some (.object parts))
  | some text =>
    if some text = l.absent then .ok (some .null)
    else if field ∈ tupleFields then documentOf? field .environment text
    else .ok (some (.string text))

end Wiring.Settings
