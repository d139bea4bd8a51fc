import Wiring.Unit.Import

/-!
The parts that all units have in common: header, imports and type variables.
-/

namespace Wiring.Unit

def header : String :=
  "# <auto-generated/>\n# Generated by miraveja-digen. Do not edit."

def lines (ls : List String) : String :=
  "".intercalate (ls.map (· ++ "\n"))

def variableLines (vs : List TypeVariable) : List String :=
  match vs with
  | [] => []
  | vs => "" :: vs.map TypeVariable.text

def preamble (imports : List (List ImportStatement)) (typeVariables : List TypeVariable) : List String :=
  header :: importLines imports ++ variableLines typeVariables ++ ["", ""]

end Wiring.Unit
