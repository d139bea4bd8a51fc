import Wiring.Script.Token

/-!
Expressions and statements of scripts.
-/

namespace Wiring.Script

inductive ParameterKind where
  | normal
  | rest
  | named
  | restNamed
  deriving DecidableEq

structure Parameter (α : Type) where
  name : String
  kind : ParameterKind := .normal
  hint : Option α := none
  default : Option α := none

inductive ArgumentKind where
  | placed
  | spread
  | named (name : String)
  | spreadNamed
  deriving DecidableEq

inductive CollectionKind where
  | tuple
  | list
  | set
  deriving DecidableEq

inductive Expression where
  | name (s : String)
  | constant (s : String)
  | number (n : Number)
  | text (s : String)
  | bytes (s : String)
  | template (parts : List (Expression × Option Char × Option Expression))
  | attribute (e : Expression) (name : String)
  | subscript (e index : Expression)
  | slice (first last step : Option Expression)
  | call (e : Expression) (arguments : List (ArgumentKind × Expression))
  | prefixed (operator : String) (e : Expression)
  | joined (operator : String) (a b : Expression)
  | compared (e : Expression) (others : List (String × Expression))
  | conditional (condition yes no : Expression)
  | function (parameters : List (Parameter Expression)) (body : Expression)
  | collection (kind : CollectionKind) (items : List Expression)
  | dictionary (items : List (Option Expression × Expression))
  | spread (e : Expression)
  | bound (name : String) (e : Expression)
  | comprehension (opening : String) (items : List Expression)
      (clauses : List (Expression × Expression × List Expression))
  | yielded (e : Option Expression)
  deriving Inhabited

namespace Expression

mutual

def targetNames : Expression → List String
  | .name s => [s]
  | .collection _ es => targetNamesOfAll es
  | .spread e => targetNames e
  | _ => []

def targetNamesOfAll : List Expression → List String
  | [] => []
  | e :: es => targetNames e ++ targetNamesOfAll es

end

end Expression

inductive Statement where
  | evaluate (e : Expression)
  | assign (targets : List Expression) (e : Expression)
  | annotate (target : Expression) (isName : Bool) (hint : Expression) (e : Option Expression)
  | modify (target : Expression) (operator : String) (e : Expression)
  | pass
  | leave (word : String)
  | return (e : Option Expression)
  | fail (e cause : Option Expression)
  | delete (targets : List Expression)
  | ensure (e : Expression) (message : Option Expression)
  | declare (word : String) (names : List String)
  | import (modules : List (String × Option String))
  | importFrom (level : Nat) (module : String) (names : List (String × String))
  | importAll (level : Nat) (module : String)
  | define (name : String) (parameters : List (Parameter Expression)) (result : Option Expression)
      (decorators : List Expression) (body : List Statement)
  | defineClass (name : String) (arguments : List (ArgumentKind × Expression)) (decorators : List Expression)
      (body : List Statement)
  | choose (condition : Expression) (yes no : List Statement)
  | repeat (condition : Expression) (body otherwise : List Statement)
  | run (target e : Expression) (body otherwise : List Statement)
  | attempt (body : List Statement) (handlers : List (Option Expression × Option String × List Statement))
      (otherwise finally_ : List Statement)
  | within (items : List (Expression × Option Expression)) (body : List Statement)
  deriving Inhabited

end Wiring.Script
