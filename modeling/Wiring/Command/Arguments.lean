import Wiring.Assoc

/-!
Words of a command line sorted into options and the rest. Options stand anywhere up to a double hyphen; a long one
may hold its value behind an equals sign, a short one right behind its letter, and short ones that take no value
share one hyphen.
-/

namespace Wiring

structure OptionSpec where
  key : String
  long : String
  short : Option Char := none
  takesValue : Bool := false

structure CommandLine where
  values : List (String × String) := []
  flags : List String := []
  rest : List String := []
  deriving DecidableEq

namespace CommandLine

def give (key value : String) (a : CommandLine) : CommandLine :=
  { a with values := Assoc.put key value a.values }

def raise (key : String) (a : CommandLine) : CommandLine :=
  { a with flags := a.flags ++ [key] }

def append (words : List String) (a : CommandLine) : CommandLine :=
  { a with rest := a.rest ++ words }

def value? (a : CommandLine) (key : String) : Option String :=
  Assoc.find? key a.values

def has (a : CommandLine) (key : String) : Bool :=
  key ∈ a.flags

inductive Step where
  | said (a : CommandLine)
  | wants (key : String) (a : CommandLine)

def stepLong (o : OptionSpec) (value : Option String) (a : CommandLine) : Option Step :=
  match o.takesValue, value with
  | true, some v => some (.said (a.give o.key v))
  | true, none => some (.wants o.key a)
  | false, some _ => none
  | false, none => some (.said (a.raise o.key))

def stepShort (specs : List OptionSpec) : List Char → CommandLine → Option Step
  | [], a => some (.said a)
  | c :: r, a =>
    match specs.find? fun o => o.short = some c with
    | none => none
    | some o =>
      if o.takesValue then
        match r with
        | [] => some (.wants o.key a)
        | _ => some (.said (a.give o.key (String.ofList r)))
      else stepShort specs r (a.raise o.key)

def splitValue (cs : List Char) : List Char × Option (List Char) :=
  match cs.dropWhile (· ≠ '=') with
  | [] => (cs, none)
  | _ :: v => (cs.takeWhile (· ≠ '='), some v)

def step (specs : List OptionSpec) (word : List Char) (a : CommandLine) : Option Step :=
  let (name, value) := splitValue word
  match specs.find? fun o => o.long.toList = name with
  | some o => stepLong o (value.map String.ofList) a
  | none =>
    match word with
    | '-' :: '-' :: _ => none
    | _ => stepShort specs word.tail a

def isOption (word : String) : Bool :=
  match word.toList with
  | '-' :: _ :: _ => true
  | _ => false

def read (specs : List OptionSpec) : List String → CommandLine → Option CommandLine
  | [], a => some a
  | word :: r, a =>
    if word = "--" then some (a.append r)
    else if isOption word then
      match step specs word.toList a, r with
      | none, _ => none
      | some (.said a), r => read specs r a
      | some (.wants _ _), [] => none
      | some (.wants key a), v :: r => read specs r (a.give key v)
    else read specs r (a.append [word])

end CommandLine

end Wiring
