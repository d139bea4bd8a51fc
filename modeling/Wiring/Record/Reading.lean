import Wiring.Json.Parser

/-!
Results of reading a record from a document: a value, or all that is wrong with the document, each with the path
to it, or an end of the reading itself. Readings combine by collecting what is wrong on either side, in order.
-/

namespace Wiring

inductive PathStep where
  | field (name : String)
  | index (position : Nat)
  deriving DecidableEq

inductive IssueKind where
  | missing
  | recordExpected
  | stringExpected
  | tupleExpected
  | tupleTooLong
  | boolExpected
  | boolUnreadable
  | intExpected
  | intUnreadable
  | intHasFraction
  | intTooLarge
  | intNotFinite
  | notAChoice
  | unknownField
  | notADocument
  deriving DecidableEq

structure Issue where
  path : List PathStep := []
  kind : IssueKind
  deriving DecidableEq

inductive ReadingAbort where
  | membersNotIterable
  | declaredTwice (fullName : String)
  deriving DecidableEq

def ReadingAbort.message : ReadingAbort → String
  | .membersNotIterable => "members cannot be run through"
  | .declaredTwice fullName => "Type " ++ fullName ++ " is declared more than once"

inductive Reading (α : Type) where
  | accepted (value : α)
  | refused (issues : List Issue)
  | aborted (reason : ReadingAbort)

namespace Reading

variable {α β : Type}

def refuse (kind : IssueKind) : Reading α :=
  .refused [{ kind }]

def map (f : α → β) : Reading α → Reading β
  | .accepted a => .accepted (f a)
  | .refused issues => .refused issues
  | .aborted reason => .aborted reason

def both : Reading (α → β) → Reading α → Reading β
  | .aborted reason, _ => .aborted reason
  | .accepted f, r => r.map f
  | .refused _, .aborted reason => .aborted reason
  | .refused issues, .accepted _ => .refused issues
  | .refused issues, .refused more => .refused (issues ++ more)

instance : Applicative Reading where
  pure := .accepted
  seq f r := both f (r ())

def andThen (f : α → Reading β) : Reading α → Reading β
  | .accepted a => f a
  | .refused issues => .refused issues
  | .aborted reason => .aborted reason

def under (step : PathStep) : Reading α → Reading α
  | .refused issues => .refused (issues.map fun i => { i with path := step :: i.path })
  | r => r

@[simp] theorem under_accepted (step : PathStep) (a : α) : under step (.accepted a) = .accepted a := rfl

@[simp] theorem seq_accepted (f : α → β) (a : α) :
    (Reading.accepted f <*> Reading.accepted a) = .accepted (f a) := rfl

end Reading

class Codec (α : Type) where
  decode : Json → Reading α
  encode : α → Json

namespace Codec

variable {α : Type} [Codec α]

def nesting : Nat :=
  200

def decodeText (text : String) : Reading α :=
  match Json.parse? nesting text with
  | some j => decode j
  | none => .refuse .notADocument

def decodeDocument (j : Json) : Reading α :=
  if j.fits nesting then decode j else .refuse .notADocument

def field (name : String) (fields : List (String × Json)) : Reading α :=
  match Assoc.find? name fields with
  | none => .under (.field name) (.refuse .missing)
  | some j => .under (.field name) (decode j)

def fieldD (name : String) (default : α) (fields : List (String × Json)) : Reading α :=
  match Assoc.find? name fields with
  | none => .accepted default
  | some j => .under (.field name) (decode j)

def record (build : List (String × Json) → Reading α) : Json → Reading α
  | .object fields => build fields
  | _ => .refuse .recordExpected

def decodeItems (start : Nat) : List Json → Reading (List α)
  | [] => .accepted []
  | j :: r => List.cons <$> Reading.under (.index start) (decode j) <*> decodeItems (start + 1) r

instance : Codec (List α) where
  decode
    | .array items => decodeItems 0 items
    | _ => .refuse .tupleExpected
  encode as := .array (as.map encode)

instance : Codec (Option α) where
  decode
    | .null => .accepted none
    | j => some <$> decode j
  encode
    | none => .null
    | some a => encode a

instance : Codec String where
  decode
    | .string s => .accepted s
    | _ => .refuse .stringExpected
  encode := .string

end Codec

end Wiring
