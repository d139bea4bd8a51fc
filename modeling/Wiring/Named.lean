import Wiring.Text.Quoted

/-!
Finite choices that are written by name.
-/

namespace Wiring

class Named (α : Type) where
  all : List α
  text : α → String
  ofText_text : ∀ a, all.find? (fun b => text b == text a) = some a

namespace Named

variable {α : Type} [Named α]

def ofText? (s : String) : Option α :=
  (all : List α).find? fun a => text a == s

@[simp] theorem ofText?_text (a : α) : ofText? (text a) = some a :=
  ofText_text a

def unknownMessage (written : Json) (choice : String) : String :=
  written.literal ++ " is not a valid " ++ choice

end Named

inductive Lifetime where
  | transient
  | scoped
  | singleton
  deriving DecidableEq

def Lifetime.priority : Lifetime → Nat
  | .transient => 0
  | .scoped => 1
  | .singleton => 2

instance : Named Lifetime where
  all := [.transient, .scoped, .singleton]
  text
    | .transient => "transient"
    | .scoped => "scoped"
    | .singleton => "singleton"
  ofText_text a := by cases a <;> rfl

inductive MemberKind where
  | field
  | property
  | method
  | event
  | constructor
  deriving DecidableEq

instance : Named MemberKind where
  all := [.field, .property, .method, .event, .constructor]
  text
    | .field => "field"
    | .property => "property"
    | .method => "method"
    | .event => "event"
    | .constructor => "constructor"
  ofText_text a := by cases a <;> rfl

inductive Visibility where
  | publicAccess
  | protectedAccess
  | internalAccess
  | privateAccess
  deriving DecidableEq

instance : Named Visibility where
  all := [.publicAccess, .protectedAccess, .internalAccess, .privateAccess]
  text
    | .publicAccess => "public"
    | .protectedAccess => "protected"
    | .internalAccess => "internal"
    | .privateAccess => "private"
  ofText_text a := by cases a <;> rfl

inductive Severity where
  | error
  | warning
  | info
  deriving DecidableEq

instance : Named Severity where
  all := [.error, .warning, .info]
  text
    | .error => "error"
    | .warning => "warning"
    | .info => "info"
  ofText_text a := by cases a <;> rfl

end Wiring
