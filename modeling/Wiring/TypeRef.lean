import Wiring.Assoc

/-!
References to types by package and name, with type arguments. A reference without a package that is no type
parameter is pending: it names a type that may not exist yet.
-/

namespace Wiring

abbrev TypeKey := String × String

instance : LawfulBEq TypeKey :=
  inferInstanceAs (LawfulBEq (String × String))

structure TypeRef where
  package : String := ""
  name : String
  arguments : List TypeRef := []
  isTypeParameter : Bool := false

abbrev Bindings := List (String × TypeRef)

namespace TypeRef

instance : Inhabited TypeRef := ⟨{ name := "" }⟩

mutual

def decEq : (a b : TypeRef) → Decidable (a = b)
  | ⟨p, n, as, t⟩, ⟨q, m, bs, u⟩ =>
    match decEqAll as bs with
    | isTrue h => decidable_of_iff (p = q ∧ n = m ∧ t = u) (by simp [h])
    | isFalse h => isFalse (by simp [h])

def decEqAll : (as bs : List TypeRef) → Decidable (as = bs)
  | [], [] => isTrue rfl
  | [], _ :: _ | _ :: _, [] => isFalse (by simp)
  | a :: as, b :: bs =>
    match decEq a b, decEqAll as bs with
    | isTrue h, isTrue k => isTrue (by rw [h, k])
    | isFalse h, _ => isFalse (by simp [h])
    | _, isFalse k => isFalse (by simp [k])

end

instance : DecidableEq TypeRef := decEq

def builtinsPackage : String := "builtins"

def key (r : TypeRef) : TypeKey :=
  (r.package, r.name)

def fullName (r : TypeRef) : String :=
  if r.package = "" then r.name else r.package ++ "." ++ r.name

def isGeneric (r : TypeRef) : Bool :=
  !r.arguments.isEmpty

def isPending (r : TypeRef) : Bool :=
  r.package = "" && !r.isTypeParameter

def isBuiltin (r : TypeRef) : Bool :=
  r.package = builtinsPackage

def withArguments (r : TypeRef) (arguments : List TypeRef) : TypeRef :=
  { r with arguments }

def inPackage (r : TypeRef) (package : String) : TypeRef :=
  { r with package }

def typeParameters (r : TypeRef) : List TypeRef :=
  r.arguments.filter (·.isTypeParameter)

mutual

def text : TypeRef → String
  | ⟨p, n, as, t⟩ =>
    match texts as with
    | [] => fullName ⟨p, n, as, t⟩
    | shown => fullName ⟨p, n, as, t⟩ ++ "[" ++ ", ".intercalate shown ++ "]"

def texts : List TypeRef → List String
  | [] => []
  | a :: as => text a :: texts as

end

instance : ToString TypeRef := ⟨text⟩

mutual

def substitute (m : Bindings) : TypeRef → TypeRef
  | ⟨p, n, as, true⟩ => (Assoc.find? n m).getD ⟨p, n, as, true⟩
  | ⟨p, n, as, false⟩ => ⟨p, n, substituteAll m as, false⟩

def substituteAll (m : Bindings) : List TypeRef → List TypeRef
  | [] => []
  | a :: as => substitute m a :: substituteAll m as

end

/-- The type parameters of a declared reference bound to the arguments of a use of it. A use with another number
of arguments binds nothing. -/
def bindings (declared use : TypeRef) : Bindings :=
  let parameters := declared.typeParameters
  if parameters.length = use.arguments.length then
    Assoc.ofPairs ((parameters.map (·.name)).zip use.arguments)
  else []

mutual

theorem substitute_nil : (r : TypeRef) → substitute [] r = r
  | ⟨_, _, _, true⟩ => by simp [substitute]
  | ⟨_, _, as, false⟩ => by simp [substitute, substituteAll_nil as]

theorem substituteAll_nil : (rs : List TypeRef) → substituteAll [] rs = rs
  | [] => rfl
  | r :: rs => by rw [substituteAll, substitute_nil r, substituteAll_nil rs]

end

theorem substituteAll_eq_map (m : Bindings) (rs : List TypeRef) :
    substituteAll m rs = rs.map (substitute m) := by
  induction rs with
  | nil => rfl
  | cons r rs ih => rw [substituteAll, ih, List.map_cons]

end TypeRef

end Wiring
