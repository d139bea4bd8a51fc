import Wiring.Conventions.Link

/-!
Base chains. A chain follows the bases that are declared classes; it ends at a type without a base, or whose base
is not declared, is an interface, or is the placeholder of its own interface. A base whose full name was met
before closes a circle, and the walk fails with the names on it.
-/

namespace Wiring

/-- An ancestor with its reference as a derived type sees it. -/
structure Ancestor where
  declaration : TypeDeclaration
  ref : TypeRef
  deriving DecidableEq

def Ancestor.bindings (a : Ancestor) : Bindings :=
  a.declaration.ref.bindings a.ref

namespace DeclarationSet

def classBase? (s : DeclarationSet) (d : TypeDeclaration) : Option (TypeRef × TypeDeclaration) :=
  match d.base with
  | none => none
  | some base =>
    if (s.link? d).any (·.viaBase) then none
    else
      match s.find? base with
      | none => none
      | some b => if b.isInterface then none else some (base, b)

theorem mem_of_classBase? {s : DeclarationSet} {d b : TypeDeclaration} {r : TypeRef}
    (h : s.classBase? d = some (r, b)) : b ∈ s.types := by
  unfold classBase? at h
  split at h
  · simp at h
  · split at h
    · simp at h
    · split at h
      · simp at h
      · rename_i hf
        split at h
        · simp at h
        · simp only [Option.some.injEq, Prod.mk.injEq] at h
          exact h.2 ▸ List.mem_of_find?_eq_some hf

def unmet (s : DeclarationSet) (visited : List String) : Nat :=
  (s.types.filter (·.fullName ∉ visited)).length

theorem unmet_lt {s : DeclarationSet} {b : TypeDeclaration} {visited : List String} (hb : b ∈ s.types)
    (hv : b.fullName ∉ visited) : s.unmet (visited ++ [b.fullName]) < s.unmet visited := by
  unfold unmet
  have hsub : s.types.filter (·.fullName ∉ visited ++ [b.fullName]) =
      (s.types.filter (·.fullName ∉ visited)).filter (·.fullName ≠ b.fullName) := by
    rw [List.filter_filter]
    refine List.filter_congr fun d _ => ?_
    simp only [List.mem_append, List.mem_singleton, not_or, ne_eq, Bool.decide_and, Bool.and_comm]
  rw [hsub]
  refine Nat.lt_of_le_of_ne (List.length_filter_le _ _) fun h => ?_
  have hall := List.length_filter_eq_length_iff.1 h
  have := hall b (List.mem_filter.2 ⟨hb, by simpa using hv⟩)
  simp at this

/-- The ancestors of a type, nearest first, given the names on the way to it and what is bound to its
parameters. -/
def chainFrom (s : DeclarationSet) (visited : List String) (d : TypeDeclaration) (m : Bindings) :
    Except (List String) (List Ancestor) :=
  match _h : s.classBase? d with
  | none => .ok []
  | some (r, b) =>
    if _hv : b.fullName ∈ visited then
      .error (visited.dropWhile (· ≠ b.fullName) ++ [b.fullName])
    else
      let a : Ancestor := { declaration := b, ref := r.substitute m }
      (chainFrom s (visited ++ [b.fullName]) b a.bindings).map (a :: ·)
termination_by s.unmet visited
decreasing_by exact unmet_lt (mem_of_classBase? _h) _hv

def chain (s : DeclarationSet) (d : TypeDeclaration) : Except (List String) (List Ancestor) :=
  s.chainFrom [d.fullName] d []

end DeclarationSet

end Wiring
