import Mathlib.Tactic.Lemma
import Wiring.Container.Services
import Wiring.Declaration
import Wiring.Proofs.Assoc

/-!
References to types as the container reads them, and what a row of registrations leaves in it. The last registration
of a service counts; that of a bare class serves the closed types of the class as well.
-/

namespace Wiring

open Container

def DeclarationSet.classOf (set : DeclarationSet) (others : TypeKey → List String) (k : TypeKey) : ClassHead where
  module := k.1
  qualifiedName := k.2
  name := k.2
  parameters :=
    match set.types.find? (·.key = k) with
    | some d => d.typeParameters.map (·.name)
    | none => others k

namespace TypeRef

mutual

def read (classes : TypeKey → ClassHead) (scope : VariableScope) : TypeRef → TypeExpr
  | ⟨_, n, _, true⟩ => .variable scope n
  | ⟨p, n, [], false⟩ => .bare (classes (p, n))
  | ⟨p, n, a :: as, false⟩ => .closed (classes (p, n)) (read classes scope a :: readAll classes scope as)

def readAll (classes : TypeKey → ClassHead) (scope : VariableScope) : List TypeRef → List TypeExpr
  | [] => []
  | a :: as => read classes scope a :: readAll classes scope as

end

variable (classes : TypeKey → ClassHead) (scope : VariableScope)

lemma length_readAll (rs : List TypeRef) : (readAll classes scope rs).length = rs.length := by
  induction rs with
  | nil => rfl
  | cons r rs ih => rw [readAll, List.length_cons, ih, List.length_cons]

lemma read_bare {r : TypeRef} (h : r.isTypeParameter = false) :
    (r.withArguments []).read classes scope = .bare (classes r.key) := by
  obtain ⟨p, n, as, v⟩ := r
  cases h
  rfl

mutual

lemma identity_read : (r : TypeRef) → (r.read classes scope).identity = r.read classes scope
  | ⟨_, _, _, true⟩ => by rw [read, TypeExpr.identity]
  | ⟨_, _, [], false⟩ => by rw [read, TypeExpr.identity]
  | ⟨_, _, a :: as, false⟩ => by
    rw [read, TypeExpr.identity, TypeExpr.identities, identity_read a, identities_readAll as]

lemma identities_readAll : (rs : List TypeRef) →
    TypeExpr.identities (readAll classes scope rs) = readAll classes scope rs
  | [] => by rw [readAll, TypeExpr.identities]
  | r :: rs => by rw [readAll, TypeExpr.identities, identity_read r, identities_readAll rs]

end

mutual

lemma unkeyable?_read : (r : TypeRef) → (r.read classes scope).unkeyable? = none
  | ⟨_, _, _, true⟩ => by simp only [read, TypeExpr.unkeyable?]
  | ⟨_, _, [], false⟩ => by simp only [read, TypeExpr.unkeyable?]
  | ⟨_, _, a :: as, false⟩ => by
    rw [read, TypeExpr.unkeyable?, TypeExpr.anyUnkeyable?, unkeyable?_read a, anyUnkeyable?_readAll as]
    rfl

lemma anyUnkeyable?_readAll : (rs : List TypeRef) → TypeExpr.anyUnkeyable? (readAll classes scope rs) = none
  | [] => by rw [readAll, TypeExpr.anyUnkeyable?]
  | r :: rs => by
    rw [readAll, TypeExpr.anyUnkeyable?, unkeyable?_read r, anyUnkeyable?_readAll rs]
    rfl

end

lemma asKey_read (r : TypeRef) : (r.read classes scope).asKey = .ok (r.read classes scope) := by
  rw [TypeExpr.asKey, unkeyable?_read, identity_read]

lemma read_ne_key (r : TypeRef) (v : Json) : r.read classes scope ≠ .key v := by
  obtain ⟨p, n, as, b⟩ := r
  cases b <;> cases as <;> intro h <;> rw [read] at h <;> cases h

mutual

def isClosed : TypeRef → Bool
  | ⟨_, _, as, v⟩ => !v && allClosed as

def allClosed : List TypeRef → Bool
  | [] => true
  | a :: as => isClosed a && allClosed as

end

mutual

lemma substitute_of_isClosed (m : Bindings) : (r : TypeRef) → r.isClosed → r.substitute m = r
  | ⟨_, _, _, true⟩, h => by simp [isClosed] at h
  | ⟨_, _, as, false⟩, h => by
    rw [isClosed, Bool.not_false, Bool.true_and] at h
    rw [substitute, substituteAll_of_allClosed m as h]

lemma substituteAll_of_allClosed (m : Bindings) : (rs : List TypeRef) → allClosed rs → substituteAll m rs = rs
  | [], _ => rfl
  | r :: rs, h => by
    rw [allClosed, Bool.and_eq_true] at h
    rw [substituteAll, substitute_of_isClosed m r h.1, substituteAll_of_allClosed m rs h.2]

end

mutual

lemma read_of_isClosed (other : VariableScope) : (r : TypeRef) → r.isClosed →
    r.read classes scope = r.read classes other
  | ⟨_, _, _, true⟩, h => by simp [isClosed] at h
  | ⟨_, _, [], false⟩, _ => by rw [read, read]
  | ⟨_, _, a :: as, false⟩, h => by
    rw [isClosed, Bool.not_false, Bool.true_and, allClosed, Bool.and_eq_true] at h
    rw [read, read, read_of_isClosed other a h.1, readAll_of_allClosed other as h.2]

lemma readAll_of_allClosed (other : VariableScope) : (rs : List TypeRef) → allClosed rs →
    readAll classes scope rs = readAll classes other rs
  | [], _ => by rw [readAll, readAll]
  | r :: rs, h => by
    rw [allClosed, Bool.and_eq_true] at h
    rw [readAll, readAll, read_of_isClosed other r h.1, readAll_of_allClosed other rs h.2]

end

end TypeRef

namespace Container

structure Row where
  lifetime : Lifetime
  service : TypeExpr
  implementation : TypeExpr

namespace Row

def registration (r : Row) : Registration where
  service := r.service
  implementation := r.implementation
  lifetime := r.lifetime

def IsPlain (r : Row) : Prop :=
  r.service.asKey = .ok r.service ∧ r.implementation ≠ .key .null

end Row

namespace Registrations

def ofRows (rows : List Row) : Except Failure Registrations :=
  rows.foldlM (fun rs r => Prod.fst <$> rs.register r.lifetime r.service (some r.implementation)) []

def lastFor? (rows : List Row) (service : TypeExpr) : Option Row :=
  rows.reverse.find? (·.service = service)

lemma register_of_isPlain {r : Row} (h : r.IsPlain) (rs : Registrations) :
    Prod.fst <$> rs.register r.lifetime r.service (some r.implementation) =
      .ok (Assoc.put r.service r.registration rs) := by
  rw [register, Option.filter_some, if_pos (by simpa using h.2), add, h.1]
  rfl

lemma ofRows_of_isPlain {rows : List Row} (h : ∀ r ∈ rows, r.IsPlain) :
    ofRows rows = .ok (Assoc.ofPairs (rows.map fun r => (r.service, r.registration))) := by
  have hfold : ∀ rs : Registrations,
      rows.foldlM (fun rs r => Prod.fst <$> rs.register r.lifetime r.service (some r.implementation)) rs =
        .ok ((rows.map fun r => (r.service, r.registration)).foldl (fun m p => Assoc.put p.1 p.2 m) rs) := by
    induction rows with
    | nil => exact fun rs => rfl
    | cons r rows ih =>
      obtain ⟨hr, hrows⟩ := List.forall_mem_cons.1 h
      intro rs
      rw [List.foldlM_cons, register_of_isPlain hr]
      exact ih hrows _
  exact hfold []

lemma find?_ofPairs_rows (rows : List Row) (service : TypeExpr) :
    Assoc.find? service (Assoc.ofPairs (rows.map fun r => (r.service, r.registration))) =
      (lastFor? rows service).map Row.registration := by
  rw [Assoc.find?_ofPairs, lastFor?, ← List.map_reverse]
  induction rows.reverse with
  | nil => rfl
  | cons r rows ih => by_cases hr : r.service = service <;> simp [Assoc.find?, hr, ih]

lemma lastFor?_eq_none_iff (rows : List Row) (service : TypeExpr) :
    lastFor? rows service = none ↔ ∀ r ∈ rows, r.service ≠ service := by
  simp [lastFor?]

end Registrations

end Container

end Wiring
