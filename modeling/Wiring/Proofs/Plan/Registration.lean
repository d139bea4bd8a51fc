import Wiring.Plan.Registration
import Wiring.Plan.Validation
import Wiring.Proofs.Conventions.Lineage

/-!
Where the entries of a registration graph come from, and what it means that none of them is missing.
-/

namespace Wiring

/-- An entry for the very service, or an open one for its generic type. -/
def ServiceEntry.AccountsFor (e : ServiceEntry) (r : TypeRef) : Prop :=
  e.service = r ∨ (e.isOpenGeneric ∧ r.isGeneric ∧ e.service.key = r.key)

namespace Conventions

variable {c : Conventions} {s : Settings} {plans : List InterfacePlan} {initializers : List InitializerPlan}
  {depth : Nat}

lemma graphOf_cons {d : TypeDeclaration} {ds : List TypeDeclaration} {g : RegistrationGraph}
    (h : c.graphOf s plans initializers depth (d :: ds) = .ok g) :
    (s.lifetime? d = none ∧ c.graphOf s plans initializers depth ds = .ok g) ∨
      ∃ lifetime entries plan rest, s.lifetime? d = some lifetime ∧
        c.serviceEntries plans depth d lifetime = some entries ∧
        initializers.find? (·.owner.key = d.key) = some plan ∧
        c.graphOf s plans initializers depth ds = .ok rest ∧
        g = { services := entries ++ rest.services, edges := dependencyEdges d [] plan.parameters ++ rest.edges } := by
  cases hl : s.lifetime? d with
  | none => exact Or.inl ⟨rfl, by simpa only [graphOf, hl] using h⟩
  | some lifetime =>
    cases he : c.serviceEntries plans depth d lifetime with
    | none => simp [graphOf, hl, he] at h
    | some entries =>
      cases hp : initializers.find? (·.owner.key = d.key) with
      | none => simp [graphOf, hl, he, hp] at h
      | some plan =>
        cases hr : c.graphOf s plans initializers depth ds with
        | error f =>
          simp only [graphOf, hl, he, hp, hr] at h
          cases h
        | ok rest =>
          simp only [graphOf, hl, he, hp, hr] at h
          cases h
          exact Or.inr ⟨lifetime, entries, plan, rest, rfl, he, rfl, rfl, rfl⟩

lemma exists_eq_of_mem_serviceEntries {d : TypeDeclaration} {lifetime : Lifetime} {entries : List ServiceEntry}
    (h : c.serviceEntries plans depth d lifetime = some entries) {e : ServiceEntry} (he : e ∈ entries) :
    ∃ service, e = { service, implementation := d.ref, lifetime, location := d.location } := by
  cases hs : c.registeredServices plans depth d with
  | none => simp [serviceEntries, hs] at h
  | some services =>
    simp only [serviceEntries, hs, Option.bind_eq_bind, Option.bind_some, Option.pure_def, Option.some.injEq] at h
    rw [← h] at he
    obtain ⟨service, -, rfl⟩ := List.mem_map.1 he
    exact ⟨service, rfl⟩

lemma implementation_of_mem_serviceEntries {d : TypeDeclaration} {lifetime : Lifetime} {entries : List ServiceEntry}
    (h : c.serviceEntries plans depth d lifetime = some entries) {e : ServiceEntry} (he : e ∈ entries) :
    e.implementation = d.ref := by
  obtain ⟨service, rfl⟩ := exists_eq_of_mem_serviceEntries h he
  rfl

lemma exists_annotated_of_mem_services {ds : List TypeDeclaration} {g : RegistrationGraph}
    (h : c.graphOf s plans initializers depth ds = .ok g) {e : ServiceEntry} (he : e ∈ g.services) :
    ∃ d ∈ ds, e.implementation = d.ref ∧ s.lifetime? d = some e.lifetime := by
  induction ds generalizing g with
  | nil =>
    cases h
    cases he
  | cons d ds ih =>
    rcases graphOf_cons h with ⟨-, h⟩ | ⟨lifetime, entries, plan, rest, hl, hentries, -, hrest, rfl⟩
    · obtain ⟨f, hf, hi⟩ := ih h he
      exact ⟨f, List.mem_cons_of_mem _ hf, hi⟩
    · rcases List.mem_append.1 he with he | he
      · obtain ⟨service, rfl⟩ := exists_eq_of_mem_serviceEntries hentries he
        exact ⟨d, List.mem_cons_self, rfl, hl⟩
      · obtain ⟨f, hf, hi⟩ := ih hrest he
        exact ⟨f, List.mem_cons_of_mem _ hf, hi⟩

lemma exists_of_mem_services {ds : List TypeDeclaration} {g : RegistrationGraph}
    (h : c.graphOf s plans initializers depth ds = .ok g) {e : ServiceEntry} (he : e ∈ g.services) :
    ∃ d ∈ ds, e.implementation = d.ref := by
  obtain ⟨d, hd, hi, -⟩ := exists_annotated_of_mem_services h he
  exact ⟨d, hd, hi⟩

end Conventions

end Wiring
