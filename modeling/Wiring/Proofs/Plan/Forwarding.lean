import Mathlib.Data.List.Find
import Wiring.Proofs.Conventions.Lineage
import Wiring.Proofs.Plan.ParameterName

/-!
What initializers along a chain have in common. Ancestors without an initializer declare no dependencies, so what a
type forwards is what the nearest initializer above it takes.
-/

namespace Wiring.Conventions

variable {set : DeclarationSet} {c : Conventions} {s : Settings} {d e : TypeDeclaration}

def requirementsOf (s : Settings) (types : List TypeDeclaration) : List (TypeDeclaration × MemberDeclaration) :=
  types.flatMap fun e => (s.dependencies e).map (e, ·)

def requirements (c : Conventions) (s : Settings) (d : TypeDeclaration) :
    List (TypeDeclaration × MemberDeclaration) :=
  requirementsOf s (c.lineage d)

def inheritedRequirements (c : Conventions) (s : Settings) (d : TypeDeclaration) :
    List (TypeDeclaration × MemberDeclaration) :=
  requirementsOf s (c.superclasses d)

@[simp] lemma requirementsOf_cons (s : Settings) (d : TypeDeclaration) (ds : List TypeDeclaration) :
    requirementsOf s (d :: ds) = (s.dependencies d).map (d, ·) ++ requirementsOf s ds :=
  List.flatMap_cons

lemma requirements_eq (c : Conventions) (s : Settings) (d : TypeDeclaration) :
    c.requirements s d = (s.dependencies d).map (d, ·) ++ c.inheritedRequirements s d :=
  requirementsOf_cons s d _

lemma map_snd_requirementsOf (s : Settings) (ds : List TypeDeclaration) :
    (requirementsOf s ds).map Prod.snd = ds.flatMap s.dependencies := by
  simp [requirementsOf, List.map_flatMap, Function.comp_def]

/-! The parts of a plan, read off the requirements. -/

lemma map_fst_inheritedDependencies (c : Conventions) (s : Settings) (d : TypeDeclaration) :
    (c.inheritedDependencies s d).map Prod.fst = (c.inheritedRequirements s d).map Prod.snd := by
  simp [inheritedDependencies, inheritedRequirements, map_snd_requirementsOf, superclasses, List.map_flatMap,
    List.flatMap_map, Function.comp_def]

lemma map_fst_dependencies (c : Conventions) (s : Settings) (d : TypeDeclaration) :
    (ownDependencies s d ++ c.inheritedDependencies s d).map Prod.fst = (c.requirements s d).map Prod.snd := by
  rw [List.map_append, map_fst_inheritedDependencies, requirements_eq, List.map_append]
  simp [ownDependencies, Function.comp_def]

def parameterNames (c : Conventions) (s : Settings) (d : TypeDeclaration) : List String :=
  freshNames [] ((c.requirements s d).map (·.2.name))

lemma parameterNames_nodup (c : Conventions) (s : Settings) (d : TypeDeclaration) : (c.parameterNames s d).Nodup :=
  freshNames_nodup _ _

@[simp] lemma length_parameterNames (c : Conventions) (s : Settings) (d : TypeDeclaration) :
    (c.parameterNames s d).length = (c.requirements s d).length := by
  simp [parameterNames]

lemma freshNames_eq_parameterNames (c : Conventions) (s : Settings) (d : TypeDeclaration) :
    freshNames [] ((ownDependencies s d ++ c.inheritedDependencies s d).map (·.1.name)) = c.parameterNames s d := by
  have h := congrArg (List.map MemberDeclaration.name) (map_fst_dependencies c s d)
  rw [List.map_map, List.map_map] at h
  exact congrArg (freshNames []) h

lemma map_parameters {α : Type} (c : Conventions) (s : Settings) (d : TypeDeclaration)
    (f : InitializerParameter → α) (g : String × MemberDeclaration → α)
    (hf : ∀ n t m, f { name := n, type := t, member := m, declaredBy := m.owner.getD d.ref } = g (n, m)) :
    (c.initializerPlan s d).parameters.map f =
      ((c.parameterNames s d).zip ((c.requirements s d).map Prod.snd)).map g := by
  rw [← map_fst_dependencies, ← freshNames_eq_parameterNames, List.zip_map_right, List.map_map, List.map_zip_eq_zipWith]
  simp only [initializerPlan, List.map_zipWith, hf]
  rfl

@[simp] lemma map_name_parameters (c : Conventions) (s : Settings) (d : TypeDeclaration) :
    (c.initializerPlan s d).parameters.map (·.name) = c.parameterNames s d := by
  rw [map_parameters c s d _ Prod.fst fun _ _ _ => rfl, List.map_fst_zip (by simp)]

@[simp] lemma map_member_parameters (c : Conventions) (s : Settings) (d : TypeDeclaration) :
    (c.initializerPlan s d).parameters.map (·.member) = (c.requirements s d).map Prod.snd := by
  rw [map_parameters c s d _ Prod.snd fun _ _ _ => rfl, List.map_snd_zip (by simp)]

lemma map_declaredBy_parameters (c : Conventions) (s : Settings) (d : TypeDeclaration) :
    (c.initializerPlan s d).parameters.map (·.declaredBy) =
      (c.requirements s d).map fun r => r.2.owner.getD d.ref := by
  rw [map_parameters c s d _ (fun p => p.2.owner.getD d.ref) fun _ _ _ => rfl]
  have h : (fun p : String × MemberDeclaration => p.2.owner.getD d.ref) = (·.owner.getD d.ref) ∘ Prod.snd := rfl
  rw [h, ← List.map_map, List.map_snd_zip (by simp), List.map_map]
  rfl

@[simp] lemma length_parameters (c : Conventions) (s : Settings) (d : TypeDeclaration) :
    (c.initializerPlan s d).parameters.length = (c.requirements s d).length := by
  rw [← List.length_map (·.name), map_name_parameters, length_parameterNames]

lemma forwarded_eq (c : Conventions) (s : Settings) (d : TypeDeclaration) :
    (c.initializerPlan s d).forwarded = (c.parameterNames s d).drop (s.dependencies d).length := by
  rw [← freshNames_eq_parameterNames]
  simp [initializerPlan, ownDependencies]

lemma base_eq (c : Conventions) (s : Settings) (d : TypeDeclaration) :
    (c.initializerPlan s d).base =
      if (c.superclasses d).any (c.isInitialized s) then (c.ancestors d).head?.map (·.ref) else none := by
  rw [superclasses, List.any_map]
  rfl

lemma length_dependencies_le (c : Conventions) (s : Settings) (d : TypeDeclaration) :
    (s.dependencies d).length ≤ (c.parameterNames s d).length := by
  rw [length_parameterNames, requirements_eq, List.length_append, List.length_map]
  omega

lemma assignments_eq (c : Conventions) (s : Settings) (d : TypeDeclaration) :
    (c.initializerPlan s d).assignments =
      ((s.dependencies d).map (·.name)).zip ((c.parameterNames s d).take (s.dependencies d).length) := by
  have h : (c.initializerPlan s d).assignments = ((s.dependencies d).map (·.name)).zip (c.parameterNames s d) := by
    rw [← freshNames_eq_parameterNames]
    simp [initializerPlan, ownDependencies, Function.comp_def]
  rw [h, List.zip_eq_zip_take_min, List.length_map, Nat.min_eq_left (length_dependencies_le c s d),
    List.take_of_length_le (by simp)]

lemma map_snd_assignments (c : Conventions) (s : Settings) (d : TypeDeclaration) :
    (c.initializerPlan s d).assignments.map Prod.snd = (c.parameterNames s d).take (s.dependencies d).length := by
  rw [assignments_eq, List.map_snd_zip (by simp)]

lemma length_forwarded (c : Conventions) (s : Settings) (d : TypeDeclaration) :
    (c.initializerPlan s d).forwarded.length = (c.inheritedRequirements s d).length := by
  rw [forwarded_eq, List.length_drop, length_parameterNames, requirements_eq, List.length_append, List.length_map]
  omega

/-! Which ancestors have an initializer. -/

lemma dependencies_eq_nil (h : c.isInitialized s d = false) : s.dependencies d = [] := by
  cases hi : d.isInterface with
  | true => rw [Settings.dependencies, hi, if_pos rfl]
  | false =>
    simp only [isInitialized, hi, Settings.isRoot, Bool.not_false, Bool.true_and, Bool.or_eq_false_iff] at h
    simpa using h.1.1.1

lemma requirementsOf_eq_nil {ds : List TypeDeclaration} (h : ∀ e ∈ ds, c.isInitialized s e = false) :
    requirementsOf s ds = [] := by
  rw [requirementsOf, List.flatMap_eq_nil_iff]
  intro e he
  rw [dependencies_eq_nil (h e he), List.map_nil]

lemma inheritedRequirements_eq_nil (h : (c.superclasses d).find? (c.isInitialized s) = none) :
    c.inheritedRequirements s d = [] :=
  requirementsOf_eq_nil fun e he => by simpa using List.find?_eq_none.1 h e he

theorem inheritedRequirements_eq (hc : ofDeclarations set = .ok c) (hd : d ∈ set.types)
    (h : (c.superclasses d).find? (c.isInitialized s) = some e) : c.inheritedRequirements s d = c.requirements s e := by
  obtain ⟨-, pre, post, hsplit, hpre⟩ := List.find?_eq_some_iff_append.1 h
  have hlineage : c.lineage d = (d :: pre) ++ e :: post := by rw [lineage, hsplit, List.cons_append]
  have hpost : post = c.superclasses e := lineage_suffix hc hd hlineage
  have hnil : requirementsOf s pre = [] := requirementsOf_eq_nil fun p hp => by simpa using hpre p hp
  rw [inheritedRequirements, hsplit, requirementsOf, List.flatMap_append, ← requirementsOf, hnil, List.nil_append,
    requirements, lineage, hpost]
  rfl

/-! Plans by the types that they are for. -/

lemma find?_initializerPlans (hc : ofDeclarations set = .ok c) (hd : d ∈ set.types) :
    (c.initializerPlans s).find? (·.owner.key = d.key) =
      if c.isInitialized s d then some (c.initializerPlan s d) else none := by
  have hkey : ∀ e ∈ set.types, e.key = d.key → e = d := fun e he => DeclarationSet.eq_of_key_eq he hd
  rw [initializerPlans, initializedTypes, (ofDeclarations_cases hc).1, List.find?_map, List.find?_filter]
  by_cases h : c.isInitialized s d
  · rw [if_pos h]
    refine congrArg (Option.map (c.initializerPlan s)) (Eq.trans (List.find?_congr fun e he => ?_)
      (DeclarationSet.find?_eq_some_of_mem set.keys_nodup hd))
    have hi : e.key = d.key → c.isInitialized s e = true := fun hk => hkey e he hk ▸ h
    simpa [initializerPlan] using hi
  · rw [if_neg h, Option.map_eq_none_iff, List.find?_eq_none]
    intro e he hf
    obtain ⟨hi, hk⟩ := of_decide_eq_true hf
    exact h (hkey e he (of_decide_eq_true hk) ▸ hi)

def nearestPlan? (c : Conventions) (s : Settings) (d : TypeDeclaration) : Option InitializerPlan :=
  (c.ancestors d).findSome? fun a => (c.initializerPlans s).find? (·.owner.key = a.declaration.key)

lemma nearestPlan?_eq (hc : ofDeclarations set = .ok c) (hd : d ∈ set.types) :
    c.nearestPlan? s d = ((c.superclasses d).find? (c.isInitialized s)).map (c.initializerPlan s) := by
  have hmem : ∀ e ∈ c.superclasses d, e ∈ set.types := fun e he =>
    mem_types_of_mem_lineage hc hd (List.mem_cons_of_mem _ he)
  have hplan : c.nearestPlan? s d = (c.superclasses d).findSome? fun e =>
      (c.initializerPlans s).find? (·.owner.key = e.key) := by
    rw [superclasses, List.findSome?_map]
    rfl
  rw [hplan]
  generalize c.superclasses d = es at hmem
  induction es with
  | nil => rfl
  | cons e es ih =>
    obtain ⟨he, hes⟩ := List.forall_mem_cons.1 hmem
    rw [List.findSome?_cons, find?_initializerPlans hc he, List.find?_cons]
    cases h : c.isInitialized s e with
    | true => simp
    | false => simpa [h] using ih hes

lemma mem_initializerPlans (hc : ofDeclarations set = .ok c) {P : InitializerPlan} (hP : P ∈ c.initializerPlans s) :
    ∃ d ∈ set.types, c.isInitialized s d ∧ c.initializerPlan s d = P := by
  rw [initializerPlans, initializedTypes, (ofDeclarations_cases hc).1] at hP
  obtain ⟨d, hd, rfl⟩ := List.mem_map.1 hP
  exact ⟨d, (List.mem_filter.1 hd).1, (List.mem_filter.1 hd).2, rfl⟩

lemma base_of_nearestPlan?_eq_none (hc : ofDeclarations set = .ok c) (hd : d ∈ set.types)
    (h : c.nearestPlan? s d = none) :
    (c.initializerPlan s d).base = none ∧ (c.initializerPlan s d).forwarded = [] := by
  rw [nearestPlan?_eq hc hd, Option.map_eq_none_iff] at h
  constructor
  · have hany : (c.superclasses d).any (c.isInitialized s) = false := by
      rw [List.any_eq_false]
      exact List.find?_eq_none.1 h
    rw [base_eq, hany]
    rfl
  · apply List.eq_nil_of_length_eq_zero
    rw [length_forwarded, inheritedRequirements_eq_nil h, List.length_nil]

lemma base_of_find? (hc : ofDeclarations set = .ok c) (hd : d ∈ set.types)
    (h : (c.superclasses d).find? (c.isInitialized s) = some e) :
    ∃ a, (c.ancestors d).head? = some a ∧ d.base = some a.ref ∧ (c.initializerPlan s d).base = some a.ref := by
  have hany : (c.superclasses d).any (c.isInitialized s) = true := by
    rw [List.any_eq_true]
    exact ⟨e, List.mem_of_find?_eq_some h, List.find?_some h⟩
  rcases ancestors_cases hc hd with ⟨-, ha⟩ | ⟨r, b, rest, hb, -, ha, -⟩
  · rw [superclasses, ha] at h
    cases h
  · refine ⟨⟨b, r⟩, by rw [ha, List.head?_cons], (DeclarationSet.classBase?_eq_some hb).1, ?_⟩
    rw [base_eq, if_pos hany, ha, List.head?_cons, Option.map_some]

lemma declaredBy_eq {p : InitializerParameter} (hp : p ∈ (c.initializerPlan s d).parameters) :
    p.declaredBy = p.member.owner.getD d.ref := by
  have h : (c.initializerPlan s d).parameters.map (·.declaredBy) =
      (c.initializerPlan s d).parameters.map fun p => p.member.owner.getD d.ref := by
    rw [map_declaredBy_parameters]
    have hm := congrArg (List.map fun m => m.owner.getD d.ref) (map_member_parameters c s d)
    rw [List.map_map, List.map_map] at hm
    exact hm.symm
  exact List.map_inj_left.1 h p hp

lemma exists_owner (hc : ofDeclarations set = .ok c) (hd : d ∈ set.types)
    (howner : ∀ d ∈ set.types, ∀ m ∈ d.members, m.owner ≠ none) {p : InitializerParameter}
    (hp : p ∈ (c.initializerPlan s d).parameters) : ∃ o, p.member.owner = some o := by
  have hm : p.member ∈ (c.requirements s d).map Prod.snd := by
    rw [← map_member_parameters]
    exact List.mem_map_of_mem hp
  rw [requirements, map_snd_requirementsOf, List.mem_flatMap] at hm
  obtain ⟨e, he, hpe⟩ := hm
  have hmem : p.member ∈ e.members := by
    unfold Settings.dependencies at hpe
    split at hpe
    · cases hpe
    · exact List.mem_of_mem_filter hpe
  exact Option.ne_none_iff_exists'.1 (howner e (mem_types_of_mem_lineage hc hd he) _ hmem)

lemma forwarded_getElem? (hc : ofDeclarations set = .ok c) (hd : d ∈ set.types)
    (h : (c.superclasses d).find? (c.isInitialized s) = some e) {i : Nat} {n : String} {q : InitializerParameter}
    (hn : (c.initializerPlan s d).forwarded[i]? = some n) (hq : (c.initializerPlan s e).parameters[i]? = some q) :
    ∃ p ∈ (c.initializerPlan s d).parameters, p.name = n ∧ p.member = q.member := by
  let k := (s.dependencies d).length
  have hname : (c.initializerPlan s d).parameters[k + i]?.map (·.name) = some n := by
    rw [← List.getElem?_map, map_name_parameters, ← List.getElem?_drop, ← forwarded_eq, hn]
  obtain ⟨p, hp, hpn⟩ := Option.map_eq_some_iff.1 hname
  have hmember : (c.initializerPlan s d).parameters[k + i]?.map (·.member) = some q.member := by
    rw [← List.getElem?_map, map_member_parameters, requirements_eq, List.map_append,
      List.getElem?_append_right (by simp [k]), inheritedRequirements_eq hc hd h, ← map_member_parameters,
      List.getElem?_map]
    simp [k, hq]
  rw [hp, Option.map_some, Option.some.injEq] at hmember
  exact ⟨p, List.mem_of_getElem? hp, hpn, hmember⟩

/-- How the initializer of a type fits into its chain. -/
structure Fits (c : Conventions) (s : Settings) (d : TypeDeclaration) (P : InitializerPlan) : Prop where
  owner : P.owner = d.ref
  members : P.parameters.map (·.member) =
    s.dependencies d ++ (c.ancestors d).flatMap fun a => s.dependencies a.declaration
  names_nodup : (P.parameters.map (·.name)).Nodup
  names : P.assignments.map Prod.snd ++ P.forwarded = P.parameters.map (·.name)
  topmost : c.nearestPlan? s d = none → P.base = none ∧ P.forwarded = []
  base : ∀ Q, c.nearestPlan? s d = some Q →
    ∃ a, (c.ancestors d).head? = some a ∧ d.base = some a.ref ∧ P.base = some a.ref
  length_forwarded : ∀ Q, c.nearestPlan? s d = some Q → P.forwarded.length = Q.parameters.length
  forwarded : ∀ Q, c.nearestPlan? s d = some Q → ∀ (i : Nat) (n : String) (q : InitializerParameter),
    P.forwarded[i]? = some n → Q.parameters[i]? = some q →
      ∃ p ∈ P.parameters, p.name = n ∧ p.member = q.member ∧ p.declaredBy = q.declaredBy

/-- A type takes its own dependencies and then those of its ancestors, and what it does not assign itself it forwards
to its base in the order in which the nearest initializer above it takes it. -/
theorem initializerPlan_fits (hc : ofDeclarations set = .ok c)
    (howner : ∀ d ∈ set.types, ∀ m ∈ d.members, m.owner ≠ none) (s : Settings) {P : InitializerPlan}
    (hP : P ∈ c.initializerPlans s) : ∃ d ∈ set.types, Fits c s d P := by
  obtain ⟨d, hd, -, rfl⟩ := mem_initializerPlans hc hP
  have hnearest : ∀ Q, c.nearestPlan? s d = some Q →
      ∃ e, (c.superclasses d).find? (c.isInitialized s) = some e ∧ c.initializerPlan s e = Q := by
    intro Q hQ
    rwa [nearestPlan?_eq hc hd, Option.map_eq_some_iff] at hQ
  refine ⟨d, hd, ?_⟩
  constructor
  case owner => rfl
  case members =>
    rw [map_member_parameters, requirements, map_snd_requirementsOf, lineage, List.flatMap_cons, superclasses,
      List.flatMap_map]
  case names_nodup =>
    rw [map_name_parameters]
    exact parameterNames_nodup c s d
  case names => rw [map_snd_assignments, forwarded_eq, map_name_parameters, List.take_append_drop]
  case topmost => exact base_of_nearestPlan?_eq_none hc hd
  case base =>
    intro Q hQ
    obtain ⟨e, he, -⟩ := hnearest Q hQ
    exact base_of_find? hc hd he
  case length_forwarded =>
    intro Q hQ
    obtain ⟨e, he, rfl⟩ := hnearest Q hQ
    rw [Conventions.length_forwarded, length_parameters, inheritedRequirements_eq hc hd he]
  case forwarded =>
    intro Q hQ i n q hn hq
    obtain ⟨e, he, rfl⟩ := hnearest Q hQ
    obtain ⟨p, hp, hpn, hpm⟩ := forwarded_getElem? hc hd he hn hq
    obtain ⟨o, ho⟩ := exists_owner hc hd howner hp
    refine ⟨p, hp, hpn, hpm, ?_⟩
    rw [declaredBy_eq hp, declaredBy_eq (List.mem_of_getElem? hq), ← hpm, ho, Option.getD_some, Option.getD_some]

end Wiring.Conventions

/-! Documents of which some take a mailer of their own, beside the one that their base takes. -/

namespace Wiring.Documents

open Conventions

def named (name : String) : TypeRef :=
  { package := "app", name }

def dependency (owner name type : String) : MemberDeclaration where
  name
  type := named type
  owner := some (named owner)
  annotations := [{ name := "Inject" }]

def record : TypeDeclaration where
  ref := named "Record"
  annotations := [{ name := "Singleton" }]

def document : TypeDeclaration where
  ref := named "Document"
  base := some (named "Record")

def letter : TypeDeclaration where
  ref := named "Letter"
  base := some (named "Document")
  members := [dependency "Letter" "__mailer" "Mailer"]

def invoice : TypeDeclaration where
  ref := named "Invoice"
  base := some (named "Letter")
  members := [dependency "Invoice" "__mailer" "Mailer", dependency "Invoice" "ledger" "Ledger"]

def declarations : DeclarationSet where
  types := [record, document, letter, invoice]
  keys_nodup := by decide

def conventions : Conventions :=
  let ancestors := [letter, document, record].map fun d => ({ declaration := d, ref := d.ref } : Ancestor)
  { declarations := declarations
    links := []
    chains := [(record.key, []), (document.key, ancestors.drop 2), (letter.key, ancestors.drop 1),
      (invoice.key, ancestors)] }

lemma ofDeclarations_eq : Conventions.ofDeclarations declarations = .ok conventions := by
  cbv

theorem invoice_fits : ∃ d ∈ declarations.types, Fits conventions {} d (conventions.initializerPlan {} invoice) :=
  initializerPlan_fits ofDeclarations_eq (by decide) {} (List.mem_map.2 ⟨invoice, by decide, rfl⟩)

end Wiring.Documents
