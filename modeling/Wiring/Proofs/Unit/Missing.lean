import Wiring.Proofs.Plan.Lookups
import Wiring.Proofs.Unit.Names

/-!
The report of what is missing. Each annotated type is reported once for each type that its initializer takes and that
nothing provides, in the order in which these are first taken, where the first of them is taken.
-/

namespace Wiring

variable {s : Settings} {d : TypeDeclaration} {ps : List InitializerParameter} {t : TypeRef}

def requiredTypes (ps : List InitializerParameter) : List TypeRef :=
  (ps.map (·.type)).eraseDups

def requirementPlace (d : TypeDeclaration) (ps : List InitializerParameter) (t : TypeRef) : Option SourceLocation :=
  let place := (ps.find? (·.type = t)).bind fun p =>
    if ∀ owner ∈ p.member.owner, owner.key = d.key then p.member.location else none
  place.or d.location

/-! Edges, one for each type. -/

def edgeTo (d : TypeDeclaration) (ps : List InitializerParameter) (t : TypeRef) : DependencyEdge :=
  let first := ps.find? (·.type = t)
  let place := first.bind fun p => if p.declaredBy.key = d.key then p.member.location else none
  { owner := d.ref, required := t, member := first.map (·.member.name), location := place.or d.location }

lemma edgeTo_cons_of_ne {p : InitializerParameter} (h : p.type ≠ t) : edgeTo d (p :: ps) t = edgeTo d ps t := by
  rw [edgeTo, List.find?_cons_of_neg (by simpa using h)]
  rfl

lemma dependencyEdges_eq (d : TypeDeclaration) (seen : List TypeRef) (ps : List InitializerParameter) :
    dependencyEdges d seen ps = ((ps.map (·.type)).filter (· ∉ seen)).eraseDups.map (edgeTo d ps) := by
  induction ps generalizing seen with
  | nil => rfl
  | cons p ps ih =>
    rw [dependencyEdges, List.map_cons]
    split
    case isTrue hp =>
      rw [ih, List.filter_cons_of_neg (by simpa using hp)]
      refine List.map_congr_left fun t ht => (edgeTo_cons_of_ne ?_).symm
      rintro rfl
      simp [hp] at ht
    case isFalse hp =>
      have hrest : ((ps.map (·.type)).filter (· ∉ seen)).filter (fun t => !t == p.type) =
          (ps.map (·.type)).filter (· ∉ p.type :: seen) := by
        rw [List.filter_filter]
        refine List.filter_congr fun t _ => Bool.eq_iff_iff.2 ?_
        simp
      have hfirst : edgeTo d (p :: ps) p.type =
          { owner := d.ref
            required := p.type
            member := some p.member.name
            location := (if p.declaredBy.key = d.key then p.member.location else none).or d.location } := by
        rw [edgeTo, List.find?_cons_of_pos (by simp)]
        rfl
      rw [ih, List.filter_cons_of_pos (by simpa using hp), List.eraseDups_cons, hrest, List.map_cons, hfirst]
      refine congrArg (List.cons _) (List.map_congr_left fun t ht => (edgeTo_cons_of_ne ?_).symm)
      rintro rfl
      simp at ht

lemma dependencyEdges_nil (d : TypeDeclaration) (ps : List InitializerParameter) :
    dependencyEdges d [] ps = (requiredTypes ps).map (edgeTo d ps) := by
  rw [dependencyEdges_eq, List.filter_eq_self.2 (by simp), requiredTypes]

/-! Edges of a graph. -/

def parametersFor (initializers : List InitializerPlan) (d : TypeDeclaration) : List InitializerParameter :=
  (initializers.find? (·.owner.key = d.key)).elim [] (·.parameters)

namespace Conventions

variable {c : Conventions} {plans : List InterfacePlan} {initializers : List InitializerPlan} {depth : Nat}
  {set : DeclarationSet}

lemma edges_of_graphOf {ds : List TypeDeclaration} {g : RegistrationGraph}
    (h : c.graphOf s plans initializers depth ds = .ok g) :
    g.edges = (ds.filter fun d => (s.lifetime? d).isSome).flatMap fun d =>
      dependencyEdges d [] (parametersFor initializers d) := by
  induction ds generalizing g with
  | nil =>
    cases h
    rfl
  | cons d ds ih =>
    obtain ⟨hnone, h⟩ | ⟨lifetime, entries, plan, rest, hsome, -, hplan, hrest, rfl⟩ := graphOf_cons h
    · rw [ih h, List.filter_cons_of_neg (by simp [hnone])]
    · rw [ih hrest, List.filter_cons_of_pos (by simp [hsome]), List.flatMap_cons, parametersFor, hplan]
      rfl

lemma parametersFor_initializerPlans (hc : ofDeclarations set = .ok c) (hd : d ∈ s.serviceTypes set) :
    c.initializerPlan s d ∈ c.initializerPlans s ∧
      parametersFor (c.initializerPlans s) d = (c.initializerPlan s d).parameters := by
  obtain ⟨hd, hlifetime⟩ := List.mem_filter.1 hd
  have hfind := find?_initializerPlans (s := s) hc hd
  rw [if_pos (isInitialized_of_lifetime c hlifetime)] at hfind
  exact ⟨List.mem_of_find?_eq_some hfind, by rw [parametersFor, hfind]; rfl⟩

lemma location_edgeTo : (edgeTo d (c.initializerPlan s d).parameters t).location =
    requirementPlace d (c.initializerPlan s d).parameters t := by
  rw [edgeTo, requirementPlace]
  cases hp : (c.initializerPlan s d).parameters.find? (·.type = t) with
  | none => rfl
  | some p =>
    have hdeclared : p.declaredBy.key = d.key ↔ ∀ owner ∈ p.member.owner, owner.key = d.key := by
      rw [declaredBy_eq (List.mem_of_find?_eq_some hp)]
      cases p.member.owner <;> simp
    simp only [Option.bind_some, hdeclared]

end Conventions

/-! What is provided. -/

instance (e : ServiceEntry) (t : TypeRef) : Decidable (e.AccountsFor t) :=
  inferInstanceAs (Decidable (_ ∨ _))

namespace GenerationResult

/-- Whether some entry accounts for a type, or the type is provided from outside. -/
def Provides (r : GenerationResult) (s : Settings) (t : TypeRef) : Prop :=
  (∃ e ∈ r.services, e.AccountsFor t) ∨ t.fullName ∈ s.externalServices

instance (r : GenerationResult) (s : Settings) (t : TypeRef) : Decidable (r.Provides s t) :=
  inferInstanceAs (Decidable (_ ∨ _))

def missing (r : GenerationResult) : List Diagnostic :=
  r.diagnostics.filter (·.code = DiagnosticDescriptor.missingDependency.code)

end GenerationResult

lemma RegistrationGraph.satisfies_iff {g : RegistrationGraph} {r : GenerationResult} (h : r.services = g.services) :
    g.satisfies s t ↔ r.Provides s t := by
  simp only [satisfies, isRegistered, hasOpenGeneric, GenerationResult.Provides, ServiceEntry.AccountsFor, h,
    Bool.or_eq_true, Bool.and_eq_true, List.any_eq_true, decide_eq_true_iff]
  grind

namespace Generation

variable {depth : Nat} {set : DeclarationSet} {r : GenerationResult}

lemma missing_of_generate (h : (generate s depth set).1 = .ok r) :
    ∃ design, Design.ofDeclarations s depth set = .ok design ∧ r.services = design.graph.services ∧
      r.missing = (design.graph.unmetEdges s).map fun e => .missingDependency e.location e.required := by
  obtain ⟨design, hdesign, hservices, -, hdiagnostics⟩ := result_of_generate h
  refine ⟨design, hdesign, hservices, ?_⟩
  rw [GenerationResult.missing, hdiagnostics, filter_code_diagnostics, if_neg (by decide), if_pos rfl,
    if_neg (by decide), List.nil_append, List.append_nil, missingDependencies]

lemma generate_of_design {design : Design} (h : Design.ofDeclarations s depth set = .ok design) :
    ∃ r, (generate s depth set).1 = .ok r ∧ r.services = design.graph.services ∧
      r.initializers = design.initializers := by
  rw [generate, ofDeclarations, h]
  exact ⟨_, rfl, rfl, rfl⟩

/-- Every annotated type has an initializer. What this takes and nothing provides is reported in order, each type
once, and nothing else is. -/
theorem missing_exact (h : (generate s depth set).1 = .ok r) :
    (∀ d ∈ s.serviceTypes set, ∃ P ∈ r.initializers,
        P.owner = d.ref ∧ parametersFor r.initializers d = P.parameters) ∧
      r.missing = (s.serviceTypes set).flatMap fun d =>
        ((requiredTypes (parametersFor r.initializers d)).filter (¬r.Provides s ·)).map fun t =>
          .missingDependency (requirementPlace d (parametersFor r.initializers d) t) t := by
  obtain ⟨design, hdesign, hservices, hmissing⟩ := missing_of_generate h
  obtain ⟨hc, -, hplans, hgraph⟩ := Design.ofDeclarations_eq_ok.1 hdesign
  obtain ⟨c, hc', -, hinitializers⟩ := plans_of_generate h
  obtain rfl : c = design.conventions := Except.ok.inj (hc'.symm.trans hc)
  obtain ⟨hset, -⟩ := Conventions.ofDeclarations_cases hc
  have hparameters : ∀ d ∈ s.serviceTypes set, design.conventions.initializerPlan s d ∈ r.initializers ∧
      parametersFor r.initializers d = (design.conventions.initializerPlan s d).parameters := by
    rw [hinitializers]
    exact fun d hd => Conventions.parametersFor_initializerPlans hc hd
  refine ⟨fun d hd => ⟨_, (hparameters d hd).1, rfl, (hparameters d hd).2⟩, ?_⟩
  rw [hmissing, RegistrationGraph.unmetEdges, Conventions.edges_of_graphOf hgraph, hset,
    hplans.trans hinitializers.symm, List.filter_flatMap, List.map_flatMap, Settings.serviceTypes]
  refine List.flatMap_congr fun d hd => ?_
  have hunmet : (fun e : DependencyEdge => !design.graph.satisfies s e.required) ∘
      edgeTo d (design.conventions.initializerPlan s d).parameters = fun t => decide ¬r.Provides s t :=
    funext fun t => Bool.eq_iff_iff.2 (by simp [edgeTo, ← RegistrationGraph.satisfies_iff hservices])
  rw [(hparameters d hd).2, dependencyEdges_nil, List.filter_map, List.map_map, hunmet]
  exact List.map_congr_left fun t _ => congrArg (Diagnostic.missingDependency · t) Conventions.location_edgeTo

end Generation

/-! A parcel takes a ledger of its own beside the one that its sender takes, and neither is registered. -/

namespace Shipments

open Documents (named)

def place (line : Int) : SourceLocation where
  path := "parcels.cs"
  line

def dependency (owner name type : String) (line : Int) : MemberDeclaration where
  name
  type := named type
  owner := some (named owner)
  annotations := [{ name := "Inject" }]
  location := some (place line)

def scale : TypeDeclaration where
  ref := named "Scale"
  annotations := [{ name := "Transient" }]

def sender : TypeDeclaration where
  ref := named "Sender"
  members := [dependency "Sender" "_ledger" "Ledger" 2, dependency "Sender" "_mailer" "Mailer" 3]

def parcel : TypeDeclaration where
  ref := named "Parcel"
  base := some (named "Sender")
  members := [dependency "Parcel" "_scale" "Scale" 6, dependency "Parcel" "_ledger" "Ledger" 7]
  annotations := [{ name := "Transient" }]
  location := some (place 5)

def declarations : DeclarationSet where
  types := [scale, sender, parcel]
  keys_nodup := by decide

def conventions : Conventions where
  declarations := declarations
  links := []
  chains := [(scale.key, []), (sender.key, []), (parcel.key, [{ declaration := sender, ref := sender.ref }])]

def design : Design where
  conventions
  interfaces := []
  initializers := conventions.initializerPlans {}
  graph :=
    { services := [scale, parcel].map fun d =>
        { service := d.ref, implementation := d.ref, lifetime := .transient, location := d.location }
      edges := dependencyEdges parcel [] (parametersFor (conventions.initializerPlans {}) parcel) }

lemma ofDeclarations_eq : Design.ofDeclarations {} 1 declarations = .ok design := by
  have hc : Conventions.ofDeclarations declarations = .ok conventions := by cbv
  exact Design.ofDeclarations_eq_ok.2 ⟨hc, by decide +kernel, rfl, by decide +kernel⟩

theorem ledger_missing :
    ∃ r, (generate {} 1 declarations).1 = .ok r ∧
      r.missing = [.missingDependency (some (place 7)) (named "Ledger"),
        .missingDependency (some (place 5)) (named "Mailer")] := by
  obtain ⟨r, hr, hservices, hinitializers⟩ := Generation.generate_of_design ofDeclarations_eq
  obtain ⟨-, hmissing⟩ := Generation.missing_exact hr
  refine ⟨r, hr, ?_⟩
  rw [hmissing, hinitializers]
  simp only [GenerationResult.Provides, hservices]
  decide +kernel

end Shipments

end Wiring
