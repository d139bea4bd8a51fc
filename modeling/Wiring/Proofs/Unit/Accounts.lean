import Wiring.Generation
import Wiring.Proofs.Except
import Wiring.Proofs.Unit.Closed

/-!
Where the services of a pass are left: each is written as a call or reported, in order, if there is a unit to write
them to. Whether there is one is up to the settings and, where these name no assembly, to the first service alone.
-/

namespace Wiring

/-- A call is written for an entry, and its names stand for the types of that entry once the imports have been run. -/
structure RegistrationCall.StandsFor (imports : List (List ImportStatement)) (call : RegistrationCall)
    (e : ServiceEntry) : Prop where
  renders : call.Renders e
  bound : List.Forall₂ (fun r n => r.IsLoose ∧ n = r.name ∨ IsBound imports r n) e.mentions call.names

/-- Each entry is one call or one diagnostic, both in the order of the entries, and nothing else is either. -/
inductive Accounted (imports : List (List ImportStatement)) :
    List ServiceEntry → List RegistrationCall → List Diagnostic → Prop
  | nil : Accounted imports [] [] []
  | written {e call es calls ds} : call.StandsFor imports e → Accounted imports es calls ds →
      Accounted imports (e :: es) (call :: calls) ds
  | reported {e es calls ds} : Accounted imports es calls ds →
      Accounted imports (e :: es) calls (.unregistrableService e.location e.service e.implementation :: ds)

namespace Accounted

variable {imports : List (List ImportStatement)} {services : List ServiceEntry}

lemma of_expressible {calls : List RegistrationCall}
    (h : List.Forall₂ (fun e call => call.StandsFor imports e) (services.filter (·.isExpressible)) calls) :
    Accounted imports services calls (RegistrationUnit.diagnostics services) := by
  induction services generalizing calls with
  | nil =>
    cases h
    exact .nil
  | cons e es ih =>
    cases he : e.isExpressible with
    | true =>
      rw [List.filter_cons_of_pos he] at h
      have hskipped : RegistrationUnit.diagnostics (e :: es) = RegistrationUnit.diagnostics es := by
        rw [RegistrationUnit.diagnostics, RegistrationUnit.skipped, List.filter_cons_of_neg (by simp [he])]
        rfl
      cases h with
      | cons hcall hcalls =>
        rw [hskipped]
        exact .written hcall (ih hcalls)
    | false =>
      rw [List.filter_cons_of_neg (by simp [he])] at h
      have hskipped : RegistrationUnit.diagnostics (e :: es) =
          .unregistrableService e.location e.service e.implementation :: RegistrationUnit.diagnostics es := by
        rw [RegistrationUnit.diagnostics, RegistrationUnit.skipped, List.filter_cons_of_pos (by simp [he])]
        rfl
      rw [hskipped]
      exact .reported (ih h)

lemma nil_iff : Accounted imports services [] [] ↔ services = [] := by
  constructor
  · intro h
    cases h
    rfl
  · rintro rfl
    exact .nil

end Accounted

namespace RegistrationUnit

theorem accounted_ofServices (s : Settings) (services : List ServiceEntry) (assembly : String) :
    Accounted (ofServices s services assembly).imports services (ofServices s services assembly).calls
      (diagnostics services) := by
  have hrenders := (renders_ofServices s services assembly).flip
  have hbound := bound_ofServices s services assembly
  have hcalls : List.Forall₂ (fun e call => call.StandsFor (ofServices s services assembly).imports e)
      (services.filter (·.isExpressible)) (ofServices s services assembly).calls := by
    rw [List.forall₂_iff_get] at hrenders hbound ⊢
    exact ⟨hbound.1, fun i hi hi' => ⟨hrenders.2 i hi hi', hbound.2 i hi hi'⟩⟩
  exact .of_expressible hcalls

end RegistrationUnit

def GenerationResult.unregistrable (r : GenerationResult) : List Diagnostic :=
  r.diagnostics.filter (·.code = DiagnosticDescriptor.unregistrableService.code)

def GenerationResult.registrations? (r : GenerationResult) (s : Settings) : Option RegistrationUnit :=
  (Design.assembly? s r.services).map (RegistrationUnit.ofServices s r.services)

lemma Design.assembly?_eq_none {s : Settings} {services : List ServiceEntry} :
    Design.assembly? s services = none ↔ s.assemblyName.getD "" = "" ∧
      ∀ e ∈ services.head?, e.implementation.package.toList.takeWhile (· ≠ '.') = [] := by
  have hname : s.assemblyName.getD "" = "" ↔ s.assemblyName.filter (· ≠ "") = none := by
    cases s.assemblyName with
    | none => simp
    | some name => simp [Option.filter_eq_none_iff]
  rw [hname, Design.assembly?]
  cases s.assemblyName.filter (· ≠ "") with
  | some name => simp
  | none =>
    cases services with
    | nil => simp
    | cons e es =>
      simp only [List.head?_cons, Option.bind_some, Option.mem_some_iff, forall_eq', true_and]
      cases e.implementation.package.toList.takeWhile (· ≠ '.') <;> simp

namespace Generation

variable {s : Settings} {depth : Nat} {set : DeclarationSet} {r : GenerationResult}

lemma result_of_generate (h : (generate s depth set).1 = .ok r) :
    ∃ design, Design.ofDeclarations s depth set = .ok design ∧ r.services = design.graph.services ∧
      r.units = r.initializers.map (fun p => (InitializerUnit.ofPlan p).toSource) ++
        r.interfaces.map (fun p => (InterfaceUnit.ofPlan p).toSource) ++
        (r.registrations? s).toList.map (·.toSource) ∧
      r.diagnostics = (duplicateLifetimes (set.types.map s.collect)).1 ++
        (missingDependencies s design.graph).1 ++
        RegistrationUnit.diagnostics (if (r.registrations? s).isSome then r.services else []) := by
  rw [generate] at h
  cases hg : Generation.ofDeclarations s depth set with
  | error fault =>
    rw [hg] at h
    cases h
  | ok g =>
    rw [hg] at h
    obtain ⟨design, hdesign, hrest⟩ := Except.bind_eq_ok.1 hg
    cases hrest
    cases h
    refine ⟨design, hdesign, rfl, ?_, rfl⟩
    simp only [result, units, List.map_map]
    rfl

lemma filter_code {ds : List Diagnostic} {own : String} (h : ∀ x ∈ ds, x.code = own) (code : String) :
    ds.filter (·.code = code) = if own = code then ds else [] := by
  split
  · rename_i heq
    exact List.filter_eq_self.2 fun x hx => decide_eq_true ((h x hx).trans heq)
  · rename_i hne
    exact List.filter_eq_nil_iff.2 fun x hx heq => hne ((h x hx).symm.trans (of_decide_eq_true heq))

lemma filter_code_diagnostics (types : List CollectedType) (g : RegistrationGraph) (services : List ServiceEntry)
    (code : String) : ((duplicateLifetimes types).1 ++ (missingDependencies s g).1 ++
        RegistrationUnit.diagnostics services).filter (·.code = code) =
      (if DiagnosticDescriptor.duplicateLifetime.code = code then (duplicateLifetimes types).1 else []) ++
        (if DiagnosticDescriptor.missingDependency.code = code then (missingDependencies s g).1 else []) ++
        (if DiagnosticDescriptor.unregistrableService.code = code then RegistrationUnit.diagnostics services
          else []) := by
  have hduplicate : ∀ x ∈ (duplicateLifetimes types).1, x.code = DiagnosticDescriptor.duplicateLifetime.code :=
    List.forall_mem_map.2 fun _ _ => rfl
  have hmissing : ∀ x ∈ (missingDependencies s g).1, x.code = DiagnosticDescriptor.missingDependency.code :=
    List.forall_mem_map.2 fun _ _ => rfl
  have hskipped : ∀ x ∈ RegistrationUnit.diagnostics services,
      x.code = DiagnosticDescriptor.unregistrableService.code :=
    List.forall_mem_map.2 fun _ _ => rfl
  rw [List.filter_append, List.filter_append, filter_code hduplicate, filter_code hmissing, filter_code hskipped]

lemma unregistrable_of_generate (h : (generate s depth set).1 = .ok r) :
    r.unregistrable = RegistrationUnit.diagnostics (if (r.registrations? s).isSome then r.services else []) := by
  obtain ⟨design, -, -, -, hdiagnostics⟩ := result_of_generate h
  rw [GenerationResult.unregistrable, hdiagnostics, filter_code_diagnostics, if_neg (by decide), if_neg (by decide),
    if_pos rfl, List.nil_append, List.nil_append]

/-- All services are accounted for or none are: there is no unit where the settings name no assembly and the first
service is implemented in no package, and then the others are neither written nor reported. -/
theorem services_accounted_iff (h : (generate s depth set).1 = .ok r) :
    r.units = r.initializers.map (fun p => (InitializerUnit.ofPlan p).toSource) ++
        r.interfaces.map (fun p => (InterfaceUnit.ofPlan p).toSource) ++
        (r.registrations? s).toList.map (·.toSource) ∧
      (Accounted ((r.registrations? s).elim [] (·.imports)) r.services ((r.registrations? s).elim [] (·.calls))
          r.unregistrable ↔ (r.registrations? s).isSome ∨ r.services = []) ∧
      (r.registrations? s = none ↔ s.assemblyName.getD "" = "" ∧
        ∀ e ∈ r.services.head?, e.implementation.package.toList.takeWhile (· ≠ '.') = []) := by
  obtain ⟨-, -, -, hunits, -⟩ := result_of_generate h
  refine ⟨hunits, ?_, ?_⟩
  · rw [unregistrable_of_generate h]
    cases hassembly : r.registrations? s with
    | none => simpa [RegistrationUnit.diagnostics, RegistrationUnit.skipped] using Accounted.nil_iff
    | some u =>
      obtain ⟨assembly, -, rfl⟩ := Option.map_eq_some_iff.1 hassembly
      exact iff_of_true (RegistrationUnit.accounted_ofServices s r.services assembly) (Or.inl rfl)
  · rw [GenerationResult.registrations?, Option.map_eq_none_iff]
    exact Design.assembly?_eq_none

end Generation

/-! The clock of a shop is in no package, its orders are in one. -/

namespace Shops

open Documents (named)

def orders : TypeDeclaration where
  ref := named "Orders"
  annotations := [{ name := "Transient" }]

def clock : TypeDeclaration where
  ref := { name := "Clock" }
  annotations := [{ name := "Singleton" }]

def declarations : DeclarationSet where
  types := [orders, clock]
  keys_nodup := by decide

def clockFirst : DeclarationSet where
  types := [clock, orders]
  keys_nodup := by decide

def design (set : DeclarationSet) : Design :=
  let conventions : Conventions := {
    declarations := set
    links := []
    chains := set.types.map fun d => (d.key, []) }
  { conventions
    interfaces := []
    initializers := conventions.initializerPlans {}
    graph := { services := set.types.map fun d =>
      { service := d.ref, implementation := d.ref, lifetime := (({} : Settings).lifetime? d).getD .scoped } } }

lemma ofDeclarations_declarations : Design.ofDeclarations {} 1 declarations = .ok (design declarations) := by
  have hc : Conventions.ofDeclarations declarations = .ok (design declarations).conventions := by cbv
  exact Design.ofDeclarations_eq_ok.2 ⟨hc, by decide +kernel, rfl, by decide +kernel⟩

lemma ofDeclarations_clockFirst : Design.ofDeclarations {} 1 clockFirst = .ok (design clockFirst) := by
  have hc : Conventions.ofDeclarations clockFirst = .ok (design clockFirst).conventions := by cbv
  exact Design.ofDeclarations_eq_ok.2 ⟨hc, by decide +kernel, rfl, by decide +kernel⟩

lemma generate_of_ofDeclarations {set : DeclarationSet} (h : Design.ofDeclarations {} 1 set = .ok (design set)) :
    ∃ r, (generate {} 1 set).1 = .ok r ∧ r.services = (design set).graph.services ∧
      r.initializers = (design set).initializers ∧ r.interfaces = [] := by
  rw [generate, Generation.ofDeclarations, h]
  exact ⟨_, rfl, rfl, rfl, rfl⟩

theorem clock_accounted :
    ∃ r u, (generate {} 1 declarations).1 = .ok r ∧ r.registrations? {} = some u ∧ r.services.length = 2 ∧
      Accounted u.imports r.services u.calls r.unregistrable := by
  obtain ⟨r, hr, hservices, -⟩ := generate_of_ofDeclarations ofDeclarations_declarations
  obtain ⟨-, haccounted, hnone⟩ := Generation.services_accounted_iff hr
  cases hu : r.registrations? {} with
  | none =>
    obtain ⟨-, hpackage⟩ := hnone.1 hu
    rw [hservices] at hpackage
    exact absurd (hpackage _ rfl) (by decide)
  | some u =>
    rw [hu] at haccounted
    exact ⟨r, u, hr, hu, by rw [hservices]; rfl, haccounted.2 (Or.inl rfl)⟩

theorem orders_dropped :
    ∃ r, (generate {} 1 clockFirst).1 = .ok r ∧ orders.ref ∈ r.services.map (·.service) ∧
      r.units.map (·.name) = ["Clock.initializer.py", "app.Orders.initializer.py"] ∧ r.unregistrable = [] ∧
      ∀ imports, ¬Accounted imports r.services [] r.unregistrable := by
  obtain ⟨r, hr, hservices, hinitializers, hinterfaces⟩ := generate_of_ofDeclarations ofDeclarations_clockFirst
  have hnone : r.registrations? {} = none := by
    rw [GenerationResult.registrations?, hservices]
    rfl
  obtain ⟨-, -, -, hunits, -⟩ := Generation.result_of_generate hr
  have hunregistrable : r.unregistrable = [] := by
    rw [Generation.unregistrable_of_generate hr, hnone]
    rfl
  refine ⟨r, hr, by rw [hservices]; decide, ?_, hunregistrable, fun imports h => ?_⟩
  · rw [hunits, hnone, hinitializers, hinterfaces]
    decide +kernel
  · rw [hunregistrable, Accounted.nil_iff, hservices] at h
    cases h

end Shops

end Wiring
