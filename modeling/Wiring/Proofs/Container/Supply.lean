import Wiring.Generation
import Wiring.Proofs.Container.Table
import Wiring.Proofs.Except
import Wiring.Proofs.Plan.Forwarding
import Wiring.Proofs.Plan.Registration
import Wiring.Proofs.Unit.Registrations

/-!
What the check of a graph says about the container. An entry that accounts for a requirement need not be written, and
what it leaves in the container may be replaced; so the requirement is found in two cases only, by the very service
or by the last open call for its class.
-/

namespace Wiring

open Container

lemma Design.ofDeclarations_eq_ok {s : Settings} {depth : Nat} {set : DeclarationSet} {g : Design} :
    Design.ofDeclarations s depth set = .ok g ↔ Conventions.ofDeclarations set = .ok g.conventions ∧
      g.conventions.interfacePlans = .ok g.interfaces ∧ g.initializers = g.conventions.initializerPlans s ∧
      g.conventions.registrationGraph s g.interfaces g.initializers depth = .ok g.graph := by
  constructor
  · intro h
    obtain ⟨c, hc, h⟩ := Except.bind_eq_ok.1 h
    obtain ⟨plans, hplans, h⟩ := Except.bind_eq_ok.1 h
    obtain ⟨graph, hgraph, h⟩ := Except.bind_eq_ok.1 h
    cases h
    exact ⟨Except.mapError_eq_ok.1 hc, hplans, rfl, hgraph⟩
  · rintro ⟨hc, hplans, hinitializers, hgraph⟩
    refine Except.bind_eq_ok.2 ⟨_, Except.mapError_eq_ok.2 hc, Except.bind_eq_ok.2 ⟨_, hplans, ?_⟩⟩
    rw [← hinitializers]
    exact Except.bind_eq_ok.2 ⟨_, hgraph, rfl⟩

lemma Design.ofDeclarations_cases {s : Settings} {depth : Nat} {set : DeclarationSet} {g : Design}
    (hg : Design.ofDeclarations s depth set = .ok g) : ∃ c plans, Conventions.ofDeclarations set = .ok c ∧
      c.interfacePlans = .ok plans ∧ c.registrationGraph s plans (c.initializerPlans s) depth = .ok g.graph := by
  obtain ⟨hc, hplans, hinitializers, hgraph⟩ := Design.ofDeclarations_eq_ok.1 hg
  exact ⟨_, _, hc, hplans, hinitializers ▸ hgraph⟩

namespace ServiceEntry

variable (classes : TypeKey → ClassHead) (scope : VariableScope)

def row (e : ServiceEntry) : Row where
  lifetime := e.lifetime
  service := e.rendered.1.read classes scope
  implementation := e.rendered.2.read classes scope

def arity (e : ServiceEntry) : Nat :=
  if e.implementation.isTypeParameter then 0 else e.implementation.typeParameters.length

lemma row_isPlain (e : ServiceEntry) : (e.row classes scope).IsPlain :=
  ⟨TypeRef.asKey_read classes scope _, TypeRef.read_ne_key classes scope _ _⟩

def lastFor? (entries : List ServiceEntry) (t : TypeExpr) : Option ServiceEntry :=
  entries.reverse.find? fun e => e.rendered.1.read classes scope = t

lemma lastFor?_rows (entries : List ServiceEntry) (t : TypeExpr) :
    Registrations.lastFor? (entries.map (row classes scope)) t =
      (lastFor? classes scope entries t).map (row classes scope) := by
  rw [Registrations.lastFor?, ← List.map_reverse, List.find?_map]
  rfl

def table (entries : List ServiceEntry) : Except Failure Registrations :=
  Registrations.ofRows (entries.map (row classes scope))

lemma table_eq (entries : List ServiceEntry) : table classes scope entries =
    .ok (Assoc.ofPairs ((entries.map (row classes scope)).map fun r => (r.service, r.registration))) :=
  Registrations.ofRows_of_isPlain fun r hr => by
    obtain ⟨e, -, rfl⟩ := List.mem_map.1 hr
    exact row_isPlain classes scope e

end ServiceEntry

end Wiring

/-! A repository for stores of anything and for archives of users, and a handler that takes one of each. -/

namespace Wiring.Stores
open Container Documents

def element : TypeRef where
  name := "T"
  isTypeParameter := true

def applied (name : String) (argument : TypeRef) : TypeRef :=
  (named name).withArguments [argument]

def store : TypeDeclaration where
  ref := applied "IStore" element
  isInterface := true

def archive : TypeDeclaration where
  ref := applied "IArchive" element
  isInterface := true

def repository : TypeDeclaration where
  ref := applied "Repository" element
  interfaces := [applied "IStore" element, applied "IArchive" (named "User")]
  annotations := [{ name := "Transient" }]

def handler : TypeDeclaration where
  ref := named "Handler"
  members := [{ dependency "Handler" "_store" "IStore" with type := applied "IStore" (named "User") },
    { dependency "Handler" "_archive" "IArchive" with type := applied "IArchive" (named "User") }]
  annotations := [{ name := "Transient" }]

def declarations : DeclarationSet where
  types := [store, archive, repository, handler]
  keys_nodup := by decide

def conventions : Conventions where
  declarations := declarations
  links := []
  chains := declarations.types.map fun d => (d.key, [])

def settings : Settings where
  assemblyName := some "app"

def services : List ServiceEntry :=
  [(repository.ref, repository), (store.ref, repository), (applied "IArchive" (named "User"), repository),
    (handler.ref, handler)].map fun e => { service := e.1, implementation := e.2.ref, lifetime := .transient }

def storeEdge : DependencyEdge where
  owner := handler.ref
  required := applied "IStore" (named "User")
  member := some "_store"

def archiveEdge : DependencyEdge where
  owner := handler.ref
  required := applied "IArchive" (named "User")
  member := some "_archive"

def design : Design where
  conventions := conventions
  interfaces := []
  initializers := conventions.initializerPlans settings
  graph := { services, edges := [storeEdge, archiveEdge] }

lemma ofDeclarations_eq : Design.ofDeclarations settings 4 declarations = .ok design := by
  have hc : Conventions.ofDeclarations declarations = .ok conventions := by cbv
  have hgraph : conventions.registrationGraph settings [] (conventions.initializerPlans settings) 4 =
      .ok design.graph := by
    decide
  refine Except.bind_eq_ok.2 ⟨conventions, Except.mapError_eq_ok.2 hc, ?_⟩
  refine Except.bind_eq_ok.2 ⟨[], by decide, ?_⟩
  exact Except.bind_eq_ok.2 ⟨design.graph, hgraph, rfl⟩

def written : List ServiceEntry :=
  design.graph.services.filter (·.isExpressible)

def classes : TypeKey → ClassHead :=
  declarations.classOf fun _ => []

end Wiring.Stores
