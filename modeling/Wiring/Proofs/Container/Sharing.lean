import Mathlib.Data.List.Permutation
import Wiring.Proofs.Container.Scopes
import Wiring.Proofs.Container.Supply

/-!
Singletons behind several services. A type is registered for itself and for its interfaces, and what is kept is kept
by the service that was asked for; so a singleton is one object for each service, not one for its type.
-/

namespace Wiring

open Container

namespace Container.Registrations

end Container.Registrations

namespace ServiceEntry

variable {classes : TypeKey → ClassHead} {scope : VariableScope} {entries : List ServiceEntry} {rs : Registrations}

end ServiceEntry

section Tables

variable {s : Settings} {depth : Nat} {set : DeclarationSet} {g : Design} {others : TypeKey → List String}
  {scope : VariableScope} {rs : Registrations}

end Tables

end Wiring

/-! A tower with one clock, which is asked for by its class and by its interface. -/

namespace Wiring.Towers

open Container Documents

def face : TypeDeclaration where
  ref := named "IClock"
  isInterface := true

def clock : TypeDeclaration where
  ref := named "Clock"
  interfaces := [face.ref]
  annotations := [{ name := "Singleton" }]

def declarations : DeclarationSet where
  types := [face, clock]
  keys_nodup := by decide

def conventions : Conventions where
  declarations := declarations
  links := [{
    source := clock.ref
    placeholder := face.ref
    interface := face.ref
    viaBase := false
    handAuthored := true }]
  chains := declarations.types.map fun d => (d.key, [])

def settings : Settings where
  assemblyName := some "app"

def design : Design where
  conventions := conventions
  interfaces := []
  initializers := conventions.initializerPlans settings
  graph := { services := [clock.ref, face.ref].map fun r =>
    { service := r, implementation := clock.ref, lifetime := .singleton } }

lemma ofDeclarations_eq : Design.ofDeclarations settings 2 declarations = .ok design := by
  have hc : Conventions.ofDeclarations declarations = .ok conventions := by cbv
  exact Design.ofDeclarations_eq_ok.2 ⟨hc, by decide +kernel, rfl, by decide +kernel⟩

def classes : TypeKey → ClassHead :=
  declarations.classOf fun _ => []

def type (d : TypeDeclaration) : TypeExpr :=
  .bare (classes d.key)

def scope : VariableScope :=
  .unit "registrations"

def table : Registrations :=
  [clock, face].map fun d =>
    (type d, { service := type d, implementation := type clock, lifetime := .singleton })

lemma table_eq : ServiceEntry.table classes scope (design.graph.services.filter (·.isExpressible)) = .ok table :=
  rfl

def uses : List Use :=
  [.act (.createScope 0), .act (.resolve 1 0 (type clock)), .act (.resolve 1 1 (type face)), .close 1,
    .act (.resolve 1 0 (type face)), .act (.resolve 1 0 (type clock))]

lemma providers : ∀ e ∈ design.graph.services, (e.rendered.1.read classes scope).isProvider = false := by
  decide

end Wiring.Towers
