import Wiring.Proofs.Plan.Scope
import Wiring.Proofs.Unit.Imports

/-!
What the names in the calls of a registration unit stand for. A name is imported or built in unless it is that of a
type parameter or of a pending reference, and well-scoped declarations lead to neither.
-/

namespace Wiring

open ImportTable

def ServiceEntry.mentions (e : ServiceEntry) : List TypeRef :=
  e.rendered.1.mentions ++ e.rendered.2.mentions

def RegistrationCall.names (call : RegistrationCall) : List String :=
  call.service.names ++ call.implementation.names

/-- The name of a reference is built in, or stands for a type once the imports have been run: for that of the
reference unless the name is an alias under a package. -/
def IsBound (imports : List (List ImportStatement)) (r : TypeRef) (name : String) : Prop :=
  r.isBuiltin ∧ name = r.name ∨
    ∃ k, importedAs imports name = some k ∧ (k = r.key ∨ name = qualifiedAlias r ∨ name = keyAlias k)

/-- A reference of which the name need not be bound. -/
def TypeRef.IsLoose (r : TypeRef) : Prop :=
  r.isTypeParameter ∨ r.isPending

namespace ImportTable

variable {t : ImportTable} {r : TypeRef} {a : String}

lemma Sound.bound (h : Sound none t) (hr : t.Knows r a) : r.IsLoose ∧ a = r.name ∨ IsBound t.groups r a := by
  obtain htype | ⟨htype, hforeign⟩ | himports := imports_or t r
  · exact Or.inl ⟨Or.inl htype, ((knows_typeParameter_iff htype).1 hr).1⟩
  · rw [Knows, nameOf_of_plain htype hforeign] at hr
    have hname := (Prod.mk.inj hr).1.symm
    obtain hbuiltin | hpending | hdefined := hforeign
    · exact Or.inr (Or.inl ⟨hbuiltin, hname⟩)
    · exact Or.inl ⟨Or.inr hpending, hname⟩
    · rw [h.defined] at hdefined
      cases hdefined
  · exact Or.inr (Or.inr (h.imported himports hr))

end ImportTable

namespace RegistrationUnit

variable {t : ImportTable} {s : Settings}

lemma renderCall_eq (e : ServiceEntry) : renderCall e = do
    let service ← ImportTable.render e.rendered.1
    let implementation ← ImportTable.render e.rendered.2
    return { lifetime := e.lifetime, service, implementation } := by
  rw [renderCall, ServiceEntry.rendered]
  split
  · simp only [render_withArguments_nil]
    rfl
  · rfl

lemma renderCall_spec (h : Sound none t) (e : ServiceEntry) :
    Extends none t ((renderCall e).run t).2 ∧
      List.Forall₂ ((renderCall e).run t).2.Knows e.mentions ((renderCall e).run t).1.names := by
  obtain ⟨hservice, hknows⟩ := render_spec e.rendered.1 h
  obtain ⟨himplementation, hknows'⟩ := render_spec e.rendered.2 hservice.sound
  rw [renderCall_eq]
  exact ⟨hservice.trans himplementation,
    List.rel_append (hknows.imp fun _ _ hr => himplementation.knows _ _ hr) hknows'⟩

lemma renderCalls_spec (h : Sound none t) (services : List ServiceEntry) :
    Extends none t ((renderCalls services).run t).2 ∧
      List.Forall₂ (fun e call => List.Forall₂ ((renderCalls services).run t).2.Knows e.mentions call.names)
        (services.filter (·.isExpressible)) ((renderCalls services).run t).1 := by
  induction services generalizing t with
  | nil => exact ⟨.refl h, .nil⟩
  | cons e es ih =>
    cases he : e.isExpressible with
    | true =>
      obtain ⟨hfirst, hknows⟩ := renderCall_spec h e
      obtain ⟨hrest, hcalls⟩ := ih hfirst.sound
      rw [List.filter_cons_of_pos he, renderCalls, if_pos he]
      exact ⟨hfirst.trans hrest, .cons (hknows.imp fun _ _ hr => hrest.knows _ _ hr) hcalls⟩
    | false =>
      rw [List.filter_cons_of_neg (by simp [he]), renderCalls, if_neg (by simp [he])]
      exact ih h

def afterCalls (s : Settings) (services : List ServiceEntry) : ImportTable :=
  ((renderCalls services).run ((create [] []).nameOf
    { package := (Text.splitLast '.' s.serviceCollection).1
      name := (Text.splitLast '.' s.serviceCollection).2 }).2).2

lemma imports_ofServices (s : Settings) (services : List ServiceEntry) (assembly : String) :
    (ofServices s services assembly).imports = (importGroups.run (afterCalls s services)).2.groups := by
  have hunit : (ofServices s services assembly).imports = (importGroups.run (afterCalls s services)).1 := rfl
  obtain ⟨t, hgroups, -⟩ := importGroups_spec (afterCalls s services)
  rw [hunit, hgroups]

lemma bound_ofServices (s : Settings) (services : List ServiceEntry) (assembly : String) :
    List.Forall₂ (fun e call =>
        List.Forall₂ (fun r n => r.IsLoose ∧ n = r.name ∨ IsBound (ofServices s services assembly).imports r n)
          e.mentions call.names)
      (services.filter (·.isExpressible)) (ofServices s services assembly).calls := by
  have hcollection := (sound_create none []).nameOf
    { package := (Text.splitLast '.' s.serviceCollection).1, name := (Text.splitLast '.' s.serviceCollection).2 }
  obtain ⟨hcalls, hknows⟩ := renderCalls_spec hcollection services
  obtain ⟨t, hgroups, hextends⟩ := importGroups_spec (afterCalls s services)
  have himports : Extends none (afterCalls s services) t := hextends hcalls.sound
  rw [imports_ofServices, hgroups]
  exact hknows.imp fun e call hcall => hcall.imp fun r n hr => himports.sound.bound (himports.knows r n hr)

end RegistrationUnit

namespace TypeRef

mutual

theorem mentions_of_isOver_nil : (r : TypeRef) → r.isOver [] → ∀ q ∈ r.mentions, ¬q.IsLoose
  | ⟨_, _, _, true⟩, h => by
    rw [isOver, Bool.and_eq_true, decide_eq_true_iff] at h
    exact absurd h.1 List.not_mem_nil
  | ⟨p, n, as, false⟩, h => by
    rw [isOver, Bool.and_eq_true, decide_eq_true_iff] at h
    rw [mentions, List.forall_mem_cons]
    refine ⟨?_, mentionsAll_of_areOver_nil as h.2⟩
    simp [IsLoose, isPending, h.1]

theorem mentionsAll_of_areOver_nil : (rs : List TypeRef) → areOver [] rs → ∀ q ∈ mentionsAll rs, ¬q.IsLoose
  | [], _ => by
    rw [mentionsAll]
    exact List.forall_mem_nil _
  | r :: rs, h => by
    rw [areOver, Bool.and_eq_true] at h
    rw [mentionsAll, List.forall_mem_append]
    exact ⟨mentions_of_isOver_nil r h.1, mentionsAll_of_areOver_nil rs h.2⟩

end

lemma isOver_withArguments_nil {r : TypeRef} {ps : List String} (htype : r.isTypeParameter = false)
    (h : r.isOver ps) (qs : List String) : (r.withArguments []).isOver qs := by
  obtain ⟨p, n, as, v⟩ := r
  cases htype
  exact (isOver_iff rfl).2 ⟨((isOver_iff rfl).1 h).1, List.forall_mem_nil _⟩

end TypeRef

namespace Conventions

variable {c : Conventions} {s : Settings} {plans : List InterfacePlan} {initializers : List InitializerPlan}
  {depth : Nat}

lemma exists_registered_of_mem_services {ds : List TypeDeclaration} {g : RegistrationGraph}
    (h : c.graphOf s plans initializers depth ds = .ok g) {e : ServiceEntry} (he : e ∈ g.services) :
    ∃ d ∈ ds, e.implementation = d.ref ∧
      ∃ services, c.registeredServices plans depth d = some services ∧ e.service ∈ services := by
  induction ds generalizing g with
  | nil =>
    cases h
    cases he
  | cons d ds ih =>
    obtain ⟨-, h⟩ | ⟨lifetime, entries, plan, rest, -, hentries, -, hrest, rfl⟩ := graphOf_cons h
    · obtain ⟨f, hf, hregistered⟩ := ih h he
      exact ⟨f, List.mem_cons_of_mem _ hf, hregistered⟩
    · obtain he | he := List.mem_append.1 he
      · exact ⟨d, List.mem_cons_self, implementation_of_mem_serviceEntries hentries he, _,
          map_service_serviceEntries hentries, List.mem_map_of_mem he⟩
      · obtain ⟨f, hf, hregistered⟩ := ih hrest he
        exact ⟨f, List.mem_cons_of_mem _ hf, hregistered⟩

end Conventions

lemma ServiceEntry.mentions_of_isOver {e : ServiceEntry} {d : TypeDeclaration} (hd : e.implementation = d.ref)
    (hown : d.ref.isTypeParameter = false ∧ d.ref.isOver d.ref.parameterNames)
    (hservice : e.service.isTypeParameter = false ∧ e.service.isOver d.ref.parameterNames) :
    ∀ r ∈ e.mentions, ¬r.IsLoose := by
  have hrendered : e.rendered.1.isOver [] ∧ e.rendered.2.isOver [] := by
    rw [rendered, hd]
    -- an open entry is written without arguments, and any other has an implementation without parameters
    cases hopen : e.isOpenGeneric with
    | true => exact ⟨TypeRef.isOver_withArguments_nil hservice.1 hservice.2 [],
        TypeRef.isOver_withArguments_nil hown.1 hown.2 []⟩
    | false =>
      have harguments : d.ref.arguments = [] := by
        rw [isOpenGeneric, hd, TypeRef.isGeneric] at hopen
        simpa using hopen
      have hnone : d.ref.parameterNames = [] := by
        rw [TypeRef.parameterNames, TypeRef.typeParameters, harguments]
        rfl
      rw [hnone] at hown hservice
      exact ⟨hservice.2, hown.2⟩
  exact List.forall_mem_append.2 ⟨TypeRef.mentions_of_isOver_nil _ hrendered.1,
    TypeRef.mentions_of_isOver_nil _ hrendered.2⟩

/-- The names in the calls are bound by the imports but for those of type parameters and pending references, and where
the declarations are well scoped there are none of these. -/
theorem Design.calls_bound {s : Settings} {depth : Nat} {set : DeclarationSet} {g : Design} {u : RegistrationUnit}
    (hg : Design.ofDeclarations s depth set = .ok g) (hu : g.registrations? s = some u) :
    List.Forall₂ (fun e call =>
          List.Forall₂ (fun r n => r.IsLoose ∧ n = r.name ∨ IsBound u.imports r n) e.mentions call.names)
        (g.graph.services.filter (·.isExpressible)) u.calls ∧
      (g.conventions.WellScoped →
        List.Forall₂ (fun e call => List.Forall₂ (IsBound u.imports) e.mentions call.names)
          (g.graph.services.filter (·.isExpressible)) u.calls) := by
  obtain ⟨assembly, -, rfl⟩ := Option.map_eq_some_iff.1 hu
  have hbound := RegistrationUnit.bound_ofServices s g.graph.services assembly
  refine ⟨hbound, fun hscoped => ?_⟩
  obtain ⟨hc, hgraph, rfl, hall⟩ := Design.planOf_of_ofDeclarations hg
  have htight : ∀ e ∈ g.graph.services.filter (·.isExpressible), ∀ r ∈ e.mentions, ¬r.IsLoose := by
    intro e he
    obtain ⟨d, hd, hown, services, hservices, hservice⟩ :=
      Conventions.exists_registered_of_mem_services hgraph (List.mem_of_mem_filter he)
    exact ServiceEntry.mentions_of_isOver hown (hscoped d hd).1
      (Conventions.services_over hc hall hscoped hd hservices hservice)
  refine ((List.forall₂_and_left _ _).2 ⟨htight, hbound⟩).imp fun e call ⟨hnames, hcall⟩ => ?_
  exact ((List.forall₂_and_left _ _).2 ⟨hnames, hcall⟩).imp fun r n ⟨hr, hn⟩ => hn.resolve_left fun h => hr h.1

/-! Ledgers and their pages. -/

namespace Ledgers

open Orders (named)
open Stores (element applied settings)
open Vaults (storesDesign ofDeclarations_stores)

theorem store_bound :
    ∃ u, storesDesign.registrations? settings = some u ∧
      u.calls.map (·.names) = [["Vault", "Vault"], ["IStore", "Vault"], ["IVault", "Vault"]] ∧
      importedAs u.imports "IStore" = some ("app", "IStore") := by
  refine ⟨_, rfl, rfl, ?_⟩
  have hcalls := (Design.calls_bound ofDeclarations_stores rfl).2 (by decide)
  cases hcalls with | cons _ hcalls =>
  cases hcalls with | cons hcall _ =>
  cases hcall with | cons hbound _ =>
  obtain ⟨hbuiltin, -⟩ | ⟨k, hk, rfl | hqualified | hqualified⟩ := hbound
  · exact absurd hbuiltin (by decide)
  · exact hk
  · exact absurd hqualified (by decide)
  · have hunderscore : '_' ∈ (keyAlias k).toList := by simp [keyAlias, qualifiedAlias]
    rw [← hqualified] at hunderscore
    exact absurd hunderscore (by decide)

def page : TypeDeclaration where
  ref := applied "Page" element
  interfaces := [applied "IStore" element]

def ledger : TypeDeclaration where
  ref := named "Ledger"
  base := some (named "Page")
  interfaces := [{ name := "IAudit" }]
  annotations := [{ name := "Transient" }]

def declarations : DeclarationSet where
  types := [page, ledger]
  keys_nodup := by decide

def conventions : Conventions where
  declarations := declarations
  links := []
  chains := [(page.key, []), (ledger.key, [⟨page, named "Page"⟩])]

def design : Design where
  conventions := conventions
  interfaces := []
  initializers := conventions.initializerPlans settings
  graph := { services := [named "Ledger", { name := "IAudit" }, applied "IStore" element].map fun service =>
    { service, implementation := named "Ledger", lifetime := .transient } }

lemma ofDeclarations_eq : Design.ofDeclarations settings 3 declarations = .ok design := by
  have hc : Conventions.ofDeclarations declarations = .ok conventions := by cbv
  exact Design.ofDeclarations_eq_ok.2 ⟨hc, by decide +kernel, rfl, by decide +kernel⟩

theorem audit_unbound :
    Design.ofDeclarations settings 3 declarations = .ok design ∧
      ∃ u, design.registrations? settings = some u ∧
        u.calls.map (·.names) = [["Ledger", "Ledger"], ["IAudit", "Ledger"], ["IStore", "T", "Ledger"]] ∧
        importedAs u.imports "IAudit" = none ∧ importedAs u.imports "T" = none := by
  refine ⟨ofDeclarations_eq, _, rfl, rfl, ?_, ?_⟩
  · rw [RegistrationUnit.imports_ofServices]
    exact importedAs_groups_eq_none (by decide +kernel)
  · rw [RegistrationUnit.imports_ofServices]
    exact importedAs_groups_eq_none (by decide +kernel)

end Ledgers

end Wiring
