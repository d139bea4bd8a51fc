import Mathlib.Data.List.Chain
import Mathlib.Data.List.Nodup
import Wiring.Proofs.Container.Requirements

/-!
How requests go down the requirements of services that are registered as classes. Every service is constructed at most
once on the way down, so requests nest no deeper than there are registrations; and a request succeeds unless something
that it needs is not supplied or needs itself.
-/

namespace Wiring

namespace Container

open World Relation

variable {rs : Registrations} {t : ClassTable} {w₀ w w' u : World} {p : Nat} {way : ResolutionPath}
  {service b : TypeExpr} {r : Registration} {implementation : TypeExpr}

def IsCircuit (chain : List TypeExpr) : Prop :=
  ∃ a between b, chain = a :: (between ++ [b]) ∧ a.identity = b.identity

def Explains (rs : Registrations) (t : ClassTable) (w₀ : World) (p : Nat) (way : ResolutionPath)
    (service : TypeExpr) : Failure → Prop
  | .unresolvable _ _ => ∃ b, ReflTransGen (Needs rs t w₀ p) service b ∧ ¬ rs.Supplies b
  | .circularDependency chain =>
    IsCircuit chain ∧ ∃ walked, way ++ [service] <+: walked ∧ walked.IsChain (Needs rs t w₀ p) ∧ chain <:+ walked
  | f => ∃ sort, service.unkeyable? = some sort ∧ f = .unkeyable sort

def Answers (rs : Registrations) (t : ClassTable) (w₀ : World) (p : Nat) (way : ResolutionPath)
    (service : TypeExpr) : Except Failure Value → Prop
  | .ok _ => Sound rs t w₀ p service
  | .error f => Explains rs t w₀ p way service f

lemma Registrations.not_supplies_of_unkeyable {sort : String} (h : service.unkeyable? = some sort) :
    ¬ rs.Supplies service := by
  rintro (hprovider | ⟨hkey, -⟩)
  · rw [TypeExpr.unkeyable?_of_isProvider hprovider] at h
    cases h
  · rw [hkey] at h
    cases h

lemma Explains.passedOn {e : Failure} (hneeds : Needs rs t w₀ p service b)
    (h : Explains rs t w₀ p (way ++ [service]) b e) (c : TypeExpr) (name : String) :
    Explains rs t w₀ p way service (.ofCreation service (.ofParameter c name e)) := by
  cases e with
  | unresolvable _ _ =>
    obtain ⟨b', hreach, hnot⟩ := h
    exact ⟨b', .head hneeds hreach, hnot⟩
  | circularDependency chain =>
    obtain ⟨hcircuit, walked, hprefix, hwalked⟩ := h
    exact ⟨hcircuit, walked, (List.prefix_append _ _).trans hprefix, hwalked⟩
  | scope _ | circularInheritance _ =>
    obtain ⟨sort, -, hsort⟩ := h
    cases hsort
  | other kind message =>
    obtain ⟨sort, hkey, -⟩ := h
    exact ⟨b, .single hneeds, Registrations.not_supplies_of_unkeyable hkey⟩

lemma ResolutionPath.enter_eq_error {path : ResolutionPath} {f : Failure} (h : path.enter service = .error f) :
    ∃ a between, a :: between <:+ path ∧ a.identity = service.identity ∧
      f = .circularDependency (a :: (between ++ [service])) := by
  unfold enter at h
  split at h
  · cases h
  · rename_i loop hne
    cases h
    have hnil : path.dropWhile (fun t => t.identity ≠ service.identity) ≠ [] := fun hnil => hne hnil
    obtain ⟨a, between, hloop⟩ := List.exists_cons_of_ne_nil hnil
    have hsuffix := List.dropWhile_suffix (l := path) fun t => t.identity ≠ service.identity
    have hhead := List.head_dropWhile_not (fun t : TypeExpr => t.identity ≠ service.identity) (l := path) hnil
    simp only [hloop, List.head_cons] at hhead
    have hidentity : a.identity = service.identity := by simpa using hhead
    rw [hloop] at hsuffix
    exact ⟨a, between, hsuffix, hidentity, by rw [hloop]; rfl⟩

namespace World

structure Descends (rs : Registrations) (t : ClassTable) (w₀ : World) (p : Nat) (way : ResolutionPath) (w : World) :
    Prop where
  tree : OfTree rs w
  path : w.root.path = way
  isOpen : (w.provider p).isClosed = false
  isScope : (w.provider p).isScope
  caches : ∀ a, Caches rs w₀ p a → Caches rs w p a
  sound : ∀ a, a.unkeyable? = none → Caches rs w p a → Sound rs t w₀ p a

namespace Descends

lemma lt (h : Descends rs t w₀ p way w) : p < w.providers.length :=
  lt_of_isClosed h.isOpen

lemma of_agrees (h : Descends rs t w₀ p way w) (ha : Agrees w w') : Descends rs t w₀ p way w' := by
  have hcaches : ∀ a, Caches rs w' p a ↔ Caches rs w p a := fun a => by simp only [Caches, ha.kept_eq]
  refine ⟨h.tree.of_agrees ha, ?_, ?_, ?_, fun a ha₀ => (hcaches a).2 (h.caches a ha₀), fun a hkey ha' => ?_⟩
  · rw [ha.root_eq, h.path]
  · rw [ha.provider_eq, h.isOpen]
  · rw [ha.provider_eq, h.isScope]
  · exact h.sound a hkey ((hcaches a).1 ha')

lemma answered (h : Descends rs t w₀ p way w) (service : TypeExpr) (r : Except Failure Value) :
    Descends rs t w₀ p way (w.answered p service r) := by
  cases r with
  | error e => exact h
  | ok v => exact ⟨h.tree.answered p service (.ok v), h.path, h.isOpen, h.isScope, h.caches, h.sound⟩

lemma entered (h : Descends rs t w₀ p way w) (service : TypeExpr) :
    Descends rs t w₀ p (way ++ [service]) (w.setPath p (way ++ [service])) := by
  have hcaches : ∀ a, Caches rs (w.setPath p (way ++ [service])) p a ↔ Caches rs w p a := fun a => by
    simp only [Caches, kept_setPath _ (h.tree.tree_provider h.lt) h.tree.trees]
  refine ⟨h.tree.setPath p _, ?_, ?_, ?_, fun a ha => (hcaches a).2 (h.caches a ha), fun a hkey ha => ?_⟩
  · rw [root_setPath _ h.tree h.lt]
  · rw [provider_setPath, h.isOpen]
  · rw [provider_setPath, h.isScope]
  · exact h.sound a hkey ((hcaches a).1 ha)

lemma conclude {s : Except Failure Value} (hrs : rs.AreListed t) (h : Descends rs t w₀ p (way ++ [service]) u)
    (l : Lifetime) (hsound : ∀ v, s = .ok v → Sound rs t w₀ p service) :
    Descends rs t w₀ p way (u.conclude p service l s) := by
  have hprovider : ((u.conclude p service l s).provider p).emptied = (u.provider p).emptied :=
    emptied_provider (emptied_conclude service l s) h.lt
  refine ⟨h.tree.conclude p service l s, ?_, ?_, ?_, fun a ha => ?_, fun a hkey ha => ?_⟩
  · rw [path_conclude h.tree h.lt, h.path]
    exact List.dropLast_concat
  · exact (congrArg (·.isClosed) hprovider).trans h.isOpen
  · exact (congrArg (·.isScope) hprovider).trans h.isScope
  · obtain ⟨k, hk, hkept⟩ := h.caches a ha
    refine ⟨k, hk, ?_⟩
    cases s with
    | error e => rwa [kept_conclude_error h.tree h.lt]
    | ok v =>
      rw [kept_conclude_ok h.tree h.lt]
      split
      · exact Option.some_ne_none v
      · exact hkept
  · obtain ⟨k, hk, hkept⟩ := ha
    cases s with
    | error e =>
      rw [kept_conclude_error h.tree h.lt] at hkept
      exact h.sound a hkey ⟨k, hk, hkept⟩
    | ok v =>
      rw [kept_conclude_ok h.tree h.lt] at hkept
      split at hkept
      · -- what is new is kept for the service itself, however it is written
        rename_i hnew
        have hidentity : service.identity = a.identity :=
          (Place.service_of_of?_eq_some hnew).symm.trans (Registrations.service_of_place?_eq_some hk)
        exact (hsound v rfl).congr hrs hidentity hkey
      · exact h.sound a hkey ⟨k, hk, hkept⟩

end Descends

lemma holding_ne_refused (hkey : service.unkeyable? = none) (hscope : (w.provider p).isScope) (l : Lifetime)
    (f : Failure) : w.holding p service l ≠ .refused f := by
  have hholdingIn : ∀ cache, holdingIn cache service ≠ .refused f := by
    intro cache
    rw [holdingIn, TypeExpr.asKey, hkey]
    dsimp only
    split <;> exact Holding.noConfusion
  cases l with
  | singleton => exact hholdingIn _
  | «scoped» =>
    rw [holding, if_pos hscope]
    exact hholdingIn _
  | transient => exact Holding.noConfusion

lemma Descends.answers_of_lookup {s : Except Failure Value} (h : Descends rs t w₀ p way w)
    (hchain : (way ++ [service]).IsChain (Needs rs t w₀ p)) (hprovider : service.isProvider = false)
    (hkey : service.unkeyable? = none) (hlookup : rs.lookup service = .ok (r, implementation))
    (hstanding : w.standing p service = .settled s) : Answers rs t w₀ p way service s := by
  rw [standing_of_lookup h.tree h.isOpen hprovider hkey hlookup, h.path] at hstanding
  cases henter : way.enter service with
  | error f =>
    rw [henter] at hstanding
    cases hstanding
    obtain ⟨a, between, ⟨before, rfl⟩, hidentity, rfl⟩ := ResolutionPath.enter_eq_error henter
    refine ⟨⟨a, between, service, rfl, hidentity⟩, before ++ a :: between ++ [service], List.prefix_rfl, hchain, ?_⟩
    exact ⟨before, by simp⟩
  | ok entered =>
    rw [henter] at hstanding
    cases hholding : w.holding p service r.lifetime with
    | refused f => exact absurd hholding (holding_ne_refused hkey h.isScope r.lifetime f)
    | create =>
      simp only [hholding] at hstanding
      cases hstanding
    | cached v =>
      simp only [hholding] at hstanding
      cases hstanding
      obtain ⟨-, k, hk, hkept⟩ := holding_cached (h.tree.tree_eq_root h.lt) hholding
      have hplace : rs.place? p service = some k := (Registrations.place?_of_lookup hlookup).trans hk
      exact h.sound service hkey ⟨k, hplace, by rw [hkept]; exact Option.some_ne_none v⟩

lemma Descends.answers_of_settled {s : Except Failure Value} (h : Descends rs t w₀ p way w)
    (hchain : (way ++ [service]).IsChain (Needs rs t w₀ p)) (hstanding : w.standing p service = .settled s) :
    Answers rs t w₀ p way service s := by
  cases hprovider : service.isProvider with
  | true =>
    rw [standing, h.isOpen, if_neg Bool.false_ne_true, hprovider, if_pos rfl] at hstanding
    cases hstanding
    exact .provider hprovider
  | false =>
    cases hkey : service.unkeyable? with
    | some sort =>
      unfold standing at hstanding
      rw [h.isOpen, if_neg Bool.false_ne_true, hprovider, if_neg Bool.false_ne_true, TypeExpr.asKey, hkey] at hstanding
      cases hstanding
      exact ⟨sort, hkey, rfl⟩
    | none =>
      cases hlookup : rs.lookup service with
      | ok found => exact h.answers_of_lookup hchain hprovider hkey hlookup hstanding
      | error fault =>
        unfold standing at hstanding
        rw [h.isOpen, if_neg Bool.false_ne_true, hprovider, if_neg Bool.false_ne_true, TypeExpr.asKey, hkey,
          h.tree.registrations h.lt, hlookup] at hstanding
        cases hstanding
        refine ⟨service, .refl, ?_⟩
        rintro (hsupplied | ⟨-, found, hfound⟩)
        · exact Bool.false_ne_true (hprovider.symm.trans hsupplied)
        · cases hlookup.symm.trans hfound

lemma Descends.not_caches (h : Descends rs t w₀ p way w) (hbegins : Begins rs w p service r implementation) :
    ¬ Caches rs w p service := by
  rintro ⟨k, hk, hkept⟩
  rw [Registrations.place?_of_lookup hbegins.lookup] at hk
  exact hkept ((holding_create (h.tree.tree_eq_root h.lt) hbegins.holding).2 k hk)

end World

namespace Resolving

variable {I : World → Prop} {A : TypeExpr → Except Failure Value → Prop}

lemma askFor_eq {ask : TypeExpr → Resolving Value} {m : List (String × TypeExpr)} {type : TypeExpr}
    (h : Formation.substitute m type = .ok b) : askFor ask m type = ask b := by
  rw [askFor, h]

lemma parameterValues_of_isRequired {ask : TypeExpr → Resolving Value} {m : List (String × TypeExpr)} {s : Slot}
    (hrequired : s.isRequired) (hservice : s.service? m = some b) (c : TypeExpr) (slots : List Slot) :
    parameterValues ask c m (s :: slots) = do
      let v ← mapFailure (.ofParameter c s.name) (ask b)
      return (s.name, v) :: (← parameterValues ask c m slots) := by
  have hskip : (s.default.isSome || s.kind = .rest || s.kind = .restNamed) = false := by
    simpa only [Slot.isRequired, Bool.not_eq_true'] using hrequired
  obtain ⟨type, htype, hsubstitute⟩ := Slot.service?_eq_some hservice
  rw [parameterValues, if_neg (by rw [hskip]; exact Bool.false_ne_true), htype]
  simp only [askFor_eq hsubstitute]

lemma parameterValues_of_not_isRequired {ask : TypeExpr → Resolving Value} {m : List (String × TypeExpr)} {s : Slot}
    (hrequired : s.isRequired = false) (c : TypeExpr) (slots : List Slot) :
    parameterValues ask c m (s :: slots) = parameterValues ask c m slots := by
  have hskip : (s.default.isSome || s.kind = .rest || s.kind = .restNamed) = true := by
    simpa only [Slot.isRequired, Bool.not_eq_false'] using hrequired
  rw [parameterValues, if_pos hskip]

def Gathers (A : TypeExpr → Except Failure Value → Prop) (c : TypeExpr) (slots : List Slot)
    (services : List TypeExpr) : Except Failure (List (String × Value)) → Prop
  | .ok named => named.map Prod.fst = slots.map (·.name) ∧ ∀ b ∈ services, ∃ v, A b (.ok v)
  | .error f => ∃ b ∈ services, ∃ name e, A b (.error e) ∧ f = .ofParameter c name e

lemma exists_parameterValues {ask : TypeExpr → Resolving Value} {m : List (String × TypeExpr)} (c : TypeExpr)
    {slots : List Slot} (hservices : ∀ s ∈ slots.filter Slot.isRequired, s.service? m ≠ none)
    (hask : ∀ b ∈ (slots.filter Slot.isRequired).filterMap (Slot.service? m), ∀ w, I w →
      ∃ r w', ask b w = some (r, w') ∧ I w' ∧ A b r) (hw : I w) :
    ∃ r w', parameterValues ask c m slots w = some (r, w') ∧ I w' ∧
      Gathers A c (slots.filter Slot.isRequired) ((slots.filter Slot.isRequired).filterMap (Slot.service? m)) r := by
  induction slots generalizing w with
  | nil => exact ⟨.ok [], w, rfl, hw, rfl, fun b hb => by cases hb⟩
  | cons s slots ih =>
    cases hrequired : s.isRequired with
    | false =>
      rw [parameterValues_of_not_isRequired hrequired]
      rw [List.filter_cons_of_neg (by rw [hrequired]; exact Bool.false_ne_true)] at hservices hask ⊢
      exact ih hservices hask hw
    | true =>
      rw [List.filter_cons_of_pos hrequired] at hservices hask ⊢
      obtain ⟨hservice, hservices⟩ := List.forall_mem_cons.1 hservices
      obtain ⟨b, hb⟩ := Option.ne_none_iff_exists'.1 hservice
      rw [List.filterMap_cons_some hb] at hask ⊢
      obtain ⟨haskb, hask⟩ := List.forall_mem_cons.1 hask
      rw [parameterValues_of_isRequired hrequired hb]
      obtain ⟨r, w₁, hr, hw₁, hA⟩ := haskb w hw
      have hmapped := mapFailure_of_eq_some (g := .ofParameter c s.name) hr
      cases r with
      | error e =>
        exact ⟨.error (.ofParameter c s.name e), w₁, bind_of_error hmapped, hw₁, b, List.mem_cons_self, s.name, e, hA,
          rfl⟩
      | ok v =>
        rw [bind_of_ok hmapped]
        obtain ⟨r, w₂, hrest, hw₂, hgathers⟩ := ih hservices hask hw₁
        cases r with
        | error f =>
          obtain ⟨b', hb', hfailed⟩ := hgathers
          exact ⟨.error f, w₂, bind_of_error hrest, hw₂, b', List.mem_cons_of_mem b hb', hfailed⟩
        | ok named =>
          obtain ⟨hnames, hall⟩ := hgathers
          refine ⟨.ok ((s.name, v) :: named), w₂, bind_of_ok hrest, hw₂, ?_, ?_⟩
          · rw [List.map_cons, List.map_cons, hnames]
          · exact List.forall_mem_cons.2 ⟨⟨v, hA⟩, hall⟩

def Constructed (A : TypeExpr → Except Failure Value → Prop) (services : List TypeExpr) : Except Failure Value → Prop
  | .ok _ => ∀ b ∈ services, ∃ v, A b (.ok v)
  | .error f => ∃ b ∈ services, ∃ c name e, A b (.error e) ∧ f = .ofParameter c name e

lemma agrees_instantiate {type : TypeExpr} {named : List (String × Value)} {v : Except Failure Value}
    (h : instantiate t (fun _ _ => tooDeep) type named w = some (v, w')) : Agrees w w' := by
  have hcompositional : Compositional (Leads Agrees) :=
    compositional_leads (fun h h' => ⟨Nat.le_trans h.objects h'.objects, h'.trees.trans h.trees,
      h'.providers.trans h.providers, h'.deliveries.trans h.deliveries⟩) fun h => h
  exact hcompositional.instantiate (fun _ _ => hcompositional.tooDeep) type named h

lemma exists_create (hrs : rs.AreListed t) {ask : Ask} (hlookup : rs.lookup service = .ok (r, implementation))
    (hI : ∀ w w', I w → Agrees w w' → I w')
    (hask : ∀ b ∈ requirements t implementation, ∀ w, I w → ∃ r w', ask p b w = some (r, w') ∧ I w' ∧ A b r)
    (hw : I w) :
    ∃ s w', create t ask p r implementation w = some (s, w') ∧ I w' ∧
      Constructed A (requirements t implementation) s := by
  obtain ⟨hentry, rfl⟩ := hrs.entry_of_lookup hlookup
  have hrecipe : r.recipe = none := hrs.recipes _ hentry
  have hreadable : unreadable? (slotsOf t r.implementation) = none := hrs.readable _ hentry
  rw [create, hrecipe]
  dsimp only
  rw [construct, hreadable]
  dsimp only
  obtain ⟨s, w₁, hs, hw₁, hgathers⟩ := exists_parameterValues (blamed r.implementation) (hrs.services _ hentry) hask hw
  cases s with
  | error f =>
    obtain ⟨b, hb, name, e, hA, hf⟩ := hgathers
    exact ⟨.error f, w₁, bind_of_error hs, hw₁, b, hb, _, name, e, hA, hf⟩
  | ok named =>
    obtain ⟨hnames, hall⟩ := hgathers
    have hlength : (named.map Prod.snd).length = (requiredSlots t r.implementation).length := by
      have hlengths := congrArg List.length hnames
      rwa [List.length_map, List.length_map, ← List.length_map (f := Prod.snd)] at hlengths
    obtain ⟨v, w₂, hv⟩ := hrs.constructible _ hentry _ hlength w₁
    have hzip : ((requiredSlots t r.implementation).map (·.name)).zip (named.map Prod.snd) = named := by
      rw [requiredSlots, ← hnames, List.zip_map', List.map_id']
    rw [hzip] at hv
    have hinstance := precedes_instantiate (fun q b => Precedes.tooDeep (ask q b)) r.implementation named hv
    exact ⟨.ok v, w₂, (bind_of_ok hs).trans hinstance, hI w₁ w₂ hw₁ (agrees_instantiate hv), hall⟩

open World in
lemma exists_resolve (hrs : rs.AreListed t) {n : Nat} (hw : Descends rs t w₀ p way w)
    (hchain : (way ++ [service]).IsChain (Needs rs t w₀ p)) (hnodup : (way.map TypeExpr.identity).Nodup)
    (hkeys : way.map TypeExpr.identity ⊆ rs.map Prod.fst) (hdepth : rs.length < way.length + n) :
    ∃ r w', resolve t n p service w = some (r, w') ∧ Descends rs t w₀ p way w' ∧ Answers rs t w₀ p way service r := by
  -- what is on the way and the depth that is left exceed the table together
  induction n generalizing way service w with
  | zero =>
    have hle : way.length ≤ rs.length := by simpa using hnodup.length_le_of_subset hkeys
    omega
  | succ n ih =>
    rw [resolve_succ]
    cases hstanding : w.standing p service with
    | settled r =>
      exact ⟨r, _, answer_of_settled hw.tree hstanding, hw.answered service r, hw.answers_of_settled hchain hstanding⟩
    | pending r implementation =>
      have hbegins := begins_of_standing hw.tree hstanding
      have hneeds : ∀ b ∈ requirements t implementation, Needs rs t w₀ p service b := fun b hb =>
        ⟨hbegins.isProvider, fun h => hw.not_caches hbegins (hw.caches service h), r, implementation, hbegins.lookup,
          hb⟩
      have hnew : service.identity ∉ way.map TypeExpr.identity := hw.path ▸ hbegins.notEntered
      have hkey : service.identity ∈ rs.map Prod.fst :=
        List.mem_map_of_mem (f := Prod.fst) (hrs.entry_of_lookup hbegins.lookup).1
      have hidentities : (way ++ [service]).map TypeExpr.identity = way.map TypeExpr.identity ++ [service.identity] :=
        List.map_append
      have hask : ∀ b ∈ requirements t implementation, ∀ w, Descends rs t w₀ p (way ++ [service]) w →
          ∃ r w', resolve t n p b w = some (r, w') ∧ Descends rs t w₀ p (way ++ [service]) w' ∧
            Answers rs t w₀ p (way ++ [service]) b r := by
        intro b hb w hw
        refine ih hw ?_ ?_ ?_ ?_
        · rw [List.append_assoc]
          exact List.isChain_append_cons_cons.2 ⟨hchain, hneeds b hb, .singleton b⟩
        · rw [hidentities, List.nodup_append]
          refine ⟨hnodup, List.nodup_singleton _, fun a ha c hc hac => hnew ?_⟩
          rw [← List.mem_singleton.1 hc, ← hac]
          exact ha
        · rw [hidentities]
          exact List.append_subset.2 ⟨hkeys, fun a ha => List.mem_singleton.1 ha ▸ hkey⟩
        · rw [List.length_append, List.length_singleton]
          omega
      obtain ⟨s, u, hs, hu, hconstructed⟩ := exists_create hrs hbegins.lookup
        (fun _ _ h ha => Descends.of_agrees h ha) hask (hw.entered service)
      rw [← hw.path] at hs
      have hsound : ∀ v, s = .ok v → Sound rs t w₀ p service := by
        rintro v rfl
        refine .built hbegins.isKey hbegins.lookup fun b hb => ?_
        obtain ⟨v', hv'⟩ := hconstructed b hb
        exact hv'
      refine ⟨_, _, answer_of_pending hw.tree hstanding hs, ?_, ?_⟩
      · exact (hu.conclude hrs r.lifetime hsound).answered service _
      · cases s with
        | ok v => exact hsound v rfl
        | error f =>
          obtain ⟨b, hb, c, name, e, he, rfl⟩ := hconstructed
          exact he.passedOn (hneeds b hb) c name

end Resolving

/-! Where nothing is under construction. -/

lemma transGen_of_isChain {R : TypeExpr → TypeExpr → Prop} {a : TypeExpr} {l : List TypeExpr}
    (h : (a :: l).IsChain R) (hb : b ∈ l) : TransGen R a b := by
  induction l generalizing a with
  | nil => cases hb
  | cons c l ih =>
    obtain ⟨hstep, hrest⟩ := List.isChain_cons_cons.1 h
    obtain rfl | hb := List.mem_cons.1 hb
    · exact .single hstep
    · exact .head hstep (ih hrest hb)

lemma Explains.circuit {chain : List TypeExpr} (h : Explains rs t w₀ p [] service (.circularDependency chain)) :
    ∃ a between b, chain = a :: (between ++ [b]) ∧ a.identity = b.identity ∧ chain.IsChain (Needs rs t w₀ p) ∧
      ReflTransGen (Needs rs t w₀ p) service a ∧ TransGen (Needs rs t w₀ p) a b := by
  obtain ⟨⟨a, between, b, rfl, hidentity⟩, walked, ⟨rest, hrest⟩, hwalked, ⟨before, rfl⟩⟩ := h
  have hchain : (a :: (between ++ [b])).IsChain (Needs rs t w₀ p) := hwalked.right_of_append
  have hcircle : TransGen (Needs rs t w₀ p) a b :=
    transGen_of_isChain hchain (List.mem_append_right between List.mem_cons_self)
  refine ⟨a, between, b, rfl, hidentity, hchain, ?_, hcircle⟩
  cases before with
  | nil =>
    cases hrest
    exact .refl
  | cons first before =>
    cases (List.cons.inj hrest).1
    exact (transGen_of_isChain hwalked (List.mem_append_right before List.mem_cons_self)).to_reflTransGen

namespace Registrations

lemma ofTree_runUses {uses : List Use} (h : rs.runUses t uses = some w) : OfTree rs w ∧ w.root.path = [] := by
  refine foldlM_keeps (I := fun w => OfTree rs w ∧ w.root.path = []) (fun a _ w w' hw hw' => ?_)
    ⟨ofTree_build rs, rfl⟩ h
  obtain ⟨htree, hpath⟩ := hw
  exact ⟨Use.ofTree_perform htree hw', (Use.path_perform htree hw').trans hpath⟩

/-- In an open scope every request comes to an end, with nesting no deeper than one more than there are registrations.
It succeeds if and only if all that it leads to is supplied and nothing of that leads to itself; requirements are
followed as far as nothing is cached. Else it is unresolvable, or the failure shows how a service requires itself; only
a type that is no key fails as such. -/
theorem resolve_settles (hrs : rs.AreListed t) {uses : List Use} (h : rs.runUses t uses = some w)
    (hscope : (w.provider p).isScope) (hopen : (w.provider p).isClosed = false) (service : TypeExpr) :
    ∃ r w', (∀ n, rs.length < n → Resolving.resolve t n p service w = some (r, w')) ∧
      ((∃ v, r = .ok v) ↔
        (∀ b, ReflTransGen (Needs rs t w p) service b → rs.Supplies b) ∧
        ∀ a b, ReflTransGen (Needs rs t w p) service a → TransGen (Needs rs t w p) a b → a.identity ≠ b.identity) ∧
      ∀ f, r = .error f →
        (∃ blamed reason, f = .unresolvable blamed reason) ∨
        (∃ a between b, f = .circularDependency (a :: (between ++ [b])) ∧ a.identity = b.identity ∧
          (a :: (between ++ [b])).IsChain (rs.Requires t)) ∨
        ∃ sort, service.unkeyable? = some sort ∧ f = .unkeyable sort := by
  obtain ⟨htree, hpath⟩ := ofTree_runUses h
  have hdescends : Descends rs t w p [] w := ⟨htree, hpath, hopen, hscope, fun _ ha => ha, fun _ hkey ha =>
    .cached hkey ha⟩
  have hchain : ([] ++ [service]).IsChain (Needs rs t w p) := .singleton service
  have hdepth : rs.length < ([] : ResolutionPath).length + (rs.length + 1) := by simp
  obtain ⟨r, w', hresolve, -, hanswers⟩ :=
    Resolving.exists_resolve hrs hdescends hchain List.nodup_nil (List.nil_subset _) hdepth
  refine ⟨r, w', fun n hn => Resolving.resolve_mono hn p service hresolve, ?_, ?_⟩
  · constructor
    · rintro ⟨v, rfl⟩
      have hsound : Sound rs t w p service := hanswers
      exact ⟨fun b hb => (hsound.reaches hb).supplies, fun a b ha hab => (hsound.reaches ha).not_circular hrs hab⟩
    · rintro ⟨hsupplied, hcircles⟩
      cases r with
      | ok v => exact ⟨v, rfl⟩
      | error f =>
        exfalso
        cases f with
        | unresolvable _ _ =>
          obtain ⟨b, hb, hnot⟩ := hanswers
          exact hnot (hsupplied b hb)
        | circularDependency chain =>
          obtain ⟨a, _, b, -, hidentity, -, ha, hab⟩ := Explains.circuit hanswers
          exact hcircles a b ha hab hidentity
        | _ =>
          obtain ⟨sort, hkey, -⟩ := hanswers
          exact not_supplies_of_unkeyable hkey (hsupplied service .refl)
  · rintro f rfl
    cases f with
    | unresolvable blamed reason => exact .inl ⟨blamed, reason, rfl⟩
    | circularDependency chain =>
      obtain ⟨a, between, b, rfl, hidentity, hchain, -, -⟩ := Explains.circuit hanswers
      exact .inr (.inl ⟨a, between, b, rfl, hidentity, hchain.imp fun _ _ hneeds => hneeds.2.2⟩)
    | _ => exact .inr (.inr hanswers)

end Registrations

/-! A class whose initializer only gives attributes to the object can be constructed from anything. -/

namespace Resolving

variable {ask : Ask} {c d : ClassHead} {i : Initializer} {named values : List (String × Value)}

lemma exists_instantiate (ht : ∀ k ∈ t, k.properties = []) (hcommon : Assoc.find? c commonValues = none)
    (hplain : t.plainValue? c = none) (hmissing : t.missingMethods c = [])
    (hinitializer : t.initializer? c = some (d, i)) (hbind : i.bind [] named = .ok values)
    (pairs : List (String × Value)) (hes : Effect.ofClass t c d i values = Effect.setAll pairs) (w : World) :
    ∃ v w', instantiate t ask (.bare c) named w = some (.ok v, w') := by
  let w₁ : World := { w with objects := w.objects ++ [{ type := .bare c, plain := none }] }
  have hfresh : Fresh t (.bare c) c (named.map Prod.fst) w w.objects.length w₁ := by
    refine ⟨.inl rfl, hcommon, ?_⟩
    rw [allocate, hplain, hmissing]
    rfl
  refine ⟨.object w.objects.length, w₁.setAttributes w.objects.length pairs, ?_⟩
  have hperform : performAll t ask (initializeOther t ask otherDepth) w.objects.length (Effect.setAll pairs) w₁ =
      some (.ok (), w₁.setAttributes w.objects.length pairs) := by
    rw [← List.append_nil (Effect.setAll pairs)]
    exact performAll_setAll [] fun c _ p _ => ClassTable.hasProperty_eq_false ht c p.1
  rw [hfresh.instantiate_eq hinitializer hbind, hes]
  exact bind_of_ok hperform

end Resolving

end Container

/-! An office. The clerk has a clock, the boss has an aide who has the boss. -/

namespace Offices

open Container Desks

def classes : ClassTable :=
  [needing "Clock" [], needing "Clerk" [("clock", "Clock")], needing "Boss" [("aide", "Aide")],
    needing "Aide" [("boss", "Boss")]]

def registrations : Registrations :=
  [("Clock", .singleton), ("Clerk", .scoped), ("Boss", .transient), ("Aide", .scoped)].map fun e =>
    (.bare (named e.1), { service := .bare (named e.1), implementation := .bare (named e.1), lifetime := e.2 })

lemma areListed : registrations.AreListed classes := by
  have hproperties : ∀ k ∈ classes, k.properties = [] := by decide
  refine .of_bare ?_ ?_ (by decide) (by decide) ?_
  · simp [registrations]
  · simp [registrations, named]
  · intro e he values hvalues w
    simp only [registrations, List.map_cons, List.map_nil, List.mem_cons, List.not_mem_nil, or_false] at he
    obtain rfl | rfl | rfl | rfl := he
    · exact Resolving.exists_instantiate hproperties (by decide) (by decide) (by decide) rfl rfl [] rfl w
    all_goals
      obtain ⟨v, rfl⟩ := List.length_eq_one_iff.1 hvalues
      exact Resolving.exists_instantiate hproperties (by decide) (by decide) (by decide) rfl rfl [(_, v)] rfl w

def uses : List Use :=
  [.act (.createScope 0), .act (.resolve 2 1 (.bare (named "Clerk")))]

def circuit (o : Option (Except Failure Value × World)) : List TypeExpr :=
  match o with
  | some (.error (.circularDependency chain), _) => chain
  | _ => []

theorem boss_circular :
    ∃ w w', registrations.runUses classes uses = some w ∧
      (∀ n, 4 < n → Resolving.resolve classes n 1 (.bare (named "Boss")) w =
        some (.error (.circularDependency [.bare (named "Boss"), .bare (named "Aide"), .bare (named "Boss")]), w')) ∧
      ¬ ((∀ b, Relation.ReflTransGen (World.Needs registrations classes w 1) (.bare (named "Boss")) b →
          registrations.Supplies b) ∧
        ∀ a b, Relation.ReflTransGen (World.Needs registrations classes w 1) (.bare (named "Boss")) a →
          Relation.TransGen (World.Needs registrations classes w 1) a b → a.identity ≠ b.identity) := by
  have hrun : (registrations.runUses classes uses).map (fun w =>
      ((w.provider 1).isScope, (w.provider 1).isClosed,
        circuit (Resolving.resolve classes 5 1 (.bare (named "Boss")) w))) =
      some (true, false, [.bare (named "Boss"), .bare (named "Aide"), .bare (named "Boss")]) := by decide +kernel
  obtain ⟨w, hw, heq⟩ := Option.map_eq_some_iff.1 hrun
  simp only [Prod.mk.injEq] at heq
  obtain ⟨hscope, hopen, hcircuit⟩ := heq
  obtain ⟨r, w', hresolve, hiff, -⟩ := Registrations.resolve_settles areListed hw hscope hopen (.bare (named "Boss"))
  rw [hresolve 5 (by decide)] at hcircuit
  cases r with
  | ok v => cases hcircuit
  | error f =>
    cases f with
    | circularDependency chain =>
      cases hcircuit
      refine ⟨w, w', hw, hresolve, fun hsound => ?_⟩
      obtain ⟨v, hv⟩ := hiff.2 hsound
      cases hv
    | _ => cases hcircuit

end Offices

end Wiring
