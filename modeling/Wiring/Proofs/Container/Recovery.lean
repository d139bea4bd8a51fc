import Wiring.Proofs.Container.Requests
import Wiring.Proofs.Container.Scopes

/-!
What a request leaves behind, whatever recipes and initializers do on the way and whether it succeeds or not: the path
is what it was, what was kept still is, and what is kept besides was constructed meanwhile.
-/

namespace Wiring

namespace Container

open World

variable {rs : Registrations} {t : ClassTable} {w w' w'' : World} {held : ResolutionPath} {p : Nat}
  {service : TypeExpr} {v : Value} {k : Place}

namespace World

structure Recovers (held : ResolutionPath) (w w' : World) : Prop where
  path : w'.root.path = w.root.path
  providers : w'.providers.map Provider.emptied = w.providers.map Provider.emptied
  kept : ∀ k v, w.kept k = some v → w'.kept k = some v
  held : ∀ k : Place, k.service ∈ held.map TypeExpr.identity → w'.kept k = w.kept k

namespace Recovers

lemma refl (held : ResolutionPath) (w : World) : Recovers held w w :=
  ⟨rfl, rfl, fun _ _ h => h, fun _ _ => rfl⟩

lemma trans (h : Recovers held w w') (h' : Recovers held w' w'') : Recovers held w w'' where
  path := h'.path.trans h.path
  providers := h'.providers.trans h.providers
  kept k v hk := h'.kept k v (h.kept k v hk)
  held k hk := (h'.held k hk).trans (h.held k hk)

lemma of_agrees (held : ResolutionPath) (h : Agrees w w') : Recovers held w w' where
  path := by rw [h.root_eq]
  providers := by rw [h.providers]
  kept k v hk := by rwa [h.kept_eq]
  held k _ := h.kept_eq k

lemma length_providers (h : Recovers held w w') : w'.providers.length = w.providers.length :=
  length_of_emptied h.providers

end Recovers

lemma Recovers.conclude {u : World} {reg : Registration} {implementation : TypeExpr} (hw : OfTree rs w)
    (hbegins : Begins rs w p service reg implementation) (hu : OfTree rs u)
    (h : Recovers (w.root.path ++ [service]) (w.setPath p (w.root.path ++ [service])) u) (s : Except Failure Value) :
    Recovers w.root.path w (u.conclude p service reg.lifetime s) ∧
      ∀ e, s = .error e → ∀ k : Place, k.service = service.identity →
        (u.conclude p service reg.lifetime s).kept k = w.kept k := by
  have hp : p < w.providers.length := lt_of_isClosed hbegins.isOpen
  have hpu : p < u.providers.length := h.length_providers ▸ hp
  have hentered : ∀ k, (w.setPath p (w.root.path ++ [service])).kept k = w.kept k := fun k =>
    kept_setPath _ (hw.tree_provider hp) hw.trees
  have hheld : ∀ k : Place, k.service ∈ w.root.path.map TypeExpr.identity ∨ k.service = service.identity →
      u.kept k = w.kept k := by
    intro k hk
    rw [h.held k, hentered]
    rw [List.map_append, List.mem_append, List.map_singleton, List.mem_singleton]
    exact hk
  refine ⟨⟨?_, ?_, fun k v hk => ?_, fun k hk => ?_⟩, ?_⟩
  · rw [path_conclude hu hpu, h.path, root_setPath _ hw hp]
    exact List.dropLast_concat
  · exact (emptied_conclude service reg.lifetime s).trans h.providers
  · have hkept : u.kept k = some v := h.kept k v ((hentered k).trans hk)
    cases s with
    | error e => rw [kept_conclude_error hu hpu, hkept]
    | ok v' =>
      rw [kept_conclude_ok hu hpu]
      split
      · rename_i hplace
        -- the place was empty when the construction began
        have hempty := (holding_create (hw.tree_eq_root hp) hbegins.holding).2 k hplace
        rw [hempty] at hk
        cases hk
      · exact hkept
  · cases s with
    | error e => rw [kept_conclude_error hu hpu, hheld k (.inl hk)]
    | ok v' =>
      have hplace : Place.of? p service reg.lifetime ≠ some k := fun hplace =>
        hbegins.notEntered (Place.service_of_of?_eq_some hplace ▸ hk)
      rw [kept_conclude_ok hu hpu, if_neg hplace, hheld k (.inl hk)]
  · rintro e rfl k hk
    rw [kept_conclude_error hu hpu, hheld k (.inr hk)]

lemma Recovers.answered (h : Recovers held w w') (p : Nat) (service : TypeExpr) (r : Except Failure Value) :
    Recovers held w (w'.answered p service r) where
  path := by rw [root_answered, h.path]
  providers := by rw [providers_answered, h.providers]
  kept k v hk := by rw [kept_answered, h.kept k v hk]
  held k hk := by rw [kept_answered, h.held k hk]

def Tidies (rs : Registrations) (w w' : World) : Prop :=
  OfTree rs w → OfTree rs w' ∧ Recovers w.root.path w w'

def Omits (rs : Registrations) (k : Place) (v : Value) (w w' : World) : Prop :=
  OfTree rs w → OfTree rs w' ∧ (w'.kept k = some v → w.kept k = some v)

lemma Tidies.trans (h : Tidies rs w w') (h' : Tidies rs w' w'') : Tidies rs w w'' := by
  intro hw
  obtain ⟨hw', hr⟩ := h hw
  obtain ⟨hw'', hr'⟩ := h' hw'
  exact ⟨hw'', hr.trans (hr.path ▸ hr')⟩

lemma Omits.trans (h : Omits rs k v w w') (h' : Omits rs k v w' w'') : Omits rs k v w w'' := by
  intro hw
  obtain ⟨hw', hk⟩ := h hw
  obtain ⟨hw'', hk'⟩ := h' hw'
  exact ⟨hw'', fun hkept => hk (hk' hkept)⟩

end World

namespace Resolving

def Leads (R : World → World → Prop) {α : Type} (x : Resolving α) : Prop :=
  ∀ ⦃w r w'⦄, x w = some (r, w') → R w w'

lemma compositional_leads {R : World → World → Prop} (htrans : ∀ {w w' w''}, R w w' → R w' w'' → R w w'')
    (hagrees : ∀ {w w'}, Agrees w w' → R w w') : Compositional (Leads R) where
  pure _ _ _ _ h := by cases h; exact hagrees ⟨Nat.le_refl _, rfl, rfl, rfl⟩
  throw _ _ _ _ h := by cases h; exact hagrees ⟨Nat.le_refl _, rfl, rfl, rfl⟩
  tooDeep h := by cases h
  bind hx hf w r w' h := by
    obtain ⟨a, w₁, ha, h⟩ | ⟨e, he, -⟩ := bind_eq_some h
    · exact htrans (hx ha) (hf a h)
    · exact hx he
  result g hx w r w' h := by
    obtain ⟨⟨s, w₁⟩, hs, heq⟩ := Option.map_eq_some_iff.1 h
    cases heq
    exact hx hs
  get _ hf w r w' h := hf w h
  note text w _ _ h := by cases h; exact hagrees (agrees_note text w)
  setAttribute object name v w _ _ h := by cases h; exact hagrees (agrees_setAttribute object name v w)
  newObject _ _ _ _ _ h := by cases h; exact hagrees ⟨by simp, rfl, rfl, rfl⟩
  nextCall _ _ _ h := by cases h; exact hagrees ⟨Nat.le_refl _, rfl, rfl, rfl⟩

lemma compositional_tidies (rs : Registrations) : Compositional (Leads (Tidies rs)) :=
  compositional_leads Tidies.trans fun h hw => ⟨hw.of_agrees h, .of_agrees _ h⟩

variable {ask : Ask} {r : Except Failure Value}

lemma recovers_answer (hask : ∀ p service, Leads (Tidies rs) (ask p service)) (hw : OfTree rs w)
    (h : answer t ask p service w = some (r, w')) :
    OfTree rs w' ∧ Recovers w.root.path w w' ∧
      ∀ f, r = .error f → ∀ k : Place, k.service = service.identity → w'.kept k = w.kept k := by
  rw [answer_eq hw] at h
  cases hstanding : w.standing p service with
  | settled s =>
    rw [hstanding] at h
    cases h
    exact ⟨hw.answered p service r, (Recovers.refl _ w).answered p service r, fun _ _ k _ => kept_answered r k⟩
  | pending reg implementation =>
    rw [hstanding] at h
    obtain ⟨⟨s, u⟩, hcreate, heq⟩ := Option.map_eq_some_iff.1 h
    obtain ⟨rfl, rfl⟩ := Prod.mk.inj heq
    have hbegins := begins_of_standing hw hstanding
    have hp : p < w.providers.length := lt_of_isClosed hbegins.isOpen
    obtain ⟨hu, hrecovers⟩ := (compositional_tidies rs).create hask p reg implementation hcreate (hw.setPath p _)
    rw [root_setPath _ hw hp] at hrecovers
    obtain ⟨hconcluded, herror⟩ := hrecovers.conclude hw hbegins hu s
    refine ⟨(hu.conclude p service reg.lifetime s).answered p service _, hconcluded.answered p service _, ?_⟩
    intro f hf k hk
    rw [kept_answered]
    cases s with
    | ok v => cases hf
    | error e => exact herror e rfl k hk

lemma leads_resolve (rs : Registrations) (t : ClassTable) (n p : Nat) (service : TypeExpr) :
    Leads (Tidies rs) (resolve t n p service) := by
  induction n generalizing p service with
  | zero => exact (compositional_tidies rs).tooDeep
  | succ n ih =>
    intro w r w' h hw
    obtain ⟨hw', hrecovers, -⟩ := recovers_answer ih hw h
    exact ⟨hw', hrecovers⟩

/-! What is kept besides was constructed meanwhile. -/

end Resolving

/-- The states that a tree of providers can be in, also while an instance is constructed: what a construction does on
its own is to make and change objects and to record what ran. -/
inductive Reached (rs : Registrations) (t : ClassTable) : World → Prop
  | built : Reached rs t (World.build rs {}).2
  | used {a : Use} {w w' : World} : Reached rs t w → a.perform t w = some w' → Reached rs t w'
  | entered {w : World} (p : Nat) (service : TypeExpr) : Reached rs t w →
    Reached rs t (w.setPath p ((w.tree p).path ++ [service]))
  | worked {w w' : World} : Reached rs t w → Agrees w w' → Reached rs t w'

lemma Use.ofTree_perform {a : Use} (hw : OfTree rs w) (h : a.perform t w = some w') : OfTree rs w' := by
  cases a with
  | close p =>
    cases h
    exact hw.close p
  | act a =>
    cases a with
    | createScope p =>
      obtain ⟨⟨r, w₁⟩, hr, rfl⟩ := Option.map_eq_some_iff.1 h
      obtain rfl | ⟨hp, rfl⟩ := Resolving.createScope_cases hr
      · exact hw
      · have hlog : Agrees w (w.log (scopeEvent (w.provider p))) := ⟨Nat.le_refl _, rfl, rfl, rfl⟩
        exact (hw.of_agrees hlog).addScope hp
    | resolve depth p service =>
      obtain ⟨⟨r, w₁⟩, hr, rfl⟩ := Option.map_eq_some_iff.1 h
      exact (Resolving.leads_resolve rs t depth p service hr hw).1

lemma World.path_close (hw : OfTree rs w) (p : Nat) : (w.close p).root.path = w.root.path := by
  by_cases hp : p < w.providers.length
  · have hclosed := hw.modifyProvider p (f := fun s => { s with instances := [], isClosed := true }) fun _ => ⟨rfl, rfl⟩
    rw [World.close]
    split
    · rfl
    · rw [root_modifyTree _ (hclosed.tree_provider (by rwa [modifyProvider, List.length_modify])) hclosed.trees]
      rfl
  · rw [close_of_length_le (Nat.le_of_not_lt hp)]

lemma Use.path_perform {a : Use} (hw : OfTree rs w) (h : a.perform t w = some w') : w'.root.path = w.root.path := by
  cases a with
  | close p =>
    cases h
    exact path_close hw p
  | act a =>
    cases a with
    | createScope p =>
      obtain ⟨⟨r, w₁⟩, hr, rfl⟩ := Option.map_eq_some_iff.1 h
      obtain rfl | ⟨-, rfl⟩ := Resolving.createScope_cases hr
      · rfl
      · rfl
    | resolve depth p service =>
      obtain ⟨⟨r, w₁⟩, hr, rfl⟩ := Option.map_eq_some_iff.1 h
      exact (Resolving.leads_resolve rs t depth p service hr hw).2.path

lemma Reached.ofTree (h : Reached rs t w) : OfTree rs w := by
  induction h with
  | built => exact ofTree_build rs
  | used _ hperform ih => exact Use.ofTree_perform ih hperform
  | entered p service _ ih => exact ih.setPath p _
  | worked _ hagrees ih => exact ih.of_agrees hagrees

end Container

/-! A till that is opened for a report. It fails, but not before it has a clock. -/

namespace Tills

open Container Desks

def till : TypeExpr :=
  .bare (named "Till")

def report : TypeExpr :=
  .bare (named "Report")

def clock : TypeExpr :=
  .bare (named "Clock")

def registrations : Registrations :=
  [(clock, { service := clock, implementation := clock, lifetime := .singleton }),
    (till, {
      service := till
      implementation := till
      lifetime := .scoped
      recipe := some (.resolve clock fun _ => .fail (.other .value "no float")) }),
    (report, {
      service := report
      implementation := report
      lifetime := .transient
      recipe := some (.pass till) })]

end Tills

end Wiring
