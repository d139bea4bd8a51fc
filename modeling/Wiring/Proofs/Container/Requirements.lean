import Mathlib.Logic.Relation
import Wiring.Proofs.Container.Recovery

/-!
What services require. A registered class requires the types of those parameters of its initializer that cannot do
without a value; a request for a service follows requirements as far as no instance is kept yet.
-/

namespace Wiring.Container

open Relation

/-! Where nothing is put in the place of type variables, a type stays as it is. -/

namespace TypeExpr

lemma keepParameters_self (c : ClassHead) (as : List TypeExpr) : keepParameters c as as = as := by
  rw [keepParameters]
  split
  · rw [List.dropLast_eq_take, List.take_append_drop]
  · rfl

mutual

lemma substitute_nil : (t : TypeExpr) → t.substitute [] = t
  | .bare _ | .choice _ | .forward _ | .key _ | .thing _ => by rw [substitute]
  | .variable _ _ => by rw [substitute]; rfl
  | .closed c as => by rw [substitute, substituteAll_nil as, if_pos rfl]
  | .written n c as => by rw [substitute, substituteAll_nil as, keepParameters_self, if_pos rfl]
  | .union ms => by rw [substitute, substituteAll_nil ms, if_pos rfl]

lemma substituteAll_nil : (ts : List TypeExpr) → substituteAll [] ts = ts
  | [] => by rw [substituteAll]
  | t :: ts => by rw [substituteAll, substitute_nil t, substituteAll_nil ts]

end

end TypeExpr

namespace Formation

mutual

lemma checkSubstitution_nil : (t : TypeExpr) → checkSubstitution [] t = .ok ()
  | .bare _ | .variable _ _ | .forward _ | .key _ | .thing _ => rfl
  | .closed c as => by
    rw [checkSubstitution, checkSubstitutions_nil as, TypeExpr.substituteAll_nil as]
    simp
  | .written n c as => by rw [checkSubstitution, checkSubstitutions_nil as]
  | .union ms => by
    rw [checkSubstitution, checkSubstitutions_nil ms, TypeExpr.substituteAll_nil ms]
    simp
  | .choice ms => by
    rw [checkSubstitution, checkSubstitutions_nil ms, TypeExpr.substituteAll_nil ms]
    simp

lemma checkSubstitutions_nil : (ts : List TypeExpr) → checkSubstitutions [] ts = .ok ()
  | [] => rfl
  | t :: ts => by
    rw [checkSubstitutions, checkSubstitution_nil t]
    exact checkSubstitutions_nil ts

end

lemma substitute_nil (t : TypeExpr) : substitute [] t = .ok t := by
  rw [substitute, checkSubstitution_nil, TypeExpr.substitute_nil]
  simp

end Formation

def Slot.isRequired (s : Slot) : Bool :=
  !(s.default.isSome || s.kind = .rest || s.kind = .restNamed)

def Slot.service? (m : List (String × TypeExpr)) (s : Slot) : Option TypeExpr :=
  match s.hint with
  | .type type => (Formation.substitute m type).toOption
  | _ => none

lemma Slot.service?_eq_some {m : List (String × TypeExpr)} {s : Slot} {b : TypeExpr} (h : s.service? m = some b) :
    ∃ type, s.hint = .type type ∧ Formation.substitute m type = .ok b := by
  unfold Slot.service? at h
  cases hhint : s.hint with
  | type type =>
    rw [hhint] at h
    refine ⟨type, rfl, ?_⟩
    cases hsubstitute : Formation.substitute m type with
    | ok b' =>
      simp only [hsubstitute, Except.toOption] at h
      rw [Option.some.inj h]
    | error e =>
      simp only [hsubstitute, Except.toOption] at h
      cases h
  | absent =>
    rw [hhint] at h
    cases h
  | unreadable message =>
    rw [hhint] at h
    cases h

def requiredSlots (t : ClassTable) (implementation : TypeExpr) : List Slot :=
  (Resolving.slotsOf t implementation).filter Slot.isRequired

def requirements (t : ClassTable) (implementation : TypeExpr) : List TypeExpr :=
  (requiredSlots t implementation).filterMap (Slot.service? implementation.bindings)

variable {rs : Registrations} {t : ClassTable} {w w' : World} {p : Nat} {a b service : TypeExpr} {r : Registration}
  {implementation : TypeExpr}

lemma Slot.exists_type {slots : List Slot} {s : Slot} (hreadable : Resolving.unreadable? slots = none) (hs : s ∈ slots)
    (hhint : s.hint ≠ .absent) : ∃ type, s.hint = .type type := by
  unfold Resolving.unreadable? at hreadable
  split at hreadable
  · cases hreadable
  · have hslot := List.findSome?_eq_none_iff.1 hreadable s hs
    cases hs' : s.hint with
    | absent => exact absurd hs' hhint
    | type type => exact ⟨type, rfl⟩
    | unreadable message =>
      rw [hs'] at hslot
      cases hslot

namespace TypeExpr

lemma identity_eq_bare {c : ClassHead} : a.identity = .bare c ↔ a = .bare c := by
  constructor
  · intro h
    cases a with
    | bare d => rwa [identity] at h
    | _ => rw [identity] at h; cases h
  · rintro rfl
    rw [identity]

lemma isProvider_congr (h : a.identity = b.identity) : a.isProvider = b.isProvider := by
  have hbare : ∀ c, a = .bare c ↔ b = .bare c := fun c => by rw [← identity_eq_bare, h, identity_eq_bare]
  simp only [isProvider, hbare]

lemma unkeyable?_of_isProvider (h : service.isProvider) : service.unkeyable? = none := by
  rw [isProvider, Bool.or_eq_true, decide_eq_true_iff, decide_eq_true_iff] at h
  obtain rfl | rfl := h <;> rfl

end TypeExpr

namespace Registrations

/-- Every service is registered with a class of its own arguments, if it has any, whose initializer lists services and
does nothing that fails once it has one of each. It asks nobody itself. -/
structure AreListed (rs : Registrations) (t : ClassTable) : Prop where
  recipes : ∀ e ∈ rs, e.2.recipe = none
  closed : ∀ e ∈ rs, e.2.isOpen = false
  readable : ∀ e ∈ rs, Resolving.unreadable? (Resolving.slotsOf t e.2.implementation) = none
  services : ∀ e ∈ rs, ∀ s ∈ requiredSlots t e.2.implementation, s.service? e.2.implementation.bindings ≠ none
  constructible : ∀ e ∈ rs, ∀ values : List Value, values.length = (requiredSlots t e.2.implementation).length →
    ∀ w, ∃ v w', Resolving.instantiate t (fun _ _ => Resolving.tooDeep) e.2.implementation
      (((requiredSlots t e.2.implementation).map (·.name)).zip values) w = some (.ok v, w')

lemma AreListed.of_bare (recipes : ∀ e ∈ rs, e.2.recipe = none)
    (bare : ∀ e ∈ rs, ∃ c, e.2.implementation = .bare c ∧ c.parameters = [])
    (readable : ∀ e ∈ rs, Resolving.unreadable? (Resolving.slotsOf t e.2.implementation) = none)
    (hints : ∀ e ∈ rs, ∀ s ∈ requiredSlots t e.2.implementation, s.hint ≠ .absent)
    (constructible : ∀ e ∈ rs, ∀ values : List Value, values.length = (requiredSlots t e.2.implementation).length →
      ∀ w, ∃ v w', Resolving.instantiate t (fun _ _ => Resolving.tooDeep) e.2.implementation
        (((requiredSlots t e.2.implementation).map (·.name)).zip values) w = some (.ok v, w')) :
    rs.AreListed t := by
  refine ⟨recipes, fun e he => ?_, readable, fun e he s hs => ?_, constructible⟩
  · obtain ⟨c, hc, hparameters⟩ := bare e he
    rw [Registration.isOpen, Registration.openParameters, hc, TypeExpr.openParameters, hparameters]
    rfl
  · obtain ⟨c, hc, -⟩ := bare e he
    obtain ⟨type, htype⟩ := Slot.exists_type (readable e he) (List.mem_of_mem_filter hs) (hints e he s hs)
    have hbindings : e.2.implementation.bindings = [] := by rw [hc]; rfl
    rw [Slot.service?, htype, hbindings]
    simp [Formation.substitute_nil, Except.toOption]

variable (hrs : rs.AreListed t)

include hrs

lemma AreListed.openFor?_eq_none (service : TypeExpr) : rs.openFor? service = none := by
  unfold openFor?
  split
  · rw [Option.filter_eq_none_iff]
    intro r hr
    have hclosed := hrs.closed _ (Assoc.mem_of_find?_eq_some hr)
    simp [hclosed]
  · rfl

lemma AreListed.lookup_eq_ok_iff :
    rs.lookup service = .ok (r, implementation) ↔
      Assoc.find? service.identity rs = some r ∧ implementation = r.implementation := by
  unfold lookup
  rw [hrs.openFor?_eq_none]
  cases Assoc.find? service.identity rs with
  | none => simp
  | some r' =>
    simp only [Except.ok.injEq, Prod.mk.injEq, Option.some.injEq]
    constructor
    · rintro ⟨rfl, rfl⟩
      exact ⟨rfl, rfl⟩
    · rintro ⟨rfl, rfl⟩
      exact ⟨rfl, rfl⟩

lemma AreListed.lookup_congr (h : a.identity = b.identity) (ha : rs.lookup a = .ok (r, implementation)) :
    rs.lookup b = .ok (r, implementation) := by
  rw [hrs.lookup_eq_ok_iff] at ha ⊢
  rwa [← h]

lemma AreListed.entry_of_lookup (h : rs.lookup service = .ok (r, implementation)) :
    (service.identity, r) ∈ rs ∧ implementation = r.implementation := by
  rw [hrs.lookup_eq_ok_iff] at h
  exact ⟨Assoc.mem_of_find?_eq_some h.1, h.2⟩

end Registrations

namespace Registrations

def Requires (rs : Registrations) (t : ClassTable) (a b : TypeExpr) : Prop :=
  ∃ r implementation, rs.lookup a = .ok (r, implementation) ∧ b ∈ requirements t implementation

/-- A provider supplies itself, and what is registered. -/
def Supplies (rs : Registrations) (service : TypeExpr) : Prop :=
  service.isProvider ∨ service.unkeyable? = none ∧ ∃ found, rs.lookup service = .ok found

def place? (rs : Registrations) (p : Nat) (service : TypeExpr) : Option Place :=
  (rs.lifetime? service).bind (Place.of? p service)

lemma place?_of_lookup (h : rs.lookup service = .ok (r, implementation)) :
    rs.place? p service = Place.of? p service r.lifetime := by
  rw [place?, lifetime?_of_lookup h, Option.bind_some]

lemma place?_congr (p : Nat) (h : a.identity = b.identity) : rs.place? p a = rs.place? p b := by
  have hof : Place.of? p a = Place.of? p b := by
    funext l
    cases l <;> simp [Place.of?, h]
  rw [place?, place?, lifetime?_congr h, hof]

lemma service_of_place?_eq_some {k : Place} (h : rs.place? p service = some k) : k.service = service.identity := by
  obtain ⟨l, -, hk⟩ := Option.bind_eq_some_iff.1 h
  exact Place.service_of_of?_eq_some hk

lemma exists_lookup_of_place? {k : Place} (h : rs.place? p service = some k) :
    ∃ found, rs.lookup service = .ok found := by
  obtain ⟨l, hl, -⟩ := Option.bind_eq_some_iff.1 h
  rw [lifetime?] at hl
  cases hlookup : rs.lookup service with
  | ok found => exact ⟨found, rfl⟩
  | error fault =>
    rw [hlookup] at hl
    cases hl

end Registrations

namespace World

def Caches (rs : Registrations) (w : World) (p : Nat) (service : TypeExpr) : Prop :=
  ∃ k, rs.place? p service = some k ∧ w.kept k ≠ none

/-- A request for one service that has to be constructed leads to a request for another one. -/
def Needs (rs : Registrations) (t : ClassTable) (w : World) (p : Nat) (a b : TypeExpr) : Prop :=
  a.isProvider = false ∧ ¬ Caches rs w p a ∧ rs.Requires t a b

/-- A service that can be had: there is an instance already, or everything that it requires can be had. -/
inductive Sound (rs : Registrations) (t : ClassTable) (w : World) (p : Nat) : TypeExpr → Prop
  | provider {service : TypeExpr} : service.isProvider → Sound rs t w p service
  | cached {service : TypeExpr} : service.unkeyable? = none → Caches rs w p service → Sound rs t w p service
  | built {service : TypeExpr} {r : Registration} {implementation : TypeExpr} : service.unkeyable? = none →
    rs.lookup service = .ok (r, implementation) → (∀ b ∈ requirements t implementation, Sound rs t w p b) →
    Sound rs t w p service

lemma caches_congr (h : a.identity = b.identity) : Caches rs w p a ↔ Caches rs w p b := by
  rw [Caches, Caches, Registrations.place?_congr p h]

lemma Needs.congr (hrs : rs.AreListed t) (h : Needs rs t w p a service) (hab : a.identity = b.identity) :
    Needs rs t w p b service := by
  obtain ⟨hprovider, hcaches, r, implementation, hlookup, hmem⟩ := h
  refine ⟨(TypeExpr.isProvider_congr hab).symm.trans hprovider, fun hb => hcaches ((caches_congr hab).2 hb), ?_⟩
  exact ⟨r, implementation, hrs.lookup_congr hab hlookup, hmem⟩

namespace Sound

lemma supplies (h : Sound rs t w p service) : rs.Supplies service := by
  cases h with
  | provider hprovider => exact .inl hprovider
  | cached hkey hcaches =>
    obtain ⟨k, hk, -⟩ := hcaches
    exact .inr ⟨hkey, Registrations.exists_lookup_of_place? hk⟩
  | built hkey hlookup _ => exact .inr ⟨hkey, _, hlookup⟩

lemma congr (hrs : rs.AreListed t) (h : Sound rs t w p a) (hab : a.identity = b.identity)
    (hkey : b.unkeyable? = none) : Sound rs t w p b := by
  cases h with
  | provider hprovider => exact .provider ((TypeExpr.isProvider_congr hab).symm.trans hprovider)
  | cached _ hcaches => exact .cached hkey ((caches_congr hab).1 hcaches)
  | built _ hlookup hsound => exact .built hkey (hrs.lookup_congr hab hlookup) hsound

lemma needs (h : Sound rs t w p a) (hab : Needs rs t w p a b) : Sound rs t w p b := by
  obtain ⟨hprovider, hcaches, r, implementation, hlookup, hmem⟩ := hab
  cases h with
  | provider h => exact absurd (hprovider.symm.trans h) Bool.false_ne_true
  | cached _ h => exact absurd h hcaches
  | built _ hfound hsound =>
    cases hlookup.symm.trans hfound
    exact hsound b hmem

lemma reaches (h : Sound rs t w p a) (hab : ReflTransGen (Needs rs t w p) a b) : Sound rs t w p b := by
  induction hab with
  | refl => exact h
  | tail _ hstep ih => exact ih.needs hstep

lemma acc (h : Sound rs t w p a) : Acc (fun b a => Needs rs t w p a b) a := by
  induction h with
  | provider hprovider =>
    exact .intro _ fun b hb => absurd (hb.1.symm.trans hprovider) Bool.false_ne_true
  | cached _ hcaches => exact .intro _ fun b hb => absurd hcaches hb.2.1
  | built _ hlookup _ ih =>
    refine .intro _ fun b hb => ?_
    obtain ⟨-, -, r, implementation, hfound, hmem⟩ := hb
    cases hlookup.symm.trans hfound
    exact ih b hmem

end Sound

lemma not_transGen_self {R : TypeExpr → TypeExpr → Prop} (h : Acc (fun b a => R a b) a) : ¬ TransGen R a a := by
  induction h with
  | intro a _ ih =>
    intro hcircle
    obtain ⟨b, hstep, hback⟩ := TransGen.head'_iff.1 hcircle
    exact ih b hstep (TransGen.tail' hback hstep)

lemma Sound.not_circular (hrs : rs.AreListed t) (h : Sound rs t w p a) (hab : TransGen (Needs rs t w p) a b) :
    a.identity ≠ b.identity := by
  intro hidentity
  obtain ⟨c, hstep, hback⟩ := TransGen.head'_iff.1 hab
  -- from where the way comes back it would go on as it began
  have hcircle : TransGen (Needs rs t w p) c c := TransGen.tail' hback (hstep.congr hrs hidentity)
  exact not_transGen_self (h.needs hstep).acc hcircle

end World

end Wiring.Container
