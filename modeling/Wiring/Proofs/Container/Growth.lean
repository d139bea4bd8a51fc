import Wiring.Proofs.Container.Computation
import Wiring.Proofs.Container.Kept

/-!
How a world grows while services are resolved. Whatever an initializer does, what is kept and what was delivered go
together, and an object that is older than a request is delivered by it only if it was delivered before.
-/

namespace Wiring.Container

variable {rs : Registrations} {w w' w'' : World}

/-! What holds of a world between two requests, and of two worlds one of which comes from the other. -/

def Delivery.Shares (rs : Registrations) (d e : Delivery) : Prop :=
  ∀ n, d.value = .object n → e.value = .object n → d.place? rs = e.place? rs ∧ d.place? rs ≠ none

instance : Std.Symm (Delivery.Shares rs) where
  symm _ _ h n he hd := by
    obtain ⟨hplace, hkept⟩ := h n hd he
    exact ⟨hplace.symm, hplace ▸ hkept⟩

namespace World

structure Consistent (rs : Registrations) (w : World) : Prop where
  trees : w.trees ≠ []
  providers : ∀ s ∈ w.providers, s.tree = 0 ∧ s.registrations = rs
  root : (w.provider 0).isScope = false
  objects : ∀ d ∈ w.deliveries, ∀ n, d.value = .object n → n < w.objects.length
  instances : ∀ d ∈ w.deliveries, rs.lifetime? d.service ≠ none → ∃ n, d.value = .object n
  scopes : ∀ d ∈ w.deliveries, rs.lifetime? d.service = some .scoped → (w.provider d.provider).isScope
  kept : ∀ d ∈ w.deliveries, ∀ k, d.place? rs = some k → w.kept k = some d.value
  delivered : ∀ k v, w.kept k = some v → ∃ d ∈ w.deliveries, d.place? rs = some k ∧ d.value = v
  shares : w.deliveries.Pairwise (Delivery.Shares rs)

structure Grows (held : ResolutionPath) (w w' : World) : Prop where
  objects : w.objects.length ≤ w'.objects.length
  scopes : w'.providers.map (·.isScope) = w.providers.map (·.isScope)
  path : w'.root.path = w.root.path
  deliveries : w.deliveries <:+ w'.deliveries
  renewed : ∀ d ∈ w'.deliveries, ∀ n, d.value = .object n → n < w.objects.length →
    ∃ e ∈ w.deliveries, e.value = .object n
  kept : ∀ k : Place, k.service ∈ held.map TypeExpr.identity → w'.kept k = w.kept k

variable {held : ResolutionPath}

lemma Grows.refl (held : ResolutionPath) (w : World) : Grows held w w where
  objects := Nat.le_refl _
  scopes := rfl
  path := rfl
  deliveries := List.suffix_refl _
  renewed d hd _ hn _ := ⟨d, hd, hn⟩
  kept _ _ := rfl

lemma Grows.trans (h : Grows held w w') (h' : Grows held w' w'') : Grows held w w'' where
  objects := Nat.le_trans h.objects h'.objects
  scopes := h'.scopes.trans h.scopes
  path := h'.path.trans h.path
  deliveries := h.deliveries.trans h'.deliveries
  renewed d hd n hn hl := by
    obtain ⟨e, he, hen⟩ := h'.renewed d hd n hn (Nat.lt_of_lt_of_le hl h.objects)
    exact h.renewed e he n hen hl
  kept k hk := (h'.kept k hk).trans (h.kept k hk)

lemma Grows.length_providers (h : Grows held w w') : w'.providers.length = w.providers.length := by
  have hl := congrArg List.length h.scopes
  rwa [List.length_map, List.length_map] at hl

lemma isScope_provider (w : World) (p : Nat) :
    (w.provider p).isScope = ((w.providers.map (·.isScope))[p]?).getD false := by
  rw [provider, List.getElem?_map]
  cases w.providers[p]? <;> rfl

lemma Grows.isScope (h : Grows held w w') (p : Nat) : (w'.provider p).isScope = (w.provider p).isScope := by
  rw [isScope_provider, isScope_provider, h.scopes]

structure Agrees (w w' : World) : Prop where
  objects : w.objects.length ≤ w'.objects.length
  trees : w'.trees = w.trees
  providers : w'.providers = w.providers
  deliveries : w'.deliveries = w.deliveries

namespace Agrees

lemma root_eq (h : Agrees w w') : w'.root = w.root := by
  rw [World.root, World.root, h.trees]

lemma provider_eq (h : Agrees w w') (p : Nat) : w'.provider p = w.provider p := by
  rw [World.provider, World.provider, h.trees, h.providers]

lemma kept_eq (h : Agrees w w') (k : Place) : w'.kept k = w.kept k :=
  kept_congr (by rw [h.root_eq]) fun p => by rw [h.provider_eq]

lemma grows (h : Agrees w w') (held : ResolutionPath) : Grows held w w' where
  objects := h.objects
  scopes := by rw [h.providers]
  path := by rw [h.root_eq]
  deliveries := h.deliveries ▸ List.suffix_refl _
  renewed d hd _ hn _ := ⟨d, h.deliveries ▸ hd, hn⟩
  kept k _ := h.kept_eq k

lemma consistent (h : Agrees w w') (hw : Consistent rs w) : Consistent rs w' where
  trees := h.trees ▸ hw.trees
  providers := h.providers ▸ hw.providers
  root := h.provider_eq 0 ▸ hw.root
  objects d hd n hn := Nat.lt_of_lt_of_le (hw.objects d (h.deliveries ▸ hd) n hn) h.objects
  instances := h.deliveries ▸ hw.instances
  scopes d hd hl := h.provider_eq d.provider ▸ hw.scopes d (h.deliveries ▸ hd) hl
  kept d hd k hk := h.kept_eq k ▸ hw.kept d (h.deliveries ▸ hd) k hk
  delivered k v hv := h.deliveries ▸ hw.delivered k v (h.kept_eq k ▸ hv)
  shares := h.deliveries ▸ hw.shares

end Agrees

lemma agrees_note (text : String) (w : World) : Agrees w (w.note text) :=
  ⟨Nat.le_refl _, rfl, rfl, rfl⟩

lemma agrees_setAttribute (object : Nat) (name : String) (v : Value) (w : World) :
    Agrees w (w.setAttribute object name v) :=
  ⟨by simp [setAttribute], rfl, rfl, rfl⟩

end World

open World

namespace Resolving

variable {α β : Type} {x : Resolving α} {f : α → Resolving β}

def Steady (rs : Registrations) (x : Resolving α) : Prop :=
  ∀ ⦃w r w'⦄, Consistent rs w → x w = some (r, w') → Consistent rs w' ∧ Grows w.root.path w w'

namespace Steady

lemma of_agrees (h : ∀ ⦃w r w'⦄, x w = some (r, w') → Agrees w w') : Steady rs x :=
  fun _ _ _ hw hx => ⟨(h hx).consistent hw, (h hx).grows _⟩

lemma pure (a : α) : Steady rs (pure a : Resolving α) :=
  fun _ _ _ hw hx => by cases hx; exact ⟨hw, .refl _ _⟩

lemma throw (e : Failure) : Steady rs (throw e : Resolving α) :=
  fun _ _ _ hw hx => by cases hx; exact ⟨hw, .refl _ _⟩

lemma tooDeep : Steady rs (tooDeep : Resolving α) :=
  fun _ _ _ _ hx => by cases hx

lemma get : Steady rs (MonadState.get : Resolving World) :=
  fun _ _ _ hw hx => by cases hx; exact ⟨hw, .refl _ _⟩

lemma modify_of_agrees {g : World → World} (h : ∀ w, Agrees w (g w)) : Steady rs (modify g : Resolving Unit) :=
  of_agrees fun w _ _ hx => by cases hx; exact h w

lemma bind (hx : Steady rs x) (hf : ∀ a, Steady rs (f a)) : Steady rs (x >>= f) := by
  intro w r w' hw h
  obtain ⟨a, w₁, hx₁, hf₁⟩ | ⟨e, he, -⟩ := bind_eq_some h
  · obtain ⟨hw₁, hg₁⟩ := hx hw hx₁
    obtain ⟨hw', hg'⟩ := hf a hw₁ hf₁
    exact ⟨hw', hg₁.trans (hg₁.path ▸ hg')⟩
  · exact hx hw he

lemma result {g : Except Failure α → Except Failure β} (hx : Steady rs x) :
    Steady rs (fun w => (x w).map fun (r, w) => (g r, w) : Resolving β) := by
  intro w r w' hw h
  obtain ⟨⟨s, w₁⟩, hs, heq⟩ := Option.map_eq_some_iff.1 h
  cases heq
  exact hx hw hs

lemma compositional (rs : Registrations) : Compositional (Steady rs) where
  pure := .pure
  throw := .throw
  tooDeep := @fun _ => Steady.tooDeep
  bind := .bind
  result _ := .result
  get _ h := .bind .get h
  note text := .modify_of_agrees (agrees_note text)
  setAttribute object name v := .modify_of_agrees (agrees_setAttribute object name v)
  newObject type plain := .of_agrees fun w _ _ h => by cases h; exact ⟨by simp, rfl, rfl, rfl⟩
  nextCall := .of_agrees fun w _ _ h => by cases h; exact ⟨Nat.le_refl _, rfl, rfl, rfl⟩

end Steady

/-! From a new object to a whole construction. -/

variable {t : ClassTable} {ask : Ask}

def Creates (rs : Registrations) (x : Resolving Value) : Prop :=
  Steady rs x ∧ ∀ ⦃w v w'⦄, Consistent rs w → x w = some (.ok v, w') →
    ∃ n, v = .object n ∧ w.objects.length ≤ n ∧ n < w'.objects.length ∧ ∀ d ∈ w'.deliveries, d.value ≠ .object n

namespace Creates

lemma throw (e : Failure) : Creates rs (throw e) :=
  ⟨.throw e, fun _ _ _ _ h => by cases h⟩

lemma bind {x : Resolving α} {f : α → Resolving Value} (hx : Steady rs x) (hf : ∀ a, Creates rs (f a)) :
    Creates rs (x >>= f) := by
  refine ⟨.bind hx fun a => (hf a).1, fun w v w' hw h => ?_⟩
  obtain ⟨a, w₁, hx₁, hf₁⟩ | ⟨e, -, he⟩ := bind_eq_some h
  · obtain ⟨hw₁, hg₁⟩ := hx hw hx₁
    obtain ⟨n, hv, hn, hn', hfresh⟩ := (hf a).2 hw₁ hf₁
    exact ⟨n, hv, Nat.le_trans hg₁.objects hn, hn', hfresh⟩
  · cases he

lemma allocate {type : TypeExpr} {c : ClassHead} {names : List String} {f : Nat → Resolving Value}
    (hf : ∀ o, Steady rs (f o)) (hv : ∀ o ⦃w v w'⦄, f o w = some (.ok v, w') → v = .object o) :
    Creates rs (allocate t type c names >>= f) := by
  refine ⟨.bind ((Steady.compositional rs).allocate _ _ _) hf, fun w v w' hw h => ?_⟩
  obtain ⟨o, w₁, hallocate, hfo⟩ | ⟨e, -, he⟩ := bind_eq_some h
  · obtain ⟨hw₁, -⟩ := (Steady.compositional rs).allocate _ _ _ hw hallocate
    obtain ⟨e, he, -⟩ | ⟨ho, plain, rfl⟩ := allots_allocate _ _ _ hallocate
    · cases he
    cases ho
    obtain ⟨hw', hg⟩ := hf _ hw₁ hfo
    have hlt : w.objects.length < (w.objects ++ [({ type, plain } : Object)]).length := by simp
    refine ⟨_, hv _ hfo, Nat.le_refl _, Nat.lt_of_lt_of_le hlt hg.objects, fun d hd hvalue => ?_⟩
    obtain ⟨e, he, hold⟩ := hg.renewed d hd _ hvalue hlt
    exact Nat.lt_irrefl _ (hw.objects e he _ hold)
  · cases he

end Creates

end Resolving

end Wiring.Container
