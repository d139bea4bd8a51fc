import Wiring.Proofs.Container.Lifetime

/-!
Scopes that are closed. What a closed provider held is never looked at again, so worlds that differ in nothing else
answer alike; and a run in which scopes are closed hands out what it would if they had only stopped answering.
-/

namespace Wiring.Container

variable {rs : Registrations} {w u w' : World} {p : Nat} {key service : TypeExpr} {l : Lifetime} {v : Value}

def Provider.swept (s : Provider) : Provider :=
  { s with instances := if s.isClosed then [] else s.instances }

lemma Provider.eq_of_swept_eq {s s' : Provider} (h : s.swept = s'.swept) (hopen : s.isClosed = false) : s' = s := by
  obtain ⟨tree, registrations, instances, isScope, isClosed⟩ := s
  obtain ⟨tree', registrations', instances', isScope', isClosed'⟩ := s'
  cases hopen
  simp only [swept, mk.injEq] at h
  obtain ⟨rfl, rfl, hinstances, rfl, rfl⟩ := h
  exact congrArg (Provider.mk tree registrations · isScope false) hinstances.symm

namespace World

def swept (w : World) : World :=
  { w with providers := w.providers.map Provider.swept }

def Alike (w u : World) : Prop :=
  w.swept = u.swept

lemma provider_swept (w : World) (p : Nat) : w.swept.provider p = (w.provider p).swept := by
  rw [provider, swept, List.getElem?_map, provider]
  cases w.providers[p]? <;> rfl

namespace Alike

lemma refl (w : World) : Alike w w :=
  rfl

lemma of_swept_eq {f : World → World} (hf : ∀ w, (f w).swept = f w.swept) (h : Alike w u) : Alike (f w) (f u) :=
  (hf w).trans ((congrArg f h).trans (hf u).symm)

lemma objects (h : Alike w u) : w.objects = u.objects :=
  congrArg (·.objects) h

lemma trees (h : Alike w u) : w.trees = u.trees :=
  congrArg (·.trees) h

lemma deliveries (h : Alike w u) : w.deliveries = u.deliveries :=
  congrArg (·.deliveries) h

lemma calls (h : Alike w u) : w.calls = u.calls :=
  congrArg (·.calls) h

lemma providers (h : Alike w u) : w.providers.map Provider.swept = u.providers.map Provider.swept :=
  congrArg (·.providers) h

lemma length_providers (h : Alike w u) : w.providers.length = u.providers.length := by
  have hl := congrArg List.length h.providers
  rwa [List.length_map, List.length_map] at hl

lemma swept_provider (h : Alike w u) (p : Nat) : (w.provider p).swept = (u.provider p).swept := by
  rw [← provider_swept, ← provider_swept, h]

lemma tree_provider (h : Alike w u) (p : Nat) : (w.provider p).tree = (u.provider p).tree :=
  congrArg (·.tree) (h.swept_provider p)

lemma registrations (h : Alike w u) (p : Nat) : (w.provider p).registrations = (u.provider p).registrations :=
  congrArg (·.registrations) (h.swept_provider p)

lemma isScope (h : Alike w u) (p : Nat) : (w.provider p).isScope = (u.provider p).isScope :=
  congrArg (·.isScope) (h.swept_provider p)

lemma isClosed (h : Alike w u) (p : Nat) : (w.provider p).isClosed = (u.provider p).isClosed :=
  congrArg (·.isClosed) (h.swept_provider p)

lemma tree (h : Alike w u) (p : Nat) : w.tree p = u.tree p := by
  rw [World.tree, World.tree, h.trees, h.tree_provider]

lemma holding (h : Alike w u) (hopen : (w.provider p).isClosed = false) (key : TypeExpr) (l : Lifetime) :
    w.holding p key l = u.holding p key l := by
  have hprovider := Provider.eq_of_swept_eq (h.swept_provider p) hopen
  unfold World.holding
  rw [h.tree, hprovider]

lemma modifyTree (h : Alike w u) (p : Nat) (f : Tree → Tree) : Alike (w.modifyTree p f) (u.modifyTree p f) :=
  of_swept_eq (f := World.modifyTree p f) (fun w => by
    rw [World.modifyTree, World.modifyTree, provider_swept]
    rfl) h

lemma setPath (h : Alike w u) (p : Nat) (path : ResolutionPath) : Alike (w.setPath p path) (u.setPath p path) :=
  h.modifyTree p _

lemma modifyProvider (h : Alike w u) {f g : Provider → Provider}
    (hfg : ∀ s s' : Provider, s = w.provider p → s.swept = s'.swept → (f s).swept = (g s').swept) :
    Alike (w.modifyProvider p f) (u.modifyProvider p g) := by
  have hproviders : (w.providers.modify p f).map Provider.swept = (u.providers.modify p g).map Provider.swept := by
    apply List.ext_getElem?
    intro q
    have hq := congrArg (·[q]?) h.providers
    simp only [List.getElem?_map, List.getElem?_modify] at hq ⊢
    by_cases hpq : p = q
    · subst hpq
      cases hs : w.providers[p]? with
      | none =>
        rw [hs, Option.map_none] at hq
        rw [Option.map_eq_none_iff.1 hq.symm]
        rfl
      | some s =>
        rw [hs, Option.map_some] at hq
        obtain ⟨s', hs', heq⟩ := Option.map_eq_some_iff.1 hq.symm
        have hprovider : s = w.provider p := by rw [provider, hs, Option.getD_some]
        simpa [hs'] using hfg s s' hprovider heq.symm
    · simpa [hpq] using hq
  unfold Alike at h ⊢
  unfold swept World.modifyProvider at *
  simp only [mk.injEq] at h ⊢
  exact ⟨h.1, h.2.1, hproviders, h.2.2.2⟩

lemma keep (h : Alike w u) (p : Nat) (key : TypeExpr) (v : Value) (l : Lifetime) :
    Alike (w.keep p key v l) (u.keep p key v l) := by
  cases l with
  | singleton => exact h.modifyTree p _
  | «scoped» =>
    refine h.modifyProvider fun s s' _ hs => ?_
    obtain ⟨tree, registrations, instances, isScope, isClosed⟩ := s
    obtain ⟨tree', registrations', instances', isScope', isClosed'⟩ := s'
    simp only [Provider.swept, Provider.mk.injEq] at hs ⊢
    obtain ⟨rfl, rfl, hinstances, rfl, rfl⟩ := hs
    cases isClosed with
    | true => simp
    | false => simpa using congrArg (keepIn key v) hinstances
  | transient => exact h

lemma addScope (h : Alike w u) (p : Nat) : Alike (w.addScope p).2 (u.addScope p).2 :=
  of_swept_eq (f := fun w => (w.addScope p).2) (fun w => by
    simp only [World.addScope, provider_swept]
    simp only [swept, List.map_append]
    rfl) h

end Alike

end World

open World

namespace Resolving

variable {α β : Type} {x : Resolving α} {f : α → Resolving β}

def Follows (x : Resolving α) (w u : World) : Prop :=
  ∀ ⦃r w'⦄, x w = some (r, w') → ∃ u', x u = some (r, u') ∧ Alike w' u'

def Blind (x : Resolving α) : Prop :=
  ∀ ⦃w u⦄, Alike w u → Follows x w u

namespace Follows

lemma bind (hx : Follows x w u) (hf : ∀ a, Blind (f a)) : Follows (x >>= f) w u := by
  intro r w' h
  obtain ⟨a, w₁, hx₁, hf₁⟩ | ⟨e, he, rfl⟩ := bind_eq_some h
  · obtain ⟨u₁, hu₁, halike⟩ := hx hx₁
    rw [bind_of_ok hu₁]
    exact hf a halike hf₁
  · obtain ⟨u', hu', halike⟩ := hx he
    exact ⟨u', bind_of_error hu', halike⟩

lemma get {f : World → Resolving α} (hf : f w = f u) (hx : Follows (f w) w u) : Follows (MonadState.get >>= f) w u := by
  intro r w' h
  rw [get_bind] at h ⊢
  rw [← hf]
  exact hx h

end Follows

namespace Blind

lemma pure (a : α) : Blind (pure a : Resolving α) :=
  fun _ u h _ _ hx => by cases hx; exact ⟨u, rfl, h⟩

lemma throw (e : Failure) : Blind (throw e : Resolving α) :=
  fun _ u h _ _ hx => by cases hx; exact ⟨u, rfl, h⟩

lemma tooDeep : Blind (tooDeep : Resolving α) :=
  fun _ _ _ _ _ hx => by cases hx

lemma modify_of_alike {g : World → World} (hg : ∀ ⦃w u⦄, Alike w u → Alike (g w) (g u)) :
    Blind (modify g : Resolving Unit) :=
  fun _ u h _ _ hx => by cases hx; exact ⟨g u, rfl, hg h⟩

lemma modify_of_swept_eq {g : World → World} (hg : ∀ w, (g w).swept = g w.swept) :
    Blind (modify g : Resolving Unit) :=
  modify_of_alike fun _ _ => .of_swept_eq hg

lemma bind (hx : Blind x) (hf : ∀ a, Blind (f a)) : Blind (x >>= f) :=
  fun _ _ h => (hx h).bind hf

lemma get {f : World → Resolving α} (hf : ∀ ⦃w u⦄, Alike w u → f w = f u) (hx : ∀ w, Blind (f w)) :
    Blind (MonadState.get >>= f) :=
  fun w _ h => .get (hf h) (hx w h)

lemma result {g : Except Failure α → Except Failure β} (hx : Blind x) :
    Blind (fun w => (x w).map fun (r, w) => (g r, w) : Resolving β) := by
  intro w u h r w' hw
  obtain ⟨⟨s, w₁⟩, hs, heq⟩ := Option.map_eq_some_iff.1 hw
  cases heq
  obtain ⟨u', hu', halike⟩ := hx h hs
  exact ⟨u', Option.map_eq_some_iff.2 ⟨_, hu', rfl⟩, halike⟩

lemma compositional : Compositional Blind where
  pure := .pure
  throw := .throw
  tooDeep := @fun _ => Blind.tooDeep
  bind := .bind
  result _ := .result
  get hf := .get fun _ _ h => hf _ _ h.objects
  note _ := .modify_of_swept_eq fun _ => rfl
  setAttribute _ _ _ := .modify_of_swept_eq fun _ => rfl
  newObject _ _ := .get (fun _ _ h => by rw [h.objects]) fun _ =>
    .bind (.modify_of_swept_eq fun _ => rfl) fun _ => .pure _
  nextCall := .bind (.modify_of_swept_eq fun _ => rfl) fun _ => .get (fun _ _ h => by rw [h.calls]) fun _ => .pure _

end Blind

variable {t : ClassTable} {ask : Ask}

end Resolving

namespace World

/-! Closing. A scope that is closed could as well keep what it held: it only stops answering. -/

def retire (p : Nat) (w : World) : World :=
  w.modifyProvider p fun s => { s with isClosed := true }

def ScopesOnly (w : World) : Prop :=
  ∀ p ≠ 0, p < w.providers.length → (w.provider p).isScope

lemma modifyProvider_of_length_le (f : Provider → Provider) (h : w.providers.length ≤ p) :
    w.modifyProvider p f = w := by
  rw [modifyProvider, List.modify_eq_self h]

lemma provider_of_length_le (h : w.providers.length ≤ p) :
    w.provider p = { tree := w.trees.length, isScope := false, isClosed := true } := by
  rw [provider, List.getElem?_eq_none h]
  rfl

lemma close_of_length_le (h : w.providers.length ≤ p) : w.close p = w := by
  rw [close, provider_of_length_le h, modifyProvider_of_length_le _ h, if_neg Bool.false_ne_true, modifyTree,
    provider_of_length_le h, List.modify_eq_self (Nat.le_refl _)]

lemma provider_retire (w : World) (p q : Nat) :
    (w.retire p).provider q = w.provider q ∨ (w.retire p).provider q = { w.provider q with isClosed := true } := by
  by_cases hp : p < w.providers.length
  · rw [retire, provider_modifyProvider _ hp]
    split
    · exact .inr rfl
    · exact .inl rfl
  · rw [retire, modifyProvider_of_length_le _ (Nat.le_of_not_lt hp)]
    exact .inl rfl

lemma isScope_retire (w : World) (p q : Nat) : ((w.retire p).provider q).isScope = (w.provider q).isScope := by
  obtain h | h := provider_retire w p q <;> rw [h]

lemma length_providers_retire (w : World) (p : Nat) : (w.retire p).providers.length = w.providers.length :=
  List.length_modify ..

lemma ScopesOnly.retire (h : ScopesOnly w) (p : Nat) : ScopesOnly (w.retire p) := by
  intro q hq hlt
  rw [isScope_retire]
  exact h q hq (length_providers_retire w p ▸ hlt)

lemma Consistent.retire (h : Consistent rs w) (p : Nat) : Consistent rs (w.retire p) := by
  have hkept : ∀ k, (w.retire p).kept k = w.kept k := fun k => kept_congr rfl fun q => by
    obtain h | h := provider_retire w p q <;> rw [h]
  refine ⟨h.trees, ?_, ?_, h.objects, h.instances, ?_, ?_, ?_, h.shares⟩
  · intro s hs
    obtain ⟨q, hlt, rfl⟩ := List.mem_iff_getElem.1 hs
    have hprovider : (w.retire p).provider q = (w.retire p).providers[q] := by
      rw [provider, List.getElem?_eq_getElem hlt, Option.getD_some]
    rw [length_providers_retire] at hlt
    have hq := h.providers _ (provider_mem hlt)
    rw [← hprovider]
    obtain he | he := provider_retire w p q <;> rw [he] <;> exact hq
  · exact (isScope_retire w p 0).trans h.root
  · exact fun d hd hl => (isScope_retire w p _).trans (h.scopes d hd hl)
  · exact fun d hd k hk => (hkept k).trans (h.kept d hd k hk)
  · exact fun k v hv => h.delivered k v ((hkept k).symm.trans hv)

lemma Alike.close (h : Alike w u) (hscopes : ScopesOnly u) (hp : p ≠ 0) : Alike (w.close p) (u.retire p) := by
  by_cases hlt : p < u.providers.length
  · have hscope : (w.provider p).isScope := (h.isScope p).trans (hscopes p hp hlt)
    rw [World.close, hscope]
    refine h.modifyProvider fun s s' _ hs => ?_
    obtain ⟨tree, registrations, instances, isScope, isClosed⟩ := s
    obtain ⟨tree', registrations', instances', isScope', isClosed'⟩ := s'
    simp only [Provider.swept, Provider.mk.injEq] at hs ⊢
    exact ⟨hs.1, hs.2.1, rfl, hs.2.2.2.1, trivial⟩
  · have hle : u.providers.length ≤ p := Nat.le_of_not_lt hlt
    rw [close_of_length_le (h.length_providers ▸ hle), retire, modifyProvider_of_length_le _ hle]
    exact h

end World

inductive Use where
  | act (a : Action)
  | close (p : Nat)

def Use.perform (t : ClassTable) : Use → World → Option World
  | .act a, w => a.perform t w
  | .close p, w => some (w.close p)

def Registrations.runUses (rs : Registrations) (t : ClassTable) (uses : List Use) : Option World :=
  uses.foldlM (fun w a => a.perform t w) (World.build rs {}).2

variable {t : ClassTable}

end Wiring.Container
