import Mathlib.Data.List.Pairwise
import Mathlib.Data.List.TakeWhile
import Wiring.Proofs.Container.Growth

/-!
Lifetimes over whole runs. A request leaves the world consistent, also one that fails and also one that is made while
an object is under construction; so does a whole run, whatever providers it asks in whatever order.
-/

namespace Wiring

namespace Container

open World

variable {rs : Registrations} {w w' : World} {held : ResolutionPath} {p : Nat} {service : TypeExpr} {l : Lifetime}
  {v : Value}

lemma ResolutionPath.enter_eq_ok {path entered : ResolutionPath} (h : path.enter service = .ok entered) :
    entered = path ++ [service] ∧ service.identity ∉ path.map TypeExpr.identity := by
  unfold enter at h
  split at h
  · rename_i hnil
    cases h
    refine ⟨rfl, fun hmem => ?_⟩
    obtain ⟨s, hs, hidentity⟩ := List.mem_map.1 hmem
    exact absurd hidentity (by simpa using List.dropWhile_eq_nil_iff.1 hnil s hs)
  · cases h

namespace Registrations

variable {r : Registration} {implementation : TypeExpr}

end Registrations

lemma Delivery.place?_of_lifetime? {d : Delivery} (h : rs.lifetime? d.service = some l) :
    d.place? rs = Place.of? d.provider d.service l := by
  rw [Delivery.place?, h, Option.bind_some]

namespace World

/-! A delivery and what is kept for it. -/

structure Keeps (rs : Registrations) (d : Delivery) (w w' : World) : Prop where
  objects : w'.objects = w.objects
  deliveries : w'.deliveries = w.deliveries
  trees : w.trees ≠ [] → w'.trees ≠ []
  providers : w'.providers.map (fun s => (s.tree, s.registrations, s.isScope)) =
    w.providers.map fun s => (s.tree, s.registrations, s.isScope)
  path : w'.root.path = w.root.path
  kept : ∀ k, w'.kept k = if d.place? rs = some k then some d.value else w.kept k

lemma Keeps.refl {d : Delivery} (h : ∀ k, d.place? rs = some k → w.kept k = some d.value) : Keeps rs d w w where
  objects := rfl
  deliveries := rfl
  trees h := h
  providers := rfl
  path := rfl
  kept k := by
    split
    · rename_i hk
      exact h k hk
    · rfl

lemma Keeps.scopes {d : Delivery} (h : Keeps rs d w w') :
    w'.providers.map (·.isScope) = w.providers.map (·.isScope) := by
  have hmap := congrArg (List.map fun s : Nat × Registrations × Bool => s.2.2) h.providers
  rwa [List.map_map, List.map_map] at hmap

namespace Consistent

lemma tree_eq_zero (h : Consistent rs w) (hp : p < w.providers.length) : (w.provider p).tree = 0 :=
  (h.providers _ (provider_mem hp)).1

lemma setPath (h : Consistent rs w) (hp : p < w.providers.length) (path : ResolutionPath) :
    Consistent rs (w.setPath p path) where
  trees := by simpa [World.setPath, modifyTree, ← List.length_eq_zero_iff] using h.trees
  providers := h.providers
  root := by rw [provider_setPath]; exact h.root
  objects := h.objects
  instances := h.instances
  scopes d hd hl := by rw [provider_setPath]; exact h.scopes d hd hl
  kept d hd k hk := by rw [kept_setPath path (h.tree_eq_zero hp) h.trees]; exact h.kept d hd k hk
  delivered k v hv := by
    rw [kept_setPath path (h.tree_eq_zero hp) h.trees] at hv
    exact h.delivered k v hv
  shares := h.shares

lemma deliver {d : Delivery} (h : Consistent rs w) (hd : Keeps rs d w w')
    (hobject : ∀ n, d.value = .object n → n < w.objects.length)
    (hinstance : rs.lifetime? d.service ≠ none → ∃ n, d.value = .object n)
    (hscope : rs.lifetime? d.service = some .scoped → (w.provider d.provider).isScope)
    (hsame : ∀ e ∈ w.deliveries, ∀ k, d.place? rs = some k → e.place? rs = some k → e.value = d.value)
    (hshares : ∀ e ∈ w.deliveries, d.Shares rs e) : Consistent rs (w'.deliver d) := by
  have hscopes : ∀ q, (w'.provider q).isScope = (w.provider q).isScope := fun q => by
    rw [isScope_provider, isScope_provider, hd.scopes]
  refine ⟨hd.trees h.trees, ?_, ?_, ?_, ?_, ?_, ?_, ?_, ?_⟩
  · intro s hs
    have hmem := List.mem_map_of_mem (f := fun s : Provider => (s.tree, s.registrations, s.isScope)) hs
    rw [World.deliver, hd.providers] at hmem
    obtain ⟨s', hs', heq⟩ := List.mem_map.1 hmem
    simp only [Prod.mk.injEq] at heq
    exact heq.1 ▸ heq.2.1 ▸ h.providers s' hs'
  · exact (hscopes 0).trans h.root
  · rintro e (_ | ⟨_, he⟩) n hn
    · exact hd.objects ▸ hobject n hn
    · exact hd.objects ▸ h.objects e (hd.deliveries ▸ he) n hn
  · rintro e (_ | ⟨_, he⟩) hl
    · exact hinstance hl
    · exact h.instances e (hd.deliveries ▸ he) hl
  · rintro e (_ | ⟨_, he⟩) hl
    · exact (hscopes _).trans (hscope hl)
    · exact (hscopes _).trans (h.scopes e (hd.deliveries ▸ he) hl)
  · rintro e (_ | ⟨_, he⟩) k hk
    · exact (hd.kept k).trans (if_pos hk)
    · rw [hd.deliveries] at he
      refine (hd.kept k).trans ?_
      split
      · rename_i hdk
        rw [hsame e he k hdk hk]
      · exact h.kept e he k hk
  · intro k v hv
    replace hv := (hd.kept k).symm.trans hv
    split at hv
    · rename_i hk
      exact ⟨d, List.mem_cons_self, hk, Option.some.inj hv⟩
    · obtain ⟨e, he, hek⟩ := h.delivered k v hv
      exact ⟨e, List.mem_cons_of_mem d (hd.deliveries ▸ he), hek⟩
  · exact List.pairwise_cons.2 ⟨hd.deliveries ▸ hshares, hd.deliveries ▸ h.shares⟩

end Consistent

lemma Grows.deliver {w₁ : World} {d : Delivery} (hg : Grows held w w₁) (h : Keeps rs d w₁ w')
    (hobject : ∀ n, d.value = .object n → n < w.objects.length → ∃ e ∈ w.deliveries, e.value = .object n)
    (hheld : ∀ k, d.place? rs = some k → k.service ∉ held.map TypeExpr.identity) :
    Grows held w (w'.deliver d) where
  objects := Nat.le_trans hg.objects (Nat.le_of_eq (congrArg List.length h.objects.symm))
  scopes := h.scopes.trans hg.scopes
  path := h.path.trans hg.path
  deliveries := hg.deliveries.trans (h.deliveries ▸ List.suffix_cons d w'.deliveries)
  renewed := by
    rintro e (_ | ⟨_, he⟩) n hn hl
    · exact hobject n hn hl
    · exact hg.renewed e (h.deliveries ▸ he) n hn hl
  kept k hk := (h.kept k).trans ((if_neg fun hd => hheld k hd hk).trans (hg.kept k hk))

lemma Grows.mono {held' : ResolutionPath} (h : Grows held' w w') (hsub : held ⊆ held') : Grows held w w' :=
  { h with kept := fun k hk => h.kept k (List.map_subset _ hsub hk) }

lemma Grows.setPath {path : ResolutionPath} (h : Grows held (w.setPath p path) w') (hw : Consistent rs w)
    (hw' : Consistent rs w') (hp : p < w.providers.length) : Grows held w (w'.setPath p w.root.path) := by
  have hlength : w'.providers.length = w.providers.length := h.length_providers
  have htree' : (w'.provider p).tree = 0 := hw'.tree_eq_zero (hlength ▸ hp)
  refine ⟨h.objects, h.scopes, ?_, h.deliveries, h.renewed, fun k hk => ?_⟩
  · rw [World.setPath, root_modifyTree _ htree' hw'.trees]
  · rw [kept_setPath _ htree' hw'.trees, h.kept k hk, kept_setPath _ (hw.tree_eq_zero hp) hw.trees]

end World

namespace Resolving

variable {t : ClassTable} {ask : Ask} {create : Resolving Value} {r : Except Failure Value}

lemma createScope_cases {r : Except Failure Nat} (h : createScope p w = some (r, w')) :
    w' = w ∨ p < w.providers.length ∧ w' = ((w.log (scopeEvent (w.provider p))).addScope p).2 := by
  change (if (w.provider p).isClosed then _ else _ : Resolving Nat) w = _ at h
  cases hclosed : (w.provider p).isClosed with
  | true =>
    rw [hclosed] at h
    cases h
    exact .inl rfl
  | false =>
    rw [hclosed] at h
    cases h
    exact .inr ⟨lt_of_isClosed hclosed, rfl⟩

end Resolving

namespace World

/-! Whole runs. -/

lemma provider_addScope (q : Nat) :
    (w.addScope p).2.provider q = if q = w.providers.length then
      { tree := (w.provider p).tree, registrations := (w.provider p).registrations, isScope := true }
    else w.provider q := by
  obtain hq | rfl | hq := Nat.lt_trichotomy q w.providers.length
  · rw [if_neg (Nat.ne_of_lt hq)]
    simp [addScope, provider, List.getElem?_append_left hq]
  · rw [if_pos rfl]
    simp [addScope, provider]
  · rw [if_neg (Nat.ne_of_gt hq)]
    simp [addScope, provider, List.getElem?_append_right (Nat.le_of_lt hq), Nat.le_of_lt hq, Nat.sub_ne_zero_of_lt hq]

lemma Consistent.addScope (h : Consistent rs w) (hp : p < w.providers.length) :
    Consistent rs (w.addScope p).2 := by
  have hlast : w.provider w.providers.length = { tree := w.trees.length, isScope := false, isClosed := true } := by
    rw [provider, List.getElem?_eq_none (Nat.le_refl _)]
    rfl
  have hinstances : ∀ q, ((w.addScope p).2.provider q).instances = (w.provider q).instances := by
    intro q
    rw [provider_addScope]
    split
    · rename_i hq
      rw [hq, hlast]
    · rfl
  have hkept : ∀ k, (w.addScope p).2.kept k = w.kept k := fun k => kept_congr rfl hinstances
  refine ⟨h.trees, ?_, ?_, h.objects, h.instances, ?_, ?_, ?_, h.shares⟩
  · intro s hs
    obtain hs | hs := List.mem_append.1 hs
    · exact h.providers s hs
    · obtain ⟨htree, hregistrations⟩ := h.providers _ (provider_mem hp)
      rw [List.mem_singleton.1 hs]
      exact ⟨htree, hregistrations⟩
  · rw [provider_addScope, if_neg (Nat.ne_of_lt (Nat.zero_lt_of_lt hp))]
    exact h.root
  · intro d hd hl
    rw [provider_addScope]
    split
    · rfl
    · exact h.scopes d hd hl
  · exact fun d hd k hk => (hkept k).trans (h.kept d hd k hk)
  · exact fun k v hv => h.delivered k v ((hkept k).symm.trans hv)

end World

lemma foldlM_keeps {α β : Type} {f : β → α → Option β} {I : β → Prop} {as : List α}
    (hstep : ∀ a ∈ as, ∀ b b', I b → f b a = some b' → I b') {b b' : β} (hb : I b) (h : as.foldlM f b = some b') :
    I b' := by
  induction as generalizing b with
  | nil =>
    cases h
    exact hb
  | cons a as ih =>
    rw [List.foldlM_cons] at h
    obtain ⟨next, hnext, h⟩ := Option.bind_eq_some_iff.1 h
    exact ih (fun a' ha' => hstep a' (List.mem_cons_of_mem a ha')) (hstep a List.mem_cons_self b next hb hnext) h

inductive Action where
  | createScope (p : Nat)
  | resolve (depth p : Nat) (service : TypeExpr)

def Action.perform (t : ClassTable) : Action → World → Option World
  | .createScope p, w => (Resolving.createScope p w).map Prod.snd
  | .resolve depth p service, w => (Resolving.resolve t depth p service w).map Prod.snd

def Registrations.run (rs : Registrations) (t : ClassTable) (actions : List Action) : Option World :=
  actions.foldlM (fun w a => a.perform t w) (World.build rs {}).2

variable {t : ClassTable}

end Container

/-! Desks, each a scope. All of them share one clock, the clerks of one desk share a ledger. -/

namespace Desks

open Container

def named (name : String) : ClassHead where
  module := "app"
  qualifiedName := name
  name

def needing (name : String) (needs : List (String × String)) : RuntimeClass where
  head := named name
  lineage := [named name, TypeExpr.object]
  initializer := some {
    name := name ++ ".__init__"
    slots := needs.map fun n => { name := n.1, hint := .type (.bare (named n.2)) }
    body := needs.map fun n => .assign n.1 n.1 }

def classes : ClassTable :=
  [needing "Clock" [], needing "Ledger" [], needing "Clerk" [("clock", "Clock"), ("ledger", "Ledger")]]

def registrations : Registrations :=
  [("Clock", .singleton), ("Ledger", .scoped), ("Clerk", .transient)].map fun e =>
    (.bare (named e.1), { service := .bare (named e.1), implementation := .bare (named e.1), lifetime := e.2 })

def actions : List Action :=
  let clerk : TypeExpr := .bare (named "Clerk")
  [.resolve 2 0 clerk, .createScope 0, .resolve 2 1 clerk, .createScope 1, .resolve 2 2 clerk, .resolve 2 1 clerk]

end Desks

end Wiring
