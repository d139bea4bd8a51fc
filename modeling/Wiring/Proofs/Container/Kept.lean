import Mathlib.Data.List.Basic
import Mathlib.Tactic.Lemma
import Wiring.Container.Resolution
import Wiring.Proofs.Assoc

/-!
Where instances are kept. A service has one lifetime, however it is written; the lifetime says whether its instances
are looked up with the tree of a provider, with the provider itself or not at all.
-/

namespace Wiring.Container

namespace TypeExpr

lemma length_identities (as : List TypeExpr) : (identities as).length = as.length := by
  induction as with
  | nil => rw [identities]
  | cons a as ih => rw [identities, List.length_cons, ih, List.length_cons]

lemma isSome_close? (c : ClassHead) (as : List TypeExpr) :
    (close? c as).isSome = decide (as.length = c.parameters.length ∧ as.length ≠ 0) := by
  have hnil : as.length ≠ 0 ↔ as ≠ [] := not_congr List.length_eq_zero_iff
  rw [close?]
  split
  · rename_i h
    exact (decide_eq_true (by rwa [hnil])).symm
  · rename_i h
    exact (decide_eq_false (by rwa [hnil])).symm

end TypeExpr

namespace Registrations

variable {rs : Registrations} {service a b : TypeExpr} {r : Registration} {implementation : TypeExpr}

def lifetime? (rs : Registrations) (service : TypeExpr) : Option Lifetime :=
  (rs.lookup service).toOption.map (·.1.lifetime)

lemma lifetime?_of_lookup (h : rs.lookup service = .ok (r, implementation)) :
    rs.lifetime? service = some r.lifetime := by
  rw [lifetime?, h]
  rfl

lemma lifetime?_closed (rs : Registrations) (c : ClassHead) (as : List TypeExpr) :
    rs.lifetime? (.closed c as) =
      ((Assoc.find? (.closed c (TypeExpr.identities as)) rs).or
        (((Assoc.find? (.bare c) rs).filter (·.isOpen)).filter fun r =>
          (r.implementation.head?.bind fun c => TypeExpr.close? c as).isSome)).map (·.lifetime) := by
  have hidentity : (TypeExpr.closed c as).identity = .closed c (TypeExpr.identities as) := by rw [TypeExpr.identity]
  cases hexact : Assoc.find? (.closed c (TypeExpr.identities as)) rs with
  | some r => simp [lifetime?, lookup, hidentity, hexact, Except.toOption]
  | none =>
    cases hopen : (Assoc.find? (.bare c) rs).filter (·.isOpen) with
    | none => simp [lifetime?, lookup, openFor?, hidentity, hexact, hopen, Except.toOption]
    | some r =>
      cases hclose : r.implementation.head?.bind fun c => TypeExpr.close? c as <;>
        simp [lifetime?, lookup, openFor?, hidentity, hexact, hopen, hclose, Except.toOption, Option.filter_some]

lemma lifetime?_of_ne_closed (h : ∀ c as, service ≠ .closed c as) :
    rs.lifetime? service = (Assoc.find? service.identity rs).map (·.lifetime) := by
  rw [lifetime?]
  unfold lookup
  cases service with
  | closed c as => exact absurd rfl (h c as)
  | _ => cases Assoc.find? _ rs <;> rfl

lemma identity_ne_closed (h : ∀ c as, a ≠ .closed c as) (c : ClassHead) (as : List TypeExpr) :
    a.identity ≠ .closed c as := by
  cases a with
  | closed c as => exact absurd rfl (h c as)
  | _ => rw [TypeExpr.identity]; exact TypeExpr.noConfusion

lemma lifetime?_congr (h : a.identity = b.identity) : rs.lifetime? a = rs.lifetime? b := by
  by_cases ha : ∃ c as, a = .closed c as
  · obtain ⟨c, as, rfl⟩ := ha
    by_cases hb : ∃ d bs, b = .closed d bs
    · obtain ⟨d, bs, rfl⟩ := hb
      rw [TypeExpr.identity, TypeExpr.identity, TypeExpr.closed.injEq] at h
      obtain ⟨rfl, h⟩ := h
      have hl : as.length = bs.length := by
        rw [← TypeExpr.length_identities, h, TypeExpr.length_identities]
      have hclose : ∀ r : Registration, (r.implementation.head?.bind fun c => TypeExpr.close? c as).isSome =
          (r.implementation.head?.bind fun c => TypeExpr.close? c bs).isSome := by
        intro r
        cases r.implementation.head? with
        | none => rfl
        | some c => rw [Option.bind_some, Option.bind_some, TypeExpr.isSome_close?, TypeExpr.isSome_close?, hl]
      simp only [lifetime?_closed, h, hclose]
    · simp only [not_exists] at hb
      rw [TypeExpr.identity] at h
      exact absurd h.symm (identity_ne_closed hb _ _)
  · simp only [not_exists] at ha
    have hb : ∀ c as, b ≠ .closed c as := by
      rintro c as rfl
      rw [TypeExpr.identity.eq_2] at h
      exact identity_ne_closed ha _ _ h
    rw [lifetime?_of_ne_closed ha, lifetime?_of_ne_closed hb, h]

end Registrations

structure Place where
  provider : Option Nat
  service : TypeExpr
  deriving DecidableEq

namespace Place

def of? (p : Nat) (service : TypeExpr) : Lifetime → Option Place
  | .singleton => some { provider := none, service := service.identity }
  | .scoped => some { provider := some p, service := service.identity }
  | .transient => none

variable {p : Nat} {service : TypeExpr} {l : Lifetime} {k : Place}

lemma service_of_of?_eq_some (h : of? p service l = some k) : k.service = service.identity := by
  cases l <;> cases h <;> rfl

end Place

def Delivery.place? (rs : Registrations) (d : Delivery) : Option Place :=
  (rs.lifetime? d.service).bind (Place.of? d.provider d.service)

namespace World

variable {w : World} {p q : Nat} {key : TypeExpr} {v : Value} {l : Lifetime} {k : Place}

def root (w : World) : Tree :=
  w.trees.headD {}

def kept (w : World) (k : Place) : Option Value :=
  (Assoc.find? k.service (k.provider.elim w.root.singletons fun p => (w.provider p).instances)).map Prod.snd

lemma lt_of_isClosed (h : (w.provider p).isClosed = false) : p < w.providers.length := by
  by_contra hp
  rw [provider, List.getElem?_eq_none (Nat.le_of_not_lt hp)] at h
  cases h

lemma provider_mem (h : p < w.providers.length) : w.provider p ∈ w.providers := by
  rw [provider, List.getElem?_eq_getElem h]
  exact List.getElem_mem h

lemma tree_eq_root (h : (w.provider p).tree = 0) : w.tree p = w.root := by
  rw [tree, h, root]
  cases w.trees <;> rfl

@[simp] lemma provider_modifyTree (f : Tree → Tree) : (w.modifyTree p f).provider q = w.provider q := by
  simp [modifyTree, provider]

@[simp] lemma provider_setPath (path : ResolutionPath) : (w.setPath p path).provider q = w.provider q :=
  provider_modifyTree _

lemma provider_modifyProvider (f : Provider → Provider) (h : p < w.providers.length) :
    (w.modifyProvider p f).provider q = if p = q then f (w.provider q) else w.provider q := by
  by_cases hq : p = q
  · subst hq
    simp [modifyProvider, provider, List.getElem?_eq_getElem h]
  · simp [modifyProvider, provider, hq]

lemma root_modifyTree (f : Tree → Tree) (hp : (w.provider p).tree = 0) (ht : w.trees ≠ []) :
    (w.modifyTree p f).root = f w.root := by
  rw [root, modifyTree, hp, root]
  cases h : w.trees with
  | nil => exact absurd h ht
  | cons t ts => rfl

lemma kept_congr {w' : World} (hr : w'.root.singletons = w.root.singletons)
    (hp : ∀ p, (w'.provider p).instances = (w.provider p).instances) : w'.kept k = w.kept k := by
  rw [kept, kept, hr]
  simp only [hp]

lemma kept_setPath (path : ResolutionPath) (hp : (w.provider p).tree = 0) (ht : w.trees ≠ []) :
    (w.setPath p path).kept k = w.kept k :=
  kept_congr (by rw [setPath, root_modifyTree _ hp ht]) fun _ => by rw [provider_setPath]

lemma find?_keepIn (j key : TypeExpr) (v : Value) (cache : Cache) :
    (Assoc.find? j (keepIn key v cache)).map Prod.snd =
      if key.identity = j then some v else (Assoc.find? j cache).map Prod.snd := by
  rw [keepIn, Assoc.find?_put]
  split <;> rfl

lemma kept_keep (hp : p < w.providers.length) (htree : (w.provider p).tree = 0) (ht : w.trees ≠ []) :
    (w.keep p key v l).kept k = if Place.of? p key l = some k then some v else w.kept k := by
  obtain ⟨q, service⟩ := k
  cases l with
  | singleton =>
    cases q with
    | none =>
      simp only [keep, kept, root_modifyTree _ htree ht, Option.elim_none, find?_keepIn, Place.of?, Option.some.injEq,
        Place.mk.injEq, true_and]
    | some q => simp [keep, kept, Place.of?]
  | «scoped» =>
    cases q with
    | none => simp [keep, kept, Place.of?, modifyProvider, root]
    | some q =>
      simp only [keep, kept, Option.elim_some, provider_modifyProvider _ hp, Place.of?, Option.some.injEq,
        Place.mk.injEq]
      by_cases hq : p = q
      · simp [hq, find?_keepIn]
      · simp [hq]
  | transient => simp [keep, Place.of?]

lemma holdingIn_cached {cache : Cache} (h : holdingIn cache key = .cached v) :
    (Assoc.find? key.identity cache).map Prod.snd = some v := by
  unfold holdingIn TypeExpr.asKey at h
  split at h
  · cases h
  · rename_i i hi
    split at hi
    · cases hi
    · cases hi
      split at h
      · rename_i hfind
        cases h
        rw [hfind]
        rfl
      · cases h

lemma holdingIn_create {cache : Cache} (h : holdingIn cache key = .create) :
    (Assoc.find? key.identity cache).map Prod.snd = none := by
  unfold holdingIn TypeExpr.asKey at h
  split at h
  · cases h
  · rename_i i hi
    split at hi
    · cases hi
    · cases hi
      split at h
      · cases h
      · rename_i hfind
        rw [hfind]
        rfl

lemma holding_cached (htree : w.tree p = w.root) (h : w.holding p key l = .cached v) :
    (l = .scoped → (w.provider p).isScope) ∧ ∃ k, Place.of? p key l = some k ∧ w.kept k = some v := by
  cases l with
  | singleton =>
    rw [holding, htree] at h
    exact ⟨Lifetime.noConfusion, _, rfl, holdingIn_cached h⟩
  | «scoped» =>
    rw [holding] at h
    split at h
    · rename_i hs
      exact ⟨fun _ => hs, _, rfl, holdingIn_cached h⟩
    · cases h
  | transient => cases h

lemma holding_create (htree : w.tree p = w.root) (h : w.holding p key l = .create) :
    (l = .scoped → (w.provider p).isScope) ∧ ∀ k, Place.of? p key l = some k → w.kept k = none := by
  cases l with
  | singleton =>
    rw [holding, htree] at h
    refine ⟨Lifetime.noConfusion, fun k hk => ?_⟩
    cases hk
    exact holdingIn_create h
  | «scoped» =>
    rw [holding] at h
    split at h
    · rename_i hs
      refine ⟨fun _ => hs, fun k hk => ?_⟩
      cases hk
      exact holdingIn_create h
    · cases h
  | transient =>
    refine ⟨Lifetime.noConfusion, fun k hk => ?_⟩
    cases hk

end World

end Wiring.Container
