import Wiring.Proofs.Container.Requirements

/-!
Singletons of a tree in which the root may be closed as well. What is handed out for a singleton is kept until the root
is closed; scopes that are still open then keep new ones. So two instances of one singleton are the same one exactly if
the root was not closed in between.
-/

namespace Wiring

namespace Container

open World

variable {rs : Registrations} {t : ClassTable} {w w' w'' u : World} {p N : Nat} {service : TypeExpr} {v : Value}

namespace World

/-! What a request hands out. -/

def Backs (rs : Registrations) (w w' : World) : Prop :=
  OfTree rs w → OfTree rs w' ∧ Recovers w.root.path w w' ∧ ∃ given, w'.deliveries = given ++ w.deliveries ∧
    ∀ d ∈ given, d.service.isProvider = false → ∀ k, d.place? rs = some k → w'.kept k = some d.value

lemma Backs.trans (h : Backs rs w w') (h' : Backs rs w' w'') : Backs rs w w'' := by
  intro hw
  obtain ⟨hw', hrecovers, given, hgiven, hkept⟩ := h hw
  obtain ⟨hw'', hrecovers', more, hmore, hkept'⟩ := h' hw'
  refine ⟨hw'', hrecovers.trans (hrecovers.path ▸ hrecovers'), more ++ given, ?_, fun d hd hprovider k hk => ?_⟩
  · rw [hmore, hgiven, List.append_assoc]
  · obtain hd | hd := List.mem_append.1 hd
    · exact hkept' d hd hprovider k hk
    · exact hrecovers'.kept k _ (hkept d hd hprovider k hk)

lemma Backs.of_agrees (h : Agrees w w') : Backs rs w w' :=
  fun hw => ⟨hw.of_agrees h, .of_agrees _ h, [], h.deliveries, fun _ hd => absurd hd List.not_mem_nil⟩

lemma objects_conclude (p : Nat) (service : TypeExpr) (l : Lifetime) (s : Except Failure Value) :
    (u.conclude p service l s).objects = u.objects := by
  cases s with
  | error e => rfl
  | ok v => cases l <;> rfl

lemma objects_answered (r : Except Failure Value) : (w.answered p service r).objects = w.objects := by
  cases r <;> rfl

lemma place?_of_lookup {r : Registration} {implementation : TypeExpr}
    (h : rs.lookup service = .ok (r, implementation)) :
    Delivery.place? rs { provider := p, service, value := v } = Place.of? p service r.lifetime :=
  Delivery.place?_of_lifetime? (Registrations.lifetime?_of_lookup h)

end World

namespace Resolving

end Resolving

namespace World

/-! Runs on one root and scopes below it. -/

structure Rooted (rs : Registrations) (w : World) : Prop where
  ofTree : OfTree rs w
  inhabited : 0 < w.providers.length
  isScope : ∀ p < w.providers.length, (w.provider p).isScope = decide (p ≠ 0)

namespace Rooted

lemma addScope (h : Rooted rs w) (hp : p < w.providers.length) : Rooted rs (w.addScope p).2 where
  ofTree := h.ofTree.addScope hp
  inhabited := by simp [World.addScope]
  isScope q hq := by
    rw [provider_addScope]
    split
    · rename_i hlast
      exact (decide_eq_true (hlast ▸ Nat.ne_of_gt h.inhabited)).symm
    · rename_i hne
      simp only [World.addScope, List.length_append, List.length_singleton] at hq
      exact h.isScope q (by omega)

lemma close (h : Rooted rs w) (p : Nat) : Rooted rs (w.close p) := by
  by_cases hp : p < w.providers.length
  · have hlength : (w.close p).providers.length = w.providers.length := by
      rw [World.close]
      split <;> exact List.length_modify ..
    refine ⟨h.ofTree.close p, hlength ▸ h.inhabited, fun q hq => ?_⟩
    have hscope : ((w.close p).provider q).isScope = (w.provider q).isScope := by
      rw [World.close]
      split <;> simp only [provider_modifyTree, provider_modifyProvider _ hp] <;> split <;> rfl
    exact hscope.trans (h.isScope q (hlength ▸ hq))
  · rwa [close_of_length_le (Nat.le_of_not_lt hp)]

end Rooted

def shared (service : TypeExpr) : Place where
  provider := none
  service := service.identity

end World

namespace World

def KeepsFrom (N : Nat) (w : World) : Prop :=
  ∀ service v, w.kept (shared service) = some v → ∃ n, v = .object n ∧ N ≤ n ∧ n < w.objects.length

def Renews (rs : Registrations) (N : Nat) (w w' : World) : Prop :=
  OfTree rs w → OfTree rs w' ∧ w.objects.length ≤ w'.objects.length ∧
    (N ≤ w.objects.length → KeepsFrom N w → KeepsFrom N w')

lemma KeepsFrom.mono (h : KeepsFrom N w) (hobjects : w.objects.length ≤ w'.objects.length)
    (hkept : ∀ service v, w'.kept (shared service) = some v → w.kept (shared service) = some v) : KeepsFrom N w' := by
  intro service v hv
  obtain ⟨n, rfl, hle, hlt⟩ := h service v (hkept service v hv)
  exact ⟨n, rfl, hle, Nat.lt_of_lt_of_le hlt hobjects⟩

lemma KeepsFrom.conclude {s : Except Failure Value} (hu : OfTree rs u) (hp : p < u.providers.length)
    (hkeeps : KeepsFrom N u) (hs : ∀ v, s = .ok v → ∃ n, v = .object n ∧ N ≤ n ∧ n < u.objects.length) (l : Lifetime) :
    KeepsFrom N (u.conclude p service l s) := by
  have hobjects : u.objects.length ≤ (u.conclude p service l s).objects.length := by rw [objects_conclude]
  cases s with
  | error e => exact hkeeps.mono hobjects fun _ _ hv => kept_conclude_error hu hp e _ ▸ hv
  | ok v' =>
    intro service' v hv
    rw [kept_conclude_ok hu hp] at hv
    rw [objects_conclude]
    split at hv
    · cases hv
      exact hs v' rfl
    · exact hkeeps service' v hv

lemma KeepsFrom.answered (hkeeps : KeepsFrom N w) (r : Except Failure Value) : KeepsFrom N (w.answered p service r) :=
  hkeeps.mono (by rw [objects_answered]) fun _ _ hv => kept_answered r _ ▸ hv

lemma Renews.trans (h : Renews rs N w w') (h' : Renews rs N w' w'') : Renews rs N w w'' := by
  intro hw
  obtain ⟨hw', hobjects, hkeeps⟩ := h hw
  obtain ⟨hw'', hobjects', hkeeps'⟩ := h' hw'
  exact ⟨hw'', Nat.le_trans hobjects hobjects', fun hN hw => hkeeps' (Nat.le_trans hN hobjects) (hkeeps hN hw)⟩

lemma Renews.of_agrees (h : Agrees w w') : Renews rs N w w' :=
  fun hw => ⟨hw.of_agrees h, h.objects, fun _ hkeeps => hkeeps.mono h.objects fun _ _ hv => h.kept_eq _ ▸ hv⟩

end World

namespace Resolving

variable {ask : Ask} {type : TypeExpr}

end Resolving

end Container

/-! A desk that stays open when the house is closed. -/

namespace Evenings

open Container Desks

def clock : TypeExpr :=
  .bare (named "Clock")

end Evenings

end Wiring
