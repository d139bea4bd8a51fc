import Mathlib.Data.List.Forall2
import Mathlib.Tactic.Lemma
import Wiring.Unit.Registrations

/-!
What the calls of a registration unit are made from. There is one for each entry that can be written, in order, and
an open entry is written as that of its bare types.
-/

namespace Wiring

namespace ServiceEntry

def rendered (e : ServiceEntry) : TypeRef × TypeRef :=
  if e.isOpenGeneric then (e.service.withArguments [], e.implementation.withArguments [])
  else (e.service, e.implementation)

end ServiceEntry

def RegistrationCall.Renders (call : RegistrationCall) (e : ServiceEntry) : Prop :=
  call.lifetime = e.lifetime ∧ (∃ t, call.service = ((ImportTable.render e.rendered.1).run t).1) ∧
    ∃ t, call.implementation = ((ImportTable.render e.rendered.2).run t).1

namespace RegistrationUnit

lemma render_withArguments_nil (r : TypeRef) :
    ImportTable.render (r.withArguments []) = (fun shown => Term.mk shown []) <$> ImportTable.name r := by
  obtain ⟨p, n, as, v⟩ := r
  rfl

lemma renders_renderCall (e : ServiceEntry) (t : ImportTable) : ((renderCall e).run t).1.Renders e := by
  cases h : e.isOpenGeneric with
  | true =>
    have hr : e.rendered = (e.service.withArguments [], e.implementation.withArguments []) := if_pos h
    refine ⟨?_, ⟨t, ?_⟩, (ImportTable.name e.service t).2, ?_⟩
    · rw [renderCall, h]
      rfl
    · rw [hr, render_withArguments_nil, renderCall, h]
      rfl
    · rw [hr, render_withArguments_nil, renderCall, h]
      rfl
  | false =>
    have hr : e.rendered = (e.service, e.implementation) := if_neg (by simp [h])
    refine ⟨?_, ⟨t, ?_⟩, ((ImportTable.render e.service).run t).2, ?_⟩
    · rw [renderCall, h]
      rfl
    · rw [hr, renderCall, h]
      rfl
    · rw [hr, renderCall, h]
      rfl

lemma renders_renderCalls (services : List ServiceEntry) (t : ImportTable) :
    List.Forall₂ RegistrationCall.Renders ((renderCalls services).run t).1 (services.filter (·.isExpressible)) := by
  induction services generalizing t with
  | nil => exact .nil
  | cons e es ih =>
    cases h : e.isExpressible with
    | true =>
      rw [List.filter_cons_of_pos h, renderCalls, if_pos h]
      exact .cons (renders_renderCall e t) (ih _)
    | false =>
      rw [List.filter_cons_of_neg (by simp [h]), renderCalls, if_neg (by simp [h])]
      exact ih t

theorem renders_ofServices (s : Settings) (services : List ServiceEntry) (assembly : String) :
    List.Forall₂ RegistrationCall.Renders (ofServices s services assembly).calls
      (services.filter (·.isExpressible)) :=
  renders_renderCalls services _

end RegistrationUnit

end Wiring
