import Concierge.Proofs.Clean.Erase
import Concierge.Proofs.Executor.Calls
import Concierge.Proofs.Executor.Reach

/-!
# Required arguments

A required argument is looked at before it is cleaned. So a trigger gets every required argument, and none
was blank when it was given, but of some nothing is left.
-/

namespace Concierge.Executor

variable {σ : Type}

/-- A required argument that has come to its trigger. It was not blank when it was given. What the trigger
gets is blank only as the empty text, and that if cleaning by its name leaves nothing of it. -/
structure Arrived (name : String) (raw v : Value) : Prop where
  given : raw.isBlank = false
  cleaned : Clean.argument name raw = .ok v
  blank : v.isBlank = true ↔ v = .text ""
  empty : v = .text "" ↔ (Category.ofName name).Erases raw

/-- When a directive reaches its trigger, every required argument does. -/
theorem Reaches.exists_arrived {x : Executor} {t : Trigger σ} {params : Value} {c : Context}
    {w begun : World σ} {given cleaned : Params} (h : x.Reaches t params c w given cleaned begun)
    {name : String} (hname : name ∈ t.definition.required) :
    ∃ raw v, Dict.find? name given = some raw ∧ Dict.find? name cleaned = some v ∧
      Arrived name raw v := by
  obtain ⟨raw, hraw, hpresent⟩ := ParamCheck.exists_of_complete h.complete hname
  obtain ⟨v, hv, hfound⟩ := Clean.find?_arguments h.cleaned_eq hraw
  exact ⟨raw, v, hraw, hfound, hpresent, hv, Clean.isBlank_iff_of_clean hv, Clean.eq_empty_iff_erases hv⟩

/-- An execution calls its trigger at most once, with its own context. Every required argument is among
those that it passes; none of them was blank when it was given, and one that is blank now is the empty
text, of which cleaning has left nothing. -/
theorem required_arrive (x : Executor) (t : Trigger σ) (params : Value) (c : Context)
    (w : World (σ × List (Params × Context))) :
    ∃ calls, (x.execute t.recorded params c w).2.site.2 = w.site.2 ++ calls ∧ calls.length ≤ 1 ∧
      ∀ call ∈ calls, call.2 = c ∧ ∃ given, params = .dict given ∧
        ∀ name ∈ t.definition.required, ∃ raw v, Dict.find? name given = some raw ∧
          Dict.find? name call.1 = some v ∧ Arrived name raw v := by
  rcases execute_site_cases x t.recorded params c w with
    hsite | ⟨given, cleaned, begun, hreaches, hsite⟩
  · refine ⟨[], ?_, Nat.zero_le 1, List.forall_mem_nil _⟩
    rw [hsite, List.append_nil]
  · refine ⟨[(cleaned, c)], ?_, Nat.le_refl 1, ?_⟩
    · rw [hsite, ← hreaches.site_eq]
      rfl
    · intro call hcall
      obtain rfl := List.mem_singleton.mp hcall
      exact ⟨rfl, given, hreaches.given_eq, fun name hname => hreaches.exists_arrived hname⟩

/-- A required argument that is a markup tag is not blank, and comes to the trigger as the empty text. -/
theorem required_tag_arrives_empty :
    let w := (({} : Executor).execute (probe 10).recorded (.dict [("target", .text "<b>")]) anonymous
      ⟨0, {}, ((), []), false⟩).2
    "target" ∈ (probe 10).definition.required ∧ (Value.text "<b>").isBlank = false ∧
      w.site.2 = [([("target", .text "")], anonymous)] := by
  decide +kernel

end Concierge.Executor
