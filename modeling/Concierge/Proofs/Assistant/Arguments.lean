import Concierge.Proofs.Assistant.Trace

/-!
# Arguments that triggers and the log see

Whatever is asked of an assistant, and whatever triggers its registry has, the arguments that a trigger is
called with and those that the log records are clean.
-/

namespace Concierge

open Concierge.Action

variable {σ : Type}

/-- The stored entry of an attempt with clean arguments. -/
def Audit.Entry.IsCleanItem (item : Value) : Prop :=
  ∃ (entry : Audit.Entry) (params : Params),
    item = .dict entry.toDict ∧ entry.params = .dict params ∧ params.AreClean

/-- From one world to another, triggers were called and entries were recorded with clean arguments
only. -/
structure World.AddsClean (log : Audit.Log) (w w' : World (σ × List (Params × Context))) : Prop where
  calls : ∀ call ∈ w'.site.2, call ∈ w.site.2 ∨ call.1.AreClean
  items : ∀ item ∈ log.itemsAt w'.now w'.store,
    item ∈ log.itemsAt w.now w.store ∨ Audit.Entry.IsCleanItem item

namespace World.AddsClean

variable {log : Audit.Log} {w w' : World (σ × List (Params × Context))}

/-- Clean arguments are a property of calls and of entries. -/
theorem eq_adds (log : Audit.Log) (w : World (σ × List (Params × Context))) :
    w.AddsClean log = w.Adds log (fun call => call.1.AreClean) Audit.Entry.IsCleanItem :=
  funext fun _ => propext ⟨fun h => ⟨h.calls, h.items⟩, fun h => ⟨h.calls, h.items⟩⟩

/-- A world adds nothing to itself. -/
theorem refl (log : Audit.Log) (w : World (σ × List (Params × Context))) : w.AddsClean log w :=
  ⟨fun _ h => .inl h, fun _ h => .inl h⟩

/-- Some time later. -/
theorem later (h : w.AddsClean log w') (wait : Nat) :
    w.AddsClean log { w' with now := w'.now + wait } := by
  rw [eq_adds] at h ⊢
  exact h.later (Nat.le_add_right w'.now wait)

end World.AddsClean

namespace Assistant

/-- An execution of a recorded trigger, whatever it is given, adds clean arguments only. -/
theorem maintains_addsClean (x : Executor) (w : World (σ × List (Params × Context))) :
    Maintains (w.AddsClean x.log) (Trigger.IsRecorded x.log) x where
  executes := by
    rintro _ ⟨t, rfl, ht⟩ params c
    rw [World.AddsClean.eq_adds]
    exact (Executor.maintains_adds ht (fun _ hclean => hclean)
      (fun _ params _ _ _ hclean => ⟨_, params, rfl, rfl, hclean⟩) w).execute params
  counts w' session window limit hw' _ := by
    rw [World.AddsClean.eq_adds] at hw' ⊢
    exact hw'.allow (Chat.budgetKey session) window limit

/-- Triggers and the log see clean arguments only. Let a registry have any triggers, as long as they do
not write to the log themselves. In every run of requests, whatever texts are dispatched, whatever a
trigger is fired with and whatever a model answers, the arguments of every call of a trigger follow the
rules that their names tell, and so do the arguments in every entry that comes to the log. -/
theorem arguments_are_clean {s : Assistant (σ × List (Params × Context))}
    (h : s.registry.Only (Trigger.IsRecorded s.executor.log)) (run : List (Nat × Request)) :
    s.world.AddsClean s.executor.log (timed Request.after run s).world := by
  have hmaintains := maintains_addsClean s.executor s.world
  have hend : (timed Request.after run s).Within (s.world.AddsClean s.executor.log)
      (Trigger.IsRecorded s.executor.log) s.executor :=
    timed_invariant (J := Within _ _ s.executor)
      (fun _ wait hs' => ⟨hs'.world.later wait, hs'.registry, hs'.executor⟩)
      (fun _ e _ hs' => hmaintains.request hs' e.2) ⟨.refl _ _, h, rfl⟩
  exact hend.world

/-- Two requests with hostile arguments. -/
theorem arguments_of_two_requests_are_clean :
    let c := Executor.anonymous
    let s : Assistant (Unit × List (Params × Context)) :=
      { world := ⟨0, {}, ((), []), false⟩, registry := { builtins := [(Executor.probe 5).recorded] } }
    let run : List (Nat × Request) :=
      [(0, .dispatch (.text "See [PROBE:<b>one</b>\x07  two].") c),
       (5, .fire "probe" (.dict [("target", .text "<<x>y"), ("email", .text " Ann@Example..ORG "),
         ("link", .text "Java\nScript:alert(1)"), ("count", .text "-12 items")]) (some c))]
    s.world.AddsClean s.executor.log (timed Request.after run s).world ∧
      (timed Request.after run s).world.site.2 =
        [([("target", .text "one two")], c),
         ([("target", .text "y"), ("email", .text "Ann@example.org"), ("link", .text ""),
           ("count", .int 12)], c)] := by
  intro c s run
  refine ⟨arguments_are_clean (Registry.only_builtins ?_) run, by decide +kernel⟩
  intro t ht
  rw [List.mem_singleton.mp ht]
  exact ⟨_, rfl, fun _ _ _ _ hitem => hitem⟩

end Assistant

end Concierge
