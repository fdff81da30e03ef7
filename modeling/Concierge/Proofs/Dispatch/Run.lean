import Concierge.Assistant
import Concierge.Proofs.Display.Settle
import Concierge.Proofs.Registry.Serves
import Concierge.Proofs.World.Action
import Concierge.Site.Sample
import Concierge.Trigger.Builtin

/-!
# Dispatch by an assistant

An assistant that dispatches a text asks its registry for the triggers, and executes what it finds with
them; one that fires a trigger looks it up there. Where the registry serves triggers, what is found
belongs to these triggers, and the registry serves them still.
-/

namespace Concierge

/-- A directive that is found belongs to one of the triggers. -/
theorem Directive.trigger_mem_of_findAll {σ : Type} {ts : List (Trigger σ)} {text : List Char}
    {order : DispatchOrder} {d : Directive σ}
    (h : d ∈ findAll order ts text) : d.trigger ∈ ts := by
  have hfound : d ∈ findEach ts text := by
    cases order with
    | registry => exact h
    | position => exact List.mem_mergeSort.mp h
  obtain ⟨t, ht, hd⟩ := List.mem_flatMap.mp hfound
  obtain ⟨m, -, rfl⟩ := List.mem_map.mp hd
  exact ht

/-- A value that is a text. -/
theorem Value.exists_of_isText {v : Value} (h : v.isText = true) : ∃ text, v = .text text := by
  cases v with
  | text s => exact ⟨s, rfl⟩
  | _ => cases h

namespace Dispatch

open Concierge.Registry

variable {σ : Type} (ts : List (Trigger σ))

/-- Where triggers are served, directives are found in a text, and belong to these triggers. -/
theorem settles_findIn_text (order : DispatchOrder) (text : String) :
    ∃ ds, Settles ts (findIn order (.text text)) (.ok ds) ∧ ∀ d ∈ ds, d.trigger ∈ ts := by
  unfold findIn find
  dsimp only
  split
  · exact ⟨[], .pure [], List.forall_mem_nil _⟩
  · exact ⟨_, Settles.all.bind (.pure _), fun d hd => Directive.trigger_mem_of_findAll hd⟩

/-- In a value that is no text directives cannot be looked for, unless it counts as false or there is no
trigger. -/
theorem settles_findIn_of_not_text (order : DispatchOrder) {v : Value} (hv : v.isText = false) :
    Settles ts (findIn order v)
      (if v.truthy && !ts.isEmpty then .error (.notText v.kind) else .ok []) := by
  unfold findIn
  split
  · cases hv
  · by_cases htruthy : v.truthy = true
    · rw [if_neg (by simp [htruthy]), htruthy]
      refine Settles.all.bind ?_
      cases hempty : ts.isEmpty with
      | true => exact .pure []
      | false => exact .throw _
    · rw [if_pos (by simpa using htruthy), if_neg (by simp [htruthy])]
      exact .pure []

/-- Where triggers are served, directives are found in a text only, and belong to these triggers. -/
theorem settles_findIn (order : DispatchOrder) (v : Value) :
    ∃ e, Settles ts (findIn order v) e ∧
      ∀ ds, e = .ok ds → ∀ d ∈ ds, d.trigger ∈ ts ∧ ∃ text, v = .text text := by
  cases hv : v.isText with
  | true =>
    obtain ⟨text, rfl⟩ := Value.exists_of_isText hv
    obtain ⟨ds, hsettles, hmem⟩ := settles_findIn_text ts order text
    refine ⟨.ok ds, hsettles, ?_⟩
    rintro _ ⟨rfl⟩ d hd
    exact ⟨hmem d hd, text, rfl⟩
  | false =>
    refine ⟨_, settles_findIn_of_not_text ts order hv, fun ds hds d hd => ?_⟩
    split at hds
    · cases hds
    · cases hds
      cases hd

/-- A text can be stripped of its directives. -/
theorem settles_strip (text : String) : ∃ shown, Settles ts (strip text) (.ok shown) :=
  ⟨_, Settles.all.bind (.pure _)⟩

/-- A value that is no text cannot be stripped of directives. -/
theorem settles_stripIn_of_not_text {v : Value} (hv : v.isText = false) :
    Settles ts (stripIn v) (.error (.notText v.kind)) := by
  unfold stripIn
  split
  · cases hv
  · exact Settles.all.bind (.throw _)

/-- Stripping a value comes to an outcome. -/
theorem settles_stripIn (v : Value) : ∃ e, Settles ts (stripIn v) e := by
  cases hv : v.isText with
  | true =>
    obtain ⟨text, rfl⟩ := Value.exists_of_isText hv
    obtain ⟨shown, hstrip⟩ := settles_strip ts text
    exact ⟨_, hstrip⟩
  | false => exact ⟨_, settles_stripIn_of_not_text ts hv⟩

end Dispatch

namespace Assistant

variable {σ : Type} {s : Assistant σ} {c : Context} {text : String} {ts : List (Trigger σ)}
  {r : Registry σ}

/-- An action leaves all but the world of the assistant. -/
theorem act_eq {α : Type} {a : Action σ α} {e : Except Fault α} {w : World σ} (h : a s.world = (e, w)) :
    act a s = (e, { s with world := w }) := by
  unfold act
  rw [h]

/-- An action on a store that is there leaves all but the store. -/
theorem act_tryStore {α : Type} {key : String} {f : Instant → Store → Except Fault α × Store}
    {e : Except Fault α} {store : Store} (hpresent : s.world.isLost = false)
    (h : f s.world.now s.world.store = (e, store)) :
    act (Action.tryStore key f) s = (e, { s with world := { s.world with store } }) :=
  act_eq (Action.tryStore_eq hpresent h)

/-- A use of the registry leaves all but the registry. -/
theorem use_eq {α : Type} {u : Registry.Use σ α} {e : Except Fault α} (h : u s.registry = (e, r)) :
    use u s = (e, { s with registry := r }) := by
  unfold use
  rw [h]

/-- Directives are looked for in the order of the assistant. -/
theorem find_eq_findIn (v : Value) (s : Assistant σ) :
    find v s = ((Dispatch.findIn s.order v s.registry).1,
      { s with registry := (Dispatch.findIn s.order v s.registry).2 }) := rfl

/-- An assistant executes the directives that are found. -/
theorem dispatch_of_found {v : Value} {ds : List (Directive σ)}
    (hfind : Dispatch.findIn s.order v s.registry = (.ok ds, r)) (c : Context) :
    dispatch v c s =
      let ran := Dispatch.executeAll s.executor c ds s.world
      (ran.1, { s with world := ran.2, registry := r }) := by
  have hfound : find v s = (.ok ds, { s with registry := r }) := by rw [find_eq_findIn, hfind]
  rw [dispatch, bind_of_ok hfound]
  rfl

/-- An assistant that cannot look for directives executes nothing. -/
theorem dispatch_of_unfound {v : Value} {f : Fault}
    (hfind : Dispatch.findIn s.order v s.registry = (.error f, r)) (c : Context) :
    dispatch v c s = (.error f, { s with registry := r }) := by
  have hfound : find v s = (.error f, { s with registry := r }) := by rw [find_eq_findIn, hfind]
  rw [dispatch, bind_of_error hfound]

/-- An assistant executes the directives that it finds. -/
theorem dispatch_of_ok (hne : text ≠ "")
    (hall : (Registry.all : Registry.Use σ _) s.registry = (.ok ts, r)) (c : Context) :
    dispatch (.text text) c s =
      let ran := Dispatch.executeAll s.executor c (Directive.findAll s.order ts text.toList) s.world
      (ran.1, { s with world := ran.2, registry := r }) :=
  dispatch_of_found (s := s) (v := .text text) (Dispatch.find_eq s.order hne hall) c

/-- An assistant whose registry ends with a fault executes nothing. -/
theorem dispatch_of_error (hne : text ≠ "") {f : Fault}
    (hall : (Registry.all : Registry.Use σ _) s.registry = (.error f, r)) (c : Context) :
    dispatch (.text text) c s = (.error f, { s with registry := r }) := by
  refine dispatch_of_unfound ?_ c
  show Dispatch.find s.order text s.registry = _
  rw [Dispatch.find, if_neg hne, bind_of_error hall]

/-- An assistant executes the trigger that is looked up, on trial when there is no context. -/
theorem fire_of_found {id : String} {t : Trigger σ} (hlookUp : Registry.lookUp id s.registry = (.ok t, r))
    (params : Value) (given : Option Context) :
    fire id params given s =
      let c := given.getD (trialContext s.world.now)
      let ran := s.executor.execute t params c s.world
      (ran.1, { s with world := ran.2, registry := r }) := by
  rw [fire, bind_of_ok (use_eq hlookUp)]
  rfl

/-- An assistant executes nothing when there is no such trigger. -/
theorem fire_of_unfound {id : String} {f : Fault}
    (hlookUp : Registry.lookUp id s.registry = (.error f, r)) (params : Value) (given : Option Context) :
    fire id params given s = (.error f, { s with registry := r }) := by
  rw [fire, bind_of_error (use_eq hlookUp)]

/-- An assistant for the sample site, with some triggers. -/
def sample (executor : Executor) (ts : List (Trigger Site)) (order : DispatchOrder) :
    Assistant Site where
  world := ⟨0, {}, Site.sample, false⟩
  registry := { builtins := ts }
  executor
  order

end Assistant

end Concierge
