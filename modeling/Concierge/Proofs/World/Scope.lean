import Concierge.Proofs.Store.Row
import Concierge.Proofs.World.Invariant

/-!
# Scopes

A scope is a part of the world: the live rows of some keys, and what can be seen of the site from there.
Two worlds are alike in a scope when they cannot be told apart in it. An action leaves a scope when it
changes nothing in it. Two actions run in step in a scope when from alike worlds they come to
corresponding outcomes, and to alike worlds again. Both properties are told part by part for an action
that is built of others.
-/

namespace Concierge

/-- A part of the world. -/
structure Scope (σ : Type) where
  /-- The keys of the store that belong to it. -/
  sees : String → Prop
  /-- Two sites cannot be told apart in it. -/
  site : Setoid σ

namespace Scope

variable {σ α : Type}

/-- The rows of some keys, and a part of the site. -/
def ofPart (sees : String → Prop) (part : σ → α) : Scope σ :=
  ⟨sees, ⟨fun site site' => part site = part site', ⟨fun _ => rfl, Eq.symm, Eq.trans⟩⟩⟩

/-- The rows of some keys, and nothing of the site. -/
def ofKeys (sees : String → Prop) : Scope σ := ofPart sees fun _ => ()

/-- A scope with further keys. -/
def withKeys (S : Scope σ) (keys : String → Prop) : Scope σ :=
  { S with sees := fun k => S.sees k ∨ keys k }

/-- Two worlds at one instant cannot be told apart in a scope. -/
structure Alike (S : Scope σ) (w w' : World σ) : Prop where
  now : w'.now = w.now
  isLost : w'.isLost = w.isLost
  view : ∀ k, S.sees k → w'.store.view w.now k = w.store.view w.now k
  site : S.site.r w.site w'.site

namespace Alike

variable {S : Scope σ} {w w' w'' : World σ}

/-- A world cannot be told apart from itself. -/
theorem refl (S : Scope σ) (w : World σ) : S.Alike w w := ⟨rfl, rfl, fun _ _ => rfl, S.site.refl _⟩

/-- Which world comes first does not matter. -/
theorem symm (h : S.Alike w w') : S.Alike w' w where
  now := h.now.symm
  isLost := h.isLost.symm
  view k hk := by rw [h.now, h.view k hk]
  site := S.site.symm h.site

/-- Worlds that cannot be told apart from one world cannot be told apart from each other. -/
theorem trans (h : S.Alike w w') (h' : S.Alike w' w'') : S.Alike w w'' where
  now := h'.now.trans h.now
  isLost := h'.isLost.trans h.isLost
  view k hk := by rw [← h.view k hk, ← h.now, h'.view k hk]
  site := S.site.trans h.site h'.site

/-- Worlds with stores that have the same live rows in the scope. -/
theorem of_store (w : World σ) {store : Store}
    (h : ∀ k, S.sees k → store.view w.now k = w.store.view w.now k) : S.Alike w { w with store } :=
  ⟨rfl, rfl, h, S.site.refl _⟩

/-- Worlds that are alike in a larger scope are alike in the scope. -/
theorem of_withKeys {keys : String → Prop} (h : (S.withKeys keys).Alike w w') : S.Alike w w' :=
  ⟨h.now, h.isLost, fun k hk => h.view k (.inl hk), h.site⟩

end Alike

end Scope

namespace Action

variable {σ α β γ δ : Type} {S : Scope σ}

/-! ## Leaving a scope -/

/-- An action changes nothing in a scope. -/
def Leaves (S : Scope σ) (act : Action σ α) : Prop := ∀ w, S.Alike w (act w).2

namespace Leaves

/-- The world that an action leaves is alike. -/
theorem alike {act : Action σ α} (h : Leaves S act) {w left : World σ} {e : Except Fault α}
    (hrun : act w = (e, left)) : S.Alike w left := by
  have halike := h w
  rwa [hrun] at halike

/-- An action that leaves a scope keeps it that the world is alike. -/
theorem keeps {act : Action σ α} (h : Leaves S act) (w : World σ) : Keeps (S.Alike w) act :=
  fun w' halike => halike.trans (h w')

/-- An action that leaves some rows leaves any of them. -/
theorem ofKeys_mono {keys keys' : String → Prop} {act : Action σ α} (h : Leaves (.ofKeys keys) act)
    (himp : ∀ k, keys' k → keys k) : Leaves (.ofKeys keys') act := fun w =>
  ⟨(h w).now, (h w).isLost, fun k hk => (h w).view k (himp k hk), rfl⟩

/-- An action that does not act on the world. -/
theorem ofExcept (S : Scope σ) (e : Except Fault α) : Leaves S (Action.ofExcept e) := .refl S

/-- One action after another. -/
theorem bind {first : Action σ α} {next : α → Action σ β} (hfirst : Leaves S first)
    (hnext : ∀ a, Leaves S (next a)) : Leaves S (first >>= next) :=
  fun w => (hfirst.keeps w).bind (fun a => (hnext a).keeps w) w (.refl S w)

/-- An action whose outcome is a value. -/
theorem outcome {act : Action σ α} (h : Leaves S act) : Leaves S act.outcome :=
  fun w => keeps_outcome (h.keeps w) w (.refl S w)

/-- An action after whose ordinary faults another one takes over. -/
theorem recover {act : Action σ α} {handler : Fault → Action σ α} (h : Leaves S act)
    (hhandler : ∀ f, Leaves S (handler f)) : Leaves S (act.recover handler) :=
  fun w => keeps_recover (h.keeps w) (fun f => (hhandler f).keeps w) w (.refl S w)

/-- An action on the store that changes no live row in the scope. -/
theorem tryStore {key : String} {f : Instant → Store → Except Fault α × Store}
    (h : ∀ now s k, S.sees k → (f now s).2.view now k = s.view now k) :
    Leaves S (Action.tryStore key f) := by
  intro w
  unfold Action.tryStore
  split
  · exact .refl S w
  · exact .of_store w (h w.now w.store)

end Leaves

/-! ## Running in step -/

/-- Two outcomes correspond: they are values that are related, or the same fault. -/
def Corresponds (R : α → β → Prop) : Except Fault α → Except Fault β → Prop
  | .ok a, .ok b => R a b
  | .error f, .error g => f = g
  | _, _ => False

/-- Equal outcomes correspond. -/
theorem Corresponds.of_eq {R : α → α → Prop} (hrefl : ∀ a, R a a) {e e' : Except Fault α}
    (h : e = e') : Corresponds R e e' := by
  subst h
  cases e with
  | ok a => exact hrefl a
  | error f => exact (rfl : f = f)

/-- Outcomes whose values are equal are equal. -/
theorem Corresponds.eq {e e' : Except Fault α} (h : Corresponds Eq e e') : e = e' := by
  cases e <;> cases e' <;> first | exact congrArg _ h | exact h.elim

/-- From worlds that are alike in a scope, two actions come to corresponding outcomes, and to worlds
that are alike in it. -/
def InStep (S : Scope σ) (R : α → β → Prop) (act : Action σ α) (act' : Action σ β) : Prop :=
  ∀ w w', S.Alike w w' → Corresponds R (act w).1 (act' w').1 ∧ S.Alike (act w).2 (act' w').2

namespace InStep

variable {R : α → β → Prop} {Q : γ → δ → Prop}

/-- When one of two actions in step gives a value, the other one gives a related value. -/
theorem exists_ok {act : Action σ α} {act' : Action σ β} (h : InStep S R act act') {w w' left : World σ}
    {a : α} (hrun : act w = (.ok a, left)) (halike : S.Alike w w') :
    ∃ b left', act' w' = (.ok b, left') ∧ R a b ∧ S.Alike left left' := by
  obtain ⟨hout, hleft⟩ := h w w' halike
  cases hrun' : act' w' with
  | mk e left' =>
    rw [hrun, hrun'] at hout hleft
    cases e with
    | ok b => exact ⟨b, left', rfl, hout, hleft⟩
    | error f => exact hout.elim

/-- Actions that do not act on the world. -/
theorem ofExcept {R : α → α → Prop} (hrefl : ∀ a, R a a) (e : Except Fault α) :
    InStep S R (Action.ofExcept e) (Action.ofExcept e) :=
  fun _ _ halike => ⟨.of_eq hrefl rfl, halike⟩

/-- Values that are related. -/
theorem pure {a : α} {b : β} (h : R a b) : InStep S R (Pure.pure a) (Pure.pure b) :=
  fun _ _ halike => ⟨h, halike⟩

/-- Actions that leave a scope run in step in it if their outcomes correspond. -/
theorem of_leaves {act : Action σ α} {act' : Action σ β} (hleaves : Leaves S act)
    (hleaves' : Leaves S act')
    (h : ∀ w w', S.Alike w w' → Corresponds R (act w).1 (act' w').1) : InStep S R act act' :=
  fun w w' halike => ⟨h w w' halike, ((hleaves w).symm.trans halike).trans (hleaves' w')⟩

/-- Actions that run in step in a scope, and leave those of some further keys that are not in it, run in
step in the scope with these keys. -/
theorem withKeys {keys : String → Prop} {act : Action σ α} {act' : Action σ β} (h : InStep S R act act')
    (hleaves : Leaves (.ofKeys fun k => keys k ∧ ¬ S.sees k) act)
    (hleaves' : Leaves (.ofKeys fun k => keys k ∧ ¬ S.sees k) act') :
    InStep (S.withKeys keys) R act act' := by
  intro w w' halike
  obtain ⟨hout, hafter⟩ := h w w' halike.of_withKeys
  refine ⟨hout, hafter.now, hafter.isLost, fun k hk => ?_, hafter.site⟩
  by_cases hseen : S.sees k
  · exact hafter.view k hseen
  · have hkey : keys k ∧ ¬ S.sees k := ⟨hk.resolve_left hseen, hseen⟩
    rw [(hleaves w).now, (hleaves w).view k hkey, ← halike.view k hk, ← halike.now]
    exact (hleaves' w').view k hkey

/-- Related values may be related in a weaker way. -/
theorem mono {R' : α → β → Prop} {act : Action σ α} {act' : Action σ β} (h : InStep S R act act')
    (himp : ∀ a b, R a b → R' a b) : InStep S R' act act' := by
  intro w w' halike
  obtain ⟨hout, hafter⟩ := h w w' halike
  refine ⟨?_, hafter⟩
  cases hrun : (act w).1 <;> cases hrun' : (act' w').1 <;> rw [hrun, hrun'] at hout
  · exact hout
  · exact hout.elim
  · exact hout.elim
  · exact himp _ _ hout

/-- One action after another. -/
theorem bind {first : Action σ α} {first' : Action σ β} {next : α → Action σ γ}
    {next' : β → Action σ δ} (hfirst : InStep S R first first')
    (hnext : ∀ a b, R a b → InStep S Q (next a) (next' b)) :
    InStep S Q (first >>= next) (first' >>= next') := by
  intro w w' halike
  obtain ⟨hout, hleft⟩ := hfirst w w' halike
  cases hrun : first w with
  | mk e left =>
    cases hrun' : first' w' with
    | mk e' left' =>
      rw [hrun, hrun'] at hout hleft
      cases e with
      | ok a =>
        cases e' with
        | ok b =>
          rw [bind_of_ok hrun, bind_of_ok hrun']
          exact hnext a b hout left left' hleft
        | error g => exact hout.elim
      | error f =>
        cases e' with
        | ok b => exact hout.elim
        | error g =>
          rw [bind_of_error hrun, bind_of_error hrun']
          exact ⟨hout, hleft⟩

/-- Actions whose outcomes are values. -/
theorem outcome {act : Action σ α} {act' : Action σ β} (h : InStep S R act act') :
    InStep S (Corresponds R) act.outcome act'.outcome := by
  intro w w' halike
  obtain ⟨hout, hleft⟩ := h w w' halike
  cases hrun : act w with
  | mk e left =>
    cases hrun' : act' w' with
    | mk e' left' =>
      rw [hrun, hrun'] at hout hleft
      simp only [Action.outcome, hrun, hrun']
      cases e with
      | ok a =>
        cases e' with
        | ok b => exact ⟨hout, hleft⟩
        | error g => exact hout.elim
      | error f =>
        cases e' with
        | ok b => exact hout.elim
        | error g =>
          obtain rfl : f = g := hout
          dsimp only
          split
          · exact ⟨rfl, hleft⟩
          · exact ⟨rfl, hleft⟩

/-- An action after whose ordinary faults another one takes over. -/
theorem recover {act : Action σ α} {act' : Action σ β} {handler : Fault → Action σ α}
    {handler' : Fault → Action σ β} (h : InStep S R act act')
    (hhandler : ∀ f, InStep S R (handler f) (handler' f)) :
    InStep S R (act.recover handler) (act'.recover handler') := by
  refine h.outcome.bind fun e e' hended => ?_
  cases e with
  | ok a =>
    cases e' with
    | ok b => exact .pure hended
    | error g => exact hended.elim
  | error f =>
    cases e' with
    | ok b => exact hended.elim
    | error g =>
      obtain rfl : f = g := hended
      exact hhandler f

/-- One action after another, where yet another one takes over after an ordinary fault. -/
theorem recover_bind {first : Action σ α} {first' : Action σ β} {next : α → Action σ γ}
    {next' : β → Action σ δ} {handler : Fault → Action σ γ} {handler' : Fault → Action σ δ}
    (hfirst : InStep S R first first')
    (hnext : ∀ a b, R a b → InStep S Q ((next a).recover handler) ((next' b).recover handler'))
    (hhandler : ∀ f, InStep S Q (handler f) (handler' f)) :
    InStep S Q ((first >>= next).recover handler) ((first' >>= next').recover handler') := by
  intro w w' halike
  obtain ⟨hout, hleft⟩ := hfirst w w' halike
  cases hrun : first w with
  | mk e left =>
    cases hrun' : first' w' with
    | mk e' left' =>
      rw [hrun, hrun'] at hout hleft
      cases e with
      | ok a =>
        cases e' with
        | ok b =>
          rw [recover_congr (bind_of_ok hrun), recover_congr (bind_of_ok hrun')]
          exact hnext a b hout left left' hleft
        | error g => exact hout.elim
      | error f =>
        cases e' with
        | ok b => exact hout.elim
        | error g =>
          obtain rfl : f = g := hout
          cases hinterrupt : f.isInterrupt with
          | true =>
            rw [recover_of_interrupt (bind_of_error hrun) hinterrupt,
              recover_of_interrupt (bind_of_error hrun') hinterrupt]
            exact ⟨rfl, hleft⟩
          | false =>
            rw [recover_of_error (bind_of_error hrun) hinterrupt,
              recover_of_error (bind_of_error hrun') hinterrupt]
            exact hhandler f left left' hleft

/-- Actions on the store that come to corresponding outcomes, and to the same live rows in the scope,
from stores that have the same live rows in it. -/
theorem tryStore {key : String} {f : Instant → Store → Except Fault α × Store}
    {f' : Instant → Store → Except Fault β × Store}
    (h : ∀ now s s', (∀ k, S.sees k → s'.view now k = s.view now k) →
      Corresponds R (f now s).1 (f' now s').1 ∧
        ∀ k, S.sees k → (f' now s').2.view now k = (f now s).2.view now k) :
    InStep S R (Action.tryStore key f) (Action.tryStore key f') := by
  intro w w' halike
  unfold Action.tryStore
  rw [halike.isLost, halike.now]
  split
  · exact ⟨rfl, halike⟩
  · obtain ⟨hout, hview⟩ := h w.now w.store w'.store halike.view
    exact ⟨hout, ⟨rfl, rfl, hview, halike.site⟩⟩

end InStep

end Action

end Concierge
