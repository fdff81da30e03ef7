import Concierge.Proofs.Builtin.Scope
import Concierge.Proofs.Executor.Effect
import Concierge.Proofs.Executor.Spares
import Concierge.Site.Sample

/-!
# Budgets of sessions

Each trigger has a budget in each session. Whether a call is limited is told by the settings and by the row
of the budget; a call for another trigger or in another session changes neither, as long as the keys of the
two budgets differ. So the calls for one budget are limited as they would be without those for another one.
-/

namespace Concierge

variable {σ : Type} {keys : String → Prop}

/-! ## Worlds that agree on rows -/

/-- Two worlds, maybe at different instants, have the same live rows of some keys from then on. -/
structure World.Agree (keys : String → Prop) (w v : World σ) : Prop where
  isLost : v.isLost = w.isLost
  view : ∀ k, keys k → ∀ later, w.now ≤ later → v.now ≤ later →
    v.store.view later k = w.store.view later k

namespace World.Agree

variable {w w' v : World σ}

/-- A world agrees with itself. -/
theorem refl (keys : String → Prop) (w : World σ) : w.Agree keys w := ⟨rfl, fun _ _ _ _ _ => rfl⟩

/-- Which world comes first does not matter. -/
theorem symm (h : w.Agree keys v) : v.Agree keys w :=
  ⟨h.isLost.symm, fun k hk later hv hw => (h.view k hk later hw hv).symm⟩

/-- A later world that agrees with the first one. -/
theorem advance (h : w.Agree keys v) (hle : w.now ≤ w'.now) (hagree : w.Agree keys w') :
    w'.Agree keys v where
  isLost := h.isLost.trans hagree.isLost.symm
  view k hk later hw' hv := (h.view k hk later (Nat.le_trans hle hw') hv).trans
    (hagree.view k hk later (Nat.le_trans hle hw') hw').symm

/-- A store that has the same live rows of the keys. -/
theorem withStore (h : w.Agree keys v) {store : Store}
    (hview : ∀ k, keys k → store.view w.now k = w.store.view w.now k) :
    World.Agree keys { w with store } v where
  isLost := h.isLost
  view k hk later hw hv :=
    (h.view k hk later hw hv).trans (Store.view_congr_later hw (hview k hk)).symm

/-- Once both have reached an instant, the worlds cannot be told apart by the rows. -/
theorem alike (h : w.Agree keys v) {now : Instant} (hw : w.now ≤ now) (hv : v.now ≤ now) :
    (Scope.ofKeys keys).Alike { w with now } { v with now } :=
  ⟨rfl, h.isLost, fun k hk => h.view k hk now hw hv, rfl⟩

/-- Worlds that cannot be told apart by the rows agree on them. -/
theorem of_alike (h : (Scope.ofKeys keys).Alike w v) : w.Agree keys v :=
  ⟨h.isLost, fun k hk _ hw _ => Store.view_congr_later hw (h.view k hk)⟩

end World.Agree

/-- A trigger leaves the rows of some keys alone; time may pass while it acts. -/
def Trigger.Avoids (keys : String → Prop) (t : Trigger σ) : Prop :=
  ∀ params c (w : World σ), let left := (t.perform params c w).2
    w.now ≤ left.now ∧ w.Agree keys left

/-- The built-in triggers leave all rows alone. -/
theorem Trigger.avoids_builtin (keys : String → Prop) {sender : EmailAuthor.Sender} {hasShop : Bool}
    {t : Trigger Site} (h : t ∈ builtinTriggers sender hasShop) : t.Avoids keys := by
  intro params c w
  have hleaves : Action.Leaves (.ofKeys keys) (t.perform params c) :=
    leaves_builtin h (fun _ _ _ => rfl) (fun _ _ _ _ => rfl)
  exact ⟨(hleaves w).now.ge, .of_alike (hleaves w)⟩

namespace Executor

variable {x : Executor} {t : Trigger σ} {c : Context} {v : World σ}

/-- After the decision, an execution changes the log and what the trigger changes. -/
theorem keeps_agree_follow (hlog : ¬ keys x.log.key) (ht : t.Avoids keys) (params : Value)
    (admission : Admission) : Keeps (World.Agree keys · v) (x.follow t params c admission) := by
  refine keeps_follow (fun _ _ _ _ => ?_) (fun params _ w hw => ?_) params admission
  · exact keeps_conclude fun _ hw _ _ => hw.withStore fun k hk =>
      (x.log.keptBut_append ..).view_eq k fun heq => hlog (heq ▸ hk)
  · obtain ⟨hle, hagree⟩ := ht params c w
    exact hw.advance hle hagree

/-- An execution changes the budget, the log and what the trigger changes. -/
theorem keeps_agree_execute (hbudget : ¬ keys (Budget.keyOf t.id c.session)) (hlog : ¬ keys x.log.key)
    (ht : t.Avoids keys) (params : Value) : Keeps (World.Agree keys · v) (x.execute t params c) := by
  refine fun w hw => snd_execute (keeps_admission ?_ ?_ w hw) (keeps_agree_follow hlog ht params)
  · exact keeps_isEnabled fun w hw _ => hw.withStore fun k _ =>
      congrFun (w.store.view_get w.now (Settings.keyOf t.id)) k
  · exact keeps_isWithinBudget fun _ _ _ hw _ => hw.withStore fun k hk =>
      (Budget.keptBut_allow ..).view_eq k fun heq => hbudget (heq ▸ hk)

/-! ## One call -/

/-- A call of a trigger at an instant. -/
structure Call (σ : Type) where
  now : Instant
  trigger : Trigger σ
  params : Value
  context : Context

/-- The keys that decide whether the calls for a budget are limited. -/
def decidingKeys (key k : String) : Prop := k = key ∨ ∃ id, k = Settings.keyOf id

/-- The log is not among the keys that decide. -/
theorem not_decidingKeys_log (hlog : x.log.key = "trigger_logs") (id : String) (session : Value) :
    ¬ decidingKeys (Budget.keyOf id session) x.log.key := by
  rintro (heq | ⟨i, heq⟩)
  · exact ne_of_getElem? (Audit.Log.getElem?_key hlog) (Budget.getElem?_keyOf id session)
      (by decide) heq
  · exact ne_of_getElem? (Audit.Log.getElem?_key hlog) (Settings.getElem?_keyOf i) (by decide) heq

namespace Call

variable {call : Call σ} {key : String} {w : World σ}

/-- The world when a call is made. -/
def start (call : Call σ) (w : World σ) : World σ := { w with now := call.now }

/-- A call is made for a trigger in a session. -/
def isFor (id : String) (session : Value) (call : Call σ) : Bool :=
  call.trigger.id = id ∧ call.context.session = session

/-- The key of the budget of a call. -/
def budgetKey (call : Call σ) : String := Budget.keyOf call.trigger.id call.context.session

/-- A call is refused because its budget is used up. -/
def isLimited (x : Executor) (call : Call σ) (w : World σ) : Bool :=
  match (x.admission call.trigger call.context (call.start w)).1 with
  | .ok .limited => true
  | _ => false

/-- The world that a call leaves. -/
def after (x : Executor) (call : Call σ) (w : World σ) : World σ :=
  (x.execute call.trigger call.params call.context (call.start w)).2

/-- The budget of a call for a trigger in a session. -/
theorem budgetKey_of_isFor {id : String} {session : Value} (h : call.isFor id session = true) :
    call.budgetKey = Budget.keyOf id session := by
  obtain ⟨hid, hsession⟩ := of_decide_eq_true h
  rw [budgetKey, hid, hsession]

/-- A limited call ends with the failure that says so. -/
theorem execute_of_isLimited (houtage : x.outage.IsOrdinary) (h : call.isLimited x w = true) :
    (x.execute call.trigger call.params call.context (call.start w)).1 =
      .ok (.failure "rate limit exceeded") := by
  unfold isLimited at h
  cases hrun : x.admission call.trigger call.context (call.start w) with
  | mk decided left =>
    rw [hrun] at h
    obtain rfl : decided = .ok .limited := by
      split at h
      · assumption
      · cases h
    exact Executor.execute_of_limited houtage hrun call.params

/-- What is decided about a call for a budget depends on the keys that decide. -/
theorem inStep_admission_of_key (x : Executor) (hkey : call.budgetKey = key) :
    Action.InStep (.ofKeys (decidingKeys key)) Eq (x.admission call.trigger call.context)
      (x.admission call.trigger call.context) :=
  inStep_admission x rfl rfl (Or.inr ⟨_, rfl⟩) (Or.inl hkey)

/-- From worlds that agree on what decides about it, a call for the budget is limited alike. -/
theorem isLimited_congr (hkey : call.budgetKey = key) (h : w.Agree (decidingKeys key) v)
    (hw : w.now ≤ call.now) (hv : v.now ≤ call.now) :
    call.isLimited x v = call.isLimited x w := by
  have hdecided := (inStep_admission_of_key x hkey _ _ (h.alike hw hv)).1.eq
  unfold isLimited start
  rw [hdecided]

/-- A call for another budget changes nothing of what decides about calls for a budget. -/
theorem agree_after (hlog : ¬ decidingKeys key x.log.key)
    (ht : call.trigger.Avoids (decidingKeys key)) (hkey : call.budgetKey ≠ key)
    (h : w.Agree (decidingKeys key) v) (hw : w.now ≤ call.now) :
    (call.after x w).Agree (decidingKeys key) v := by
  have hbudget : ¬ decidingKeys key call.budgetKey := by
    rintro (heq | ⟨i, heq⟩)
    · exact hkey heq
    · exact ne_of_getElem? (Budget.getElem?_keyOf _ _) (Settings.getElem?_keyOf i) (by decide) heq
  refine keeps_agree_execute hbudget hlog ht call.params (call.start w) ?_
  exact h.advance hw ⟨rfl, fun _ _ _ _ _ => rfl⟩

/-- From worlds that agree on what decides about calls for a budget, a call comes to such worlds. -/
theorem agree_after_both (hlog : ¬ decidingKeys key x.log.key)
    (ht : call.trigger.Avoids (decidingKeys key)) (h : w.Agree (decidingKeys key) v)
    (hw : w.now ≤ call.now) (hv : v.now ≤ call.now) :
    (call.after x w).Agree (decidingKeys key) (call.after x v) := by
  by_cases hkey : call.budgetKey = key
  · have hadmission := World.Agree.of_alike (inStep_admission_of_key x hkey _ _ (h.alike hw hv)).2
    have hafter : (call.after x w).Agree (decidingKeys key)
        (x.admission call.trigger call.context (call.start v)).2 :=
      snd_execute (I := (World.Agree _ · _)) hadmission (keeps_agree_follow hlog ht call.params)
    exact (snd_execute (I := (World.Agree _ · _)) hafter.symm
      (keeps_agree_follow hlog ht call.params)).symm
  · exact (agree_after hlog ht hkey (agree_after hlog ht hkey h hw).symm hv).symm

end Call

/-! ## Runs of calls -/

variable {calls : List (Call σ)} {w : World σ}

/-- The world after some calls. -/
def afterCalls (x : Executor) (calls : List (Call σ)) (w : World σ) : World σ :=
  calls.foldl (fun w call => call.after x w) w

/-- For each call for a trigger in a session, whether it is limited. -/
def limitedCalls (x : Executor) (id : String) (session : Value) : List (Call σ) → World σ → List Bool
  | [], _ => []
  | call :: calls, w =>
    let rest := limitedCalls x id session calls (call.after x w)
    if call.isFor id session then call.isLimited x w :: rest else rest

/-- Every call is made after the one before it has ended. -/
def InTurn (x : Executor) : List (Call σ) → World σ → Prop
  | [], _ => True
  | call :: calls, w => w.now ≤ call.now ∧ InTurn x calls (call.after x w)

instance decidableInTurn (x : Executor) :
    (calls : List (Call σ)) → (w : World σ) → Decidable (InTurn x calls w)
  | [], _ => inferInstanceAs (Decidable True)
  | call :: calls, w =>
    have := decidableInTurn x calls (call.after x w)
    inferInstanceAs (Decidable (w.now ≤ call.now ∧ InTurn x calls (call.after x w)))

/-- The calls of a run without those for a trigger in a session. -/
def callsBut (id : String) (session : Value) (calls : List (Call σ)) : List (Call σ) :=
  calls.filter fun call => !call.isFor id session

variable {id id' : String} {session session' : Value}

/-- From worlds that agree on what decides about the calls for a budget, a run of calls and the run without
the calls for another budget limit them alike, and come to such worlds. -/
theorem agree_callsBut (hkeys : Budget.keyOf id session ≠ Budget.keyOf id' session')
    (hlog : ¬ decidingKeys (Budget.keyOf id session) x.log.key)
    (havoid : ∀ call ∈ calls, call.trigger.Avoids (decidingKeys (Budget.keyOf id session)))
    (hagree : w.Agree (decidingKeys (Budget.keyOf id session)) v) (hw : InTurn x calls w)
    (hv : InTurn x (callsBut id' session' calls) v) :
    limitedCalls x id session (callsBut id' session' calls) v = limitedCalls x id session calls w ∧
      (afterCalls x calls w).Agree (decidingKeys (Budget.keyOf id session))
        (afterCalls x (callsBut id' session' calls) v) := by
  induction calls generalizing w v with
  | nil => exact ⟨rfl, hagree⟩
  | cons call calls ih =>
    obtain ⟨ht, hrest⟩ := List.forall_mem_cons.mp havoid
    obtain ⟨hnow, hw⟩ := hw
    unfold callsBut at hv ⊢
    cases hremoved : call.isFor id' session' with
    | true =>
      -- The call is missing in the second run; it is not one of those that are looked at.
      have hkey : call.budgetKey ≠ Budget.keyOf id session :=
        fun heq => hkeys (heq.symm.trans (Call.budgetKey_of_isFor hremoved))
      have hother : call.isFor id session = false :=
        Bool.eq_false_iff.mpr fun h => hkey (Call.budgetKey_of_isFor h)
      rw [List.filter_cons_of_neg (by simp [hremoved])] at hv ⊢
      obtain ⟨hlimited, hafter⟩ := ih hrest (call.agree_after hlog ht hkey hagree hnow) hw hv
      refine ⟨hlimited.trans ?_, hafter⟩
      simp only [limitedCalls, hother, Bool.false_eq_true, if_false]
    | false =>
      rw [List.filter_cons_of_pos (by simp [hremoved])] at hv ⊢
      obtain ⟨hnow', hv⟩ := hv
      obtain ⟨hlimited, hafter⟩ := ih hrest (call.agree_after_both hlog ht hagree hnow hnow') hw hv
      refine ⟨?_, hafter⟩
      cases howned : call.isFor id session with
      | true =>
        have hcall := Call.isLimited_congr (x := x) (Call.budgetKey_of_isFor howned) hagree hnow hnow'
        simp only [limitedCalls, howned, if_true, hcall]
        exact congrArg _ hlimited
      | false =>
        simp only [limitedCalls, howned, Bool.false_eq_true, if_false]
        exact hlimited

/-- Removing all calls for one budget from a run changes neither which calls for another budget are limited
nor its row, if the keys of the two budgets differ and the triggers leave budgets and settings alone. -/
theorem limitedCalls_callsBut (hkeys : Budget.keyOf id session ≠ Budget.keyOf id' session')
    (hlog : x.log.key = "trigger_logs")
    (havoid : ∀ call ∈ calls, call.trigger.Avoids (decidingKeys (Budget.keyOf id session)))
    (hturn : InTurn x calls w) (hturn' : InTurn x (callsBut id' session' calls) w) :
    limitedCalls x id session (callsBut id' session' calls) w = limitedCalls x id session calls w ∧
      ∀ later, (afterCalls x calls w).now ≤ later →
        (afterCalls x (callsBut id' session' calls) w).now ≤ later →
        (afterCalls x (callsBut id' session' calls) w).store.view later (Budget.keyOf id session) =
          (afterCalls x calls w).store.view later (Budget.keyOf id session) := by
  obtain ⟨hlimited, hafter⟩ := agree_callsBut hkeys (not_decidingKeys_log hlog id session) havoid
    (.refl _ w) hturn hturn'
  exact ⟨hlimited, fun later => hafter.view _ (.inl rfl) later⟩

/-- A call that adds a mug to the cart. -/
def cartCall (now : Instant) (session : String) : Call Site where
  now
  trigger := AddToCart.trigger
  params := .dict [("product_id", .text "12"), ("quantity", .text "1")]
  context := { session := .text session, timestamp := Timestamp.universal 0 }

/-- Where one call a minute is allowed, the second one in a session is limited, whether or not there has been
one in another session. -/
theorem limitedCalls_callsBut_of_cart :
    let x : Executor := { rule := ⟨.int 60, .int 1⟩ }
    let calls := [cartCall 0 "s", cartCall 1 "t", cartCall 2 "s"]
    let w : World Site := ⟨0, {}, Site.sample, false⟩
    limitedCalls x "add_to_cart" (.text "s") calls w = [false, true] ∧
      limitedCalls x "add_to_cart" (.text "s") (callsBut "add_to_cart" (.text "t") calls) w =
        [false, true] := by
  intro x calls w
  have hcart : AddToCart.trigger ∈ builtinTriggers {} true := by simp [builtinTriggers]
  have havoid : ∀ call ∈ calls,
      call.trigger.Avoids (decidingKeys (Budget.keyOf "add_to_cart" (.text "s"))) := by
    intro call hcall
    have htrigger : call.trigger = AddToCart.trigger := by
      simp only [calls, List.mem_cons, List.not_mem_nil, or_false] at hcall
      rcases hcall with rfl | rfl | rfl <;> rfl
    rw [htrigger]
    exact Trigger.avoids_builtin _ hcart
  have hkeys : Budget.keyOf "add_to_cart" (.text "s") ≠ Budget.keyOf "add_to_cart" (.text "t") := by
    intro heq
    have hpairs := (Budget.keyOf_text_inj (by decide) (by decide) (by decide) (by decide)).mp heq
    exact absurd hpairs.2 (by decide)
  have hlimited : limitedCalls x "add_to_cart" (.text "s") calls w = [false, true] := by
    decide +kernel
  have hturn : InTurn x calls w ∧ InTurn x (callsBut "add_to_cart" (.text "t") calls) w := by
    decide +kernel
  obtain ⟨hsame, -⟩ := limitedCalls_callsBut hkeys rfl havoid hturn.1 hturn.2
  exact ⟨hlimited, hsame.trans hlimited⟩

/-- A call of a trigger that does nothing and may be called once a minute. -/
def idleCall (now : Instant) (id session : String) : Call Unit where
  now
  trigger := .idle id 1
  params := .dict [("target", .text "x")]
  context := { session := .text session, timestamp := Timestamp.universal 0 }

/-- With colons in identifiers and sessions two budgets can have one key. The first call of a trigger in a
session is limited then, because another trigger has been called in another session. -/
theorem first_call_limited_by_other :
    let calls := [idleCall 0 "a:b" "c", idleCall 1 "a" "b:c"]
    let w : World Unit := ⟨0, {}, (), false⟩
    let counted (calls : List (Call Unit)) :=
      Budget.hits ((afterCalls {} calls w).store.valueAt 1 (Budget.keyOf "a" (.text "b:c")))
    limitedCalls {} "a" (.text "b:c") calls w = [true] ∧
      limitedCalls {} "a" (.text "b:c") (callsBut "a:b" (.text "c") calls) w = [false] ∧
      counted (calls.take 1) = .ok 1 ∧ counted (callsBut "a:b" (.text "c") (calls.take 1)) = .ok 0 := by
  decide +kernel

end Executor

end Concierge
