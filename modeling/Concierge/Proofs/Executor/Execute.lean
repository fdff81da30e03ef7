import Concierge.Proofs.Executor.Readings

/-!
# One execution of a trigger

An execution passes its checks in a fixed order. The first check that fails decides the result, and the
trigger is not called. When none fails the trigger is called once with the cleaned arguments, and what
came of that is the result. The budget and the log change just as the check that decided says.
-/

namespace Concierge

/-! ## Refusals -/

/-- The check that an attempt fails at. -/
inductive Refusal where
  | disabled
  | denied
  | limited
  | missing (name : String)
  deriving DecidableEq

namespace Refusal

/-- The message of the failed result. -/
def message (d : Definition) : Refusal → String
  | disabled => d.name ++ " is disabled"
  | denied => "permission denied"
  | limited => "rate limit exceeded"
  | missing name => name ++ " is missing"

/-- The failed result. -/
def result (d : Definition) (refusal : Refusal) : Result := .failure (refusal.message d)

/-- How the log calls the attempt, if it records it. -/
def outcome? : Refusal → Option Audit.Outcome
  | disabled => none
  | denied => some .denied
  | limited => some .rateLimited
  | missing _ => some .invalid

/-- The arguments that the log records, of those that were cleaned. -/
def recordedParams (cleaned : Params) : Refusal → Params
  | missing _ => cleaned
  | _ => []

/-- The budget has been counted before the check fails. -/
def isCounted : Refusal → Bool
  | missing _ => true
  | _ => false

end Refusal

namespace Trigger

variable {σ : Type}

/-- The rule of a trigger lets a context fire it, by an answer that counts as true. -/
def admits (t : Trigger σ) (c : Context) : Bool :=
  match t.permits c with
  | .ok v => v.truthy
  | .error _ => false

end Trigger

namespace Executor

variable {σ : Type} {x : Executor} {t : Trigger σ} {c : Context} {w : World σ}
  {params cleaned : Params}

/-- The checks of an attempt in their order, each with the refusal that it may end in. -/
def Readings.checks (r : Readings x t.definition c w) (params : Params) : List (Refusal × Bool) :=
  [(.disabled, !r.isOn), (.denied, !t.admits c), (.limited, r.isUsedUp)] ++
    t.definition.required.map fun name =>
      (.missing name, ((Dict.find? name params).getD .null).isBlank)

/-- The first check that fails. -/
def Readings.refusal? (r : Readings x t.definition c w) (params : Params) : Option Refusal :=
  ((r.checks params).find? (·.2)).map (·.1)

/-- What a call of a trigger comes to: a result, and how the log calls it. An answer that stands for no
result is an error. -/
def conclusion (x : Executor) : Except Fault Answer → Except NumberError (Result × Audit.Outcome)
  | .error f => .ok (x.faulty f, .error)
  | .ok answer => answer.normalized.map fun r => (r, if r.success then .executed else .failed)

/-- The result of an execution that ends with a call of a trigger. -/
def resultOf (x : Executor) (ended : Except Fault Answer) : Result :=
  match x.conclusion ended with
  | .ok (result, _) => result
  | .error e => x.faulty (.number e)

/-- A rule without interrupts permits what it admits. -/
theorem isPermitted_eq (hpermits : ∀ f, t.permits c = .error f → f.isInterrupt = false) :
    isPermitted t c = .ok (t.admits c) := by
  unfold isPermitted Trigger.admits
  cases hanswer : t.permits c with
  | ok v => rfl
  | error f => simp only [hpermits f hanswer, Bool.false_eq_true, if_false]

/-- An execution gives what the attempt gives when that ends with no fault. -/
theorem execute_of_attempt {params : Value} {result : Result} {after : World σ}
    (h : x.attempt t params c w = (.ok result, after)) :
    x.execute t params c w = (.ok result, after) := Action.recover_of_ok h

namespace Readings

variable (r : Readings x t.definition c w)

/-- An attempt on a trigger that is switched off ends there and changes no live row. -/
theorem attempt_of_off (hoff : r.isOn = false) (params : Value) :
    ∃ store, x.attempt t params c w = (.ok (Refusal.disabled.result t.definition), { w with store }) ∧
      store.view w.now = w.store.view w.now := by
  obtain ⟨store, henabled, hstore⟩ := r.isEnabled_eq
  refine ⟨store, ?_, hstore⟩
  rw [attempt, bind_of_ok henabled, hoff]
  rfl

/-- An attempt on a trigger that is switched on goes on to the rule of the trigger. -/
theorem attempt_of_on (hon : r.isOn = true)
    (hpermits : ∀ f, t.permits c = .error f → f.isInterrupt = false) (params : Value) :
    ∃ store, store.view w.now = w.store.view w.now ∧ x.attempt t params c w =
      (if !t.admits c then
        x.conclude t.definition c [] (Refusal.denied.result t.definition) .denied
      else do
        if !(← x.isWithinBudget t.definition c) then
          return ← x.conclude t.definition c [] (Refusal.limited.result t.definition) .rateLimited
        let params ← Action.ofExcept
          ((ParamCheck.arguments t.definition.required params).mapError Fault.shape)
        x.checkAndFire t params c) { w with store } := by
  obtain ⟨store, henabled, hstore⟩ := r.isEnabled_eq
  have hpermitted : (Action.ofExcept (isPermitted t c) : Action σ Bool) { w with store } =
      (.ok (t.admits c), { w with store }) := by
    rw [isPermitted_eq hpermits]
    rfl
  refine ⟨store, hstore, ?_⟩
  rw [attempt, bind_of_ok henabled, hon]
  exact bind_of_ok hpermitted

/-- While the live rows are those of the world, an attempt is concluded with an entry in its log. -/
theorem conclude_of_view {store : Store} (hstore : store.view w.now = w.store.view w.now)
    (params : Params) (result : Result) (outcome : Audit.Outcome) :
    ∃ store', x.conclude t.definition c params result outcome { w with store } =
        (.ok result, { w with store := store' }) ∧
      x.HasLogged w r.items (.record t.definition c params result outcome.word
        (Timestamp.universal w.now)) store' := by
  have hitems : x.log.ofStored (store.valueAt w.now x.log.key) = .ok r.items := by
    rw [Store.valueAt_congr hstore]
    exact r.items_eq
  obtain ⟨store', hconclude, hlogged⟩ := conclude_eq (w := { w with store }) r.isPresent
    r.noLogOutage hitems r.lasts t.definition c params result outcome
  exact ⟨store', hconclude, hlogged.of_view hstore⟩

/-- An attempt that the rule of the trigger denies is recorded without arguments. -/
theorem attempt_of_denied (hon : r.isOn = true)
    (hpermits : ∀ f, t.permits c = .error f → f.isInterrupt = false) (hdenied : t.admits c = false)
    (params : Value) :
    ∃ store, x.attempt t params c w = (.ok (Refusal.denied.result t.definition), { w with store }) ∧
      x.HasLogged w r.items (.record t.definition c [] (Refusal.denied.result t.definition)
        Audit.Outcome.denied.word (Timestamp.universal w.now)) store := by
  obtain ⟨store, hstore, hattempt⟩ := r.attempt_of_on hon hpermits params
  rw [hattempt, hdenied]
  exact r.conclude_of_view hstore [] _ .denied

/-- An attempt beyond the budget is recorded without arguments. -/
theorem attempt_of_usedUp (hon : r.isOn = true)
    (hpermits : ∀ f, t.permits c = .error f → f.isInterrupt = false) (hadmits : t.admits c = true)
    (husedUp : r.isUsedUp = true) (params : Value) :
    ∃ store, x.attempt t params c w = (.ok (Refusal.limited.result t.definition), { w with store }) ∧
      x.HasLogged w r.items (.record t.definition c [] (Refusal.limited.result t.definition)
        Audit.Outcome.rateLimited.word (Timestamp.universal w.now)) store := by
  obtain ⟨store, hstore, hattempt⟩ := r.attempt_of_on hon hpermits params
  obtain ⟨store', hbudget, hstore'⟩ := r.isWithinBudget_of_isUsedUp hstore husedUp
  rw [hattempt, hadmits, Bool.not_true, if_neg Bool.false_ne_true, bind_of_ok hbudget]
  exact r.conclude_of_view hstore' [] _ .rateLimited

/-- An attempt that is admitted within the budget is counted, and goes on to its arguments. -/
theorem attempt_of_left (hon : r.isOn = true)
    (hpermits : ∀ f, t.permits c = .error f → f.isInterrupt = false) (hadmits : t.admits c = true)
    (hleft : r.isUsedUp = false) (params : Params) :
    ∃ store, r.HasCounted store ∧
      x.attempt t (.dict params) c w = x.checkAndFire t params c { w with store } := by
  obtain ⟨store, hstore, hattempt⟩ := r.attempt_of_on hon hpermits (.dict params)
  obtain ⟨store', hbudget, hcounted⟩ := r.isWithinBudget_of_left hstore hleft
  have hparams : (Action.ofExcept ((ParamCheck.arguments t.definition.required
      (.dict params)).mapError Fault.shape) : Action σ Params) { w with store := store' } =
        (.ok params, { w with store := store' }) := by
    unfold ParamCheck.arguments
    split <;> rfl
  refine ⟨store', hcounted, ?_⟩
  rw [hattempt, hadmits, Bool.not_true, if_neg Bool.false_ne_true, bind_of_ok hbudget]
  exact bind_of_ok hparams

/-- An attempt without a required argument is recorded with the arguments that it has. -/
theorem checkAndFire_of_missing {store : Store} (hcounted : r.HasCounted store) {name : String}
    (hmissing : ParamCheck.firstMissing t.definition.required params = some name)
    (hcleaned : Clean.arguments params = .ok cleaned) :
    ∃ store', x.checkAndFire t params c { w with store } =
        (.ok ((Refusal.missing name).result t.definition), { w with store := store' }) ∧
      x.HasLogged { w with store } r.items (.record t.definition c cleaned
        ((Refusal.missing name).result t.definition) Audit.Outcome.invalid.word
        (Timestamp.universal w.now)) store' := by
  have hclean : (Executor.cleaned params : Action σ Params) { w with store } =
      (.ok cleaned, { w with store }) := by
    rw [Executor.cleaned, hcleaned]
    rfl
  rw [checkAndFire, hmissing]
  show ∃ store', (Executor.cleaned params >>= _) _ = _ ∧ _
  rw [bind_of_ok hclean]
  exact conclude_eq (w := { w with store }) r.isPresent r.noLogOutage hcounted.items_eq r.lasts
    t.definition c cleaned _ .invalid

end Readings

/-- With all required arguments the trigger is called with the cleaned ones. -/
theorem checkAndFire_of_complete
    (hcomplete : ParamCheck.firstMissing t.definition.required params = none)
    (hcleaned : Clean.arguments params = .ok cleaned) :
    x.checkAndFire t params c w = x.fire t cleaned c w := by
  have hclean : (Executor.cleaned params : Action σ Params) w = (.ok cleaned, w) := by
    rw [Executor.cleaned, hcleaned]
    rfl
  rw [checkAndFire, hcomplete]
  exact bind_of_ok hclean

/-- Records what a call of a trigger comes to. -/
def settle (x : Executor) (d : Definition) (c : Context) (params : Params)
    (ended : Except Fault Answer) : Action σ Result :=
  Action.ofExcept ((x.conclusion ended).mapError Fault.number) >>= fun concluded =>
    x.conclude d c params concluded.1 concluded.2

/-- A trigger acts, and what that comes to is recorded. -/
theorem fire_eq_bind : x.fire t cleaned c =
    (t.perform cleaned c).outcome >>= x.settle t.definition c cleaned := by
  unfold fire
  congr 1
  funext ended
  cases ended with
  | error f => rfl
  | ok answer =>
    dsimp only [settle]
    rw [conclusion]
    cases answer.normalized <;> rfl

/-- What comes to a result is concluded with it. -/
theorem settle_of_ok {d : Definition} {ended : Except Fault Answer} {result : Result}
    {word : Audit.Outcome} (hended : x.conclusion ended = .ok (result, word)) :
    (x.settle d c params ended : Action σ Result) = x.conclude d c params result word := by
  rw [settle, hended]
  rfl

/-- What comes to no result is a fault. -/
theorem settle_of_error {d : Definition} {ended : Except Fault Answer} {e : NumberError}
    (hended : x.conclusion ended = .error e) :
    (x.settle d c params ended : Action σ Result) = throw (.number e) := by
  rw [settle, hended]
  rfl

/-- A call of a trigger that comes to a result is recorded in the world that it leaves. -/
theorem fire_of_ok {left : World σ} {ended : Except Fault Answer} {items : List Value}
    (hlog : x.outage.log = none) (hperform : t.perform cleaned c w = (ended, left))
    (hordinary : ∀ f, ended = .error f → f.isInterrupt = false) (hpresent : left.isLost = false)
    (hitems : x.log.ofStored (left.store.valueAt left.now x.log.key) = .ok items)
    (hlasts : ∃ expiry, Store.expiryFor left.now none (.int x.log.lifetime) false = .ok expiry)
    {result : Result} {word : Audit.Outcome} (hended : x.conclusion ended = .ok (result, word)) :
    ∃ store, x.fire t cleaned c w = (.ok result, { left with store }) ∧
      x.HasLogged left items (.record t.definition c cleaned result word.word
        (Timestamp.universal left.now)) store := by
  rw [fire_eq_bind, bind_of_ok (Action.outcome_of_ordinary hperform hordinary), settle_of_ok hended]
  exact conclude_eq hpresent hlog hitems hlasts t.definition c cleaned result word

/-- A call of a trigger that comes to no result ends with that fault in the world that it leaves. -/
theorem fire_of_error {left : World σ} {ended : Except Fault Answer}
    (hperform : t.perform cleaned c w = (ended, left))
    (hordinary : ∀ f, ended = .error f → f.isInterrupt = false) {e : NumberError}
    (hended : x.conclusion ended = .error e) : x.fire t cleaned c w = (.error (.number e), left) := by
  rw [fire_eq_bind, bind_of_ok (Action.outcome_of_ordinary hperform hordinary), settle_of_error hended]
  rfl

/-! ## The whole execution -/

namespace Readings

variable (r : Readings x t.definition c w)

/-- The first check that fails, one check after another. -/
theorem refusal?_eq (params : Params) : r.refusal? params =
    if r.isOn = false then some .disabled
    else if t.admits c = false then some .denied
    else if r.isUsedUp = true then some .limited
    else (ParamCheck.firstMissing t.definition.required params).map .missing := by
  have hmissing : ((t.definition.required.map fun name => (Refusal.missing name,
      ((Dict.find? name params).getD .null).isBlank)).find? (·.2)).map (·.1) =
        (ParamCheck.firstMissing t.definition.required params).map .missing := by
    rw [List.find?_map, Option.map_map]
    rfl
  unfold refusal? checks
  cases r.isOn
  · rfl
  · cases t.admits c
    · rfl
    · cases r.isUsedUp
      · exact hmissing
      · rfl

/-- No check fails when the trigger is switched on and admits the context, the budget is not used up,
and all required arguments are there. -/
theorem refusal?_eq_none_iff {params : Params} : r.refusal? params = none ↔
    r.isOn = true ∧ t.admits c = true ∧ r.isUsedUp = false ∧
      ParamCheck.firstMissing t.definition.required params = none := by
  rw [refusal?_eq]
  cases r.isOn <;> cases t.admits c <;> cases r.isUsedUp <;> simp

/-- An execution whose first failing check is known ends in its result; the budget has been counted if
the check comes behind it, and the log has a new entry unless the trigger is switched off. -/
theorem execute_of_refusal (hpermits : ∀ f, t.permits c = .error f → f.isInterrupt = false)
    (hcleaned : Clean.arguments params = .ok cleaned) {refusal : Refusal}
    (hrefusal : r.refusal? params = some refusal) :
    ∃ counted store, x.execute t (.dict params) c w =
        (.ok (refusal.result t.definition), { w with store }) ∧
      (if refusal.isCounted then r.HasCounted counted
        else counted.view w.now = w.store.view w.now) ∧
      match refusal.outcome? with
      | none => store.view w.now = counted.view w.now
      | some outcome => x.HasLogged { w with store := counted } r.items
          (.record t.definition c (refusal.recordedParams cleaned) (refusal.result t.definition)
            outcome.word (Timestamp.universal w.now)) store := by
  rw [refusal?_eq] at hrefusal
  split at hrefusal
  · rename_i hoff
    cases hrefusal
    obtain ⟨store, hattempt, hview⟩ := r.attempt_of_off hoff (.dict params)
    exact ⟨w.store, store, execute_of_attempt hattempt, rfl, hview⟩
  · rename_i hon
    rw [Bool.not_eq_false] at hon
    split at hrefusal
    · rename_i hdenied
      cases hrefusal
      obtain ⟨store, hattempt, hlogged⟩ := r.attempt_of_denied hon hpermits hdenied (.dict params)
      exact ⟨w.store, store, execute_of_attempt hattempt, rfl, hlogged⟩
    · rename_i hadmits
      rw [Bool.not_eq_false] at hadmits
      split at hrefusal
      · rename_i husedUp
        cases hrefusal
        obtain ⟨store, hattempt, hlogged⟩ :=
          r.attempt_of_usedUp hon hpermits hadmits husedUp (.dict params)
        exact ⟨w.store, store, execute_of_attempt hattempt, rfl, hlogged⟩
      · rename_i hleft
        rw [Bool.not_eq_true] at hleft
        obtain ⟨name, hmissing, rfl⟩ := Option.map_eq_some_iff.mp hrefusal
        obtain ⟨counted, hcounted, hattempt⟩ := r.attempt_of_left hon hpermits hadmits hleft params
        obtain ⟨store, hchecked, hlogged⟩ := r.checkAndFire_of_missing hcounted hmissing hcleaned
        exact ⟨counted, store, execute_of_attempt (hattempt.trans hchecked), hcounted, hlogged⟩

/-- An execution that no check refuses counts the budget and calls the trigger with the cleaned
arguments; it ends in what came of the call, and the log of the world that the call leaves has a new
entry, unless the call is not recorded. -/
theorem execute_of_complete (hpermits : ∀ f, t.permits c = .error f → f.isInterrupt = false)
    (hcleaned : Clean.arguments params = .ok cleaned) (hcomplete : r.refusal? params = none) :
    ∃ counted, r.HasCounted counted ∧
      ∀ outcome left items, t.perform cleaned c { w with store := counted } = (outcome, left) →
        (∀ f, outcome = .error f → f.isInterrupt = false) → left.isLost = false →
        x.log.ofStored (left.store.valueAt left.now x.log.key) = .ok items →
        (∃ expiry, Store.expiryFor left.now none (.int x.log.lifetime) false = .ok expiry) →
        ∃ store, x.execute t (.dict params) c w = (.ok (x.resultOf outcome), { left with store }) ∧
          match x.conclusion outcome with
          | .error _ => store = left.store
          | .ok (result, word) => x.HasLogged left items (.record t.definition c cleaned result word.word
              (Timestamp.universal left.now)) store := by
  obtain ⟨hon, hadmits, hleft, hpresent⟩ := r.refusal?_eq_none_iff.mp hcomplete
  obtain ⟨counted, hcounted, hattempt⟩ := r.attempt_of_left hon hpermits hadmits hleft params
  refine ⟨counted, hcounted, ?_⟩
  intro outcome left items hperform hordinary hkept hitems hlasts
  rw [checkAndFire_of_complete hpresent hcleaned] at hattempt
  unfold resultOf
  cases hended : x.conclusion outcome with
  | ok concluded =>
    obtain ⟨result, word⟩ := concluded
    obtain ⟨store, hfire, hlogged⟩ :=
      fire_of_ok r.noLogOutage hperform hordinary hkept hitems hlasts hended
    exact ⟨store, execute_of_attempt (hattempt.trans hfire), hlogged⟩
  | error e =>
    exact ⟨left.store, Action.recover_of_error
      (hattempt.trans (fire_of_error hperform hordinary hended)) rfl, rfl⟩

end Readings

end Executor

end Concierge
