import Concierge.Proofs.Clean.Argument
import Concierge.Proofs.Executor.Calls

/-!
# The trail of attempts

Every attempt on a trigger that is switched on leaves one entry in the log, which tells the trigger and
the result, with one exception: an attempt that passes the checks of permission and budget, and whose
arguments cannot be cleaned, is counted by the budget and leaves no entry. A number of too many digits
and a link with a malformed authority are such arguments. That the log accepts the entry means here that the
arguments and the context can be written.
-/

namespace Concierge

/-- An error of cleaning is no interrupt. -/
theorem Fault.isInterrupt_ofClean (e : CleanError) : (Fault.ofClean e).isInterrupt = false := by
  cases e <;> rfl

/-- What an entry tells of its context can be written. -/
def Context.isShort (c : Context) : Bool := c.userId.isShort && c.session.isShort && c.address.isShort

namespace Executor

variable {σ : Type} {x : Executor} {t : Trigger σ} {c : Context} {w : World σ} {params : Params}

/-- The entry of an attempt can be written if what it tells of the context and the arguments can be. -/
theorem isShort_record (hcontext : c.isShort = true) (hparams : (Value.dict params).isShort = true)
    (d : Definition) (r : Result) (outcome : String) (timestamp : Timestamp) :
    (Audit.Entry.record d c params r outcome timestamp).isShort = true := by
  simp only [Context.isShort, Bool.and_eq_true] at hcontext
  obtain ⟨⟨huser, hsession⟩, haddress⟩ := hcontext
  rw [Audit.Entry.isShort, Value.isShort_dict_iff]
  simp only [Audit.Entry.toDict, Audit.Entry.record, Audit.Entry.ofParts, List.forall_mem_cons]
  exact ⟨rfl, rfl, huser, hsession, haddress, rfl, hparams, rfl, rfl, rfl, List.forall_mem_nil _⟩

/-- The log of a world can be read and written. -/
structure CanLog (x : Executor) (w : World σ) : Prop where
  isPresent : w.isLost = false
  isReadable : ∃ items, x.log.ofStored (w.store.valueAt w.now x.log.key) = .ok items
  lasts : ∃ expiry, Store.expiryFor w.now none (.int x.log.lifetime) false = .ok expiry

/-- A call of a trigger ends without an interrupt, with an answer that stands for a result if it gives one, and
leaves a log that can be read and written if it has found one. -/
def KeepsLog (x : Executor) (t : Trigger σ) (c : Context) : Prop :=
  ∀ (cleaned : Params) (before left : World σ) (outcome : Except Fault Answer), x.CanLog before →
    t.perform cleaned c before = (outcome, left) →
      (∀ f, outcome = .error f → f.isInterrupt = false) ∧
        (∀ answer, outcome = .ok answer → ∃ result, answer.normalized = .ok result) ∧ x.CanLog left

/-- Between two worlds one entry is appended to the log, with the identifier of a trigger and with the
success and the message of a result. -/
def Records (x : Executor) (d : Definition) (result : Result) (before after : World σ) : Prop :=
  ∃ (items : List Value) (entry : Audit.Entry),
    x.log.ofStored (before.store.valueAt before.now x.log.key) = .ok items ∧
    entry.triggerId = .text d.id ∧ entry.success = .bool result.success ∧
    entry.message = .text result.message ∧ after.now = before.now ∧
    x.log.Holds after.now (x.log.newest (items ++ [.dict entry.toDict])) after.store

/-- A call that ends with a fault, or with an answer that stands for a result, comes to a result. -/
theorem exists_conclusion (x : Executor) {outcome : Except Fault Answer}
    (h : ∀ answer, outcome = .ok answer → ∃ result, answer.normalized = .ok result) :
    ∃ word, x.conclusion outcome = .ok (x.resultOf outcome, word) := by
  cases outcome with
  | error f => exact ⟨.error, rfl⟩
  | ok answer =>
    obtain ⟨result, hresult⟩ := h answer rfl
    have hconcluded : x.conclusion (.ok answer) =
        .ok (result, if result.success then .executed else .failed) := by
      rw [conclusion, hresult]
      rfl
    exact ⟨_, by rw [resultOf, hconcluded]⟩

/-- A conclusion records what it concludes, if that can be written. -/
theorem HasLogged.records {before after : World σ} {items : List Value} {params : Params}
    {result : Result} {outcome : String} {timestamp : Timestamp} {d : Definition}
    (h : x.HasLogged before items (.record d c params result outcome timestamp) after.store)
    (hitems : x.log.ofStored (before.store.valueAt before.now x.log.key) = .ok items)
    (hnow : after.now = before.now) (hcontext : c.isShort = true)
    (hparams : (Value.dict params).isShort = true) : x.Records d result before after :=
  ⟨items, _, hitems, rfl, rfl, rfl, hnow,
    hnow ▸ h.log (isShort_record hcontext hparams d result outcome timestamp)⟩

namespace Readings

variable (r : Readings x t.definition c w)

/-- Why the arguments of an attempt cannot be cleaned, if the attempt comes to them: the rule of the
trigger admits the context, and the budget is not used up. -/
def uncleaned? (r : Readings x t.definition c w) (params : Params) : Option CleanError :=
  if t.admits c && !r.isUsedUp then
    match Clean.arguments params with
    | .error e => some e
    | .ok _ => none
  else none

/-- An attempt whose arguments cannot be cleaned is counted by the budget, and ends there. -/
theorem execute_of_uncleaned (hon : r.isOn = true)
    (hpermits : ∀ f, t.permits c = .error f → f.isInterrupt = false) (hadmits : t.admits c = true)
    (hleft : r.isUsedUp = false) {e : CleanError} (huncleaned : Clean.arguments params = .error e) :
    ∃ store, x.execute t (.dict params) c w = (.ok (x.faulty (.ofClean e)), { w with store }) ∧
      r.HasCounted store := by
  obtain ⟨store, hcounted, hattempt⟩ := r.attempt_of_left hon hpermits hadmits hleft params
  refine ⟨store, ?_, hcounted⟩
  have hclean : (Executor.cleaned params : Action σ Params) { w with store } =
      (.error (.ofClean e), { w with store }) := by
    rw [Executor.cleaned, huncleaned]
    rfl
  -- Both ways through the check of the required arguments begin with the cleaning.
  have hchecked : x.checkAndFire t params c { w with store } =
      (.error (.ofClean e), { w with store }) := by
    rw [checkAndFire]
    cases ParamCheck.firstMissing t.definition.required params
    case none => exact bind_of_error hclean
    case some => exact bind_of_error hclean
  exact Action.recover_of_error (hattempt.trans hchecked) (Fault.isInterrupt_ofClean e)

/-- An attempt that is refused before its arguments are looked at leaves its entry in the log. -/
theorem execute_of_unreached (hon : r.isOn = true)
    (hpermits : ∀ f, t.permits c = .error f → f.isInterrupt = false)
    (hunreached : t.admits c = false ∨ r.isUsedUp = true) (hcontext : c.isShort = true) :
    ∃ result store, x.execute t (.dict params) c w = (.ok result, { w with store }) ∧
      x.Records t.definition result w { w with store } := by
  cases hadmits : t.admits c
  case false =>
    obtain ⟨store, hattempt, hlogged⟩ := r.attempt_of_denied hon hpermits hadmits (.dict params)
    exact ⟨_, store, execute_of_attempt hattempt, hlogged.records r.items_eq rfl hcontext rfl⟩
  case true =>
    have husedUp : r.isUsedUp = true := hunreached.resolve_left (by simp [hadmits])
    obtain ⟨store, hattempt, hlogged⟩ :=
      r.attempt_of_usedUp hon hpermits hadmits husedUp (.dict params)
    exact ⟨_, store, execute_of_attempt hattempt, hlogged.records r.items_eq rfl hcontext rfl⟩

/-- An attempt whose arguments are cleaned leaves its entry in the log: in the log that it has found, or
in the one that the call of the trigger has left. -/
theorem execute_of_cleaned (hon : r.isOn = true)
    (hpermits : ∀ f, t.permits c = .error f → f.isInterrupt = false) (hadmits : t.admits c = true)
    (hleft : r.isUsedUp = false) {cleaned : Params} (hcleaned : Clean.arguments params = .ok cleaned)
    (hkeeps : x.KeepsLog t c) (hcontext : c.isShort = true)
    (hparams : (Value.dict params).isShort = true) :
    ∃ result before after, x.execute t (.dict params) c w = (.ok result, after) ∧
      x.Records t.definition result before after ∧
      ∃ store, r.HasCounted store ∧
        (before = { w with store } ∨ before = (t.perform cleaned c { w with store }).2) := by
  have hshort := Clean.isShort_arguments hparams hcleaned
  cases hmissing : ParamCheck.firstMissing t.definition.required params with
  | some name =>
    obtain ⟨counted, hcounted, hattempt⟩ := r.attempt_of_left hon hpermits hadmits hleft params
    obtain ⟨store, hchecked, hlogged⟩ := r.checkAndFire_of_missing hcounted hmissing hcleaned
    exact ⟨_, { w with store := counted }, _, execute_of_attempt (hattempt.trans hchecked),
      hlogged.records hcounted.items_eq rfl hcontext hshort, counted, hcounted, .inl rfl⟩
  | none =>
    have hcomplete := r.refusal?_eq_none_iff.mpr ⟨hon, hadmits, hleft, hmissing⟩
    obtain ⟨counted, hcounted, hexecute⟩ := r.execute_of_complete hpermits hcleaned hcomplete
    have hfound : x.CanLog { w with store := counted } :=
      ⟨r.isPresent, ⟨r.items, hcounted.items_eq⟩, r.lasts⟩
    cases hperform : t.perform cleaned c { w with store := counted } with
    | mk outcome left =>
      obtain ⟨hordinary, hanswers, hlog⟩ := hkeeps cleaned _ left outcome hfound hperform
      obtain ⟨items, hitems⟩ := hlog.isReadable
      obtain ⟨word, hended⟩ := exists_conclusion x hanswers
      obtain ⟨store, hrun, hlogged⟩ :=
        hexecute outcome left items hperform hordinary hlog.isPresent hitems hlog.lasts
      rw [hended] at hlogged
      exact ⟨_, left, _, hrun, hlogged.records hitems rfl hcontext hshort, counted, hcounted,
        .inr (congrArg Prod.snd hperform).symm⟩

end Readings

/-- A trigger with a link for its argument, which anyone may fire and which answers nothing. -/
def visit : Trigger Unit where
  definition :=
    { id := "visit", name := "Visit", pattern := Pattern.command "VISIT" 0, required := ["link"]
      description := "", settings := [], budget := none, arity := rfl }
  permits _ := .ok (.bool true)
  perform _ _ := return .value .null

end Executor

end Concierge
