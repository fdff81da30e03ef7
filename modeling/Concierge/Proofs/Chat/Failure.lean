import Concierge.Proofs.Budget.Remaining
import Concierge.Proofs.Chat.Turn
import Concierge.Proofs.Clean.Number
import Concierge.Proofs.Registry.Call

/-!
# Turns that fail

A turn that fails has executed nothing: directives are found and executed last, and from there on only an
interrupt can end the turn. So a turn that fails leaves the world as it was, but for the hit that it has
counted against the budget of its session. A turn that is answered has a report for every directive of the
answer, and shows none of them.
-/

namespace Concierge

variable {σ α β : Type}

/-! ## Executions end with interrupts only -/

/-- The outcome of an action is a value, unless the action ends with an interrupt. -/
theorem Action.interrupt_of_outcome {act : Action σ α} {w : World σ} {f : Fault}
    (h : (act.outcome w).1 = .error f) : f.isInterrupt = true := by
  unfold outcome at h
  split at h
  · cases h
  · split at h
    · cases h
      assumption
    · cases h

/-- An execution gives a result, unless it ends with an interrupt. -/
theorem Executor.interrupt_of_execute {x : Executor} {t : Trigger σ} {params : Value} {c : Context}
    {w : World σ} {f : Fault} (h : (x.execute t params c w).1 = .error f) : f.isInterrupt = true := by
  unfold execute Action.recover at h
  rcases bind_cases (x.attempt t params c).outcome _ w with
    ⟨g, left, hrun, hbind⟩ | ⟨e, left, hrun, hbind⟩
  · rw [hbind] at h
    cases h
    exact Action.interrupt_of_outcome (congrArg Prod.fst hrun)
  · rw [hbind] at h
    cases e <;> cases h

/-- Directives have reports, unless the execution of one of them ends with an interrupt. -/
theorem Dispatch.interrupt_of_executeAll {x : Executor} {c : Context} {ds : List (Directive σ)}
    {w : World σ} {f : Fault} (h : (executeAll x c ds w).1 = .error f) : f.isInterrupt = true := by
  induction ds generalizing w with
  | nil => cases h
  | cons d ds ih =>
    unfold executeAll at h
    rcases bind_cases (executeOne x c d) _ w with ⟨g, left, hrun, hbind⟩ | ⟨report, left, hrun, hbind⟩
    · rw [hbind] at h
      cases h
      rcases bind_cases (x.execute d.trigger (.dict d.params) c) _ w with
        ⟨g', left', hexecute, hbind'⟩ | ⟨r, left', -, hbind'⟩
      · cases hbind'.symm.trans hrun
        exact Executor.interrupt_of_execute (congrArg Prod.fst hexecute)
      · cases hbind'.symm.trans hrun
    · rw [hbind] at h
      rcases bind_cases (executeAll x c ds) _ left with ⟨g, after, hrest, hbind'⟩ | ⟨rs, after, -, hbind'⟩
      · rw [hbind'] at h
        cases h
        exact ih (congrArg Prod.fst hrest)
      · rw [hbind'] at h
        cases h

/-! ## Runs without an execution -/

namespace Assistant

variable {s left : Assistant σ}

/-- With every executor a computation comes to the same outcome and leaves the same, so that it executes
nothing: an executor may end every execution with an interrupt. -/
def Unexecuted (run : Run σ α) (s : Assistant σ) (e : Except Fault α) (left : Assistant σ) : Prop :=
  ∀ x, run { s with executor := x } = (e, { left with executor := x })

namespace Unexecuted

/-- A computation that executes nothing goes on with one that executes nothing. -/
theorem bind {first : Run σ α} {next : α → Run σ β} {a : α} {mid : Assistant σ} {e : Except Fault β}
    (hfirst : Unexecuted first s (.ok a) mid) (hnext : Unexecuted (next a) mid e left) :
    Unexecuted (first >>= next) s e left :=
  fun x => (bind_of_ok (hfirst x)).trans (hnext x)

/-- A computation that ends at once executes nothing. -/
theorem bind_error {first : Run σ α} {next : α → Run σ β} {f : Fault}
    (hfirst : Unexecuted first s (.error f) left) : Unexecuted (first >>= next) s (.error f) left :=
  fun x => bind_of_error (hfirst x)

/-- What a computation comes to with its own executor it comes to with all of them. -/
theorem of_run {run : Run σ α} {e e' : Except Fault α} {left' : Assistant σ}
    (h : Unexecuted run s e' left') (hrun : run s = (e, left)) :
    e = e' ∧ left = { left' with executor := s.executor } ∧ Unexecuted run s e left := by
  have hown : run s = (e', { left' with executor := s.executor }) := h s.executor
  obtain ⟨rfl, rfl⟩ := Prod.mk.inj (hrun.symm.trans hown)
  exact ⟨rfl, rfl, h⟩

end Unexecuted

end Assistant

/-! ## Looking for directives -/

namespace Dispatch

variable {r : Registry σ} {v : Value} {f : Fault}

/-- What looking for the directives of a value comes to: a fault, no directives, or those that the triggers
of the registry find in a text. -/
theorem findIn_cases (order : DispatchOrder) (v : Value) (r : Registry σ) :
    (∃ f r', findIn order v r = (.error f, r') ∧
      (f = .notText v.kind ∨ ((Registry.all : Registry.Use σ _) r).1 = .error f)) ∨
    (∃ r', findIn order v r = (.ok [], r') ∧
      (r' = r ∨ ∃ ts, (Registry.all : Registry.Use σ _) r = (.ok ts, r'))) ∨
    ∃ text ts r', v = .text text ∧ (Registry.all : Registry.Use σ _) r = (.ok ts, r') ∧
      findIn order v r = (.ok (Directive.findAll order ts text.toList), r') := by
  cases hv : v.isText with
  | true =>
    obtain ⟨text, rfl⟩ := Value.exists_of_isText hv
    by_cases hempty : text = ""
    · subst hempty
      exact .inr (.inl ⟨r, rfl, .inl rfl⟩)
    · rcases bind_cases Registry.all (fun ts => pure (Directive.findAll order ts text.toList)) r with
        ⟨f, r', hall, hfind⟩ | ⟨ts, r', hall, hfind⟩
      · refine .inl ⟨f, r', ?_, .inr (congrArg Prod.fst hall)⟩
        rw [← hfind]
        exact congrFun (if_neg hempty) r
      · exact .inr (.inr ⟨text, ts, r', rfl, hall, find_eq order hempty hall⟩)
  | false =>
    by_cases htruthy : v.truthy = true
    · have hfind : findIn order v = (do
          if (← Registry.all).isEmpty then return [] else throw (.notText v.kind) :
            Registry.Use σ (List (Directive σ))) := by
        cases v with
        | text => cases hv
        | _ => simp [findIn, htruthy]
      rw [hfind]
      rcases bind_cases Registry.all (fun ts : List (Trigger σ) =>
          if ts.isEmpty then (pure [] : Registry.Use σ (List (Directive σ)))
          else throw (.notText v.kind)) r with ⟨f, r', hall, hbind⟩ | ⟨ts, r', hall, hbind⟩
      · exact .inl ⟨f, r', hbind, .inr (congrArg Prod.fst hall)⟩
      · cases hempty : ts.isEmpty with
        | true =>
          rw [hempty] at hbind
          exact .inr (.inl ⟨r', hbind, .inr ⟨ts, hall⟩⟩)
        | false =>
          rw [hempty] at hbind
          exact .inl ⟨_, r', hbind, .inl rfl⟩
    · refine .inr (.inl ⟨r, ?_, .inl rfl⟩)
      cases v with
      | text => cases hv
      | _ =>
        unfold findIn
        simp [htruthy]
        rfl

/-- After directives have been looked for, the registry gives the triggers that it gave before. -/
theorem all_of_findIn {order : DispatchOrder} {r' : Registry σ} {ds : List (Directive σ)}
    {ts : List (Trigger σ)} (hfind : findIn order v r = (.ok ds, r'))
    (hall : ((Registry.all : Registry.Use σ _) r').1 = .ok ts) :
    ((Registry.all : Registry.Use σ _) r).1 = .ok ts := by
  have hsame {ts' : List (Trigger σ)} (hfirst : (Registry.all : Registry.Use σ _) r = (.ok ts', r')) :
      ((Registry.all : Registry.Use σ _) r).1 = .ok ts := by
    rw [Registry.all_again hfirst] at hall
    rw [hfirst]
    exact hall
  rcases findIn_cases order v r with ⟨f, r'', hfault, -⟩ | ⟨r'', hnone, hr⟩ | ⟨text, ts', r'', -, hfirst, hsome⟩
  · cases hfind.symm.trans hfault
  · cases hfind.symm.trans hnone
    rcases hr with rfl | ⟨ts', hfirst⟩
    · exact hall
    · exact hsame hfirst
  · cases hfind.symm.trans hsome
    exact hsame hfirst

/-- Stripping a value ends with a fault if it is no text, or the registry does not give its triggers. -/
theorem stripIn_cases (v : Value) (r : Registry σ) :
    (∃ f r', stripIn v r = (.error f, r') ∧
      (f = .notText v.kind ∨ ((Registry.all : Registry.Use σ _) r).1 = .error f)) ∨
    ∃ text ts r', v = .text text ∧ (Registry.all : Registry.Use σ _) r = (.ok ts, r') ∧
      stripIn v r = (.ok (String.ofList (Display.clean (patternsOf ts) text.toList)), r') := by
  cases hv : v.isText with
  | true =>
    obtain ⟨text, rfl⟩ := Value.exists_of_isText hv
    rcases bind_cases Registry.all (fun ts : List (Trigger σ) => (pure
        (String.ofList (Display.clean (patternsOf ts) text.toList)) : Registry.Use σ String)) r with
      ⟨f, r', hall, hstrip⟩ | ⟨ts, r', hall, hstrip⟩
    · exact .inl ⟨f, r', hstrip, .inr (congrArg Prod.fst hall)⟩
    · exact .inr ⟨text, ts, r', rfl, hall, strip_eq text hall⟩
  | false =>
    have hstrip : stripIn v = (do
        let _ ← Registry.all
        throw (.notText v.kind) : Registry.Use σ String) := by
      cases v with
      | text => cases hv
      | _ => rfl
    rw [hstrip]
    rcases bind_cases Registry.all (fun _ => (throw (.notText v.kind) : Registry.Use σ String)) r with
      ⟨f, r', hall, hbind⟩ | ⟨ts, r', hall, hbind⟩
    · exact .inl ⟨f, r', hbind, .inr (congrArg Prod.fst hall)⟩
    · exact .inl ⟨_, r', hbind, .inl rfl⟩

end Dispatch

namespace Chat

open Concierge.Assistant

variable {s left : Assistant σ} {c : Context} {f : Fault} {window limit : Int}

/-! ## The hit of a turn -/

/-- The messages of a session are limited: the store is there, and the rule is a window and a limit of
positive integers, where the window ends within the calendar. -/
structure Metered (s : Assistant σ) (window limit : Int) : Prop where
  isPresent : s.world.isLost = false
  rule_eq : s.config.chatRule = ⟨.int window, .int limit⟩
  one_le_window : 1 ≤ window
  one_le_limit : 1 ≤ limit
  closes : s.world.now + Budget.lengthOf window < Instant.calendarEnd

/-- What becomes of a message when its hit is counted, refused, or cannot be counted. -/
def admitted (session window : Value) : Except Fault Bool → Except Fault Unit
  | .ok true => .ok ()
  | .ok false => .error (.chat (.limited session window))
  | .error f => .error f

/-- A message is counted without an execution. -/
theorem charge_of_allow (h : Metered s window limit) {session : Value} {e : Except Fault Bool}
    {store : Store} (hallow : Budget.allow s.world.now (budgetKey session) (.int window) (.int limit)
      s.world.store = (e, store)) :
    Unexecuted (charge session) s (admitted session (.int window) e)
      { s with world := { s.world with store } } := by
  intro x
  have hact : act (Action.tryStore (budgetKey session) fun now store =>
      Budget.allow now (budgetKey session) (.int window) (.int limit) store) { s with executor := x } =
        (e, { s with world := { s.world with store }, executor := x }) :=
    act_tryStore (s := { s with executor := x }) h.isPresent hallow
  rw [charge, get_bind_eq, h.rule_eq]
  cases e with
  | error f => exact bind_of_error hact
  | ok admitted =>
    refine (bind_of_ok hact).trans ?_
    cases admitted <;> rfl

/-- The question that a message makes once it is counted. -/
def questionOf (message : Value) (history : History) (c : Context) (items : List ContentItem)
    (config : Config) : Except Fault Question := do
  let userMessage ← (Clean.line message).mapError .number
  if userMessage = "" then throw (.chat .noMessage)
  let turns ← (cleanHistory history config.historyLimit).mapError Fault.ofClean
  let items := items.take config.contextItems.toNat
  return ⟨sessionOf c, userMessage, turns, systemPrompt config.siteName config.siteUrl items⟩

/-- A message that is counted makes a question. -/
theorem ask_of_counted {mid : Assistant σ} (hcharge : charge (sessionOf c) s = (.ok (), mid))
    (message : Value) (history : History) (items : List ContentItem) :
    ask message history c items s = (questionOf message history c items mid.config, mid) := by
  rw [ask, bind_of_ok hcharge, get_bind_eq]
  unfold questionOf
  cases Clean.line message with
  | error e => rfl
  | ok userMessage =>
    show (if userMessage = "" then _ else _ : Assistant.Run σ Question) mid = (if userMessage = "" then _ else _, mid)
    split
    · rfl
    · cases cleanHistory history mid.config.historyLimit <;> rfl

/-- A message that is counted makes a question without an execution. -/
theorem ask_of_charge {mid : Assistant σ} (hcharge : Unexecuted (charge (sessionOf c)) s (.ok ()) mid)
    (message : Value) (history : History) (items : List ContentItem) :
    Unexecuted (ask message history c items) s (questionOf message history c items mid.config) mid :=
  fun x => ask_of_counted (hcharge x) message history items

/-- A message that makes no question ends with no error of a limit. -/
theorem ne_limited_of_questionOf {message : Value} {history : History} {items : List ContentItem}
    {config : Config} (h : questionOf message history c items config = .error f)
    (session window : Value) : f ≠ .chat (.limited session window) := by
  unfold questionOf at h
  cases hline : Clean.line message with
  | error e =>
    rw [hline] at h
    cases h
    nofun
  | ok userMessage =>
    rw [hline] at h
    replace h : (if userMessage = "" then _ else _ : Except Fault Question) = .error f := h
    split at h
    · cases h
      nofun
    · cases hclean : cleanHistory history config.historyLimit with
      | error e =>
        rw [hclean] at h
        cases h
        cases e <;> nofun
      | ok turns =>
        rw [hclean] at h
        cases h

/-! ## The answer -/

/-- A reply has a report for every directive that is found in a text, in order, and shows no occurrence of
an active pattern. -/
def Answers (order : DispatchOrder) (registry : Registry σ) (text : String) (r : Reply) : Prop :=
  r.original = .text text ∧
    (∃ ds, (Dispatch.find order text registry).1 = .ok ds ∧
      List.Forall₂ Dispatch.IsAbout r.reports ds) ∧
    ∃ ts shown, ((Registry.all : Registry.Use σ _) registry).1 = .ok ts ∧ r.message = .text shown ∧
      ∀ t ∈ ts, ∀ m ∈ t.definition.pattern.findAll shown.toList, m.start = m.stop

/-- Stripping a value executes nothing. -/
theorem strip_unexecuted {v : Value} {e : Except Fault String} {registry : Registry σ}
    (h : Dispatch.stripIn v s.registry = (e, registry)) :
    Unexecuted (strip v) s e { s with registry } := by
  intro x
  unfold strip use
  dsimp only
  rw [h]

/-- An answer that fails executes nothing. -/
theorem answer_failed {q : Question} {content : Value}
    (hrun : answer q c content s = (.error f, left)) (hordinary : f.isInterrupt = false) :
    ∃ registry, Unexecuted (answer q c content) s (.error f) { s with registry } ∧
      (f = .notText content.kind ∨ ((Registry.all : Registry.Use σ _) s.registry).1 = .error f) := by
  rcases Dispatch.findIn_cases s.order content s.registry with
    ⟨g, r, hfind, hg⟩ | ⟨r, hfind, hr⟩ | ⟨text, ts, r, rfl, hall, hfind⟩
  · -- Directives cannot be looked for.
    have hanswer : Unexecuted (answer q c content) s (.error g) { s with registry := r } :=
      fun x => bind_of_error (dispatch_of_unfound (s := { s with executor := x }) hfind (q.context c))
    obtain ⟨heq, -, -⟩ := hanswer.of_run hrun
    cases heq
    exact ⟨r, hanswer, hg⟩
  · -- There are none, and the value cannot be stripped of directives.
    have hdispatch : Unexecuted (dispatch content (q.context c)) s (.ok []) { s with registry := r } :=
      fun x => dispatch_of_found (s := { s with executor := x }) hfind (q.context c)
    rcases Dispatch.stripIn_cases content r with
      ⟨g, r', hstrip, hg⟩ | ⟨text, ts, r', rfl, -, hstrip⟩
    · have hanswer : Unexecuted (answer q c content) s (.error g) { s with registry := r' } :=
        hdispatch.bind (strip_unexecuted (s := { s with registry := r }) hstrip).bind_error
      obtain ⟨heq, -, -⟩ := hanswer.of_run hrun
      cases heq
      refine ⟨r', hanswer, hg.imp_right fun hfault => ?_⟩
      rcases hr with rfl | ⟨ts, hall⟩
      · exact hfault
      · rw [Registry.all_again hall] at hfault
        cases hfault
    · have hshown := strip_unexecuted (s := { s with registry := r }) hstrip
      have hanswer : answer q c (.text text) s = _ := (bind_of_ok (hdispatch s.executor)).trans
        (bind_of_ok (hshown s.executor))
      cases hrun.symm.trans hanswer
  · -- Directives are executed, and then nothing but an interrupt can end the answer.
    have hdispatch := dispatch_of_found hfind (q.context c)
    cases hexecute : Dispatch.executeAll s.executor (q.context c)
        (Directive.findAll s.order ts text.toList) s.world with
    | mk e after =>
      rw [hexecute] at hdispatch
      cases e with
      | error g =>
        cases hrun.symm.trans (bind_of_error hdispatch)
        have hinterrupt := Dispatch.interrupt_of_executeAll (congrArg Prod.fst hexecute)
        rw [hordinary] at hinterrupt
        cases hinterrupt
      | ok reports =>
        have hstrip := Dispatch.strip_eq text (Registry.all_again hall)
        have hshown := strip_unexecuted (s := { s with world := after, registry := r })
          (v := .text text) hstrip
        have hanswer : answer q c (.text text) s = _ :=
          (bind_of_ok hdispatch).trans (bind_of_ok (hshown s.executor))
        cases hrun.symm.trans hanswer

/-- An answer that does not fail has a report for every directive, and shows none of them. -/
theorem answers_of_answer {q : Question} {content : Value} {r : Reply}
    (hrun : answer q c content s = (.ok r, left)) :
    ∃ text, content = .text text ∧ Answers s.order s.registry text r := by
  obtain ⟨reports, mid, hdispatch, hrest⟩ := ok_of_bind hrun
  obtain ⟨shown, after, hstrip, hreply⟩ := ok_of_bind hrest
  have hr : r = ⟨.text shown, content, reports, .universal after.world.now⟩ :=
    (Except.ok.inj (congrArg Prod.fst hreply)).symm
  have houtcome : (Dispatch.stripIn content mid.registry).1 = .ok shown := congrArg Prod.fst hstrip
  rcases Dispatch.stripIn_cases content mid.registry with
    ⟨g, registry, hfault, -⟩ | ⟨text, ts, registry, rfl, hagain, hshown⟩
  · rw [hfault] at houtcome
    cases houtcome
  · rw [hshown] at houtcome
    have hclean : Display.clean (Dispatch.patternsOf ts) text.toList = shown.toList := by
      rw [← Except.ok.inj houtcome, String.toList_ofList]
    cases hfind : Dispatch.findIn s.order (.text text) s.registry with
    | mk e found =>
      cases e with
      | error g => cases hdispatch.symm.trans (dispatch_of_unfound hfind (q.context c))
      | ok ds =>
        have hran := hdispatch.symm.trans (dispatch_of_found hfind (q.context c))
        have hexecute := congrArg Prod.fst hran
        have hfound : mid.registry = found := congrArg (fun p => p.2.registry) hran
        rw [hfound] at hagain
        have hall := Dispatch.all_of_findIn hfind (congrArg Prod.fst hagain)
        have habout := Dispatch.about_of_executeAll (Prod.ext hexecute.symm rfl)
        rw [hr]
        refine ⟨text, rfl, rfl, ⟨ds, congrArg Prod.fst hfind, habout⟩, ts, shown, hall, rfl, ?_⟩
        intro t ht m hm
        rw [← hclean] at hm
        exact Display.start_eq_stop_of_mem_findAll_clean (Dispatch.mem_patternsOf ht) hm

/-! ## The turn -/

/-- The rest of a turn, once it has its question. -/
def respond (model : List Message → Except Fault Value) (c : Context) (q : Question) :
    Assistant.Run σ Reply :=
  match model q.messages with
  | .error f => throw f
  | .ok completion =>
    match Completion.reply completion with
    | .error e => throw (.completion e)
    | .ok content => answer q c content

/-- A turn asks its question and responds. -/
theorem handle_eq (model : List Message → Except Fault Value) (message : Value) (history : History)
    (c : Context) (items : List ContentItem) : handle model message history c items =
      (ask message history c items >>= respond model c : Run σ Reply) := rfl

/-- A question without a response executes nothing. It ends with the error of a limit only if the model
or the registry raises it. -/
theorem respond_failed {model : List Message → Except Fault Value} {q : Question}
    (hrun : respond model c q s = (.error f, left)) (hordinary : f.isInterrupt = false) :
    ∃ registry, Unexecuted (respond model c q) s (.error f) { s with registry } ∧
      ∀ session window, f = .chat (.limited session window) →
        (∃ messages, model messages = .error f) ∨
          ((Registry.all : Registry.Use σ _) s.registry).1 = .error f := by
  unfold respond at hrun ⊢
  cases hmodel : model q.messages with
  | error g =>
    rw [hmodel] at hrun
    cases hrun
    exact ⟨s.registry, fun x => rfl, fun _ _ _ => .inl ⟨q.messages, hmodel⟩⟩
  | ok completion =>
    rw [hmodel] at hrun
    dsimp only at hrun ⊢
    cases hreply : Completion.reply completion with
    | error e =>
      rw [hreply] at hrun
      cases hrun
      exact ⟨s.registry, fun x => rfl, fun _ _ h => by cases h⟩
    | ok content =>
      rw [hreply] at hrun
      obtain ⟨registry, hanswer, hcause⟩ := answer_failed hrun hordinary
      refine ⟨registry, hanswer, fun session window hlimited => .inr (hcause.resolve_left ?_)⟩
      rw [hlimited]
      nofun

/-- How a turn that fails treats the budget of its session. -/
inductive Trace (window limit : Int) (model : List Message → Except Fault Value) (message : Value)
    (history : History) (c : Context) (items : List ContentItem) (s : Assistant σ) (f : Fault)
    (left : Assistant σ) : Prop
  /-- The budget is used up. The model is not asked, and no live row changes. -/
  | refused {count : Int}
    (hcount : Budget.hits (s.world.store.valueAt s.world.now (budgetKey (sessionOf c))) = .ok count)
    (hused : limit ≤ count) (hfault : f = .chat (.limited (sessionOf c) (.int window)))
    (hunasked : ∀ model', handle model' message history c items s = (.error f, left))
    (hsame : left.world.store.view s.world.now = s.world.store.view s.world.now)
  /-- What is stored is no number. The model is not asked, and no live row changes. -/
  | unreadable {e : NumberError}
    (hcount : Budget.hits (s.world.store.valueAt s.world.now (budgetKey (sessionOf c))) = .error e)
    (hfault : f = .number e)
    (hunasked : ∀ model', handle model' message history c items s = (.error f, left))
    (hsame : left.world.store.view s.world.now = s.world.store.view s.world.now)
  /-- One more than the count has too many digits to be written. The model is not asked, and no live row
  changes. -/
  | unwritten {count : Int}
    (hcount : Budget.hits (s.world.store.valueAt s.world.now (budgetKey (sessionOf c))) = .ok count)
    (hleft : count < limit) (hlong : isShort (count + 1) = false)
    (hfault : f = .unwritten .tooLong)
    (hunasked : ∀ model', handle model' message history c items s = (.error f, left))
    (hsame : left.world.store.view s.world.now = s.world.store.view s.world.now)
  /-- The budget has been charged once, and no other live row has changed. The fault is no error of a
  limit, unless the model or the registry raises it. -/
  | charged {count : Int}
    (hcount : Budget.hits (s.world.store.valueAt s.world.now (budgetKey (sessionOf c))) = .ok count)
    (hleft : count < limit)
    (hcharged : Budget.Charged s.world.now (budgetKey (sessionOf c)) window count s.world.store
      left.world.store)
    (hcause : ∀ session window, f = .chat (.limited session window) →
      (∃ messages, model messages = .error f) ∨
        ((Registry.all : Registry.Use σ _) s.registry).1 = .error f)

/-- A message that is not counted ends the turn, whatever the model is. -/
theorem handle_of_uncounted {mid : Assistant σ} (hcharge : Unexecuted (charge (sessionOf c)) s (.error f) mid)
    (model : List Message → Except Fault Value) (message : Value) (history : History)
    (items : List ContentItem) : Unexecuted (handle model message history c items) s (.error f) mid := by
  rw [handle_eq]
  exact hcharge.bind_error.bind_error

/-- A turn that fails executes nothing, and leaves the world as it was but for its trace. -/
theorem handle_failed (h : Metered s window limit) {model : List Message → Except Fault Value}
    {message : Value} {history : History} {items : List ContentItem}
    (hrun : handle model message history c items s = (.error f, left))
    (hordinary : f.isInterrupt = false) :
    Unexecuted (handle model message history c items) s (.error f) left ∧
      left.world = { s.world with store := left.world.store } ∧
      Trace window limit model message history c items s f left := by
  have hends {g : Fault} {mid : Assistant σ}
      (hcharge : Unexecuted (charge (sessionOf c)) s (.error g) mid)
      (model' : List Message → Except Fault Value) :
      Unexecuted (handle model' message history c items) s (.error g) mid :=
    handle_of_uncounted hcharge model' message history items
  have hview := s.world.store.view_get s.world.now (budgetKey (sessionOf c))
  cases hcount : Budget.hits (s.world.store.valueAt s.world.now (budgetKey (sessionOf c))) with
  | error e =>
    have hcharge := charge_of_allow h (Budget.allow_unreadable (.int window) (.int limit) hcount)
    obtain ⟨heq, rfl, hsame⟩ := (hends hcharge model).of_run hrun
    cases heq
    exact ⟨hsame, rfl, .unreadable hcount rfl (fun model' => hends hcharge model' s.executor) hview⟩
  | ok count =>
    by_cases hused : limit ≤ count
    · have hcharge := charge_of_allow h (Budget.allow_refused h.one_le_limit hcount hused)
      obtain ⟨heq, rfl, hsame⟩ := (hends hcharge model).of_run hrun
      cases heq
      exact ⟨hsame, rfl, .refused hcount hused rfl (fun model' => hends hcharge model' s.executor) hview⟩
    · have hleft : count < limit := Int.not_le.mp hused
      cases hshort : isShort (count + 1) with
      | false =>
        obtain ⟨store, hallow, hsame⟩ := Budget.allow_unwritten window hcount hleft hshort
        have hcharge := charge_of_allow h hallow
        obtain ⟨heq, rfl, hunexecuted⟩ := (hends hcharge model).of_run hrun
        cases heq
        exact ⟨hunexecuted, rfl, .unwritten hcount hleft hshort rfl
          (fun model' => hends hcharge model' s.executor) hsame⟩
      | true =>
        obtain ⟨store, hallow, hcharged⟩ :=
          Budget.allow_charged h.one_le_window h.closes hcount hleft hshort
        have hask := ask_of_charge (charge_of_allow h hallow) message history items
        cases hquestion : questionOf message history c items s.config with
        | error g =>
          rw [hquestion] at hask
          have hturn : Unexecuted (handle model message history c items) s (.error g)
              { s with world := { s.world with store } } := by
            rw [handle_eq]
            exact hask.bind_error
          obtain ⟨heq, rfl, hsame⟩ := hturn.of_run hrun
          cases heq
          exact ⟨hsame, rfl, .charged hcount hleft hcharged fun session window hlimited =>
            absurd hlimited (ne_limited_of_questionOf hquestion session window)⟩
        | ok q =>
          rw [hquestion] at hask
          have hrest := (bind_of_ok (hask s.executor)).symm.trans hrun
          obtain ⟨registry, hrespond, hcause⟩ := respond_failed hrest hordinary
          obtain ⟨-, rfl, hsame⟩ := (hask.bind hrespond).of_run hrun
          exact ⟨hsame, rfl, .charged hcount hleft hcharged hcause⟩

/-- A turn that is answered has a report for every directive in the text of the model, and shows none of
them. -/
theorem handle_answered {model : List Message → Except Fault Value} {message : Value}
    {history : History} {items : List ContentItem} {r : Reply}
    (hrun : handle model message history c items s = (.ok r, left)) :
    ∃ messages completion text, model messages = .ok completion ∧
      Completion.reply completion = .ok (.text text) ∧ Answers s.order s.registry text r := by
  obtain ⟨q, mid, hask, hrest⟩ := ok_of_bind hrun
  obtain ⟨store, hmid⟩ := changesStore_ask message history c items s
  rw [hask] at hmid
  subst hmid
  have hrespond : respond model c q { s with world := { s.world with store } } = (.ok r, left) := hrest
  unfold respond at hrespond
  cases hmodel : model q.messages with
  | error g =>
    rw [hmodel] at hrespond
    cases hrespond
  | ok completion =>
    rw [hmodel] at hrespond
    dsimp only at hrespond
    cases hreply : Completion.reply completion with
    | error e =>
      rw [hreply] at hrespond
      cases hrespond
    | ok content =>
      rw [hreply] at hrespond
      obtain ⟨text, rfl, hanswers⟩ := answers_of_answer hrespond
      exact ⟨q.messages, completion, text, hmodel, hreply, hanswers⟩

/-- An assistant with a value stored for its session, under a limit. -/
def countedAssistant (executor : Executor) (stored : Value) (limit : Int)
    (hshort : stored.isShort = true := by rfl) : Assistant Unit :=
  { idleAssistant executor with
    world := ⟨0, ⟨[("chat_rate:s", { value := stored, expiry := none, isShort := hshort })]⟩, (), false⟩
    config := { chatRule := ⟨.int 60, .int limit⟩ } }

/-- A turn of a message. -/
def turnOf (model : List Message → Except Fault Value) (message : String) (s : Assistant Unit) :
    Except Fault Reply × Assistant Unit :=
  handle model (.text message) (.turns []) sessionContext [] s

/-- A count that has as many digits as an integer may have is not raised, and the model is not asked. -/
theorem turn_of_most {n : Nat} (hfew : isShort n = true) (hmany : isShort (n + 1) = false)
    (model : List Message → Except Fault Value) :
    let s := countedAssistant {} (.text (toString n)) (n + 1)
    let ran := turnOf model "Hello" s
    ran.1 = .error (.unwritten .tooLong) ∧
      ran.2.world.store.valueAt 0 "chat_rate:s" = .text (toString n) := by
  intro s ran
  have hcloses : 0 + Budget.lengthOf 60 < Instant.calendarEnd := by decide
  have hmetered : Metered s 60 (n + 1) := ⟨rfl, rfl, by decide, by omega, hcloses⟩
  have hstored : s.world.store.valueAt 0 "chat_rate:s" = .text (toString n) := rfl
  have hcount : Budget.hits (s.world.store.valueAt 0 (budgetKey (sessionOf sessionContext))) = .ok n :=
    Reading.integer_toString hfew
  obtain ⟨store, hallow, hview⟩ := Budget.allow_unwritten 60 hcount (Int.lt_succ n) hmany
  have hran : ran = _ := handle_of_uncounted (charge_of_allow hmetered hallow) model (.text "Hello")
    (.turns []) [] s.executor
  rw [hran]
  exact ⟨rfl, (Store.valueAt_congr hview _).trans hstored⟩

end Chat

end Concierge
