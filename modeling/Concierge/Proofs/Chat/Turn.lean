import Concierge.Proofs.Assistant.Effect
import Concierge.Proofs.Budget.Hit
import Concierge.Proofs.Clean.Block
import Concierge.Proofs.Completion.Exchange
import Concierge.Proofs.Dispatch.Separate
import Concierge.Proofs.Executor.Calls
import Concierge.Proofs.Executor.Spares

/-!
# What a turn of a chat comes to

A turn ends with a reply that consists of texts, or with an error of the chat or of the completion. There
are exceptions of two sorts, and the faults that they cause are neither. A message or a turn of the history
may hold an integer of too many digits. And a response may have a body that is nested too deeply to be read,
a reply that is no text, or, when it is to be quoted, a body that is no text in its charset.
-/

namespace Concierge

variable {σ : Type} {ts : List (Trigger σ)} {s : Assistant σ} {c : Context}

/-! ## The assistant -/

namespace Assistant

/-- An assistant serves triggers that raise no interrupts, and no part of it that is out of order raises
one. -/
structure Serving (ts : List (Trigger σ)) (s : Assistant σ) : Prop where
  serves : s.registry.Serves ts
  outage : s.executor.outage.IsOrdinary
  triggers : ∀ t ∈ ts, ∀ c, t.IsOrdinary c

namespace Serving

/-- Another store leaves an assistant serving. -/
theorem withStore (h : s.Serving ts) (store : Store) :
    Serving ts { s with world := { s.world with store } } := ⟨h.serves, h.outage, h.triggers⟩

/-- A text is dispatched. -/
theorem exists_dispatch (h : s.Serving ts) (text : String) (c : Context) :
    ∃ reports left, dispatch (.text text) c s = (.ok reports, left) ∧ left.Serving ts := by
  obtain ⟨ds, hsettles, hmem⟩ := Dispatch.settles_findIn_text ts s.order text
  obtain ⟨hfound, hserves⟩ := hsettles s.registry h.serves
  obtain ⟨reports, after, hrun⟩ := Dispatch.exists_executeAll (c := c) h.outage
    (fun d hd => h.triggers _ (hmem d hd) c) s.world
  have hdispatch := dispatch_of_found (Prod.ext hfound rfl) c
  rw [hrun] at hdispatch
  exact ⟨reports, _, hdispatch, hserves, h.outage, h.triggers⟩

/-- A text is stripped of directives. -/
theorem exists_strip (h : s.Serving ts) (text : String) :
    ∃ shown left, strip (.text text) s = (.ok shown, left) := by
  obtain ⟨shown, hsettles⟩ := Dispatch.settles_strip ts text
  exact ⟨shown, _, Prod.ext (hsettles s.registry h.serves).1 rfl⟩

/-- A value that is no text cannot be stripped of directives. -/
theorem strip_of_not_text (h : s.Serving ts) {v : Value} (hv : v.isText = false) :
    (strip v s).1 = .error (.notText v.kind) :=
  (Dispatch.settles_stripIn_of_not_text ts hv s.registry h.serves).1

/-- A value that is no text has no directives to execute: there are none, or looking for them fails. -/
theorem dispatch_of_not_text (h : s.Serving ts) {v : Value} (hv : v.isText = false) (c : Context) :
    (dispatch v c s).1 = .error (.notText v.kind) ∨
      ∃ left, dispatch v c s = (.ok [], left) ∧ left.Serving ts := by
  have hsettles := Dispatch.settles_findIn_of_not_text ts s.order hv
  obtain ⟨hfound, hserves⟩ := hsettles s.registry h.serves
  split at hfound
  · exact .inl (congrArg Prod.fst (dispatch_of_unfound (Prod.ext hfound rfl) c))
  · refine .inr ⟨_, dispatch_of_found (Prod.ext hfound rfl) c, hserves, h.outage, h.triggers⟩

end Serving

end Assistant

namespace Chat

open Concierge.Assistant

/-! ## The answer -/

/-- What a turn may come to: a reply that consists of texts, an error of the chat, or an error of the
completion. -/
inductive IsDocumented : Except Fault Reply → Prop
  | reply {r : Reply} (hmessage : r.message.isText = true) (horiginal : r.original.isText = true) :
    IsDocumented (.ok r)
  | chat (e : ChatError) : IsDocumented (.error (.chat e))
  | completion (e : CompletionError) : IsDocumented (.error (.completion e))

/-- An answer is a reply that consists of texts, unless the content is no text. -/
theorem answer_cases (h : s.Serving ts) (q : Question) (c : Context) (content : Value) :
    IsDocumented (answer q c content s).1 ∨
      content.isText = false ∧ (answer q c content s).1 = .error (.notText content.kind) := by
  cases hcontent : content.isText with
  | true =>
    obtain ⟨text, rfl⟩ := Value.exists_of_isText hcontent
    obtain ⟨reports, left, hdispatch, hleft⟩ := h.exists_dispatch text (q.context c)
    obtain ⟨shown, after, hstrip⟩ := hleft.exists_strip text
    have hanswer : answer q c (.text text) s = _ := bind_of_ok hdispatch
    rw [bind_of_ok hstrip] at hanswer
    rw [hanswer]
    exact .inl (.reply rfl rfl)
  | false =>
    refine .inr ⟨rfl, ?_⟩
    unfold answer
    rcases h.dispatch_of_not_text hcontent (q.context c) with hfault | ⟨left, hdispatch, hleft⟩
    · rw [bind_of_error (Prod.ext hfault rfl)]
    · have hstrip := hleft.strip_of_not_text hcontent
      rw [bind_of_ok hdispatch, bind_of_error (Prod.ext hstrip rfl)]

/-! ## The question -/

/-- The messages of a session can be counted: the store is there, the rule is a window and a limit of
positive integers, the window ends within the calendar, the session can be part of a key, and what is stored
under the key is a number of hits, which can be raised. -/
structure Countable (s : Assistant σ) (session : Value) (window limit count : Int) : Prop where
  isPresent : s.world.isLost = false
  rule_eq : s.config.chatRule = ⟨.int window, .int limit⟩
  one_le_window : 1 ≤ window
  one_le_limit : 1 ≤ limit
  closes : ∃ expiry, Store.expiryFor s.world.now none (.int window) false = .ok expiry
  shown : session.isShort = true
  count_eq : Budget.hits (s.world.store.valueAt s.world.now (budgetKey session)) = .ok count
  raised : count < limit → isShort (count + 1) = true

variable {session : Value} {window limit count : Int}

/-- A message is counted, or refused since the session has sent too many of them. -/
theorem charge_cases (h : Countable s session window limit count) :
    (charge session s).1 = .error (.chat (.limited session (.int window))) ∨
      ∃ left, charge session s = (.ok (), left) := by
  have hallowed : ∃ admitted store, Budget.allow s.world.now (budgetKey session) (.int window)
      (.int limit) s.world.store = (.ok admitted, store) := by
    by_cases hused : limit ≤ count
    · exact ⟨_, _, Budget.allow_refused h.one_le_limit h.count_eq hused⟩
    · obtain ⟨store, hadmitted, -⟩ :=
        Budget.allow_admitted h.one_le_window h.count_eq (.inr (Int.not_le.mp hused))
          (fun _ => h.closes) (h.raised (Int.not_le.mp hused))
      exact ⟨_, store, hadmitted⟩
  obtain ⟨admitted, store, hallow⟩ := hallowed
  have hact : act (Action.tryStore (budgetKey session) fun now store =>
      Budget.allow now (budgetKey session) (.int window) (.int limit) store) s =
        (.ok admitted, { s with world := { s.world with store } }) :=
    act_tryStore h.isPresent hallow
  rw [charge, get_bind_eq, h.rule_eq, bind_of_ok hact]
  cases admitted with
  | true => exact .inr ⟨_, rfl⟩
  | false => exact .inl rfl

/-- A raw turn holds a role or a content that cannot be shown. -/
def IsUnshown (raw : RawTurn) : Prop :=
  ∃ role content, parts? raw = some (role, content) ∧ (role.isShort = false ∨ content.isShort = false)

/-- A message of two texts can be sent. -/
theorem canSend_ofTexts (role content : String) : Json.CanSend (.dict (Message.ofTexts role content).toDict) :=
  ⟨_, rfl⟩

/-- A raw turn is a message that can be sent, or does not count, unless it cannot be shown. -/
theorem turn_cases (raw : RawTurn) :
    (∃ found, turn? raw = .ok found ∧ ∀ m ∈ found, Json.CanSend (.dict m.toDict)) ∨
      IsUnshown raw ∧ turn? raw = .error .tooLong := by
  unfold turn?
  cases hparts : parts? raw with
  | none => exact .inl ⟨none, rfl, fun _ h => nomatch h⟩
  | some parts =>
    obtain ⟨role, content⟩ := parts
    dsimp only
    have hrole : (∃ name, roleOf role = .ok name) ∨ role.isShort = false ∧ roleOf role = .error .tooLong := by
      rcases Clean.line_cases role with ⟨hlong, hline⟩ | ⟨_, -, hline⟩
      · exact .inr ⟨hlong, by rw [roleOf, hline]; rfl⟩
      · exact .inl ⟨_, by rw [roleOf, hline]; rfl⟩
    rcases hrole with ⟨name, hname⟩ | ⟨hlong, hname⟩
    · rw [hname]
      dsimp only [Bind.bind, Except.bind]
      split
      · rcases Clean.block_cases content with ⟨hlong, hblock⟩ | ⟨text, -, hblock⟩
        · rw [hblock]
          exact .inr ⟨⟨role, content, hparts, .inr hlong⟩, rfl⟩
        · rw [hblock]
          refine .inl ⟨_, rfl, fun m hm => ?_⟩
          obtain rfl := Option.some.inj hm
          exact canSend_ofTexts name _
      · exact .inl ⟨none, rfl, fun _ h => nomatch h⟩
    · rw [hname]
      exact .inr ⟨⟨role, content, hparts, .inl hlong⟩, rfl⟩

/-- All turns of a history can be looked at, and those that count can be sent, unless one of them cannot be
shown. -/
theorem mapM_turn_cases (raw : List RawTurn) :
    (∃ found, raw.mapM turn? = .ok found ∧ ∀ m, some m ∈ found → Json.CanSend (.dict m.toDict)) ∨
      (∃ t ∈ raw, IsUnshown t) ∧ raw.mapM turn? = .error .tooLong := by
  induction raw with
  | nil => exact .inl ⟨[], rfl, fun m hm => nomatch hm⟩
  | cons t raw ih =>
    rw [List.mapM_cons]
    rcases turn_cases t with ⟨first, hfirst, hsend⟩ | ⟨hunshown, hfirst⟩
    · rw [hfirst]
      rcases ih with ⟨found, hfound, hall⟩ | ⟨⟨u, hu, hunshown⟩, herror⟩
      · rw [hfound]
        refine .inl ⟨first :: found, rfl, fun m hm => ?_⟩
        rcases List.mem_cons.mp hm with heq | hm
        · exact hsend m heq.symm
        · exact hall m hm
      · rw [herror]
        exact .inr ⟨⟨u, List.mem_cons_of_mem t hu, hunshown⟩, rfl⟩
    · rw [hfirst]
      exact .inr ⟨⟨t, List.mem_cons_self, hunshown⟩, rfl⟩

/-- The turns of a history that count can be sent, unless a turn cannot be shown. -/
theorem cleanHistory_cases (raw : List RawTurn) (most : Int) :
    (∃ turns, cleanHistory (.turns raw) most = .ok turns ∧
        ∀ m ∈ turns, Json.CanSend (.dict m.toDict)) ∨
      (∃ t ∈ raw, IsUnshown t) ∧ cleanHistory (.turns raw) most = .error (.number .tooLong) := by
  have hclean : cleanHistory (.turns raw) most = (cleanTurns raw most).mapError .number := rfl
  rw [hclean, cleanTurns]
  rcases mapM_turn_cases raw with ⟨found, hfound, hall⟩ | ⟨hunshown, herror⟩
  · rw [hfound]
    refine .inl ⟨_, rfl, fun m hm => hall m ?_⟩
    obtain ⟨found, hmem, hm⟩ := List.mem_filterMap.mp (List.mem_of_mem_drop hm)
    exact hm ▸ hmem
  · rw [herror]
    exact .inr ⟨hunshown, rfl⟩

/-- The message or a turn of the history holds an integer of too many digits. -/
def HoldsLong (message : Value) (raw : List RawTurn) : Prop :=
  message.isShort = false ∨ ∃ t ∈ raw, IsUnshown t

/-- A message with a list of turns makes a question whose messages can be sent, or ends with an error of the
chat, unless the message or a turn cannot be shown. -/
theorem ask_cases (hserving : s.Serving ts) (h : Countable s (sessionOf c) window limit count)
    (message : Value) (raw : List RawTurn) (items : List ContentItem) :
    (∃ e, (ask message (.turns raw) c items s).1 = .error (.chat e)) ∨
      (HoldsLong message raw ∧ (ask message (.turns raw) c items s).1 = .error (.number .tooLong)) ∨
        ∃ q left, ask message (.turns raw) c items s = (.ok q, left) ∧ left.Serving ts ∧
          ∀ m ∈ q.messages, Json.CanSend (.dict m.toDict) := by
  obtain ⟨store, hchanged⟩ := changesStore_ask message (.turns raw) c items s
  have hstays : (ask message (.turns raw) c items s).2.Serving ts :=
    hchanged ▸ hserving.withStore store
  rcases charge_cases h with hlimited | ⟨left, hcharge⟩
  · refine .inl ⟨.limited (sessionOf c) (.int window), ?_⟩
    rw [ask, bind_of_error (Prod.ext hlimited rfl)]
  · have hrest : ask message (.turns raw) c items s = _ := bind_of_ok hcharge
    rw [get_bind_eq] at hrest
    rcases Clean.line_cases message with ⟨hlong, hline⟩ | ⟨text, -, hline⟩
    · rw [hline] at hrest
      exact .inr (.inl ⟨.inl hlong, congrArg Prod.fst hrest⟩)
    · rw [hline, Clean.line_text] at hrest
      have hcleaned := hrest.trans (bind_of_ok rfl)
      dsimp only at hcleaned
      split at hcleaned
      · exact .inl ⟨.noMessage, congrArg Prod.fst hcleaned⟩
      · rcases cleanHistory_cases raw left.config.historyLimit with
          ⟨turns, hturns, hall⟩ | ⟨hunshown, hturns⟩
        · rw [hturns] at hcleaned
          have hasked := hcleaned.trans (bind_of_ok rfl)
          refine .inr (.inr ⟨_, _, hasked, ?_, fun m hm => ?_⟩)
          · rwa [hasked] at hstays
          · rcases List.mem_append.mp hm with hm | hm
            · rcases List.mem_cons.mp hm with rfl | hm
              · exact canSend_ofTexts _ _
              · exact hall m hm
            · obtain rfl := List.mem_singleton.mp hm
              exact canSend_ofTexts _ _
        · rw [hturns] at hcleaned
          exact .inr (.inl ⟨.inr hunshown, congrArg Prod.fst hcleaned⟩)

/-! ## The turn -/

/-- What causes a fault that is none of these. -/
inductive Causes (lib : Completion.Library) (message : Value) (raw : List RawTurn)
    (outcome : Nat → Completion.Outcome) : Fault → Prop
  /-- The message or a turn of the history cannot be shown. -/
  | long (hlong : HoldsLong message raw) : Causes lib message raw outcome (.number .tooLong)
  /-- The body of a response is nested too deeply. -/
  | tooNested {number : Nat} {r : Completion.Response} {kind : String}
      (hr : outcome number = .response r) (hcheck : Completion.check lib r = .error (.tooNested kind)) :
      Causes lib message raw outcome (.tooNested kind)
  /-- A response is to be quoted, and its body is no text. -/
  | unread {number : Nat} {r : Completion.Response} {e : Raised} (hr : outcome number = .response r)
      (hquoted : r.IsQuoted) (htext : lib.text r = .error e) : Causes lib message raw outcome (.raised e)
  /-- The content of the first choice counts as true and is no text. -/
  | notText {number : Nat} {r : Completion.Response} {completion content : Value}
      (hr : outcome number = .response r) (hcheck : Completion.check lib r = .ok completion)
      (hreply : Completion.reply completion = .ok content) (hcontent : content.isText = false) :
      Causes lib message raw outcome (.notText content.kind)

variable {client : Completion.Client} {address : Address} {outcome : Nat → Completion.Outcome}

/-- An assistant with one trigger, which does nothing. -/
def idleAssistant (executor : Executor) : Assistant Unit where
  world := ⟨0, {}, (), false⟩
  registry := { builtins := [.idle "ping" 10] }
  executor

/-- The context of a session. -/
def sessionContext : Context := { session := .text "s", timestamp := Timestamp.universal 0 }

/-- A turn with a client that has been made of a key only. -/
def turnWith (outcome : Nat → Completion.Outcome) (s : Assistant Unit) : Except Fault Reply := do
  let client ← Completion.Client.make (.plain 988) { key := some "key" } []
  (handle (served client "gpt-4o-mini" outcome) (.text "Hello") (.turns []) sessionContext [] s).1

/-- A response whose body holds a first choice with a content. -/
def responseWith (content : String) : Completion.Response where
  status := 200
  body := ("\x7b\"choices\": [\x7b\"message\": \x7b\"content\": " ++ content ++
    "\x7d\x7d]\x7d").toUTF8.toList

end Chat

end Concierge
