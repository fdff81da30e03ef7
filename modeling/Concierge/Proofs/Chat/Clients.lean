import Concierge.Proofs.Assistant.Trace
import Concierge.Proofs.Chat.Failure
import Concierge.Proofs.Executor.Sessions

/-!
# Clients that bring no session

A client that brings no session gets the digest of its address and its agent, one behind the other. Whether
its turns are limited is told by the row of that session alone, which the turns of a client with another
digest leave as it is. So they are limited as they would be without the turns of the other client, and its
triggers and its entries in the log see the session of the client in any case.

Nothing stands between the address and the agent. Two clients with one joined text share a session.
-/

namespace Concierge

namespace Chat

open Concierge.Assistant

variable {σ : Type}

/-! ## Clients -/

/-- A client that brings no session: its address and its agent. -/
structure Client where
  address : String
  agent : String
  deriving DecidableEq

/-- The key of the budget of a session that is a text tells the text. -/
theorem budgetKey_text_inj {a b : String} (h : budgetKey (.text a) = budgetKey (.text b)) : a = b :=
  (String.append_right_inj _).mp h

namespace Client

variable {client other : Client} {c : Context}

/-- The address and the agent of a client are known. -/
structure IsKnown (client : Client) : Prop where
  address : client.address ≠ ""
  agent : client.agent ≠ ""

/-- The address and the agent, one behind the other. -/
def joined (client : Client) : String := client.address ++ client.agent

/-- The session of a client. -/
def session (client : Client) : Value := .text (Digest.md5 client.joined)

/-- The key of the budget of a client. -/
def key (client : Client) : String := budgetKey client.session

/-- A context without a session tells the address and the agent of a client. -/
def owns (client : Client) (c : Context) : Bool :=
  c.session.truthy = false ∧ c.address = .text client.address ∧ c.agent = .text client.agent

/-- The context of a known client belongs to the session of the client. -/
theorem IsKnown.sessionOf_eq (h : client.IsKnown) (howns : client.owns c = true) :
    sessionOf c = client.session := by
  obtain ⟨hsession, haddress, hagent⟩ := of_decide_eq_true howns
  have hknown {text : String} (hne : text ≠ "") : (Value.text text).truthy = true := bne_iff_ne.mpr hne
  simp only [sessionOf, hsession, haddress, hagent, sessionFor, hknown h.address, hknown h.agent,
    Bool.false_eq_true, if_true, if_false, session, joined]
  rfl

/-- Clients with different joined texts have different budgets, unless the digests of the texts collide. -/
theorem key_ne (hjoined : client.joined ≠ other.joined)
    (hdigest : Digest.md5 client.joined = Digest.md5 other.joined → client.joined = other.joined) :
    client.key ≠ other.key := fun h => hjoined (hdigest (budgetKey_text_inj h))

end Client

/-! ## Counting a message -/

/-- From worlds that have the row of its session in common, a message is counted alike. -/
theorem charge_alike {session : Value} {s s' : Assistant σ}
    (halike : (Scope.ofKeys (· = budgetKey session)).Alike s.world s'.world)
    (hconfig : s'.config = s.config) :
    (charge session s').1 = (charge session s).1 ∧
      (Scope.ofKeys (· = budgetKey session)).Alike (charge session s).2.world
        (charge session s').2.world := by
  let rule := s.config.chatRule
  let count : Action σ Bool := Action.tryStore (budgetKey session) fun now store =>
    Budget.allow now (budgetKey session) rule.window rule.limit store
  have hstep : Action.InStep (.ofKeys (· = budgetKey session)) Eq count count :=
    .ofKey (fun now store => Budget.keptBut_allow now (budgetKey session) rule.window rule.limit store)
      (fun now => Budget.dependsOn_allow now (budgetKey session) rule.window rule.limit) rfl
  obtain ⟨hgiven, hleft⟩ := hstep _ _ halike
  have hcounted (a : Assistant σ) :
      act count a = ((count a.world).1, { a with world := (count a.world).2 }) := rfl
  have hcharge (a : Assistant σ) (ha : a.config = s.config) : charge session a =
      (act count >>= fun admitted =>
        if !admitted then throw (.chat (.limited session rule.window)) else pure () : Run σ Unit) a := by
    rw [charge, get_bind_eq, ha]
  rw [hcharge s rfl, hcharge s' hconfig]
  have hsame := hcounted s'
  rw [← hgiven.eq] at hsame
  cases hresult : (count s.world).1 with
  | error f =>
    rw [hresult] at hsame
    rw [bind_of_error ((hcounted s).trans (congrArg (·, _) hresult)), bind_of_error hsame]
    exact ⟨rfl, hleft⟩
  | ok admitted =>
    rw [hresult] at hsame
    rw [bind_of_ok ((hcounted s).trans (congrArg (·, _) hresult)), bind_of_ok hsame]
    cases admitted with
    | true => exact ⟨rfl, hleft⟩
    | false => exact ⟨rfl, hleft⟩

/-- A turn leaves the configuration as it is. -/
theorem config_handle (model : List Message → Except Fault Value) (message : Value) (history : History)
    (c : Context) (items : List ContentItem) (s : Assistant σ) :
    (handle model message history c items s).2.config = s.config := by
  let Same (left : Assistant σ) : Prop := left.config = s.config
  have huse {α : Type} (u : Registry.Use σ α) : Keeps Same (use u) := fun _ hleft => hleft
  have hact {α : Type} (a : Action σ α) : Keeps Same (act a) := fun _ hleft => hleft
  have hask : Keeps Same (ask message history c items) := by
    intro left hleft
    obtain ⟨store, hchanged⟩ := changesStore_ask message history c items left
    rw [hchanged]
    exact hleft
  have hdispatch (content : Value) (c : Context) : Keeps Same (dispatch content c) :=
    (Keeps.get.bind fun _ => huse _).bind fun _ => Keeps.get.bind fun _ => hact _
  refine Keeps.bind hask (fun q => ?_) s rfl
  split
  · exact .of_silent fun _ => rfl
  · split
    · exact .of_silent fun _ => rfl
    · exact (hdispatch _ _).bind fun _ => (huse _).bind fun _ => Keeps.get.bind fun _ => .pure _

/-! ## One turn -/

/-- A turn at an instant. -/
structure Turn where
  now : Instant
  model : List Message → Except Fault Value
  message : Value
  history : History
  context : Context
  items : List ContentItem

namespace Turn

variable {turn : Turn} {s s' : Assistant σ}

/-- The assistant when a turn begins. -/
def start (turn : Turn) (s : Assistant σ) : Assistant σ := { s with world := { s.world with now := turn.now } }

/-- What a turn comes to, with some model, and the assistant that it leaves. -/
def runWith (turn : Turn) (model : List Message → Except Fault Value) (s : Assistant σ) :
    Except Fault Reply × Assistant σ :=
  handle model turn.message turn.history turn.context turn.items (turn.start s)

/-- The assistant that a turn leaves. -/
def after (turn : Turn) (s : Assistant σ) : Assistant σ := (turn.runWith turn.model s).2

/-- A turn is refused because its session has sent too many messages. -/
def isLimited (turn : Turn) (s : Assistant σ) : Bool :=
  match (charge (sessionOf turn.context) (turn.start s)).1 with
  | .error (.chat (.limited _ _)) => true
  | _ => false

/-- The turns that are limited are those that end with the error of a limit, whatever the model is. -/
theorem isLimited_iff : turn.isLimited s = true ↔
    ∀ model, ∃ session window, (turn.runWith model s).1 = .error (.chat (.limited session window)) := by
  have hrefused {f : Fault} (hcharge : (charge (sessionOf turn.context) (turn.start s)).1 = .error f)
      (model : List Message → Except Fault Value) : (turn.runWith model s).1 = .error f := by
    have hask : ask turn.message turn.history turn.context turn.items (turn.start s) = (.error f, _) :=
      bind_of_error (Prod.ext hcharge rfl)
    exact congrArg Prod.fst (bind_of_error hask)
  unfold isLimited
  constructor
  · intro hlimited model
    split at hlimited
    · rename_i session window hcharge
      exact ⟨session, window, hrefused hcharge model⟩
    · cases hlimited
  · intro hlimited
    cases hcharge : (charge (sessionOf turn.context) (turn.start s)).1 with
    | error f =>
      obtain ⟨session, window, hfault⟩ := hlimited turn.model
      rw [hrefused hcharge] at hfault
      cases hfault
      rfl
    | ok _ =>
      -- A model with a fault of its own shows that the message has been counted.
      obtain ⟨session, window, hfault⟩ := hlimited fun _ => .error (.notText "")
      have hask := ask_of_counted (Prod.ext hcharge rfl) turn.message turn.history turn.items
      cases hquestion : questionOf turn.message turn.history turn.context turn.items
          (charge (sessionOf turn.context) (turn.start s)).2.config with
      | error f =>
        rw [hquestion] at hask
        have hended := (congrArg Prod.fst (bind_of_error hask)).symm.trans hfault
        exact absurd (Except.error.inj hended) (ne_limited_of_questionOf hquestion session window)
      | ok q =>
        rw [hquestion] at hask
        cases (congrArg Prod.fst (bind_of_ok hask)).symm.trans hfault

/-- A turn leaves the configuration as it is. -/
theorem config_after (turn : Turn) (s : Assistant σ) : (turn.after s).config = s.config :=
  config_handle turn.model turn.message turn.history turn.context turn.items (turn.start s)

end Turn

open Turn

/-! ## Two assistants side by side -/

/-- Two assistants that have one row in common, and whose triggers leave it alone. -/
structure Alongside (key : String) (s s' : Assistant σ) : Prop where
  agree : s.world.Agree (· = key) s'.world
  registry : s.registry.Only (Trigger.Avoids (· = key))
  registry' : s'.registry.Only (Trigger.Avoids (· = key))
  executor : s'.executor = s.executor
  config : s'.config = s.config
  log : s.executor.log.key ≠ key

namespace Alongside

variable {turn : Turn} {s s' : Assistant σ} {session : Value}

/-- An assistant has all rows in common with itself. -/
theorem refl {key : String} (hregistry : s.registry.Only (Trigger.Avoids (· = key)))
    (hlog : s.executor.log.key ≠ key) : Alongside key s s :=
  ⟨.refl _ _, hregistry, hregistry, rfl, rfl, hlog⟩

/-- Which assistant comes first does not matter. -/
theorem symm {key : String} (h : Alongside key s s') : Alongside key s' s :=
  ⟨h.agree.symm, h.registry', h.registry, h.executor.symm, h.config.symm, h.executor ▸ h.log⟩

/-- Executions leave the row of a session alone. -/
theorem keeps_execute {x : Executor} (hlog : x.log.key ≠ budgetKey session) {v : World σ} (t : Trigger σ)
    (ht : t.Avoids (· = budgetKey session)) (params : Value) (c : Context) :
    Keeps (World.Agree (· = budgetKey session) · v) (x.execute t params c) := by
  refine Executor.keeps_agree_execute ?_ hlog ht params
  exact ne_of_getElem? (Budget.getElem?_keyOf _ _) (Chat.getElem?_budgetKey session) (by decide)

/-- Once its message is counted, a turn keeps the row of a session in common with any world. -/
theorem within_after (turn : Turn) (hregistry : s.registry.Only (Trigger.Avoids (· = budgetKey session)))
    (hlog : s.executor.log.key ≠ budgetKey session) {v : World σ}
    (hcharged : (charge (sessionOf turn.context) (turn.start s)).2.world.Agree
      (· = budgetKey session) v) :
    (turn.after s).Within (World.Agree (· = budgetKey session) · v)
      (Trigger.Avoids (· = budgetKey session)) s.executor := by
  obtain ⟨store, hleft⟩ := changesStore_charge (sessionOf turn.context) (turn.start s)
  refine snd_handle ⟨hcharged, ?_, ?_⟩ (fun t ht params c' _ => keeps_execute hlog t ht params c')
    turn.model turn.message turn.history turn.items
  · rw [hleft]
    exact hregistry
  · rw [hleft]
    rfl

/-- A turn of another session leaves the row of a session in common. -/
theorem after_left (h : Alongside (budgetKey session) s s') (hnow : s.world.now ≤ turn.now)
    (hkey : budgetKey (sessionOf turn.context) ≠ budgetKey session) :
    Alongside (budgetKey session) (turn.after s) s' := by
  have hstart : (turn.start s).Within (World.Agree (· = budgetKey session) · s'.world)
      (Trigger.Avoids (· = budgetKey session)) s.executor :=
    ⟨h.agree.advance hnow ⟨rfl, fun _ _ _ _ _ => rfl⟩, h.registry, rfl⟩
  have hcharged : (charge (sessionOf turn.context) (turn.start s)).2.Within
      (World.Agree (· = budgetKey session) · s'.world)
      (Trigger.Avoids (· = budgetKey session)) s.executor :=
    keeps_charge (fun w window limit hw _ => hw.withStore fun k hk =>
      (Budget.keptBut_allow ..).view_eq k fun heq => hkey (heq ▸ hk)) _ hstart
  have hafter := within_after turn h.registry h.log hcharged.world
  exact
    { agree := hafter.world
      registry := hafter.registry
      registry' := h.registry'
      executor := h.executor.trans hafter.executor.symm
      config := h.config.trans (config_after turn s).symm
      log := hafter.executor ▸ h.log }

/-- A turn leaves the row of a session in common when both assistants take it. -/
theorem after_both (h : Alongside (budgetKey session) s s') (hnow : s.world.now ≤ turn.now)
    (hnow' : s'.world.now ≤ turn.now) :
    Alongside (budgetKey session) (turn.after s) (turn.after s') := by
  by_cases hkey : budgetKey (sessionOf turn.context) = budgetKey session
  · have halike : (Scope.ofKeys (· = budgetKey (sessionOf turn.context))).Alike (turn.start s).world
        (turn.start s').world := by
      rw [hkey]
      exact h.agree.alike hnow hnow'
    obtain ⟨-, hcharged⟩ := charge_alike halike h.config
    rw [hkey] at hcharged
    -- What follows the count leaves the row alone, first in one of the assistants and then in the other.
    have hafter := within_after turn h.registry h.log (.of_alike hcharged)
    have hafter' := within_after turn h.registry' h.symm.log hafter.world.symm
    exact
      { agree := hafter'.world.symm
        registry := hafter.registry
        registry' := hafter'.registry
        executor := hafter'.executor.trans (h.executor.trans hafter.executor.symm)
        config := (config_after turn s').trans (h.config.trans (config_after turn s).symm)
        log := hafter.executor ▸ h.log }
  · exact (after_left (after_left h hnow hkey).symm hnow' hkey).symm

/-- A turn of the session is limited in both assistants, or in none. -/
theorem isLimited_eq (h : Alongside (budgetKey session) s s') (hnow : s.world.now ≤ turn.now)
    (hnow' : s'.world.now ≤ turn.now) (hsession : sessionOf turn.context = session) :
    turn.isLimited s' = turn.isLimited s := by
  have halike : (Scope.ofKeys (· = budgetKey (sessionOf turn.context))).Alike (turn.start s).world
      (turn.start s').world := by
    rw [hsession]
    exact h.agree.alike hnow hnow'
  have hcharged := charge_alike halike h.config
  unfold Turn.isLimited
  rw [hcharged.1]

end Alongside

/-! ## Runs of turns -/

variable {client kept removed : Client} {turns : List Turn} {s s' : Assistant σ}

/-- For each turn of a client, whether it is limited. -/
def limitedTurns (client : Client) : List Turn → Assistant σ → List Bool
  | [], _ => []
  | turn :: turns, s =>
    let rest := limitedTurns client turns (turn.after s)
    if client.owns turn.context then turn.isLimited s :: rest else rest

/-- Every turn begins after the one before it has ended. -/
def InTurn : List Turn → Assistant σ → Prop
  | [], _ => True
  | turn :: turns, s => s.world.now ≤ turn.now ∧ InTurn turns (turn.after s)

instance decidableInTurn : (turns : List Turn) → (s : Assistant σ) → Decidable (InTurn turns s)
  | [], _ => inferInstanceAs (Decidable True)
  | turn :: turns, s =>
    have := decidableInTurn turns (turn.after s)
    inferInstanceAs (Decidable (s.world.now ≤ turn.now ∧ InTurn turns (turn.after s)))

/-- The turns of a run without those of a client. -/
def turnsBut (client : Client) (turns : List Turn) : List Turn :=
  turns.filter fun turn => !client.owns turn.context

/-- Alongside each other, a run and the run without the turns of a client limit those of another client
alike. -/
theorem limitedTurns_eq (hkept : kept.IsKnown) (hremoved : removed.IsKnown) (hkeys : kept.key ≠ removed.key)
    (h : Alongside kept.key s s') (hturn : InTurn turns s) (hturn' : InTurn (turnsBut removed turns) s') :
    limitedTurns kept (turnsBut removed turns) s' = limitedTurns kept turns s := by
  induction turns generalizing s s' with
  | nil => rfl
  | cons turn turns ih =>
    obtain ⟨hnow, hturn⟩ := hturn
    unfold turnsBut at hturn' ⊢
    cases hgone : removed.owns turn.context with
    | true =>
      -- The turn is missing in the second run, and is none of those that are looked at.
      have hsession := hremoved.sessionOf_eq hgone
      have hother : kept.owns turn.context = false := by
        rw [Bool.eq_false_iff]
        intro howns
        have hsame := (hkept.sessionOf_eq howns).symm.trans hsession
        exact hkeys (congrArg budgetKey hsame)
      have hkey : budgetKey (sessionOf turn.context) ≠ kept.key := by
        rw [hsession]
        exact hkeys.symm
      rw [List.filter_cons_of_neg (by simp [hgone])] at hturn' ⊢
      refine (ih (h.after_left hnow hkey) hturn hturn').trans ?_
      simp only [limitedTurns, hother, Bool.false_eq_true, if_false]
    | false =>
      rw [List.filter_cons_of_pos (by simp [hgone])] at hturn' ⊢
      obtain ⟨hnow', hturn'⟩ := hturn'
      have hrest := ih (h.after_both hnow hnow') hturn hturn'
      cases howns : kept.owns turn.context with
      | true =>
        have hlimited := h.isLimited_eq hnow hnow' (hkept.sessionOf_eq howns)
        simp only [limitedTurns, howns, if_true, hlimited]
        exact congrArg _ hrest
      | false =>
        simp only [limitedTurns, howns, Bool.false_eq_true, if_false]
        exact hrest

/-! ## What triggers and the log see -/

/-- A trigger that leaves the row of the log alone writes no entries. -/
theorem addsNoEntry_of_avoids {log : Audit.Log} {t : Trigger σ} (h : t.Avoids (· = log.key)) :
    t.AddsNoEntry log := by
  intro params c w item hitem
  obtain ⟨hle, hagree⟩ := h params c w
  have hrow := hagree.view log.key rfl _ hle (Nat.le_refl _)
  rw [Audit.Log.itemsAt_congr hrow] at hitem
  exact (Audit.Log.itemsAt_later hle w.store).mem hitem

/-- A trigger whose calls are recorded leaves the same rows alone. -/
theorem avoids_recorded {keys : String → Prop} {t : Trigger σ} (h : t.Avoids keys) :
    t.recorded.Avoids keys := by
  intro params c w
  obtain ⟨hle, hagree⟩ := h params c ⟨w.now, w.store, w.site.1, w.isLost⟩
  exact ⟨hle, hagree.isLost, hagree.view⟩

/-- The built-in triggers, with their calls recorded, leave all rows alone and write no entries. -/
theorem only_recorded_builtin (keys : String → Prop) (log : Audit.Log) (sender : EmailAuthor.Sender)
    (hasShop : Bool) :
    let r : Registry (Site × List (Params × Context)) :=
      { builtins := (builtinTriggers sender hasShop).map Trigger.recorded }
    r.Only (Trigger.Avoids keys) ∧ r.Only (Trigger.IsRecorded log) := by
  constructor
  · refine Registry.only_builtins fun _ hrecorded => ?_
    obtain ⟨t, ht, rfl⟩ := List.mem_map.mp hrecorded
    exact avoids_recorded (Trigger.avoids_builtin keys ht)
  · refine Registry.only_builtins fun _ hrecorded => ?_
    obtain ⟨t, ht, rfl⟩ := List.mem_map.mp hrecorded
    exact ⟨t, rfl, addsNoEntry_of_avoids (Trigger.avoids_builtin _ ht)⟩

/-- A stored entry tells a session. -/
def IsEntryOf (session item : Value) : Prop :=
  ∃ entry : Audit.Entry, item = .dict entry.toDict ∧ entry.session = session

/-- In a turn, triggers are called in contexts of its session, and entries that come to the log tell it. -/
theorem adds_after (turn : Turn) {s : Assistant (σ × List (Params × Context))}
    (hregistry : s.registry.Only (Trigger.IsRecorded s.executor.log)) :
    (turn.after s).Within
      ((turn.start s).world.Adds s.executor.log (fun call => call.2.session = sessionOf turn.context)
        (IsEntryOf (sessionOf turn.context)))
      (Trigger.IsRecorded s.executor.log) s.executor := by
  refine keeps_handle (fun w window limit hw _ => hw.allow _ window limit) ?_ turn.model turn.message
    turn.history turn.items (turn.start s) ⟨.refl _ _ _ _, hregistry, rfl⟩
  rintro _ ⟨t, rfl, ht⟩ params c hsession
  exact (Executor.maintains_adds ht (fun _ _ => hsession)
    (fun _ _ _ _ _ _ => ⟨_, rfl, hsession⟩) _).execute params

/-- In every turn of a client, triggers are called in contexts of the session of the client, and entries
that come to the log tell it. -/
def SeesSession (client : Client) : List Turn → Assistant (σ × List (Params × Context)) → Prop
  | [], _ => True
  | turn :: turns, s =>
    (client.owns turn.context = true → (turn.start s).world.Adds s.executor.log
      (fun call => call.2.session = client.session) (IsEntryOf client.session) (turn.after s).world) ∧
    SeesSession client turns (turn.after s)

/-- Whatever turns a run has, those of a known client see its session. -/
theorem seesSession_of_isKnown (h : client.IsKnown) {s : Assistant (σ × List (Params × Context))}
    (hregistry : s.registry.Only (Trigger.IsRecorded s.executor.log)) : SeesSession client turns s := by
  induction turns generalizing s with
  | nil => trivial
  | cons turn turns ih =>
    have hafter := adds_after turn hregistry
    refine ⟨fun howns => ?_, ih ?_⟩
    · rw [← h.sessionOf_eq howns]
      exact hafter.world
    · rw [hafter.executor]
      exact hafter.registry

/-! ## Runs without a client -/

/-- Clients that bring no session are kept apart, as long as their joined texts differ and the digests of
these do not collide. In every run of turns of these and of any other clients, at instants that do not run
backwards, taking the turns of one of them away changes neither which turns of the other one are limited nor
the session that its triggers and its entries in the log see. The triggers leave the row of its budget alone,
and write no entries themselves. -/
theorem clients_are_apart (hkept : kept.IsKnown) (hremoved : removed.IsKnown)
    (hjoined : kept.joined ≠ removed.joined)
    (hdigest : Digest.md5 kept.joined = Digest.md5 removed.joined → kept.joined = removed.joined)
    {s : Assistant (σ × List (Params × Context))} (hlog : s.executor.log.key = "trigger_logs")
    (havoid : s.registry.Only (Trigger.Avoids (· = kept.key)))
    (hrecorded : s.registry.Only (Trigger.IsRecorded s.executor.log))
    (hturn : InTurn turns s) (hturn' : InTurn (turnsBut removed turns) s) :
    limitedTurns kept (turnsBut removed turns) s = limitedTurns kept turns s ∧
      SeesSession kept turns s ∧ SeesSession kept (turnsBut removed turns) s := by
  have hkeys : kept.key ≠ removed.key := Client.key_ne hjoined hdigest
  have hrow : s.executor.log.key ≠ kept.key :=
    ne_of_getElem? (Audit.Log.getElem?_key hlog) (Chat.getElem?_budgetKey kept.session) (by decide)
  refine ⟨limitedTurns_eq hkept hremoved hkeys (.refl havoid hrow) hturn hturn', ?_, ?_⟩
  · exact seesSession_of_isKnown hkept hrecorded
  · exact seesSession_of_isKnown hkept hrecorded

/-- An assistant of the sample site that lets a session send one message a minute. Calls are recorded. -/
def briefShop (executor : Executor) : Assistant (Site × List (Params × Context)) where
  world := ⟨0, {}, (Site.sample, []), false⟩
  registry := { builtins := (builtinTriggers {} true).map Trigger.recorded }
  executor
  config := { chatRule := ⟨.int 60, .int 1⟩ }

/-- A client asks for a mug, and the model answers with a directive. -/
def askForMug (client : Client) (now : Instant) : Turn where
  now
  model _ := .ok (.dict [("choices", .list [.dict [("message",
    .dict [("content", .text "Here it is. [ADD_TO_CART:12:1]")])]])])
  message := .text "A mug, please."
  history := .turns []
  context :=
    { address := .text client.address, agent := .text client.agent, timestamp := Timestamp.universal 0 }
  items := []

/-- Behind two addresses, the second message of a client in a minute is limited and the first one is not,
whether or not there has been a message from the other address. -/
theorem clients_are_apart_behind_two_addresses :
    let kept : Client := ⟨"10.0.0.1", "Browser"⟩
    let removed : Client := ⟨"10.0.0.2", "Browser"⟩
    let turns := [askForMug removed 0, askForMug kept 1, askForMug kept 2]
    let s := briefShop {}
    limitedTurns kept turns s = [false, true] ∧
      limitedTurns kept (turnsBut removed turns) s = [false, true] ∧
      ((askForMug kept 1).after ((askForMug removed 0).after s)).world.site.2.map (·.2.session) =
        [removed.session, kept.session] ∧
      SeesSession kept turns s ∧ SeesSession kept (turnsBut removed turns) s := by
  intro kept removed turns s
  have hdigests : Digest.md5 kept.joined ≠ Digest.md5 removed.joined := by decide +kernel
  obtain ⟨havoid, hrecorded⟩ := only_recorded_builtin (· = kept.key) s.executor.log {} true
  have hturns : InTurn turns s ∧ InTurn (turnsBut removed turns) s := by decide +kernel
  have hlimited : limitedTurns kept turns s = [false, true] := by decide +kernel
  obtain ⟨hsame, hsees⟩ := clients_are_apart ⟨by decide, by decide⟩ ⟨by decide, by decide⟩ (by decide)
    (fun h => absurd h hdigests) rfl havoid hrecorded hturns.1 hturns.2
  exact ⟨hlimited, hsame.trans hlimited, by decide +kernel, hsees⟩

/-- A trigger that looks how many messages a session has sent. -/
def counting (key : String) : Trigger (Site × List (Params × Context)) :=
  { AddToCart.trigger.recorded with
    perform := fun _ _ => do
      let count ← Action.tryStore key fun now s => Prod.map Except.ok id (s.get now key)
      return .value count }

/-- The instants may not run backwards. A trigger that only looks up an expired row has it deleted, and is
missed where the row is live once more. -/
theorem limited_by_clock_that_runs_back :
    let kept : Client := ⟨"10.0.0.1", "Browser"⟩
    let removed : Client := ⟨"10.0.0.2", "Browser"⟩
    let turns := [askForMug kept 0, askForMug removed 70000000, askForMug kept 1]
    let s := { briefShop {} with registry := { builtins := [counting kept.key] } }
    s.registry.Only (Trigger.Avoids (· = kept.key)) ∧
      limitedTurns kept turns s = [false, false] ∧
      limitedTurns kept (turnsBut removed turns) s = [false, true] := by
  intro kept removed turns s
  refine ⟨Registry.only_builtins fun t ht => ?_, by decide +kernel, by decide +kernel⟩
  obtain rfl := List.mem_singleton.mp ht
  have hleaves (key : String) (params : Params) (c : Context) :
      Action.Leaves (.ofKeys (· = key)) ((counting key).perform params c) :=
    (Action.Leaves.tryStore (fun now s k _ => congrFun (s.view_get now key) k)).bind
      fun _ => .ofExcept _ (.ok _)
  exact fun params c w => ⟨(hleaves _ params c w).now.ge, .of_alike (hleaves _ params c w)⟩

/-- Two clients whose address and agent join to one text share a session. The first message of one of them
is limited, because the other one has sent a message. -/
theorem first_message_limited_by_other_client :
    let kept : Client := ⟨"10.0.0.1", "1Browser"⟩
    let removed : Client := ⟨"10.0.0.11", "Browser"⟩
    let turns := [askForMug removed 0, askForMug kept 1]
    let s := briefShop {}
    kept.IsKnown ∧ removed.IsKnown ∧ kept ≠ removed ∧ kept.joined = removed.joined ∧
      limitedTurns kept turns s = [true] ∧ limitedTurns kept (turnsBut removed turns) s = [false] := by
  refine ⟨⟨by decide, by decide⟩, ⟨by decide, by decide⟩, ?_⟩
  decide +kernel

end Chat

end Concierge
