import Concierge.Chat.Turn
import Concierge.Proofs.Dispatch.Run
import Concierge.Proofs.Executor.Invariant
import Concierge.Proofs.Registry.Only

/-!
# Invariants of an assistant

Whatever is asked of an assistant, it executes triggers that its registry gives and, in a chat, counts a
message. An invariant of the world that both of these keep is kept by every request, and by every run of
requests.
-/

namespace Concierge

variable {σ : Type} {P : Trigger σ → Prop} {I : World σ → Prop} {x : Executor}

/-! ## Directives -/

namespace Dispatch

open Concierge.Registry

/-- Looking for directives brings no other triggers. -/
theorem keeps_findIn (order : DispatchOrder) (v : Value) :
    Keeps (Only P) (findIn order v : Registry.Use σ (List (Directive σ))) := by
  unfold findIn
  split
  · unfold find
    split
    · exact .pure []
    · exact keeps_all.bind fun _ => .pure _
  · split
    · exact .pure []
    · refine keeps_all.bind fun ts => ?_
      split
      · exact .pure []
      · exact .of_silent fun _ => rfl

/-- The triggers of directives that are found are among those that the registry gives. -/
theorem gives_findIn (order : DispatchOrder) (v : Value) :
    Gives (Only P) (findIn order v : Registry.Use σ (List (Directive σ))) fun ds => ∀ d ∈ ds, P d.trigger := by
  unfold findIn
  split
  · unfold find
    split
    · exact .pure (List.forall_mem_nil _)
    · exact .bind keeps_all gives_all fun ts hts => .pure fun d hd =>
        hts _ (Directive.trigger_mem_of_findAll hd)
  · split
    · exact .pure (List.forall_mem_nil _)
    · refine .bind keeps_all gives_all fun ts _ => ?_
      split
      · exact .pure (List.forall_mem_nil _)
      · rintro r - ds hds
        cases hds

/-- Stripping a value brings no other triggers. -/
theorem keeps_stripIn (v : Value) : Keeps (Only P) (stripIn v : Registry.Use σ String) := by
  unfold stripIn
  split
  · exact keeps_all.bind fun _ => .pure _
  · exact keeps_all.bind fun _ => .of_silent fun _ => rfl

/-- Directives one after another keep what each execution keeps. -/
theorem keeps_executeAll {c : Context} {ds : List (Directive σ)}
    (h : ∀ d ∈ ds, ∀ params, Keeps I (x.execute d.trigger params c)) : Keeps I (executeAll x c ds) := by
  induction ds with
  | nil => exact .pure []
  | cons d ds ih =>
    obtain ⟨hd, hds⟩ := List.forall_mem_cons.mp h
    refine ((hd _).bind fun _ => .pure _).bind fun report => ?_
    exact (ih hds).bind fun reports => .pure _

end Dispatch

/-! ## Requests -/

/-- A step that follows a value which may be missing was taken with that value. -/
theorem Assistant.ok_of_ofExcept {α β : Type} {e : Except Fault α} {next : α → Assistant.Run σ β}
    {s left : Assistant σ} {b : β} (h : (Assistant.ofExcept e >>= next) s = (.ok b, left)) :
    ∃ a, e = .ok a ∧ next a s = (.ok b, left) := by
  obtain ⟨a, mid, hfirst, hrest⟩ := Concierge.ok_of_bind h
  obtain ⟨rfl, rfl⟩ := Prod.mk.inj hfirst
  exact ⟨a, rfl, hrest⟩

/-- The question of a message belongs to the session of its context. -/
theorem Chat.session_of_ask {message : Value} {history : Chat.History} {c : Context}
    {items : List ContentItem} {q : Chat.Question} {s left : Assistant σ}
    (h : Chat.ask message history c items s = (.ok q, left)) : q.session = Chat.sessionOf c := by
  obtain ⟨-, mid, -, hrest⟩ := ok_of_bind h
  rw [get_bind_eq] at hrest
  obtain ⟨userMessage, -, hrest⟩ := Assistant.ok_of_ofExcept hrest
  dsimp only at hrest
  split at hrest
  · cases hrest
  · obtain ⟨turns, -, hrest⟩ := Assistant.ok_of_ofExcept hrest
    cases hrest
    rfl

namespace Assistant

/-- An assistant whose world has a property, with an executor and with triggers that have a property. -/
structure Within (I : World σ → Prop) (P : Trigger σ → Prop) (x : Executor) (s : Assistant σ) : Prop where
  world : I s.world
  registry : s.registry.Only P
  executor : s.executor = x

/-- What can be asked of an assistant. -/
inductive Request where
  | dispatch (text : Value) (c : Context)
  | fire (id : String) (params : Value) (c : Option Context)
  | chat (model : List Message → Except Fault Value) (message : Value) (history : Chat.History)
      (c : Context) (items : List ContentItem)

/-- The assistant that a request leaves, whatever the request comes to. -/
def Request.after (s : Assistant σ) : Request → Assistant σ
  | dispatch text c => (Assistant.dispatch text c s).2
  | fire id params c => (Assistant.fire id params c s).2
  | chat model message history c items => (Chat.handle model message history c items s).2

/-- Some microseconds later. -/
def later (wait : Nat) (s : Assistant σ) : Assistant σ :=
  { s with world := { s.world with now := s.world.now + wait } }

/-- Steps one after another, each of them some microseconds after the one before it has ended. -/
def timed {α : Type} (step : Assistant σ → α → Assistant σ) (run : List (Nat × α)) (s : Assistant σ) :
    Assistant σ :=
  run.foldl (fun s (wait, a) => step (s.later wait) a) s

/-- What each step keeps, and what time keeps, all steps together keep. -/
theorem timed_invariant {α : Type} {step : Assistant σ → α → Assistant σ} {J : Assistant σ → Prop}
    {run : List (Nat × α)} (hlater : ∀ s wait, J s → J (s.later wait))
    (hstep : ∀ s, ∀ e ∈ run, J s → J (step s e.2)) {s : Assistant σ} (hs : J s) :
    J (timed step run s) := by
  induction run generalizing s with
  | nil => exact hs
  | cons e rest ih =>
    have hfirst := hstep _ e List.mem_cons_self (hlater s e.1 hs)
    exact ih (fun s e' he' => hstep s e' (List.mem_cons_of_mem e he')) hfirst

/-- An execution of any trigger of the assistant, and a message that is counted, keep an invariant. -/
structure Maintains (I : World σ → Prop) (P : Trigger σ → Prop) (x : Executor) : Prop where
  executes : ∀ t, P t → ∀ params c, Keeps I (x.execute t params c)
  counts : ∀ w session window limit, I w → w.isLost = false → I { w with
    store := (Budget.allow w.now (Chat.budgetKey session) window limit w.store).2 }

/-- Using the registry keeps what holds of an assistant if it brings no other triggers. -/
theorem keeps_use {α : Type} {u : Registry.Use σ α} (h : Keeps (Registry.Only P) u) :
    Keeps (Within I P x) (use u) :=
  fun s hs => ⟨hs.world, h s.registry hs.registry, hs.executor⟩

/-- Using the registry of an assistant gives what the registry gives. -/
theorem gives_use {α : Type} {u : Registry.Use σ α} {Q : α → Prop} (h : Gives (Registry.Only P) u Q) :
    Gives (Within I P x) (use u) Q :=
  fun s hs a ha => h s.registry hs.registry a ha

/-- Acting on the world keeps what holds of an assistant if it keeps what holds of the world. -/
theorem keeps_act {α : Type} {a : Action σ α} (h : Keeps I a) : Keeps (Within I P x) (act a) :=
  fun s hs => ⟨h s.world hs.world, hs.registry, hs.executor⟩

/-- The assistant that is read is the one that there is. -/
theorem gives_get : Gives (Within I P x) (get : Run σ (Assistant σ)) (Within I P x) := by
  rintro s hs _ ⟨rfl⟩
  exact hs

/-- Looking for directives. -/
theorem keeps_find (text : Value) : Keeps (Within I P x) (find text : Run σ (List (Directive σ))) :=
  Keeps.get.bind fun _ => keeps_use (Dispatch.keeps_findIn _ text)

/-- The directives that an assistant finds belong to its triggers. -/
theorem gives_find (text : Value) :
    Gives (Within I P x) (find text : Run σ (List (Directive σ))) fun ds => ∀ d ∈ ds, P d.trigger :=
  .bind .get gives_get fun _ _ => gives_use (Dispatch.gives_findIn _ text)

variable {c : Context}

/-- Dispatching a text executes triggers in the context that is given. -/
theorem keeps_dispatch (h : ∀ t, P t → ∀ params, Keeps I (x.execute t params c)) (text : Value) :
    Keeps (Within I P x) (Assistant.dispatch text c : Run σ (List Report)) := by
  refine (keeps_find text).bind_of (gives_find text) fun ds hds => ?_
  refine Keeps.get.bind_of gives_get fun s hs => keeps_act ?_
  rw [hs.executor]
  exact Dispatch.keeps_executeAll fun d hd params => h _ (hds d hd) params

/-- Counting a message counts it for its session. -/
theorem keeps_charge {session : Value} (h : ∀ w window limit, I w → w.isLost = false → I { w with
      store := (Budget.allow w.now (Chat.budgetKey session) window limit w.store).2 }) :
    Keeps (Within I P x) (Chat.charge session : Run σ Unit) := by
  refine Keeps.get.bind fun s => (keeps_act ?_).bind fun admitted => ?_
  · exact Action.keeps_tryStore fun w => h w _ _
  · split
    · exact .of_silent fun _ => rfl
    · exact .pure ()

/-- Answering with the content of a completion executes triggers in the session of the question. -/
theorem keeps_answer {session : Value}
    (h : ∀ t, P t → ∀ params c, c.session = session → Keeps I (x.execute t params c))
    {q : Chat.Question} (hq : q.session = session) (c : Context) (content : Value) :
    Keeps (Within I P x) (Chat.answer q c content : Run σ Chat.Reply) :=
  (keeps_dispatch (fun t ht params => h t ht params _ hq) content).bind fun _ =>
    (keeps_use (Dispatch.keeps_stripIn content)).bind fun _ => Keeps.get.bind fun _ => .pure _

/-- Once its message is counted, a turn of a chat executes triggers in its session. -/
theorem snd_handle {s : Assistant σ} (hcharged : Within I P x (Chat.charge (Chat.sessionOf c) s).2)
    (h : ∀ t, P t → ∀ params c', c'.session = Chat.sessionOf c → Keeps I (x.execute t params c'))
    (model : List Message → Except Fault Value) (message : Value) (history : Chat.History)
    (items : List ContentItem) :
    Within I P x (Chat.handle model message history c items s).2 := by
  -- Preparing the question changes nothing, and gives a question of the session.
  have hasked : Within I P x (Chat.ask message history c items s).2 := by
    refine Keeps.snd_bind hcharged fun _ => Keeps.get.bind fun s => ?_
    refine Keeps.bind (.of_silent fun _ => rfl) fun userMessage => ?_
    dsimp only
    split
    · exact .of_silent fun _ => rfl
    · exact Keeps.bind (.of_silent fun _ => rfl) fun _ => .pure _
  rcases bind_cases (Chat.ask message history c items) _ s with
    ⟨f, left, hrun, hbind⟩ | ⟨q, left, hrun, hbind⟩
  · rw [hrun] at hasked
    unfold Chat.handle
    rw [hbind]
    exact hasked
  · rw [hrun] at hasked
    unfold Chat.handle
    rw [hbind]
    cases model q.messages with
    | error f => exact hasked
    | ok completion =>
      dsimp only
      cases Completion.reply completion with
      | error e => exact hasked
      | ok content => exact keeps_answer h (Chat.session_of_ask hrun) c content left hasked

/-- A turn of a chat counts its message for its session, and executes triggers in it. -/
theorem keeps_handle (hcounts : ∀ w window limit, I w → w.isLost = false → I { w with
      store := (Budget.allow w.now (Chat.budgetKey (Chat.sessionOf c)) window limit w.store).2 })
    (h : ∀ t, P t → ∀ params c', c'.session = Chat.sessionOf c → Keeps I (x.execute t params c'))
    (model : List Message → Except Fault Value) (message : Value) (history : Chat.History)
    (items : List ContentItem) :
    Keeps (Within I P x) (Chat.handle model message history c items : Run σ Chat.Reply) :=
  fun s hs => snd_handle (keeps_charge hcounts s hs) h model message history items

namespace Maintains

variable (h : Maintains I P x)
include h

/-- Firing a trigger. -/
theorem fire (id : String) (params : Value) (c : Option Context) :
    Keeps (Within I P x) (Assistant.fire id params c : Run σ Result) := by
  refine (keeps_use (Registry.keeps_lookUp id)).bind_of (gives_use (Registry.gives_lookUp id))
    fun t ht => ?_
  refine Keeps.get.bind_of gives_get fun s hs => keeps_act ?_
  rw [hs.executor]
  exact h.executes t ht params _

/-- Whatever is asked of an assistant keeps the invariant. -/
theorem request {s : Assistant σ} (hs : s.Within I P x) (r : Request) : (r.after s).Within I P x := by
  cases r with
  | dispatch text c => exact keeps_dispatch (fun t ht params => h.executes t ht params c) text s hs
  | fire id params c => exact h.fire id params c s hs
  | chat model message history c items =>
    exact keeps_handle (fun w => h.counts w _) (fun t ht params c' _ => h.executes t ht params c')
      model message history items s hs

end Maintains

end Assistant

end Concierge
