import Concierge.Chat.Turn
import Concierge.Proofs.Builtin.Growth
import Concierge.Proofs.Dispatch.Run

/-!
# Runs of an assistant

An assistant with the built-in triggers dispatches texts, fires triggers and answers messages, and
between the calls everything of its world but the outbox and the cart may change. Each call keeps it
that the registry serves the built-in triggers and that the cart has distinct keys, and so the outbox
and the cart grow as the calls tell, over a run of any length.
-/

namespace Concierge

/-- What a call tells; a call that ends with a fault tells nothing. -/
def Notice.given {α : Type} (told : α → List Notice) : Except Fault α → List Notice
  | .ok a => told a
  | .error _ => []

namespace Assistant

variable {sender : EmailAuthor.Sender} {hasShop : Bool} {s : Assistant Site} {c : Context}

/-- An assistant serves the built-in triggers, is interrupted by no part that is out of order, and has a
cart with distinct keys. -/
structure IsReady (sender : EmailAuthor.Sender) (hasShop : Bool) (s : Assistant Site) : Prop where
  serves : s.registry.Serves (builtinTriggers sender hasShop)
  ordinary : s.executor.outage.IsOrdinary
  isKeyed : s.world.site.shop.IsKeyed

/-- The site of an assistant grows as a call tells, and the assistant is ready for the next one. -/
structure Tells {α : Type} (sender : EmailAuthor.Sender) (hasShop : Bool) (s : Assistant Site)
    (told : α → List Notice) (ran : Except Fault α × Assistant Site) : Prop where
  grows : s.world.site.Grows (Notice.given told ran.1) ran.2.world.site
  isReady : ran.2.IsReady sender hasShop

namespace IsReady

/-- Nothing grows when the site is left and nothing is told. -/
theorem grows_nil (h : s.IsReady sender hasShop) : s.world.site.Grows [] s.world.site :=
  .of_silent h.isKeyed (List.forall_mem_nil _) (List.forall_mem_nil _) rfl rfl rfl

/-- Dispatching a text. Reports are given for a text only. -/
theorem tells_dispatch (h : s.IsReady sender hasShop) (v : Value) (c : Context) :
    Tells sender hasShop s (List.map (Notice.ofReport s.world.site c)) (dispatch v c s) ∧
      ∀ reports, (dispatch v c s).1 = .ok reports → reports = [] ∨ ∃ text, v = .text text := by
  obtain ⟨e, hsettles, hfound⟩ := Dispatch.settles_findIn (builtinTriggers sender hasShop) s.order v
  obtain ⟨hgiven, hserves⟩ := hsettles s.registry h.serves
  cases hfind : Dispatch.findIn s.order v s.registry with
  | mk e' r =>
    rw [hfind] at hgiven hserves
    subst hgiven
    cases e' with
    | error f =>
      rw [dispatch_of_unfound hfind]
      exact ⟨⟨h.grows_nil, hserves, h.ordinary, h.isKeyed⟩, fun reports hreports => by cases hreports⟩
    | ok ds =>
      obtain ⟨reports, after, hrun, hgrows⟩ := Dispatch.grows_executeAll (c := c) h.ordinary
        (fun d hd => (hfound ds rfl d hd).1) h.isKeyed
      rw [dispatch_of_found hfind, hrun]
      refine ⟨⟨hgrows, hserves, h.ordinary, hgrows.isKeyed⟩, ?_⟩
      rintro _ ⟨rfl⟩
      cases ds with
      | nil =>
        cases hrun
        exact .inl rfl
      | cons d ds => exact .inr (hfound _ rfl d List.mem_cons_self).2

/-- Firing a trigger. -/
theorem tells_fire (h : s.IsReady sender hasShop) (id : String) (params : Value)
    (given : Option Context) :
    Tells sender hasShop s
      (fun r => [.ofResult s.world.site (given.getD (trialContext s.world.now)) id r])
      (fire id params given s) := by
  obtain ⟨e, hsettles, hfound⟩ := Registry.settles_lookUp (builtinTriggers sender hasShop) id
  obtain ⟨hgiven, hserves⟩ := hsettles s.registry h.serves
  cases hlookUp : Registry.lookUp id s.registry with
  | mk e' r =>
    rw [hlookUp] at hgiven hserves
    subst hgiven
    cases e' with
    | error f =>
      rw [fire_of_unfound hlookUp]
      exact ⟨h.grows_nil, hserves, h.ordinary, h.isKeyed⟩
    | ok t =>
      obtain ⟨ht, rfl⟩ := hfound t rfl
      rw [fire_of_found hlookUp]
      obtain ⟨result, after, hrun, hgrows⟩ := s.executor.grows_execute
        (c := given.getD (trialContext s.world.now)) h.ordinary ht h.isKeyed params
      dsimp only
      rw [hrun]
      exact ⟨hgrows, hserves, h.ordinary, hgrows.isKeyed⟩

end IsReady

end Assistant

/-! ## Chat -/

namespace Assistant

variable {σ α β : Type}

/-- A computation changes nothing of an assistant but the store. -/
def ChangesStore (run : Run σ α) : Prop :=
  ∀ s, ∃ store, (run s).2 = { s with world := { s.world with store } }

namespace ChangesStore

/-- A computation that changes nothing. -/
theorem of_eq {run : Run σ α} (h : ∀ s, (run s).2 = s) : ChangesStore run :=
  fun s => ⟨s.world.store, h s⟩

/-- One computation after another. -/
theorem bind {first : Run σ α} {next : α → Run σ β} (hfirst : ChangesStore first)
    (hnext : ∀ a, ChangesStore (next a)) : ChangesStore (first >>= next) := by
  intro s
  obtain ⟨store, hleft⟩ := hfirst s
  rcases bind_cases first next s with ⟨f, left, hrun, hbind⟩ | ⟨a, left, hrun, hbind⟩
  · rw [hrun] at hleft
    rw [hbind]
    exact ⟨store, hleft⟩
  · rw [hrun] at hleft
    subst hleft
    rw [hbind]
    exact hnext a _

/-- Acting on the store. -/
theorem tryStore (key : String) (f : Instant → Store → Except Fault α × Store) :
    ChangesStore (act (Action.tryStore key f) : Run σ α) := by
  intro s
  have hworld : ∃ store, (Action.tryStore key f s.world).2 = { s.world with store } := by
    unfold Action.tryStore
    split
    · exact ⟨s.world.store, rfl⟩
    · exact ⟨_, rfl⟩
  obtain ⟨store, hworld⟩ := hworld
  exact ⟨store, congrArg (fun world => { s with world }) hworld⟩

end ChangesStore

end Assistant

namespace Chat

open Concierge.Assistant

variable {σ : Type}

/-- Counting a message changes the store only. -/
theorem changesStore_charge (session : Value) : ChangesStore (charge session : Run σ Unit) := by
  refine .bind (.of_eq fun _ => rfl) fun s => (ChangesStore.tryStore _ _).bind fun admitted => ?_
  cases admitted with
  | true => exact .of_eq fun _ => rfl
  | false => exact .of_eq fun _ => rfl

/-- Preparing a question changes the store only. -/
theorem changesStore_ask (message : Value) (history : History) (c : Context) (items : List ContentItem) :
    ChangesStore (ask message history c items : Run σ Question) := by
  refine (changesStore_charge (sessionOf c)).bind fun _ => .bind (.of_eq fun _ => rfl) fun s =>
    .bind (.of_eq fun _ => rfl) fun userMessage => ?_
  dsimp only
  split
  · exact .of_eq fun _ => rfl
  · exact .bind (.of_eq fun _ => rfl) fun _ => .of_eq fun _ => rfl

end Chat

namespace Assistant.IsReady

open Concierge.Chat

variable {sender : EmailAuthor.Sender} {hasShop : Bool} {s left : Assistant Site} {c : Context}

/-- Another store leaves an assistant ready. -/
theorem withStore (h : s.IsReady sender hasShop) (store : Store) :
    IsReady sender hasShop { s with world := { s.world with store } } :=
  ⟨h.serves, h.ordinary, h.isKeyed⟩

/-- Removing directives asks the registry only, and a text can always be stripped of them. -/
theorem strip_cases (h : s.IsReady sender hasShop) (v : Value) :
    (strip v s).2.world = s.world ∧ (strip v s).2.IsReady sender hasShop ∧
      ∀ text, v = .text text → ∃ shown, (strip v s).1 = .ok shown := by
  obtain ⟨e, hsettles⟩ := Dispatch.settles_stripIn (builtinTriggers sender hasShop) v
  refine ⟨rfl, ⟨(hsettles _ h.serves).2, h.ordinary, h.isKeyed⟩, ?_⟩
  rintro text rfl
  obtain ⟨shown, hshown⟩ := Dispatch.settles_strip (builtinTriggers sender hasShop) text
  exact ⟨shown, (hshown _ h.serves).1⟩

/-- Answering with the content of a completion. What was done is told, since stripping the content of
directives cannot fail when there were any. -/
theorem tells_answer (h : s.IsReady sender hasShop) (q : Question) (c : Context) (content : Value) :
    Tells sender hasShop s (fun reply : Reply => reply.reports.map (Notice.ofReport s.world.site c))
      (answer q c content s) := by
  obtain ⟨htells, hreports⟩ := h.tells_dispatch content (q.context c)
  unfold answer
  rcases bind_cases (dispatch content (q.context c)) _ s with
    ⟨f, left, hrun, hbind⟩ | ⟨reports, left, hrun, hbind⟩
  · rw [hbind]
    rw [hrun] at htells
    exact ⟨htells.grows, htells.isReady⟩
  · rw [hbind]
    rw [hrun] at htells hreports
    obtain ⟨hworld, hready, hshown⟩ := htells.isReady.strip_cases content
    have hgrows := htells.grows
    rw [← hworld] at hgrows
    rcases bind_cases (strip content) _ left with
      ⟨f, stripped, hstrip, hbind'⟩ | ⟨shown, stripped, hstrip, hbind'⟩
    · rw [hbind']
      rw [hstrip] at hgrows hready hshown
      rcases hreports reports rfl with rfl | ⟨text, rfl⟩
      · exact ⟨hgrows, hready⟩
      · obtain ⟨shown, hshown⟩ := hshown text rfl
        cases hshown
    · rw [hbind']
      rw [hstrip] at hgrows hready
      exact ⟨hgrows, hready⟩

/-- One turn of a chat. -/
theorem tells_handle (h : s.IsReady sender hasShop) (model : List Message → Except Fault Value)
    (message : Value) (history : History) (c : Context) (items : List ContentItem) :
    Tells sender hasShop s (fun reply : Reply => reply.reports.map (Notice.ofReport s.world.site c))
      (handle model message history c items s) := by
  obtain ⟨store, hleft⟩ := changesStore_ask message history c items s
  unfold handle
  have hready := h.withStore store
  rw [← hleft] at hready
  have hnothing : s.world.site.Grows [] (ask message history c items s).2.world.site := by
    rw [hleft]
    exact h.grows_nil
  rcases bind_cases (ask message history c items) _ s with
    ⟨f, left, hrun, hbind⟩ | ⟨q, left, hrun, hbind⟩
  · rw [hbind]
    rw [hrun] at hready hnothing
    exact ⟨hnothing, hready⟩
  · rw [hbind]
    rw [hrun] at hleft hready hnothing
    cases model q.messages with
    | error f => exact ⟨hnothing, hready⟩
    | ok completion =>
      dsimp only
      cases Completion.reply completion with
      | error f => exact ⟨hnothing, hready⟩
      | ok content =>
        obtain ⟨hgrows, hlast⟩ := hready.tells_answer q c content
        rw [show left.world.site = s.world.site from congrArg (·.world.site) hleft] at hgrows
        exact ⟨hgrows, hlast⟩

end Assistant.IsReady

/-! ## Runs -/

namespace Assistant

open Concierge.Chat

/-- What an assistant is asked to do, and what happens between its calls. -/
inductive Event where
  /-- The directives of a text are executed. -/
  | dispatch (text : Value) (c : Context)
  /-- A trigger is fired, on trial when there is no context. -/
  | fire (id : String) (params : Value) (given : Option Context)
  /-- A message is answered by a model. -/
  | chat (model : List Message → Except Fault Value) (message : Value) (history : History) (c : Context)
      (items : List ContentItem)
  /-- Another world takes the place of the old one; only the outbox and the cart remain. The time and
  the store may be others then, the settings of the triggers among it, and so may the content, the
  catalogue, and what the mailer and the cart accept. -/
  | meanwhile (w : World Site)

/-- A world with the outbox and the cart of a site. -/
def keeping (site : Site) (w : World Site) : World Site :=
  { w with site :=
    { w.site with
      mailer := { w.site.mailer with outbox := site.mailer.outbox }
      shop := { w.site.shop with cart := site.shop.cart, issued := site.shop.issued } } }

/-- What a call tells, and the assistant that it leaves. -/
def telling {α : Type} (told : α → List Notice) (ran : Except Fault α × Assistant Site) :
    List Notice × Assistant Site := (Notice.given told ran.1, ran.2)

/-- What is told in an event, and the assistant that it leaves. -/
def Event.run (s : Assistant Site) : Event → List Notice × Assistant Site
  | dispatch text c => telling (List.map (.ofReport s.world.site c)) (Assistant.dispatch text c s)
  | fire id params given =>
    telling (fun r => [.ofResult s.world.site (given.getD (trialContext s.world.now)) id r])
      (Assistant.fire id params given s)
  | chat model message history c items =>
    telling (fun reply : Reply => reply.reports.map (.ofReport s.world.site c))
      (handle model message history c items s)
  | meanwhile w => ([], { s with world := keeping s.world.site w })

/-- What is told in events one after another, and the assistant that they leave. -/
def runAll : List Event → Assistant Site → List Notice × Assistant Site
  | [], s => ([], s)
  | e :: rest, s =>
    let (told, left) := e.run s
    let (more, after) := runAll rest left
    (told ++ more, after)

variable {sender : EmailAuthor.Sender} {hasShop : Bool} {s : Assistant Site}

/-- In an event the site grows as it tells, and the assistant is ready for the next one. -/
theorem IsReady.run (h : s.IsReady sender hasShop) (e : Event) :
    s.world.site.Grows (e.run s).1 (e.run s).2.world.site ∧ (e.run s).2.IsReady sender hasShop := by
  cases e with
  | dispatch text c =>
    obtain ⟨hgrows, hready⟩ := (h.tells_dispatch text c).1
    exact ⟨hgrows, hready⟩
  | fire id params given =>
    obtain ⟨hgrows, hready⟩ := h.tells_fire id params given
    exact ⟨hgrows, hready⟩
  | chat model message history c items =>
    obtain ⟨hgrows, hready⟩ := h.tells_handle model message history c items
    exact ⟨hgrows, hready⟩
  | meanwhile w =>
    have hgrows : s.world.site.Grows [] (keeping s.world.site w).site :=
      .of_silent h.isKeyed (List.forall_mem_nil _) (List.forall_mem_nil _) rfl rfl rfl
    exact ⟨hgrows, h.serves, h.ordinary, hgrows.isKeyed⟩

/-- In events one after another the site grows as they tell, and the assistant is ready for more. -/
theorem IsReady.runAll (h : s.IsReady sender hasShop) (events : List Event) :
    s.world.site.Grows (runAll events s).1 (runAll events s).2.world.site ∧
      (runAll events s).2.IsReady sender hasShop := by
  induction events generalizing s with
  | nil => exact ⟨h.grows_nil, h⟩
  | cons e rest ih =>
    obtain ⟨hfirst, hready⟩ := h.run e
    obtain ⟨hlater, hlast⟩ := ih hready
    exact ⟨hfirst.trans hlater, hlast⟩

end Assistant

end Concierge
