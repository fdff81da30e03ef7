import Concierge.Proofs.Assistant.Invariant
import Concierge.Proofs.Audit.Items
import Concierge.Proofs.Executor.Calls
import Concierge.Proofs.Executor.Spares
import Concierge.Proofs.Store.Keys
import Concierge.Proofs.Store.Settings

/-!
# Settings change when they are written

Settings, budgets and the log of an assistant lie in one store. Whatever is asked of the assistant, and
whatever else is counted, recorded or purged, the settings of a trigger stay as they are until someone writes
them. In particular a trigger that has been switched off stays off, and while it is off no request lets it
act, adds an entry for it or counts a hit for it.
-/

namespace Concierge

variable {σ α : Type}

/-! ## What is done to the store between requests -/

/-- What hits are counted for: a trigger in a session, or the messages of a session. -/
inductive Budget.Counter where
  | trigger (id : String) (session : Value)
  | chat (session : Value)

/-- The key that hits are counted under. -/
def Budget.Counter.key : Counter → String
  | trigger id session => keyOf id session
  | chat session => Chat.budgetKey session

/-- A use of the store that does not write the settings of a trigger: it is about a budget, the log, the
settings of another trigger, or rows that have expired, or it only reads settings. -/
inductive Use.IsRoutine (log : Audit.Log) (id : String) : Use → Prop
  | hit (c : Budget.Counter) (window limit : Value) : IsRoutine log id (.hit c.key window limit)
  | remaining (c : Budget.Counter) (limit : Value) : IsRoutine log id (.remaining c.key limit)
  | reset (c : Budget.Counter) : IsRoutine log id (.reset c.key)
  | append (entry : Audit.Entry) : IsRoutine log id (.append log entry)
  | recent (limit : Option Int) : IsRoutine log id (.recent log limit)
  | clear : IsRoutine log id (.clear log)
  | count : IsRoutine log id (.count log)
  | purge : IsRoutine log id (.call .purge)
  | settings (other : String) : IsRoutine log id (.settings other)
  | resolve (d : Definition) : IsRoutine log id (.resolve d)
  | isEnabled (d : Definition) : IsRoutine log id (.isEnabled d)
  | configure {other : String} (values : Dict Value) (hne : other ≠ id) :
      IsRoutine log id (.configure other values)
  | update {other : String} (changes : Dict Value) (hne : other ≠ id) :
      IsRoutine log id (.update other changes)
  | setEnabled {d : Definition} (on : Value) (hne : d.id ≠ id) : IsRoutine log id (.setEnabled d on)

/-- The key of a counter is never a key of settings. -/
theorem Budget.Counter.key_ne (c : Counter) (id : String) : c.key ≠ Settings.keyOf id := by
  cases c with
  | trigger id' session =>
    exact ne_of_getElem? (getElem?_keyOf id' session) (Settings.getElem?_keyOf id) (by decide)
  | chat session =>
    exact ne_of_getElem? (Chat.getElem?_budgetKey session) (Settings.getElem?_keyOf id) (by decide)

/-- The usual key of the log is never a key of settings. -/
theorem Audit.Log.key_ne {log : Audit.Log} (h : log.key = "trigger_logs") (id : String) :
    log.key ≠ Settings.keyOf id :=
  ne_of_getElem? (getElem?_key h) (Settings.getElem?_keyOf id) (by decide)

/-- A use that does not write the settings of a trigger leaves them. -/
theorem Use.IsRoutine.view_after {log : Audit.Log} {id : String} {u : Use} (hu : u.IsRoutine log id)
    (hlog : log.key = "trigger_logs") {now : Instant} {s : Store} (hkeyed : s.IsKeyed) :
    (u.after now s).view now (Settings.keyOf id) = s.view now (Settings.keyOf id) := by
  have helsewhere {u : Use} {key : String} (hown : u.key? = some key) (hne : key ≠ Settings.keyOf id) :
      (u.after now s).view now (Settings.keyOf id) = s.view now (Settings.keyOf id) :=
    (Use.keptBut_after hown now s).view_eq _ (Ne.symm hne)
  have hread (key : String) :
      (s.touch now key).2.view now (Settings.keyOf id) = s.view now (Settings.keyOf id) :=
    congrFun (Store.view_touch now key s) _
  have hother {other : String} (hne : other ≠ id) : Settings.keyOf other ≠ Settings.keyOf id :=
    fun heq => hne (Settings.keyOf_injective heq)
  cases hu with
  | hit c | remaining c | reset c => exact helsewhere rfl (c.key_ne id)
  | append | recent | clear | count => exact helsewhere rfl (Audit.Log.key_ne hlog id)
  | purge => exact Use.view_after hkeyed (by simp [Use.key?, Store.Call.key?])
  | settings other => exact hread (Settings.keyOf other)
  | resolve d => exact hread (Settings.keyOf d.id)
  | isEnabled d => exact hread (Settings.keyOf d.id)
  | configure _ hne | update _ hne => exact helsewhere rfl (hother hne)
  | setEnabled _ hne => exact helsewhere rfl (hother hne)

namespace Assistant

/-- What happens to an assistant: a request, or a use of its store by one of its parts. -/
inductive Operation where
  | ask (request : Request)
  | use (u : Use)

/-- The assistant that an operation leaves. A store that is gone cannot be used. -/
def Operation.after (s : Assistant σ) : Operation → Assistant σ
  | ask request => request.after s
  | use u =>
    if s.world.isLost then s
    else { s with world := { s.world with store := u.after s.world.now s.world.store } }

/-- An operation does not write the settings of a trigger. -/
def Operation.IsRoutine (log : Audit.Log) (id : String) : Operation → Prop
  | ask _ => True
  | use u => u.IsRoutine log id

/-- The settings of a trigger. -/
def settingsOf (d : Definition) (s : Assistant σ) : Except Fault (Dict Value) :=
  (Settings.resolve s.world.now d s.world.store).1

/-- Whether a trigger is switched on. -/
def isSwitchedOn (d : Definition) (s : Assistant σ) : Except Fault Bool :=
  (Settings.isEnabled s.world.now d s.world.store).1

/-- The assistant when a trigger has been switched on or off. -/
def switched (d : Definition) (on : Bool) (s : Assistant σ) : Assistant σ :=
  { s with world := { s.world with
    store := (Settings.setEnabled s.world.now d (.bool on) s.world.store).2 } }

end Assistant

/-! ## Settings are spared -/

/-- A trigger whose settings row is spared keeps its settings. -/
theorem World.Spares.resolve_eq {keys : String → Prop} {w w' : World σ} (h : w.Spares keys w')
    {d : Definition} (hkey : keys (Settings.keyOf d.id))
    (hlasting : Settings.IsLasting w.now d.id w.store) :
    (Settings.resolve w'.now d w'.store).1 = (Settings.resolve w.now d w.store).1 :=
  Settings.resolve_congr ((h.view _ hkey _ (Nat.le_refl _)).trans (hlasting.view_later h.le))

/-- A settings row that is spared does not expire if it has not. -/
theorem World.Spares.isLasting {keys : String → Prop} {w w' : World σ} (h : w.Spares keys w')
    {id : String} (hkey : keys (Settings.keyOf id)) (hlasting : Settings.IsLasting w.now id w.store) :
    Settings.IsLasting w'.now id w'.store := by
  have hview := (h.view _ hkey _ (Nat.le_refl _)).trans (hlasting.view_later h.le)
  constructor
  · rw [hview]
    exact hlasting.expiry
  · rw [Store.valueAt_eq, hview, ← Store.valueAt_eq]
    exact hlasting.nodup

namespace Assistant

variable {s : Assistant σ} {keys : String → Prop} {P : Trigger σ → Prop}

/-- Requests spare rows that are neither those of budgets nor that of the log, as long as triggers only
read. -/
theorem maintains_spares (x : Executor) (w : World σ) (hlog : ¬ keys x.log.key)
    (hbudget : ∀ c : Budget.Counter, ¬ keys c.key) (hreads : ∀ t, P t → t.OnlyReads) :
    Maintains (w.Spares keys) P x where
  executes t ht params c :=
    Executor.keeps_spares_execute w (hbudget (.trigger t.id c.session)) hlog (hreads t ht) params
  counts _ session _ _ hw' _ := hw'.keptBut (Budget.keptBut_allow ..) (hbudget (.chat session))

/-- Operations that do not write the settings of a trigger spare them. -/
theorem spares_timed {id : String} (hreads : ∀ t, P t → t.OnlyReads) (honly : s.registry.Only P)
    (hlog : s.executor.log.key = "trigger_logs") (hkeyed : s.world.store.IsKeyed)
    {run : List (Nat × Operation)} (hrun : ∀ e ∈ run, e.2.IsRoutine s.executor.log id) :
    (timed Operation.after run s).Within (s.world.Spares (· = Settings.keyOf id)) P s.executor := by
  have hmaintains : Maintains (s.world.Spares (· = Settings.keyOf id)) P s.executor :=
    maintains_spares s.executor s.world (Audit.Log.key_ne hlog id) (fun c => c.key_ne id) hreads
  refine timed_invariant (J := Within _ P s.executor)
    (fun _ wait hs' => ⟨hs'.world.later wait, hs'.registry, hs'.executor⟩) (fun s' e he hs' => ?_)
    ⟨.refl _ hkeyed, honly, rfl⟩
  cases hop : e.2 with
  | ask request => exact hmaintains.request hs' request
  | use u =>
    have hroutine := hrun e he
    rw [hop] at hroutine
    simp only [Operation.after]
    split
    · exact hs'
    · refine ⟨hs'.world.withStore (Use.isKeyed_after hs'.world.isKeyed) ?_, hs'.registry, hs'.executor⟩
      rintro _ rfl
      exact Use.IsRoutine.view_after hroutine hlog hs'.world.isKeyed

end Assistant

/-! ## A trigger that is off -/

/-- An entry tells of a trigger. -/
def Audit.Entry.isAbout (id : String) (item : Value) : Bool :=
  item.fieldOr "trigger_id" .null == .text id

/-- The entries of a log about a trigger. -/
def Audit.Log.entriesAbout (log : Audit.Log) (id : String) (w : World σ) : List Value :=
  (log.itemsAt w.now w.store).filter (Audit.Entry.isAbout id)

/-- A trigger only reads, and unless it has a certain identifier it leaves a part of the site. -/
structure Trigger.IsQuiet (part : σ → α) (id : String) (t : Trigger σ) : Prop where
  onlyReads : t.OnlyReads
  others : t.id ≠ id → ∀ params c w, part (t.perform params c w).2.site = part w.site

/-- Nothing has been done for a trigger from one world to another: some rows are spared, a part of the site
is as it was, and there is no further entry about the trigger. -/
structure World.Passes (part : σ → α) (log : Audit.Log) (id : String) (keys : String → Prop)
    (w w' : World σ) : Prop where
  spares : w.Spares keys w'
  part : part w'.site = part w.site
  entries : (log.entriesAbout id w').Sublist (log.entriesAbout id w)

namespace World.Passes

variable {part : σ → α} {log : Audit.Log} {id : String} {keys : String → Prop} {w w' : World σ}

/-- In a world by itself nothing has been done. -/
theorem refl (h : w.store.IsKeyed) : w.Passes part log id keys w := ⟨.refl keys h, rfl, .refl _⟩

/-- Looking up whether a trigger is switched on. -/
theorem isEnabled (h : w.Passes part log id keys w') (d : Definition) : w.Passes part log id keys
    { w' with store := (Settings.isEnabled w'.now d w'.store).2 } := by
  have hview : (Settings.isEnabled w'.now d w'.store).2.view w'.now = w'.store.view w'.now :=
    Store.view_get _ (Settings.keyOf d.id) _
  refine ⟨h.spares.touch (Settings.keyOf d.id), h.part, ?_⟩
  rw [Audit.Log.entriesAbout, Audit.Log.itemsAt_congr (congrFun hview log.key)]
  exact h.entries

/-- Counting a hit under another key. -/
theorem allow (h : w.Passes part log id keys w') {key : String} (hkey : ¬ keys key)
    (window limit : Value) : w.Passes part log id keys
      { w' with store := (Budget.allow w'.now key window limit w'.store).2 } :=
  ⟨h.spares.keptBut (Budget.keptBut_allow ..) hkey, h.part,
    ((log.itemsAt_allow w'.now key window limit w'.store).filter _).trans h.entries⟩

/-- Appending an entry about another trigger. -/
theorem append (h : w.Passes part log id keys w') (hkey : ¬ keys log.key) {entry : Audit.Entry}
    {other : String} (hentry : entry.triggerId = .text other) (hne : other ≠ id) :
    w.Passes part log id keys { w' with store := (log.append w'.now entry w'.store).2 } := by
  refine ⟨h.spares.keptBut (log.keptBut_append ..) hkey, h.part, ?_⟩
  have hother : Audit.Entry.isAbout id (.dict entry.toDict) = false := by
    show (entry.triggerId == Value.text id) = false
    rw [hentry]
    simpa using hne
  have happended := (log.itemsAt_append w'.now entry w'.store).filter (Audit.Entry.isAbout id)
  rw [List.filter_append, List.filter_cons_of_neg (by simp [hother]), List.filter_nil,
    List.append_nil] at happended
  exact happended.trans h.entries

/-- Another trigger acts. -/
theorem perform (h : w.Passes part log id keys w') {t : Trigger σ} (ht : t.IsQuiet part id)
    (hne : t.id ≠ id) (params : Params) (c : Context) :
    w.Passes part log id keys (t.perform params c w').2 := by
  have hspares := ht.onlyReads params c w' h.spares.isKeyed
  refine ⟨h.spares.trans (hspares.mono fun _ _ => trivial), (ht.others hne params c w').trans h.part, ?_⟩
  have hitems : (log.itemsAt (t.perform params c w').2.now (t.perform params c w').2.store).Sublist
      (log.itemsAt w'.now w'.store) := by
    rw [Audit.Log.itemsAt_congr (hspares.view _ trivial _ (Nat.le_refl _))]
    exact Audit.Log.itemsAt_later hspares.le w'.store
  exact (hitems.filter _).trans h.entries

end World.Passes

namespace Assistant

variable {part : σ → α} {id : String} {keys : String → Prop} {P : Trigger σ → Prop} {x : Executor}
  {w : World σ}

/-- While a trigger is off, requests do nothing for it. Other triggers do not touch its settings, so that
it stays off. -/
theorem maintains_passes (hquiet : ∀ t, P t → t.IsQuiet part id) (hlog : ¬ keys x.log.key)
    (hkey : keys (Settings.keyOf id)) (hchat : ∀ session, ¬ keys (Chat.budgetKey session))
    (hbudget : ∀ t, P t → t.id ≠ id → ∀ session, ¬ keys (Budget.keyOf t.id session))
    (hlasting : Settings.IsLasting w.now id w.store)
    (hoff : ∀ d : Definition, d.id = id → (Settings.isEnabled w.now d w.store).1 = .ok false) :
    Maintains (w.Passes part x.log id keys) P x where
  counts w' session window limit hw' _ := hw'.allow (hchat session) window limit
  executes t ht params c := by
    by_cases hid : t.id = id
    · refine Executor.keeps_execute_of_off
        (Executor.keeps_isEnabled fun w' hw' _ => hw'.isEnabled _) (fun w' hw' on hon => ?_) params
      subst hid
      have hsettings := hw'.spares.resolve_eq hkey hlasting
      have hfound := Executor.isEnabled_of_ok hon
      have hoff' := hoff t.definition rfl
      rw [Settings.isEnabled_eq] at hfound hoff'
      rw [hsettings, hoff'] at hfound
      exact (Except.ok.inj hfound).symm
    · have hmaintains : x.Maintains t c (w.Passes part x.log id keys) :=
        { isEnabled := Executor.keeps_isEnabled fun w' hw' _ => hw'.isEnabled _
          isWithinBudget := Executor.keeps_isWithinBudget fun w' _ _ hw' _ =>
            hw'.allow (hbudget t ht hid _) _ _
          conclude := fun _ _ _ _ => Executor.keeps_conclude fun w' hw' _ _ =>
            hw'.append hlog rfl hid
          perform := fun params _ w' hw' => hw'.perform (hquiet t ht) hid params c }
      exact hmaintains.execute params

/-- A request does nothing for a trigger that is off. -/
theorem passes_request {s : Assistant σ} (hquiet : ∀ t, P t → t.IsQuiet part id)
    (hs : s.Within (fun _ => True) P x) (hlog : x.log.key = "trigger_logs")
    (hkeyed : s.world.store.IsKeyed)
    (hlasting : Settings.IsLasting s.world.now id s.world.store)
    (hoff : ∀ d : Definition, d.id = id → s.isSwitchedOn d = .ok false) {S : Value → Prop}
    (hbudget : ∀ t, P t → t.id ≠ id → ∀ session other, S other →
      Budget.keyOf t.id session ≠ Budget.keyOf id other) (request : Request) :
    s.world.Passes part x.log id
      (fun k => k = Settings.keyOf id ∨ ∃ session, S session ∧ k = Budget.keyOf id session)
      (request.after s).world := by
  refine ((maintains_passes hquiet ?_ (.inl rfl) ?_ ?_ hlasting hoff).request
    ⟨.refl hkeyed, hs.registry, hs.executor⟩ request).world
  · rintro (hsettings | ⟨session, -, hsession⟩)
    · exact Audit.Log.key_ne hlog id hsettings
    · exact ne_of_getElem? (Audit.Log.getElem?_key hlog) (Budget.getElem?_keyOf id session) (by decide)
        hsession
  · rintro session (hsettings | ⟨other, -, hother⟩)
    · exact (Budget.Counter.chat session).key_ne id hsettings
    · exact ne_of_getElem? (Chat.getElem?_budgetKey session) (Budget.getElem?_keyOf id other) (by decide)
        hother
  · rintro t ht hne session (hsettings | ⟨other, hsession, hother⟩)
    · exact (Budget.Counter.trigger t.id session).key_ne id hsettings
    · exact hbudget t ht hne session other hsession hother

/-- While a trigger is off, a request does not let it act, adds no entry about it, and counts no hit for it in
a session unless another trigger has a budget under the same key. -/
theorem asked_while_off {s : Assistant σ} (hs : s.Within (fun _ => True) (Trigger.IsQuiet part id) x)
    (hlog : x.log.key = "trigger_logs") (hkeyed : s.world.store.IsKeyed)
    (hlasting : Settings.IsLasting s.world.now id s.world.store)
    (hoff : ∀ d : Definition, d.id = id → s.isSwitchedOn d = .ok false) (request : Request) :
    let asked := request.after s
    part asked.world.site = part s.world.site ∧
      (x.log.entriesAbout id asked.world).Sublist (x.log.entriesAbout id s.world) ∧
      ∀ session, s.registry.Only (fun t => t.IsQuiet part id ∧
          (t.id ≠ id → ∀ other, Budget.keyOf t.id other ≠ Budget.keyOf id session)) →
        s.world.Spares (· = Budget.keyOf id session) asked.world := by
  have hpasses := passes_request (S := fun _ => False) (fun _ ht => ht) hs hlog hkeyed hlasting hoff
    (fun _ _ _ _ _ hnone => hnone.elim) request
  refine ⟨hpasses.part, hpasses.entries, fun session honly => ?_⟩
  have hspared := passes_request (S := (· = session)) (fun _ ht => ht.1)
    ⟨hs.world, honly, hs.executor⟩ hlog hkeyed hlasting hoff
    (fun t ht hne other _ heq => heq ▸ ht.2 hne other) request
  exact hspared.spares.mono fun k hk => .inr ⟨session, rfl, hk⟩

/-- Switching a trigger writes its settings only. -/
theorem keptBut_switched (s : Assistant σ) (d : Definition) (on : Bool) :
    s.world.store.KeptBut (Settings.keyOf d.id) s.world.now (s.switched d on).world.store :=
  Settings.keptBut_update s.world.now d.id [("enabled", .bool on)] s.world.store

/-- Switching a trigger changes no settings of other triggers. -/
theorem settingsOf_switched (s : Assistant σ) {d d' : Definition} (hne : d'.id ≠ d.id) (on : Bool) :
    (s.switched d on).settingsOf d' = s.settingsOf d' :=
  Settings.resolve_congr ((keptBut_switched s d on).view_eq _ fun heq =>
    hne (Settings.keyOf_injective heq))

/-- A trigger with settings that can be read can be switched on or off, which changes one of them. -/
theorem exists_switched {s : Assistant σ} {d : Definition} {values : Dict Value}
    (hlasting : Settings.IsLasting s.world.now d.id s.world.store)
    (hvalues : s.settingsOf d = .ok values) (on : Bool) :
    ∃ stored, Dict.merge d.defaults stored = values ∧
      (∃ merged, (Settings.setEnabled s.world.now d (.bool on) s.world.store).1 = .ok merged) ∧
      Settings.IsLasting s.world.now d.id (s.switched d on).world.store ∧
      ∀ d' : Definition, d'.id = d.id → (s.switched d on).settingsOf d' =
        .ok (Dict.set "enabled" (.bool on) (Dict.merge d'.defaults stored)) := by
  obtain ⟨stored, hstored, hmerged⟩ : ∃ stored, (Settings.get s.world.now d.id s.world.store).1 =
      .ok stored ∧ Dict.merge d.defaults stored = values := Fault.ok_of_map hvalues
  obtain ⟨merged, store, hset, hlasts, hresolved⟩ :=
    Settings.setEnabled_of_readable hlasting hstored on
  have hstore : (s.switched d on).world.store = store := congrArg Prod.snd hset
  refine ⟨stored, hmerged, ⟨merged, congrArg Prod.fst hset⟩, hstore ▸ hlasts, fun d' hid => ?_⟩
  have hsettings := hresolved d' hid
  rwa [← hstore] at hsettings

/-- Settings change when they are written, and at no other time. Let triggers only read the store. Over a
run of requests and of uses of the store by budgets, the log and the settings of other triggers, at any
times and for any identifiers and sessions, the settings of a trigger stay the same. Once it is switched on
or off it stays so over such a run; all its other settings stay as they were, and switching it changes no
settings of other triggers. While it is off, whatever is asked, it does not act, as everything shows that
only it could change, such as a record of its calls; no entry about it comes to the log; and no hit is
counted for it in a session, unless another trigger has a budget under the same key. -/
theorem settings_as_written {s : Assistant σ} (d : Definition) {part : σ → α}
    (hquiet : s.registry.Only (Trigger.IsQuiet part d.id))
    (hlog : s.executor.log.key = "trigger_logs") (hkeyed : s.world.store.IsKeyed)
    (hlasting : Settings.IsLasting s.world.now d.id s.world.store)
    {run : List (Nat × Operation)} (hrun : ∀ e ∈ run, e.2.IsRoutine s.executor.log d.id) :
    (timed Operation.after run s).settingsOf d = s.settingsOf d ∧
    ∀ values, s.settingsOf d = .ok values → ∀ on : Bool,
      (∃ stored, (Settings.setEnabled s.world.now d (.bool on) s.world.store).1 = .ok stored) ∧
      let after := timed Operation.after run (s.switched d on)
      after.settingsOf d = .ok (Dict.set "enabled" (.bool on) values) ∧
      after.isSwitchedOn d = .ok on ∧
      (∀ d' : Definition, d'.id ≠ d.id → (s.switched d on).settingsOf d' = s.settingsOf d') ∧
      (on = false → ∀ wait request,
        let before := after.later wait
        let asked := Request.after before request
        part asked.world.site = part before.world.site ∧
        (s.executor.log.entriesAbout d.id asked.world).Sublist
          (s.executor.log.entriesAbout d.id before.world) ∧
        ∀ session, s.registry.Only (fun t => t.IsQuiet part d.id ∧
            (t.id ≠ d.id → ∀ other, Budget.keyOf t.id other ≠ Budget.keyOf d.id session)) →
          before.world.Spares (· = Budget.keyOf d.id session) asked.world) := by
  refine ⟨(spares_timed (fun _ ht => ht.onlyReads) hquiet hlog hkeyed hrun).world.resolve_eq rfl hlasting,
    fun values hvalues on => ?_⟩
  obtain ⟨stored, rfl, hwritten, hlasts, hresolved⟩ := exists_switched hlasting hvalues on
  refine ⟨hwritten, ?_⟩
  intro after
  have hwithin {P : Trigger σ → Prop} (hP : ∀ t, P t → t.IsQuiet part d.id)
      (honly : s.registry.Only P) :
      after.Within ((s.switched d on).world.Spares (· = Settings.keyOf d.id)) P s.executor :=
    spares_timed (s := s.switched d on) (fun t ht => (hP t ht).onlyReads) honly hlog
      ((keptBut_switched s d on).isKeyed hkeyed) hrun
  have hafter := hwithin (fun _ ht => ht) hquiet
  have hsettings (d' : Definition) (hid : d'.id = d.id) : after.settingsOf d' =
      .ok (Dict.set "enabled" (.bool on) (Dict.merge d'.defaults stored)) :=
    (hafter.world.resolve_eq (congrArg Settings.keyOf hid) (hid ▸ hlasts)).trans (hresolved d' hid)
  refine ⟨hsettings d rfl, Settings.isEnabled_of_resolve (hsettings d rfl),
    fun d' hne => settingsOf_switched s hne on, ?_⟩
  rintro rfl wait request
  have hlater := hafter.world.later wait
  have hoff (d' : Definition) (hid : d'.id = d.id) :
      (after.later wait).isSwitchedOn d' = .ok false :=
    Settings.isEnabled_of_resolve <|
      (hlater.resolve_eq (congrArg Settings.keyOf hid) (hid ▸ hlasts)).trans (hresolved d' hid)
  obtain ⟨hpart, hentries, hspared⟩ := asked_while_off (s := after.later wait)
    ⟨trivial, hafter.registry, hafter.executor⟩ hlog hlater.isKeyed (hlater.isLasting rfl hlasts) hoff
    request
  exact ⟨hpart, hentries, fun session honly => hspared session (hwithin (fun _ ht => ht.1) honly).registry⟩

/-- An assistant with two triggers, the calls of the first of which are recorded. -/
def pair (executor : Executor) (id id' : String) : Assistant (Unit × List (Params × Context)) where
  world := ⟨0, {}, ((), []), false⟩
  registry := { builtins := [(Trigger.idle id 10).recorded, .idle id' 10] }
  executor

/-- A trigger is switched off between two calls, while hits are counted, the log is cleared and the store is
purged. -/
theorem settings_as_written_between_calls :
    let s := pair {} "ping" "echo"
    let d := (Trigger.idle (σ := Unit) "ping" 10).definition
    let c := Executor.anonymous
    let params : Value := .dict [("target", .text "x")]
    let run : List (Nat × Operation) :=
      [(1, .ask (.fire "echo" params (some c))), (70000000, .use (.call .purge)),
       (0, .use (.hit (Budget.keyOf "ping" (.text "s")) (.int 60) (.int 5))), (0, .use (.clear {}))]
    let before := (timed Operation.after run (s.switched d false)).later 5
    let asked := Request.after before (.fire "ping" params (some c))
    (timed Operation.after run s).settingsOf d = s.settingsOf d ∧
      asked.world.site.2 = before.world.site.2 ∧
      (Request.after (timed Operation.after run s) (.fire "ping" params (some c))).world.site.2 =
        [([("target", .text "x")], c)] := by
  intro s d c params run before asked
  have hquiet : s.registry.Only (Trigger.IsQuiet Prod.snd d.id) := by
    refine Registry.only_builtins fun t ht => ?_
    rcases List.mem_cons.mp ht with rfl | ht
    · exact ⟨fun _ _ _ hkeyed => ⟨Nat.le_refl _, hkeyed, fun _ _ _ _ => rfl⟩, fun hne => absurd rfl hne⟩
    · obtain rfl := List.mem_singleton.mp ht
      exact ⟨Trigger.onlyReads_idle _ _, fun _ _ _ _ => rfl⟩
  have hrun : ∀ e ∈ run, e.2.IsRoutine s.executor.log d.id := by
    simp only [run, List.forall_mem_cons]
    exact ⟨trivial, .purge, .hit (.trigger "ping" (.text "s")) _ _, .clear, nofun⟩
  obtain ⟨hsame, hswitched⟩ := settings_as_written d hquiet rfl Store.isKeyed_empty
    (Settings.isLasting_empty _ _) hrun
  obtain ⟨-, -, -, -, hoff⟩ := hswitched [] rfl false
  obtain ⟨hcalls, -⟩ := hoff rfl 5 (.fire "ping" params (some c))
  exact ⟨hsame, by simpa only [asked, before] using hcalls, by decide +kernel⟩

/-- The keys of budgets do not tell where the identifier ends and the session begins. While a trigger is
off, a call of another one counts a hit for it in another session. -/
theorem other_trigger_counts_hit :
    let d := (Trigger.idle (σ := Unit) "a" 10).definition
    let s := (pair {} "a" "a:b").switched d false
    let left (s : Assistant (Unit × List (Params × Context))) :=
      (Budget.remaining s.world.now (Budget.keyOf "a" (.text "b:c")) (.int 10) s.world.store).1
    let c : Context := { session := .text "c", timestamp := Timestamp.universal 0 }
    let asked := Request.after s (.fire "a:b" (.dict [("target", .text "x")]) (some c))
    s.isSwitchedOn d = .ok false ∧ left s = .ok (.int 10) ∧ left asked = .ok (.int 9) := by
  decide +kernel

end Assistant

end Concierge
