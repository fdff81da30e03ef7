import Concierge.Executor
import Concierge.Proofs.Audit.Append
import Concierge.Proofs.Budget.Hit
import Concierge.Proofs.World.Action

/-!
# What the executor reads and writes

The stored records that an attempt reads, and the stages of the executor one by one: which answer a
stage gives from these records, and which rows it changes.
-/

namespace Concierge.Executor

variable {σ : Type}

/-- What an executor reads when a trigger is fired in a world: settings, a count and a log that can be
read, a budget of at least one hit in at least one second, a count that can be raised below the limit, and a
calendar that has not ended. -/
structure Readings (x : Executor) (d : Definition) (c : Context) (w : World σ) where
  settings : Dict Value
  window : Int
  limit : Int
  count : Int
  items : List Value
  isPresent : w.isLost = false
  noSettingsOutage : x.outage.settings = none
  noLogOutage : x.outage.log = none
  settings_eq : Settings.ofStored d.id (w.store.valueAt w.now (Settings.keyOf d.id)) = .ok settings
  items_eq : x.log.ofStored (w.store.valueAt w.now x.log.key) = .ok items
  lasts : ∃ expiry, Store.expiryFor w.now none (.int x.log.lifetime) false = .ok expiry
  rule_eq : x.isLimited = true → x.ruleFor d = ⟨.int window, .int limit⟩
  one_le_window : 1 ≤ window
  one_le_limit : 1 ≤ limit
  count_eq : x.isLimited = true →
    Budget.hits (w.store.valueAt w.now (Budget.keyOf d.id c.session)) = .ok count
  closes : x.isLimited = true →
    ∃ expiry, Store.expiryFor w.now none (.int window) false = .ok expiry
  rises : x.isLimited = true → count < limit → isShort (count + 1) = true
  /-- The log is not stored under the key of the budget. -/
  apart : x.isLimited = true → x.log.key ≠ Budget.keyOf d.id c.session

namespace Readings

variable {x : Executor} {d : Definition} {c : Context} {w : World σ} (r : Readings x d c w)

/-- The trigger is switched on. -/
def isOn (r : Readings x d c w) : Bool :=
  Settings.isOn ((Dict.find? "enabled" (Dict.merge d.defaults r.settings)).getD (.bool true))

/-- The budget is used up. -/
def isUsedUp (r : Readings x d c w) : Bool := x.isLimited && decide (r.limit ≤ r.count)

/-- A store in which the budget has one hit more, if there is one, and which otherwise has the live rows of
the world. -/
structure HasCounted (r : Readings x d c w) (store : Store) : Prop where
  /-- The count is what the store holds for one more. -/
  count : x.isLimited = true →
    store.valueAt w.now (Budget.keyOf d.id c.session) = Column.held (.int (r.count + 1))
  /-- An integer of 64 bits is held as it is. -/
  hits : x.isLimited = true →
    Column.leastInteger ≤ r.count + 1 → r.count + 1 ≤ Column.greatestInteger →
    Budget.hits (store.valueAt w.now (Budget.keyOf d.id c.session)) = .ok (r.count + 1)
  unlimited : x.isLimited = false → store.view w.now = w.store.view w.now
  others : ∀ key ≠ Budget.keyOf d.id c.session, store.view w.now key = w.store.view w.now key

/-- The log is that of the world once the budget is counted, which is stored elsewhere. -/
theorem HasCounted.view_log {r : Readings x d c w} {store : Store}
    (h : r.HasCounted store) : store.view w.now x.log.key = w.store.view w.now x.log.key := by
  cases hlimited : x.isLimited
  · rw [h.unlimited hlimited]
  · exact h.others _ (r.apart hlimited)

/-- The log is read as before once the budget is counted. -/
theorem HasCounted.items_eq {r : Readings x d c w} {store : Store} (h : r.HasCounted store) :
    x.log.ofStored (store.valueAt w.now x.log.key) = .ok r.items := by
  rw [Store.valueAt_eq, h.view_log, ← Store.valueAt_eq]
  exact r.items_eq

/-! ## The stages -/

/-- The executor finds out whether the trigger is switched on, and changes no live row. -/
theorem isEnabled_eq : ∃ store, x.isEnabled d w = (.ok r.isOn, { w with store }) ∧
    store.view w.now = w.store.view w.now := by
  refine ⟨(w.store.get w.now (Settings.keyOf d.id)).2, ?_, Store.view_get ..⟩
  have hsettings : Settings.isEnabled w.now d w.store =
      (.ok r.isOn, (w.store.get w.now (Settings.keyOf d.id)).2) := by
    have hget : (Settings.get w.now d.id w.store).1 = .ok r.settings := by
      show (Settings.ofStored d.id (w.store.valueAt w.now (Settings.keyOf d.id))).mapError _ = _
      rw [r.settings_eq]
      rfl
    show ((((Settings.get w.now d.id w.store).1.map _).map _), _) = _
    rw [hget]
    rfl
  rw [isEnabled, r.noSettingsOutage]
  exact Action.tryStore_eq r.isPresent hsettings

variable {store : Store} (hstore : store.view w.now = w.store.view w.now)
include hstore

/-- While the live rows are those of the world, its count is read. -/
theorem hits_of_view (hlimited : x.isLimited = true) :
    Budget.hits (store.valueAt w.now (Budget.keyOf d.id c.session)) = .ok r.count := by
  rw [Store.valueAt_congr hstore]
  exact r.count_eq hlimited

/-- When the budget is used up, the executor refuses and changes no live row. -/
theorem isWithinBudget_of_isUsedUp (husedUp : r.isUsedUp = true) :
    ∃ store', x.isWithinBudget d c { w with store } = (.ok false, { w with store := store' }) ∧
      store'.view w.now = w.store.view w.now := by
  obtain ⟨hlimited, hlimit⟩ : x.isLimited = true ∧ r.limit ≤ r.count := by
    simpa [isUsedUp] using husedUp
  refine ⟨(store.get w.now (Budget.keyOf d.id c.session)).2, ?_,
    (Store.view_get w.now _ store).trans hstore⟩
  rw [isWithinBudget, if_pos hlimited, r.rule_eq hlimited]
  exact Action.tryStore_eq (w := { w with store }) r.isPresent
    (Budget.allow_refused r.one_le_limit (r.hits_of_view hstore hlimited) hlimit)

/-- When the budget is not used up, the executor counts the hit. -/
theorem isWithinBudget_of_left (hleft : r.isUsedUp = false) :
    ∃ store', x.isWithinBudget d c { w with store } = (.ok true, { w with store := store' }) ∧
      r.HasCounted store' := by
  cases hlimited : x.isLimited
  · refine ⟨store, ?_, ?_⟩
    · rw [isWithinBudget, hlimited]
      rfl
    · have hnot : x.isLimited ≠ true := by simp [hlimited]
      exact ⟨fun h => absurd h hnot, fun h => absurd h hnot, fun _ => hstore,
        fun key _ => congrFun hstore key⟩
  · have hlimit : r.count < r.limit := by simpa [isUsedUp, hlimited] using hleft
    obtain ⟨store', hallow, hheld, hothers⟩ := Budget.allow_admitted r.one_le_window
      (r.hits_of_view hstore hlimited) (.inr hlimit) (fun _ => r.closes hlimited)
      (r.rises hlimited hlimit)
    refine ⟨store', ?_, ?_⟩
    · rw [isWithinBudget, if_pos hlimited, r.rule_eq hlimited]
      exact Action.tryStore_eq (w := { w with store }) r.isPresent hallow
    · exact ⟨fun _ => hheld, fun _ hleast hgreatest => hheld ▸ Budget.hits_held hleast hgreatest,
        fun h => absurd h (by simp [hlimited]),
        fun key hkey => (hothers key hkey).trans (congrFun hstore key)⟩

end Readings

/-- A store in which an entry has been appended to the log of a world, if it can be written, and which
otherwise has the live rows of that world. -/
structure HasLogged (x : Executor) (w : World σ) (items : List Value) (entry : Audit.Entry)
    (store : Store) : Prop where
  log : entry.isShort = true → x.log.Holds w.now (x.log.newest (items ++ [.dict entry.toDict])) store
  kept : entry.isShort = false → store.view w.now x.log.key = w.store.view w.now x.log.key
  others : ∀ key ≠ x.log.key, store.view w.now key = w.store.view w.now key

/-- The store of a world in which an entry has been appended is one of another world, if the live rows of
both are the same. -/
theorem HasLogged.of_view {x : Executor} {w : World σ} {store store' : Store} {items : List Value}
    {entry : Audit.Entry} (h : x.HasLogged { w with store } items entry store')
    (hstore : store.view w.now = w.store.view w.now) : x.HasLogged w items entry store' where
  log := h.log
  kept hlong := (h.kept hlong).trans (congrFun hstore _)
  others key hkey := (h.others key hkey).trans (congrFun hstore key)

/-- An attempt is concluded with the result that its entry reports. The entry comes into the log, unless it
cannot be written. -/
theorem conclude_eq {x : Executor} {w : World σ} {items : List Value} (hpresent : w.isLost = false)
    (hlog : x.outage.log = none)
    (hitems : x.log.ofStored (w.store.valueAt w.now x.log.key) = .ok items)
    (hlasts : ∃ expiry, Store.expiryFor w.now none (.int x.log.lifetime) false = .ok expiry)
    (d : Definition) (c : Context) (params : Params) (result : Result) (outcome : Audit.Outcome) :
    ∃ store, x.conclude d c params result outcome w = (.ok result, { w with store }) ∧
      x.HasLogged w items
        (.record d c params result outcome.word (Timestamp.universal w.now)) store := by
  let entry := Audit.Entry.record d c params result outcome.word (Timestamp.universal w.now)
  have happend {e : Except Fault Unit} {store : Store} (h : x.log.append w.now entry w.store = (e, store)) :
      x.append entry w = (e, { w with store }) := by
    rw [append, hlog]
    exact Action.tryStore_eq hpresent h
  cases hshort : entry.isShort with
  | true =>
    obtain ⟨store, hrun, hholds, hothers⟩ := Audit.Log.append_of_readable hitems hlasts hshort
    refine ⟨store, ?_, fun _ => hholds, fun hlong => absurd (hshort.symm.trans hlong) (by decide), hothers⟩
    rw [conclude, get_bind_eq, bind_of_ok (Action.recover_of_ok (happend hrun))]
    rfl
  | false =>
    obtain ⟨e, store, hrun, hview⟩ := Audit.Log.append_of_long hitems hshort
    refine ⟨store, ?_, fun h => absurd (hshort.symm.trans h) (by decide), fun _ => congrFun hview _,
      fun key _ => congrFun hview key⟩
    have hrecovered : (x.append entry).recover (fun _ => pure ()) w = (.ok (), { w with store }) :=
      Action.recover_of_error (happend hrun) (Fault.isInterrupt_ofSet e)
    rw [conclude, get_bind_eq, bind_of_ok hrecovered]
    rfl

end Concierge.Executor
