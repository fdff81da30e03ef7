import Concierge.Proofs.Registry.Start

/-!
# What calls of a quiet registry come to

Whatever is called on a new registry on which no listener objects and that has no filters, it comes to
what its schedule comes to: the built-in triggers, the extensions that it came with, and the calls in
their order, on a registry that has started. So every extension is run once, in its turn. The triggers
that are registered are the ones that the listeners can rebuild from what they were told, and so are those
that a script finds while it runs, however deep it is nested in others.
-/

namespace Concierge.Registry

variable {σ : Type}

/-- A script raises no interrupt and adds no filter. -/
def Extension.IsPlain (e : Extension σ) : Prop :=
  Extension.IsOrdinary e ∧ Extension.Brings (fun _ => True) (fun _ => False) e

/-- A registry before its first use, on which no listener objects, and whose extensions are plain. -/
structure IsNew (r : Registry σ) : Prop where
  isQuiet : r.IsQuiet
  isStarted : r.isStarted = false
  triggers : r.triggers = []
  journal : r.journal = []
  extensions : ∀ e ∈ r.extensions, Extension.IsPlain e

/-- What a registry does in all: it registers its built-in triggers and adds its extensions, and the calls
follow. -/
def schedule (r : Registry σ) (calls : List (Call σ)) : List (Call σ) :=
  r.builtins.map .register ++ r.extensions.map .extend ++ calls

/-- The registry that calls leave, once it has started. -/
def ready (r : Registry σ) (calls : List (Call σ)) : Registry σ := (start (afterAll calls r)).2

/-- The changes that a single pair of listeners is told of until then. -/
def changes (r : Registry σ) (calls : List (Call σ)) : List (Change σ) :=
  (r.watched.ready calls).notices

/-! ## The run of a schedule -/

/-- No listener of a quiet registry raises an interrupt. -/
theorem IsQuiet.isOrdinary {r : Registry σ} (h : r.IsQuiet) : r.IsOrdinary where
  registered l hl t f hf := by
    rw [h.registered l hl t] at hf
    cases hf
  unregistered l hl id f hf := by
    rw [h.unregistered l hl id] at hf
    cases hf
  filters g hg := by
    rw [h.filters] at hg
    cases hg

/-- Calls that start no registry are the additions of the extensions that wait; otherwise the first one
that starts it comes behind them. -/
theorem calls_eq (calls : List (Call σ)) :
    calls = (early calls).map .extend ∨ ∃ first later, first.added? = none ∧
      calls = (early calls).map .extend ++ first :: later := by
  induction calls with
  | nil => exact .inl rfl
  | cons c rest ih =>
    cases hadded : c.added? with
    | none =>
      have hearly : early (c :: rest) = [] := by
        rw [early, List.takeWhile_cons, hadded]
        rfl
      rw [hearly]
      exact .inr ⟨c, rest, hadded, rfl⟩
    | some e =>
      have hearly : early (c :: rest) = e :: early rest := by
        rw [early, List.takeWhile_cons, hadded, Option.isSome_some, if_pos rfl, List.filterMap_cons, hadded]
        rfl
      have hc : c = .extend e := by
        cases c with
        | extend e' => rw [Option.some.inj hadded]
        | register | unregister | start | list | find => cases hadded
      rw [hearly, hc, List.map_cons]
      rcases ih with hrest | ⟨first, later, hfirst, hrest⟩
      · exact .inl (congrArg (List.cons _) hrest)
      · exact .inr ⟨first, later, hfirst, congrArg (List.cons _) hrest⟩

/-- Some of the extensions that calls add come before any other call. -/
theorem early_subset (calls : List (Call σ)) : early calls ⊆ calls.filterMap Call.added? :=
  ((List.takeWhile_sublist _).filterMap _).subset

section

variable {r : Registry σ} (hnew : r.IsNew) {calls : List (Call σ)}
include hnew

/-- The extensions that a new registry waits with are plain, if those that are added are. -/
theorem IsNew.isOrdinary_waiting (hplain : ∀ e ∈ calls.filterMap Call.added?, Extension.IsPlain e) :
    ∀ e ∈ r.extensions ++ early calls, Extension.IsOrdinary e := by
  refine List.forall_mem_append.mpr ⟨fun e he => (hnew.extensions e he).1, fun e he => ?_⟩
  exact (hplain e (early_subset calls he)).1

/-- Calls of a new registry leave the extensions waiting that they add. If there is another call among
them, they come to what the schedule comes to. -/
theorem IsNew.afterAll_cases (hplain : ∀ e ∈ calls.filterMap Call.added?, Extension.IsPlain e) :
    (calls = (early calls).map .extend ∧
      afterAll calls r = { r with extensions := r.extensions ++ early calls }) ∨
    (∃ c ∈ calls, c.added? = none) ∧
      afterAll calls r = performed (r.schedule calls) (r.opened (r.extensions ++ early calls)) := by
  rcases calls_eq calls with hcalls | ⟨first, later, hfirst, hcalls⟩
  · refine .inl ⟨hcalls, ?_⟩
    rw [hcalls, afterAll_extend hnew.isStarted, ← hcalls]
  · have hmem : first ∈ calls := by
      rw [hcalls]
      exact List.mem_append_right _ List.mem_cons_self
    refine .inr ⟨⟨first, hmem, hfirst⟩, ?_⟩
    obtain ⟨-, hrun⟩ := @startsWhole_of_welcome σ r (early calls) first later
      hnew.isStarted hnew.triggers hnew.isQuiet.isOrdinary (hnew.isOrdinary_waiting hplain) hfirst
      fun t _ l hl => hnew.isQuiet.registered l hl t
    have hschedule : r.schedule calls =
        r.builtins.map .register ++ ((r.extensions ++ early calls).map .extend ++ first :: later) := by
      conv_lhs => rw [schedule, hcalls]
      simp only [List.map_append, List.append_assoc]
    rw [hschedule, performed_append, ← hrun, ← hcalls]

/-- Calls of a new registry come to what its schedule comes to, once it has started. -/
theorem IsNew.start_afterAll (hplain : ∀ e ∈ calls.filterMap Call.added?, Extension.IsPlain e) :
    start (afterAll calls r) =
      (.ok (), performed (r.schedule calls) (r.opened (r.extensions ++ early calls))) := by
  rcases hnew.afterAll_cases hplain with ⟨hcalls, hafter⟩ | ⟨-, hafter⟩
  · obtain ⟨journal, hplaced⟩ :=
      @placeAll_of_silent σ r.builtins (r.opened (r.extensions ++ early calls))
        fun t _ l hl => hnew.isQuiet.registered l hl t
    have hstart := start_of_placed (r := { r with extensions := r.extensions ++ early calls })
      hnew.isStarted hplaced { hnew.isQuiet.isOrdinary with } (hnew.isOrdinary_waiting hplain)
    have hschedule : r.schedule calls =
        r.builtins.map .register ++ (r.extensions ++ early calls).map .extend := by
      conv_lhs => rw [schedule, hcalls]
      rw [List.map_append, List.append_assoc]
    rw [hafter, hstart, placeAll_eq_performed hplaced, hschedule, performed_append]
  · rw [hafter]
    exact start_of_started (isStarted_performed _ rfl)

end

/-! ## Watching the run -/

/-- What a call does comes to the same on a registry that is watched. -/
theorem Use.IsWatched.act {c : Call σ} (h : ∀ e, c.added? = some e → Extension.IsPlain e) :
    IsWatched c.act := by
  cases c with
  | register t => exact (place t).bind fun _ => .pure ()
  | unregister id => exact (remove id).bind fun _ => .pure ()
  | extend e => exact (run e (h e rfl).2).shielded
  | start => exact .pure ()
  | list | find => exact view.bind fun _ => .pure ()

/-- A registry is watched while calls are made. -/
theorem Watches.performed {w r : Registry σ} (h : Watches w r) {calls : List (Call σ)}
    (hplain : ∀ e ∈ calls.filterMap Call.added?, Extension.IsPlain e) :
    Watches (performed calls w) (performed calls r) := by
  induction calls generalizing w r with
  | nil => exact h
  | cons c rest ih =>
    have hc : Use.IsWatched c.act :=
      .act fun e he => hplain e (List.mem_filterMap.mpr ⟨c, List.mem_cons_self, he⟩)
    refine ih (hc w r h).2 fun e he => ?_
    obtain ⟨c', hc', he⟩ := List.mem_filterMap.mp he
    exact hplain e (List.mem_filterMap.mpr ⟨c', List.mem_cons_of_mem c hc', he⟩)

/-- Registering triggers adds no extension. -/
theorem added_register (ts : List (Trigger σ)) : (ts.map Call.register).filterMap Call.added? = [] := by
  rw [List.filterMap_map]
  exact List.filterMap_eq_nil_iff.mpr fun _ _ => rfl

/-- The extensions that are run in all. -/
theorem added_schedule (r : Registry σ) (calls : List (Call σ)) :
    (r.schedule calls).filterMap Call.added? = r.extensions ++ calls.filterMap Call.added? := by
  have hextend : (r.extensions.map Call.extend).filterMap Call.added? = r.extensions := by
    rw [List.filterMap_map]
    exact List.filterMap_some
  rw [schedule, List.filterMap_append, List.filterMap_append, added_register, hextend, List.nil_append]

section

variable {r : Registry σ} (hnew : r.IsNew) {calls : List (Call σ)}
  (hplain : ∀ e ∈ calls.filterMap Call.added?, Extension.IsPlain e)
include hnew

/-- A new registry is new when another pair of listeners watches it. -/
theorem IsNew.watched : r.watched.IsNew :=
  ⟨(Watches.of_new hnew.isQuiet hnew.triggers hnew.journal).isQuiet_watched, hnew.isStarted,
    hnew.triggers, rfl, hnew.extensions⟩

/-- A pair of listeners can watch the registry from its start. -/
theorem IsNew.watches_opened (waiting : List (Extension σ)) :
    Watches (r.watched.opened waiting) (r.opened waiting) :=
  have hquiet : (r.opened waiting).IsQuiet := { hnew.isQuiet with }
  .of_new hquiet hnew.triggers hnew.journal

include hplain

/-- The registry that calls leave once it has started is what its schedule comes to. -/
theorem IsNew.ready_eq :
    r.ready calls = performed (r.schedule calls) (r.opened (r.extensions ++ early calls)) :=
  congrArg Prod.snd (hnew.start_afterAll hplain)

/-- All extensions of a schedule are plain. -/
theorem IsNew.isPlain_schedule : ∀ e ∈ (r.schedule calls).filterMap Call.added?, Extension.IsPlain e := by
  rw [added_schedule]
  exact List.forall_mem_append.mpr ⟨hnew.extensions, hplain⟩

/-- One pair of listeners can watch all that happens. -/
theorem IsNew.watches_ready : Watches (r.watched.ready calls) (r.ready calls) := by
  rw [hnew.ready_eq hplain, hnew.watched.ready_eq hplain]
  exact (hnew.watches_opened _).performed (hnew.isPlain_schedule hplain)

/-- An invariant of plain changes holds of the registry that calls leave, if it holds of its start. -/
theorem IsNew.of_maintains {I : Registry σ → Prop} (hI : Maintains I (fun _ => True) fun _ => False)
    (hopened : I (r.opened (r.extensions ++ early calls))) : I (r.ready calls) := by
  rw [hnew.ready_eq hplain]
  exact hI.performed (fun e he => (hnew.isPlain_schedule hplain e he).2) hopened

/-- The listeners are told of the built-in triggers. -/
theorem IsNew.added_builtin {t : Trigger σ} (ht : t ∈ firsts r.builtins) : .added t ∈ r.changes calls := by
  let waiting := r.extensions ++ early calls
  let placed := performed (r.builtins.map .register) (r.watched.opened waiting)
  have htold : .added t ∈ placed.notices := by
    have hwatches : Watches placed (performed (r.builtins.map .register) (r.opened waiting)) :=
      (hnew.watches_opened waiting).performed (by rw [added_register]; exact nofun)
    obtain ⟨hplaced, -⟩ := @startsWhole_of_welcome σ r (early calls) .start []
      hnew.isStarted hnew.triggers hnew.isQuiet.isOrdinary (hnew.isOrdinary_waiting hplain) rfl
      fun t _ l hl => hnew.isQuiet.registered l hl t
    rw [← hplaced, hwatches.rebuilt, rebuilt_eq_standing] at ht
    exact added_of_mem_standing ht
  have hgrows : Maintains (fun w : Registry σ => .added t ∈ w.notices) (fun _ => True) fun _ => True :=
    .of_frame (fun w _ more hw => by
      rw [notices, changesIn, List.filterMap_append]
      exact List.mem_append_left _ hw) (fun _ _ _ hw => hw) fun _ hw => hw
  rw [changes, hnew.watched.ready_eq hplain, schedule, List.append_assoc, performed_append]
  exact hgrows.performed (fun e _ =>
    Extension.brings_of_forall (fun _ => trivial) (fun _ => trivial) e) htold

end

/-- What calls of a new registry come to. -/
structure Conforms (r : Registry σ) (calls : List (Call σ)) : Prop where
  /-- Extensions wait for the first call that is not the addition of one. -/
  waits : (∀ c ∈ calls, c.added?.isSome = true) →
    afterAll calls r = { r with extensions := r.extensions ++ calls.filterMap Call.added? }
  /-- With that call the registry starts. -/
  starts : (∃ c ∈ calls, c.added? = none) → afterAll calls r = r.ready calls
  /-- Once it has started, it is what its schedule comes to. -/
  ready_eq : r.ready calls = performed (r.schedule calls) (r.opened (r.extensions ++ early calls))
  /-- Every extension is added once on the schedule. -/
  added_eq : (r.schedule calls).filterMap Call.added? = r.extensions ++ calls.filterMap Call.added?
  /-- An extension is run when it is added, by a call or by a script, and keeps nothing from running. -/
  runs : ∀ e : Extension σ, e.IsPlain → ∀ q : Registry σ, q.IsQuiet →
    (Call.extend e).act q = (.ok (), (run e q).2) ∧ runStep (.extend e) q = (.ok (), (run e q).2)
  /-- No identifier is given twice. -/
  distinct : ((r.ready calls).triggers.map Trigger.id).Nodup
  /-- The triggers stand in the order of their latest registration. -/
  ordered : (r.ready calls).triggers = standing (r.changes calls)
  all_eq : (all : Use σ _) (afterAll calls r) = (.ok (r.ready calls).triggers, r.ready calls)
  find_eq : ∀ id, (find? id : Use σ _) (afterAll calls r) =
    (.ok ((r.ready calls).triggers.find? (·.id == id)), r.ready calls)
  /-- A trigger is registered if its identifier is free, and otherwise nothing changes. -/
  register_eq : ∀ t, register t (afterAll calls r) = (.ok !(r.ready calls).hasId t.id,
    if (r.ready calls).hasId t.id then r.ready calls else (r.ready calls).adding t)
  /-- A built-in trigger stays unless it is removed. -/
  builtin_stays : ∀ t ∈ firsts r.builtins, (∀ c ∈ r.changes calls, c.removes t.id = false) →
    t ∈ (r.ready calls).triggers
  /-- The triggers can be rebuilt from what a pair of listeners is told. -/
  replayed : (r.ready calls).triggers = rebuilt (r.changes calls)
  /-- What listeners and scripts are told at any time fits the changes before it. -/
  faithful : IsFaithful (r.watched.ready calls).journal
  /-- The listeners of the registry are told of the same events as the pair, each of them once. -/
  echoed : (r.ready calls).journal = (r.watched.ready calls).journal.flatMap r.echo

section

variable {r : Registry σ} (hnew : r.IsNew) {calls : List (Call σ)}
  (hplain : ∀ e ∈ calls.filterMap Call.added?, Extension.IsPlain e)
include hnew hplain

/-- Calls that only add extensions leave them waiting. -/
theorem IsNew.afterAll_of_added (hadded : ∀ c ∈ calls, c.added?.isSome = true) :
    afterAll calls r = { r with extensions := r.extensions ++ calls.filterMap Call.added? } := by
  rcases hnew.afterAll_cases hplain with ⟨hcalls, hafter⟩ | ⟨⟨c, hc, hnone⟩, -⟩
  · have hearly : calls.filterMap Call.added? = early calls := by
      conv_lhs => rw [hcalls]
      rw [List.filterMap_map]
      exact List.filterMap_some
    rw [hafter, hearly]
  · have hsome := hadded c hc
    rw [hnone] at hsome
    cases hsome

/-- Calls of which one does more leave a registry that has started. -/
theorem IsNew.afterAll_of_not_added (hother : ∃ c ∈ calls, c.added? = none) :
    afterAll calls r = r.ready calls := by
  rcases hnew.afterAll_cases hplain with ⟨hcalls, -⟩ | ⟨-, hafter⟩
  · obtain ⟨c, hc, hnone⟩ := hother
    rw [hcalls] at hc
    obtain ⟨e, -, rfl⟩ := List.mem_map.mp hc
    cases hnone
  · rw [hafter, hnew.ready_eq hplain]

/-- The registry starts without a fault. -/
theorem IsNew.start_eq_ready : start (afterAll calls r) = (.ok (), r.ready calls) := by
  rw [hnew.ready_eq hplain]
  exact hnew.start_afterAll hplain

/-- The listeners are those that have been there at first. -/
theorem IsNew.echo_ready : (r.ready calls).echo = r.echo := by
  have hsame : Maintains (fun q : Registry σ => q.echo = r.echo) (fun _ => True) fun _ => False :=
    .of_frame (fun _ _ _ hq => hq) (fun _ h => h.elim) fun _ hq => hq
  exact hnew.of_maintains hplain hsame rfl

/-- The triggers are those that stand by the changes. -/
theorem IsNew.triggers_ready : (r.ready calls).triggers = standing (r.changes calls) :=
  (hnew.watches_ready hplain).standing

end

/-- A plain extension that is added to a quiet registry is run, whatever fault it ends with. -/
theorem Extension.IsPlain.run_eq {e : Extension σ} (he : e.IsPlain) {q : Registry σ} (hq : q.IsQuiet) :
    (Call.extend e).act q = (.ok (), (run e q).2) ∧ runStep (.extend e) q = (.ok (), (run e q).2) := by
  have hrun := (Use.IsOrdinary.run e he.1).shielded_eq hq.isOrdinary
  refine ⟨hrun, ?_⟩
  unfold runStep
  exact hrun

/-- A new registry conforms, whatever is called. -/
theorem IsNew.conforms {r : Registry σ} (hnew : r.IsNew) {calls : List (Call σ)}
    (hplain : ∀ e ∈ calls.filterMap Call.added?, Extension.IsPlain e) : r.Conforms calls :=
  have hstart := hnew.start_eq_ready hplain
  have hquiet : (r.ready calls).IsQuiet :=
    hnew.of_maintains hplain maintains_isQuiet { hnew.isQuiet with }
  have hall : (all : Use σ _) (afterAll calls r) = (.ok (r.ready calls).triggers, r.ready calls) :=
    (bind_of_ok hstart).trans (view_of_quiet hquiet)
  { waits := hnew.afterAll_of_added hplain
    starts := hnew.afterAll_of_not_added hplain
    ready_eq := hnew.ready_eq hplain
    added_eq := added_schedule r calls
    runs := fun _ he _ hq => he.run_eq hq
    distinct := (hnew.watches_ready hplain).distinct
    ordered := hnew.triggers_ready hplain
    all_eq := hall
    find_eq := fun _ => bind_of_ok hall
    register_eq := fun t => (bind_of_ok hstart).trans (place_of_quiet hquiet t)
    builtin_stays := fun t ht hkept => by
      rw [hnew.triggers_ready hplain]
      exact mem_standing (hnew.added_builtin hplain ht) hkept
    replayed := (hnew.watches_ready hplain).rebuilt
    faithful := (hnew.watches_ready hplain).faithful
    echoed := by
      rw [← hnew.echo_ready hplain]
      exact (hnew.watches_ready hplain).echoed }

/-- A script that registers a trigger, and ends with a fault before it registers another one. -/
def halting : Extension Unit :=
  [.register (.ok (.idle "c" 1)), .raise (.raised { label := "ValueError", message := "" }),
    .register (.ok (.idle "d" 1))]

/-- A script that looks at the registry, and adds another one. -/
def nested : Extension Unit := [.list, .extend halting, .register (.ok (.idle "e" 1))]

/-- A registry of two triggers and an extension that ends with a fault, with a pair of listeners. -/
def manned : Registry Unit :=
  { builtins := [.idle "a" 1, .idle "b" 1], extensions := [halting]
    onRegistered := [quiet], onUnregistered := [quiet] }

/-- Two extensions are run behind two triggers, the first of which is removed and registered again. -/
theorem conforms_manned :
    manned.Conforms [.extend nested, .unregister "a", .register (.idle "a" 1), .list] ∧
      ((ids : Use Unit _) (afterAll
        [.extend nested, .unregister "a", .register (.idle "a" 1), .list] manned)).1 =
          .ok ["b", "c", "e", "a"] := by
  have hhalting : halting.IsPlain := by
    refine ⟨?_, ?_⟩
    · simp [halting, Extension.IsOrdinary, Step.IsOrdinary, Fault.isInterrupt]
    · simp [halting, Extension.Brings, Step.Brings]
  have hnested : nested.IsPlain := by
    refine ⟨?_, ?_⟩
    · simpa [nested, Extension.IsOrdinary, Step.IsOrdinary] using hhalting.1
    · simpa [nested, Extension.Brings, Step.Brings] using hhalting.2
  have hnew : manned.IsNew := by
    refine ⟨⟨?_, ?_, rfl⟩, rfl, rfl, rfl, List.forall_mem_singleton.mpr hhalting⟩
    · exact List.forall_mem_singleton.mpr fun _ => rfl
    · exact List.forall_mem_singleton.mpr fun _ => rfl
  exact ⟨hnew.conforms (List.forall_mem_singleton.mpr hnested), rfl⟩

end Concierge.Registry
