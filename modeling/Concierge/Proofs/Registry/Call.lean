import Concierge.Proofs.Registry.Ordinary
import Concierge.Proofs.Registry.Script

/-!
# Calls of a registry

A registry is called again and again, and starts with the first call that is not the addition of an
extension. When its start succeeds, it is as if it had started at once: the built-in triggers are
registered, the extensions that it came with are added, and all calls follow, in this order, on a
registry that has started.
-/

namespace Concierge.Registry

variable {σ : Type}

/-- A call of a registry. -/
inductive Call (σ : Type) where
  | register (t : Trigger σ)
  | unregister (id : String)
  | extend (script : Extension σ)
  | start
  | list
  | find (id : String)

namespace Call

/-- What a call does. -/
def use : Call σ → Use σ Unit
  | register t => do let _ ← Registry.register t
  | unregister id => do let _ ← Registry.unregister id
  | extend script => addExtension script
  | start => Registry.start
  | list => do let _ ← all
  | find id => do let _ ← find? id

/-- What a call does to a registry that has started. -/
def act : Call σ → Use σ Unit
  | register t => do let _ ← place t
  | unregister id => do let _ ← remove id
  | extend script => shielded (run script)
  | start => pure ()
  | list | find _ => do let _ ← view

/-- The extension that a call adds. -/
def added? : Call σ → Option (Extension σ)
  | extend script => some script
  | _ => none

/-- A call only looks at a registry that has started. -/
def isLook : Call σ → Bool
  | start | list | find _ => true
  | _ => false

end Call

/-- The registry that calls leave, one after another; whatever faults they end with, the next one
follows. -/
def afterAll (calls : List (Call σ)) (r : Registry σ) : Registry σ :=
  calls.foldl (fun r c => (c.use r).2) r

/-- The registry that calls leave if it has started. -/
def performed (calls : List (Call σ)) (r : Registry σ) : Registry σ :=
  calls.foldl (fun r c => (c.act r).2) r

/-- The extensions that calls add before any other call. -/
def early (calls : List (Call σ)) : List (Extension σ) :=
  (calls.takeWhile (·.added?.isSome)).filterMap Call.added?

/-- Calls after others. -/
theorem performed_append (calls later : List (Call σ)) (r : Registry σ) :
    performed (calls ++ later) r = performed later (performed calls r) := List.foldl_append

/-- Calls after others. -/
theorem afterAll_append (calls later : List (Call σ)) (r : Registry σ) :
    afterAll (calls ++ later) r = afterAll later (afterAll calls r) := List.foldl_append

/-! ## Registries that have started -/

/-- A registry that has started does not start again. -/
theorem start_of_started {r : Registry σ} (h : r.isStarted = true) : start r = (.ok (), r) := by
  rw [start, get_bind_eq, h]
  rfl

/-- A call that adds no extension starts the registry first. -/
theorem Call.use_eq {c : Call σ} (h : c.added? = none) : c.use = (do Registry.start; c.act) := by
  cases c with
  | extend e => cases h
  | start => exact (bind_pure Registry.start).symm
  | register t => exact bind_assoc Registry.start _ _
  | unregister id => exact bind_assoc Registry.start _ _
  | list => exact bind_assoc Registry.start _ _
  | find id =>
    simp only [Call.use, Call.act, find?, all, bind_assoc, pure_bind]

/-- A registry that has started does what the call asks for. -/
theorem Call.use_of_started {r : Registry σ} (h : r.isStarted = true) (c : Call σ) :
    c.use r = c.act r := by
  cases hadded : c.added? with
  | none =>
    rw [Call.use_eq hadded]
    exact bind_of_ok (start_of_started h)
  | some e =>
    cases c with
    | extend e =>
      rw [Call.use, addExtension, get_bind_eq, h]
      rfl
    | register | unregister | start | list | find => cases hadded

/-- An invariant of all changes is kept by what a call does. -/
theorem Maintains.act {I : Registry σ → Prop} {F : Filter σ → Prop}
    (h : Maintains I (fun _ => True) F) {c : Call σ}
    (hadded : ∀ e, c.added? = some e → Extension.Brings (fun _ => True) F e) : Keeps I c.act := by
  cases c with
  | register t => exact (h.place t trivial).bind fun _ => .pure ()
  | unregister id => exact (h.remove id).bind fun _ => .pure ()
  | extend e => exact keeps_shielded (h.run e (hadded e rfl))
  | start => exact .pure ()
  | list | find => exact keeps_view.bind fun _ => .pure ()

/-- An invariant of all changes is kept by calls. -/
theorem Maintains.performed {I : Registry σ → Prop} {F : Filter σ → Prop}
    (h : Maintains I (fun _ => True) F) {calls : List (Call σ)}
    (hadded : ∀ e ∈ calls.filterMap Call.added?, Extension.Brings (fun _ => True) F e)
    {r : Registry σ} (hr : I r) : I (performed calls r) := by
  induction calls generalizing r with
  | nil => exact hr
  | cons c rest ih =>
    have hfirst := h.act (c := c) fun e he =>
      hadded e (List.mem_filterMap.mpr ⟨c, List.mem_cons_self, he⟩)
    refine ih (fun e he => ?_) (hfirst r hr)
    obtain ⟨c', hc', he⟩ := List.mem_filterMap.mp he
    exact hadded e (List.mem_filterMap.mpr ⟨c', List.mem_cons_of_mem c hc', he⟩)

/-- A registry that has started stays started. -/
theorem maintains_isStarted :
    Maintains (fun r : Registry σ => r.isStarted = true) (fun _ => True) fun _ => True :=
  .of_frame (fun _ _ _ hr => hr) (fun _ _ _ hr => hr) fun _ _ => rfl

/-- A registry that has started stays started, whatever is done with it. -/
theorem isStarted_performed (calls : List (Call σ)) {r : Registry σ} (h : r.isStarted = true) :
    (performed calls r).isStarted = true :=
  maintains_isStarted.performed (fun e _ =>
    Extension.brings_of_forall (fun _ => trivial) (fun _ => trivial) e) h

/-- Calls of a registry that has started do what they ask for. -/
theorem afterAll_of_started (calls : List (Call σ)) {r : Registry σ} (h : r.isStarted = true) :
    afterAll calls r = performed calls r := by
  induction calls generalizing r with
  | nil => rfl
  | cons c rest ih =>
    have hstarted : (c.act r).2.isStarted = true := isStarted_performed [c] h
    show afterAll rest (c.use r).2 = performed rest (c.act r).2
    rw [c.use_of_started h]
    exact ih hstarted

/-- Calls that only look at a registry that has started leave it as it is. -/
theorem performed_of_looks {calls : List (Call σ)} (h : ∀ c ∈ calls, c.isLook = true)
    (r : Registry σ) : performed calls r = r := by
  induction calls with
  | nil => rfl
  | cons c rest ih =>
    obtain ⟨hc, hrest⟩ := List.forall_mem_cons.mp h
    have hsame : (c.act r).2 = r := by
      have hview : ((do let _ ← view : Use σ Unit) r).2 = r := by
        rcases bind_cases view (fun _ => pure ()) r with ⟨f, seen, hseen, hleft⟩ | ⟨ts, seen, hseen, hleft⟩
        · rw [hleft]
          exact (congrArg Prod.snd hseen).symm
        · rw [hleft]
          exact (congrArg Prod.snd hseen).symm
      cases c with
      | start => rfl
      | list | find => exact hview
      | register | unregister | extend => cases hc
    show performed rest (c.act r).2 = r
    rw [hsame]
    exact ih hrest

/-! ## The start -/

/-- The registry with its start begun, and some extensions that have waited for it. -/
def opened (r : Registry σ) (waiting : List (Extension σ)) : Registry σ :=
  { r with isStarted := true, extensions := waiting }

/-- A registry starts with its built-in triggers, and goes on with the extensions that have waited. -/
theorem start_eq {r : Registry σ} (h : r.isStarted = false) :
    start r = (do placeAll r.builtins; runAll r.extensions : Use σ Unit) (r.opened r.extensions) := by
  rw [start, get_bind_eq, h]
  rfl

/-- A use that is shielded leaves the registry that it would leave. -/
theorem shielded_snd (use : Use σ Unit) (r : Registry σ) : (shielded use r).2 = (use r).2 := by
  unfold shielded
  split
  · rename_i hrun
    rw [hrun]
    split <;> rfl
  · rfl

/-- Triggers that are all registered without a fault have been registered one after another. -/
theorem placeAll_eq_performed {ts : List (Trigger σ)} {r left : Registry σ}
    (h : placeAll ts r = (.ok (), left)) : left = performed (ts.map .register) r := by
  induction ts generalizing r with
  | nil => exact (congrArg Prod.snd h).symm
  | cons t rest ih =>
    obtain ⟨done, placed, hplace, hrest⟩ := ok_of_bind h
    have hact : (Call.act (.register t) r).2 = placed := congrArg Prod.snd (bind_of_ok hplace)
    rw [ih hrest, List.map_cons, ← hact]
    rfl

/-- Extensions without interrupts are run one after another. -/
theorem runAll_eq_performed {extensions : List (Extension σ)}
    (h : ∀ e ∈ extensions, Extension.IsOrdinary e) {r : Registry σ} (hr : r.IsOrdinary) :
    runAll extensions r = (.ok (), performed (extensions.map .extend) r) := by
  have hact : (fun (r : Registry σ) e => (run e r).2) = fun r e => (Call.act (.extend e) r).2 := by
    funext r e
    exact (shielded_snd (run e) r).symm
  rw [Use.IsOrdinary.runAll_eq h hr, performed, List.foldl_map, hact]

/-- A registry whose built-in triggers can be registered starts with them, and runs the extensions that
have waited, if these raise no interrupt. -/
theorem start_of_placed {r left : Registry σ} (h : r.isStarted = false)
    (hplaced : placeAll r.builtins (r.opened r.extensions) = (.ok (), left)) (hr : r.IsOrdinary)
    (hextensions : ∀ e ∈ r.extensions, Extension.IsOrdinary e) :
    start r = (.ok (), performed (r.extensions.map .extend) left) := by
  have hleft := (Use.IsOrdinary.placeAll r.builtins (r.opened r.extensions) { hr with }).2
  rw [hplaced] at hleft
  rw [start_eq h, bind_of_ok hplaced]
  exact runAll_eq_performed hextensions hleft

/-- The start leaves a registry that has started. -/
theorem isStarted_start (r : Registry σ) : (start r).2.isStarted = true := by
  cases hstarted : r.isStarted with
  | true => rw [start_of_started hstarted, hstarted]
  | false =>
    have hrun : Keeps (fun r : Registry σ => r.isStarted = true)
        (do placeAll r.builtins; runAll r.extensions : Use σ Unit) :=
      (maintains_isStarted.placeAll fun _ _ => trivial).bind fun _ =>
        maintains_isStarted.runAll fun e _ =>
          Extension.brings_of_forall (fun _ => trivial) (fun _ => trivial) e
    rw [start_eq hstarted]
    exact hrun _ rfl

/-- A registry that has given its triggers gives the same ones when it is asked again. -/
theorem all_again {r r' : Registry σ} {ts : List (Trigger σ)}
    (h : (all : Use σ _) r = (.ok ts, r')) : (all : Use σ _) r' = (.ok ts, r') := by
  obtain ⟨_, started, hstart, hview⟩ := ok_of_bind h
  have hsame : started = r' := congrArg Prod.snd hview
  subst hsame
  have hstarted : started.isStarted = true := by
    have hleft := isStarted_start r
    rwa [hstart] at hleft
  rw [all, bind_of_ok (start_of_started hstarted)]
  exact hview

/-- Extensions that are added to a registry before it starts wait for the start. -/
theorem afterAll_extend {r : Registry σ} (h : r.isStarted = false) (waiting : List (Extension σ)) :
    afterAll (waiting.map .extend) r = { r with extensions := r.extensions ++ waiting } := by
  induction waiting generalizing r with
  | nil =>
    rw [List.append_nil]
    rfl
  | cons e rest ih =>
    have hadd : (Call.use (.extend e) r).2 = { r with extensions := r.extensions ++ [e] } := by
      rw [Call.use, addExtension, get_bind_eq, h]
      rfl
    show afterAll (rest.map .extend) (Call.use (.extend e) r).2 = _
    have hrest := @ih { r with extensions := r.extensions ++ [e] } h
    rw [hadd, hrest, List.append_assoc]
    rfl

end Concierge.Registry
