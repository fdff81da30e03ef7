import Concierge.Proofs.Executor.Spares
import Concierge.Proofs.Registry.Call
import Concierge.Proofs.Registry.Quiet

/-!
# The start of a registry

A registry counts as started as soon as its start has begun. A listener that objects to one of the
built-in triggers ends the start there: the triggers behind it are never registered, the extensions that
have waited are never run, and all later calls use the registry as the start has left it. Only if no
listener objects does the start go through to its end.
-/

namespace Concierge.Registry

variable {σ α : Type}

/-! ## The first trigger of each identifier -/

/-- Triggers with one more, unless its identifier is taken. -/
def withNew (ts : List (Trigger σ)) (t : Trigger σ) : List (Trigger σ) :=
  if ts.any (·.id == t.id) then ts else ts ++ [t]

/-- The first trigger of each identifier, in order. -/
def firsts (ts : List (Trigger σ)) : List (Trigger σ) := ts.foldl withNew []

/-- Triggers stay where they are when others follow. -/
theorem prefix_foldl_withNew (news ts : List (Trigger σ)) : ts <+: news.foldl withNew ts := by
  induction news generalizing ts with
  | nil => exact List.prefix_rfl
  | cons t rest ih =>
    refine List.IsPrefix.trans ?_ (ih (withNew ts t))
    unfold withNew
    split
    · exact List.prefix_rfl
    · exact List.prefix_append ts [t]

/-- Of each identifier, triggers with new ones have the one that comes first. -/
theorem find?_foldl_withNew (news ts : List (Trigger σ)) (id : String) :
    (news.foldl withNew ts).find? (·.id == id) = (ts ++ news).find? (·.id == id) := by
  induction news generalizing ts with
  | nil => rw [List.append_nil, List.foldl_nil]
  | cons t rest ih =>
    have hone : (withNew ts t).find? (·.id == id) = (ts ++ [t]).find? (·.id == id) := by
      unfold withNew
      split
      · rename_i htaken
        rw [List.find?_append]
        cases hid : t.id == id with
        | false => simp [hid]
        | true =>
          -- The identifier is taken already, so that the triggers have one before.
          rw [eq_of_beq hid] at htaken
          obtain ⟨u, hu⟩ := Option.isSome_iff_exists.mp (List.find?_isSome.mpr (List.any_eq_true.mp htaken))
          rw [hu, Option.some_or]
      · rfl
    rw [List.foldl_cons, ih, List.find?_append, hone, ← List.find?_append, List.append_assoc]
    rfl

/-- The trigger of an identifier among the first ones is the first of all that have it. -/
theorem find?_firsts (ts : List (Trigger σ)) (id : String) :
    (firsts ts).find? (·.id == id) = ts.find? (·.id == id) := find?_foldl_withNew ts [] id

/-- The first triggers of all identifiers have a property, or there is a first one that has not. -/
theorem forall_or_split (P : Trigger σ → Prop) (news : List (Trigger σ)) {ts : List (Trigger σ)}
    (hts : ∀ t ∈ ts, P t) :
    (∀ t ∈ news.foldl withNew ts, P t) ∨
      ∃ done t rest, news = done ++ t :: rest ∧ (∀ u ∈ done.foldl withNew ts, P u) ∧
        (done.foldl withNew ts).any (·.id == t.id) = false ∧ ¬P t := by
  induction news generalizing ts with
  | nil => exact .inl hts
  | cons t rest ih =>
    by_cases hnew : ts.any (·.id == t.id) = false ∧ ¬P t
    · exact .inr ⟨[], t, rest, rfl, hts, hnew.1, hnew.2⟩
    · have hwith : ∀ u ∈ withNew ts t, P u := by
        unfold withNew
        split
        · exact hts
        · rename_i hfree
          refine List.forall_mem_append.mpr ⟨hts, List.forall_mem_singleton.mpr ?_⟩
          exact by_contra fun hP => hnew ⟨by simpa using hfree, hP⟩
      rcases ih hwith with hall | ⟨done, u, rest', rfl, hdone, hfree, hP⟩
      · exact .inl hall
      · exact .inr ⟨t :: done, u, rest', rfl, hdone, hfree, hP⟩

/-! ## Registering the built-in triggers -/

/-- Listeners of whom one objects are told up to the first that does. -/
theorem tell_of_objection {event : α → Event σ} {news : α} {listeners : List (Listener α)}
    (h : ∃ l ∈ listeners, l news ≠ none) (r : Registry σ) :
    ∃ l ∈ listeners, ∃ f journal, l news = some f ∧
      tell event news listeners r = (.error f, { r with journal }) := by
  induction listeners generalizing r with
  | nil =>
    obtain ⟨l, hl, -⟩ := h
    cases hl
  | cons listener rest ih =>
    have hrecord : record (event news) r =
        (.ok (), { r with journal := r.journal ++ [event news] }) := rfl
    rw [tell, bind_of_ok hrecord]
    cases hraised : listener news with
    | some f => exact ⟨listener, List.mem_cons_self, f, _, hraised, rfl⟩
    | none =>
      obtain ⟨l, hl, hobjects⟩ := h
      have hrest : ∃ l ∈ rest, l news ≠ none := by
        rcases List.mem_cons.mp hl with rfl | hl
        · exact absurd hraised hobjects
        · exact ⟨l, hl, hobjects⟩
      obtain ⟨l, hl, f, journal, hf, htell⟩ :=
        ih hrest { r with journal := r.journal ++ [event news] }
      exact ⟨l, List.mem_cons_of_mem _ hl, f, journal, hf, htell⟩

/-- Triggers to which no listener objects are registered, the first one of each identifier. -/
theorem placeAll_of_silent {ts : List (Trigger σ)} {r : Registry σ}
    (h : ∀ t ∈ ts.foldl withNew r.triggers, ∀ l ∈ r.onRegistered, l t = none) :
    ∃ journal, placeAll ts r =
      (.ok (), { r with triggers := ts.foldl withNew r.triggers, journal }) := by
  induction ts generalizing r with
  | nil => exact ⟨r.journal, rfl⟩
  | cons t rest ih =>
    cases htaken : r.hasId t.id with
    | true =>
      have hwith : withNew r.triggers t = r.triggers := if_pos htaken
      rw [List.foldl_cons, hwith] at h ⊢
      rw [placeAll, bind_of_ok (place_taken htaken)]
      exact ih h
    | false =>
      have hwith : withNew r.triggers t = (r.adding t).triggers :=
        if_neg (by rw [← hasId, htaken]; exact Bool.false_ne_true)
      rw [List.foldl_cons, hwith] at h ⊢
      have hmem : t ∈ rest.foldl withNew (r.adding t).triggers :=
        (prefix_foldl_withNew rest _).subset (List.mem_append_right _ List.mem_cons_self)
      have hplace : place t r = (.ok true, r.adding t) := by
        rw [place_free htaken]
        exact bind_of_ok (tell_of_silent (h t hmem) _)
      rw [placeAll, bind_of_ok hplace]
      exact @ih (r.adding t) h

/-- Triggers are registered up to the first to which a listener objects; it is registered, too. -/
theorem placeAll_of_objection {done rest : List (Trigger σ)} {t : Trigger σ} {r : Registry σ}
    (hdone : ∀ u ∈ done.foldl withNew r.triggers, ∀ l ∈ r.onRegistered, l u = none)
    (hfree : (done.foldl withNew r.triggers).any (·.id == t.id) = false)
    (hobjects : ∃ l ∈ r.onRegistered, l t ≠ none) :
    ∃ l ∈ r.onRegistered, ∃ f journal, l t = some f ∧ placeAll (done ++ t :: rest) r =
      (.error f, { r with triggers := done.foldl withNew r.triggers ++ [t], journal }) := by
  obtain ⟨journal, hplaced⟩ := placeAll_of_silent hdone
  have happend (ts : List (Trigger σ)) : placeAll (ts ++ t :: rest) =
      (do placeAll ts; placeAll (t :: rest) : Use σ Unit) := by
    induction ts with
    | nil => exact (pure_bind () fun _ => placeAll (t :: rest)).symm
    | cons u ts ih => rw [List.cons_append, placeAll, placeAll, ih, bind_assoc]
  let left : Registry σ := { r with triggers := done.foldl withNew r.triggers, journal }
  obtain ⟨l, hl, f, told, hf, htell⟩ := @tell_of_objection σ _ .registered t r.onRegistered hobjects
    { left with triggers := left.triggers ++ [t] }
  have htaken : left.hasId t.id = false := hfree
  have hplace : place t left =
      (.error f, { left with triggers := left.triggers ++ [t], journal := told }) := by
    rw [place_free htaken]
    exact bind_of_error htell
  refine ⟨l, hl, f, told, hf, ?_⟩
  rw [happend, bind_of_ok hplaced, placeAll]
  exact bind_of_error hplace

/-! ## The whole start, and the start that stops -/

/-- No listener objects to the registration of a trigger. -/
def Welcomes (r : Registry σ) (t : Trigger σ) : Prop := ∀ l ∈ r.onRegistered, l t = none

/-- The start goes through to its end: when the extensions that have waited are run, one after another,
the built-in triggers are registered, the first of each identifier, and the calls follow after that. -/
def StartsWhole (r : Registry σ) (waiting : List (Extension σ)) (calls : List (Call σ)) : Prop :=
  let placed := performed (r.builtins.map .register) (r.opened (r.extensions ++ waiting))
  placed.triggers = firsts r.builtins ∧
    afterAll (waiting.map .extend ++ calls) r =
      performed ((r.extensions ++ waiting).map .extend ++ calls) placed

/-- The start stops at a built-in trigger to which a listener objects, and ends the first call with the
fault. No later call registers the triggers behind it or runs an extension that has waited, and those
that only look at the registry leave it as it is. -/
def StopsAt (r : Registry σ) (waiting : List (Extension σ)) (first : Call σ) (later : List (Call σ))
    (done : List (Trigger σ)) (t : Trigger σ) : Prop :=
  ∃ l ∈ r.onRegistered, ∃ f left, l t = some f ∧
    first.use (afterAll (waiting.map .extend) r) = (.error f, left) ∧
    left.triggers = firsts done ++ [t] ∧
    afterAll (waiting.map .extend ++ first :: later) r = performed later left ∧
    ((∀ c ∈ later, c.isLook = true) → performed later left = left)

section

variable {r : Registry σ} {waiting : List (Extension σ)} {first : Call σ} {later : List (Call σ)}

/-- The call that starts a registry finds the extensions that have been added before it. -/
theorem afterAll_waiting (hstarted : r.isStarted = false) (waiting : List (Extension σ))
    (calls : List (Call σ)) : afterAll (waiting.map .extend ++ calls) r =
      afterAll calls { r with extensions := r.extensions ++ waiting } := by
  rw [afterAll_append, afterAll_extend hstarted]

/-- The start goes through to its end if no listener objects to a built-in trigger. -/
theorem startsWhole_of_welcome (hstarted : r.isStarted = false) (htriggers : r.triggers = [])
    (hr : r.IsOrdinary) (hextensions : ∀ e ∈ r.extensions ++ waiting, Extension.IsOrdinary e)
    (hfirst : first.added? = none) (hwelcome : ∀ t ∈ firsts r.builtins, r.Welcomes t) :
    r.StartsWhole waiting (first :: later) := by
  let ready : Registry σ := { r with extensions := r.extensions ++ waiting }
  obtain ⟨journal, hplaced⟩ := @placeAll_of_silent σ r.builtins (r.opened (r.extensions ++ waiting))
    (by rw [opened, htriggers]; exact hwelcome)
  have hperformed := placeAll_eq_performed hplaced
  have hstart := start_of_placed (r := ready) hstarted hplaced { hr with } hextensions
  refine ⟨?_, ?_⟩
  · rw [← hperformed, opened, htriggers]
    rfl
  · have hopened : (performed (r.builtins.map .register) (r.opened (r.extensions ++ waiting))).isStarted =
        true := isStarted_performed _ rfl
    have huse : first.use ready = first.act (performed (ready.extensions.map .extend)
        (performed (r.builtins.map .register) (r.opened (r.extensions ++ waiting)))) := by
      rw [Call.use_eq hfirst, bind_of_ok hstart, hperformed]
    rw [afterAll_waiting hstarted, performed_append]
    show afterAll later (first.use ready).2 = performed later (first.act _).2
    rw [huse]
    exact afterAll_of_started later (isStarted_performed [first] (isStarted_performed _ hopened))

/-- The start stops at the first built-in trigger to which a listener objects. -/
theorem stopsAt_of_objection (hstarted : r.isStarted = false) (htriggers : r.triggers = [])
    (hfirst : first.added? = none) {done rest : List (Trigger σ)} {t : Trigger σ}
    (hbuiltins : r.builtins = done ++ t :: rest) (hdone : ∀ u ∈ firsts done, r.Welcomes u)
    (hfree : (firsts done).any (·.id == t.id) = false) (hobjects : ¬r.Welcomes t) :
    r.StopsAt waiting first later done t := by
  let ready : Registry σ := { r with extensions := r.extensions ++ waiting }
  have hsome : ∃ l ∈ r.onRegistered, l t ≠ none := by
    by_contra hall
    exact hobjects fun l hl => by_contra fun hne => hall ⟨l, hl, hne⟩
  obtain ⟨l, hl, f, journal, hf, hplaced⟩ :=
    @placeAll_of_objection σ done rest t (r.opened (r.extensions ++ waiting))
      (by rw [opened, htriggers]; exact hdone) (by rw [opened, htriggers]; exact hfree) hsome
  let left : Registry σ :=
    { r.opened (r.extensions ++ waiting) with triggers := firsts done ++ [t], journal }
  have hready : ready.isStarted = false := hstarted
  have hstart : start ready = (.error f, left) := by
    rw [start_eq hready]
    refine bind_of_error ?_
    show placeAll r.builtins _ = _
    rw [hbuiltins]
    refine hplaced.trans ?_
    rw [opened, htriggers]
    rfl
  have huse : first.use ready = (.error f, left) := by
    rw [Call.use_eq hfirst]
    exact bind_of_error hstart
  refine ⟨l, hl, f, left, hf, ?_, rfl, ?_, fun hlook => performed_of_looks hlook left⟩
  · rw [afterAll_extend hstarted]
    exact huse
  · rw [afterAll_waiting hstarted]
    show afterAll later (first.use ready).2 = _
    rw [huse]
    exact afterAll_of_started later rfl

end

/-- A registry starts as a whole, or its start stops at the first built-in trigger to which a listener
objects, whatever is called after that. -/
theorem starts_whole_or_stops {r : Registry σ} (hstarted : r.isStarted = false)
    (htriggers : r.triggers = []) (hr : r.IsOrdinary) (waiting : List (Extension σ))
    (hextensions : ∀ e ∈ r.extensions ++ waiting, Extension.IsOrdinary e) {first : Call σ}
    (hfirst : first.added? = none) (later : List (Call σ)) :
    (∀ t ∈ firsts r.builtins, r.Welcomes t) ∧ r.StartsWhole waiting (first :: later) ∨
      ∃ done t rest, r.builtins = done ++ t :: rest ∧ (firsts done).any (·.id == t.id) = false ∧
        (∀ u ∈ firsts done, r.Welcomes u) ∧ r.StopsAt waiting first later done t := by
  rcases @forall_or_split σ r.Welcomes r.builtins [] nofun with
    hwelcome | ⟨done, t, rest, hbuiltins, hdone, hfree, hobjects⟩
  · exact .inl ⟨hwelcome,
      startsWhole_of_welcome hstarted htriggers hr hextensions hfirst hwelcome⟩
  · exact .inr ⟨done, t, rest, hbuiltins, hfree, hdone,
      stopsAt_of_objection hstarted htriggers hfirst hbuiltins hdone hfree hobjects⟩

/-- A registry of two triggers with a listener that objects to all of them. -/
def grudging : Registry Unit :=
  { builtins := [.idle "a" 1, .idle "b" 1]
    extensions := [[.register (.ok (.idle "c" 1))]]
    onRegistered := [fun _ => some (.raised { label := "ValueError", message := "listener" })] }

/-- With the first trigger of two the start stops, and whatever is called then comes after it. -/
theorem starts_whole_or_stops_grudging :
    (∀ t ∈ firsts grudging.builtins, grudging.Welcomes t) ∧ grudging.StartsWhole [] [.list, .list] ∨
      ∃ done t rest, grudging.builtins = done ++ t :: rest ∧
        (firsts done).any (·.id == t.id) = false ∧
        (∀ u ∈ firsts done, grudging.Welcomes u) ∧ grudging.StopsAt [] .list [.list] done t := by
  refine starts_whole_or_stops rfl rfl ⟨?_, fun _ h => (by cases h), fun _ h => (by cases h)⟩ [] ?_
    rfl [.list]
  · rintro l hl t f hf
    cases List.mem_singleton.mp hl
    cases hf
    rfl
  · rintro e he
    cases List.mem_singleton.mp he
    unfold Extension.IsOrdinary Extension.IsOrdinary Step.IsOrdinary
    exact ⟨nofun, trivial⟩

/-- The first look at the registry ends with the fault of the listener. The second one gives a single
trigger: the other one is not registered, and the extension has not been run. -/
theorem second_look_gives_half :
    ∃ f left, (all : Use Unit _) grudging = (.error f, left) ∧
      ((ids : Use Unit _) left).1 = .ok ["a"] ∧ (firsts grudging.builtins).map Trigger.id = ["a", "b"] :=
  ⟨_, _, rfl, rfl, rfl⟩

end Concierge.Registry
