import Concierge.Proofs.Dispatch.Order

/-!
# What is found and executed

The directives of a text record the occurrences of each trigger's pattern from left to right, with an
argument for each required name. By position they are listed as by registry, but stably sorted by where they
start. Whatever the order is, they are executed one after another, each in the world that the one before it
has left, and each has a report of its own.
-/

namespace Concierge

namespace Dict

variable {α : Type} {key : String} {value : α}

/-- A key that is not among the changes keeps its value. -/
theorem find?_merge_of_not_mem {changes : Dict α} (h : key ∉ keys changes) (d : Dict α) :
    find? key (merge d changes) = find? key d := by
  induction changes generalizing d with
  | nil => rfl
  | cons e changes ih =>
    rw [keys, List.map_cons, List.mem_cons, not_or] at h
    refine (ih h.2 _).trans ?_
    rw [find?_set, if_neg (Ne.symm h.1)]

/-- The last change of a key counts. -/
theorem find?_merge_of_last {changes : Dict α} {i : Nat} (h : changes[i]? = some (key, value))
    (hlast : key ∉ keys (changes.drop (i + 1))) (d : Dict α) :
    find? key (merge d changes) = some value := by
  induction changes generalizing d i with
  | nil => cases h
  | cons e changes ih =>
    cases i with
    | zero =>
      obtain rfl := Option.some.inj h
      refine (find?_merge_of_not_mem hlast _).trans ?_
      rw [find?_set, if_pos rfl]
    | succ i => exact ih h hlast _

/-- Changes add their keys. -/
theorem mem_keys_merge {changes d : Dict α} :
    key ∈ keys (merge d changes) ↔ key ∈ keys d ∨ key ∈ keys changes := by
  induction changes generalizing d with
  | nil => simp [merge, keys]
  | cons e changes ih =>
    refine ih.trans ?_
    rw [keys_set]
    by_cases hmem : e.1 ∈ keys d
    · rw [if_pos hmem]
      simp only [keys, List.map_cons, List.mem_cons] at *
      grind
    · rw [if_neg hmem]
      simp only [keys, List.map_cons, List.mem_cons, List.mem_append] at *
      grind

/-- Changes do not make a key occur twice. -/
theorem nodup_keys_merge {d : Dict α} (h : (keys d).Nodup) (changes : Dict α) :
    (keys (merge d changes)).Nodup := by
  induction changes generalizing d with
  | nil => exact h
  | cons e changes ih => exact ih (nodup_keys_set h e.1 e.2)

end Dict

namespace Directive

variable {σ : Type}

/-! ## One directive -/

/-- The text of a group, which is empty when the group took no part in the match. -/
def groupText (text : List Char) : Option Pattern.Span → String
  | none => ""
  | some s => String.ofList (Pattern.slice text s.start s.stop)

/-- A directive records a match: where it lies and what it reads there, and an argument for each of the
required names, which is the text of the group of the name. The last group counts for a name that is required
more than once. -/
structure Records (text : List Char) (m : Pattern.Match) (d : Directive σ) : Prop where
  start : d.start = m.start
  stop : d.stop = m.stop
  raw : d.raw = String.ofList (Pattern.slice text d.start d.stop)
  nodup : (Dict.keys d.params).Nodup
  names : ∀ name, name ∈ Dict.keys d.params ↔ name ∈ d.trigger.definition.required
  params : ∀ i name, d.trigger.definition.required[i]? = some name →
    name ∉ d.trigger.definition.required.drop (i + 1) →
      ∃ group, m.groups[i]? = some group ∧
        Dict.find? name d.params = some (.text (groupText text group))

variable {t : Trigger σ} {text : List Char} {m : Pattern.Match}

/-- The entries that become the arguments of a match. -/
def entries (d : Definition) (text : List Char) (m : Pattern.Match) : Dict Value :=
  (d.required.zip m.groups).map fun e => (e.1, .text (groupText text e.2))

/-- The arguments of a match are made of an entry for each group. -/
theorem arguments_eq_ofEntries (d : Definition) (text : List Char) (m : Pattern.Match) :
    arguments d text m = Dict.ofEntries (entries d text m) := by
  unfold arguments entries Pattern.Match.groupTexts
  rw [List.zip_map_right, List.map_map]
  refine congrArg Dict.ofEntries (List.map_congr_left fun e _ => ?_)
  obtain ⟨name, group⟩ := e
  cases group <;> rfl

/-- There is an entry for each of the required names. -/
theorem keys_entries (d : Definition) (hm : m ∈ d.pattern.findAll text) :
    Dict.keys (entries d text m) = d.required := by
  have hlength : d.required.length ≤ m.groups.length :=
    Nat.le_of_eq (d.arity.symm.trans (Pattern.length_groups_of_mem hm).symm)
  rw [Dict.keys, entries, List.map_map]
  exact List.map_fst_zip hlength

/-- The directive of an occurrence records it. -/
theorem records_ofMatch (hm : m ∈ t.definition.pattern.findAll text) :
    Records text m (ofMatch t text m) := by
  have hkeys := keys_entries t.definition hm
  have hparams : (ofMatch t text m).params = Dict.ofEntries (entries t.definition text m) :=
    arguments_eq_ofEntries ..
  refine ⟨rfl, rfl, rfl, ?_, fun name => ?_, fun i name hname hlast => ?_⟩
  · rw [hparams]
    exact Dict.nodup_keys_merge (d := []) List.nodup_nil _
  · rw [hparams, Dict.ofEntries, Dict.mem_keys_merge, hkeys]
    exact or_iff_right List.not_mem_nil
  · have hgroup : i < m.groups.length := by
      rw [Pattern.length_groups_of_mem hm, t.definition.arity]
      exact (List.getElem?_eq_some_iff.mp hname).1
    refine ⟨_, List.getElem?_eq_getElem hgroup, ?_⟩
    rw [hparams]
    have hzip : (t.definition.required.zip m.groups)[i]? = some (name, m.groups[i]) :=
      List.getElem?_zip_eq_some.mpr ⟨hname, List.getElem?_eq_getElem hgroup⟩
    have hentry : (entries t.definition text m)[i]? =
        some (name, .text (groupText text m.groups[i])) := by
      rw [entries, List.getElem?_map, hzip]
      rfl
    refine Dict.find?_merge_of_last hentry ?_ []
    rwa [Dict.keys, List.map_drop, ← Dict.keys, hkeys]

/-! ## All directives -/

variable {ts : List (Trigger σ)}

/-- By registry the directives are listed trigger by trigger. -/
theorem map_trigger_findEach (ts : List (Trigger σ)) (text : List Char) :
    (findEach ts text).map (·.trigger) = ts.flatMap fun t =>
      List.replicate (t.definition.pattern.findAll text).length t := by
  rw [findEach, List.map_flatMap]
  refine List.flatMap_congr fun t _ => ?_
  rw [findOne, List.map_map]
  exact List.map_const'

/-- However the directives are listed, those of a trigger that alone is chosen are found in their order. -/
theorem filter_findAll (chosen : Trigger σ → Bool) (honly : ts.filter chosen = [t])
    (order : DispatchOrder) :
    ((findAll order ts text).filter fun d => chosen d.trigger) = findOne text t := by
  have hfound : ((findAll .registry ts text).filter fun d => chosen d.trigger) = findOne text t := by
    refine (filter_findEach chosen ts text).trans ?_
    rw [honly, findEach, List.flatMap_singleton]
  cases order with
  | registry => exact hfound
  | position => exact (filter_findAll_position (by simp [honly]) text).trans hfound

open Classical in
/-- Directives are the occurrences of triggers in a text: they belong to the triggers and lie within the
text, and those of each trigger record its matches from left to right, none of which overlaps the one before
it. Only behind an empty match there may be one that starts at the same place, and it ends further on. -/
structure AreFound (ts : List (Trigger σ)) (text : List Char) (ds : List (Directive σ)) : Prop where
  triggers : ∀ d ∈ ds, d.trigger ∈ ts
  within : ∀ d ∈ ds, d.start ≤ d.stop ∧ d.stop ≤ text.length
  records : ∀ t ∈ ts, List.Forall₂ (Records text) (t.definition.pattern.findAll text)
    (ds.filter fun d => d.trigger = t)
  advance : ∀ t ∈ ts, (ds.filter fun d => d.trigger = t).Pairwise fun a b =>
    a.stop ≤ b.start ∧ (a.start < b.start ∨ a.stop < b.stop)

open Classical in
/-- What is found in a view without duplicates are the occurrences of its triggers. -/
theorem areFound_findAll (hts : ts.Nodup) (order : DispatchOrder) (text : List Char) :
    AreFound ts text (findAll order ts text) := by
  have hown (t : Trigger σ) (ht : t ∈ ts) :
      ((findAll order ts text).filter fun d => d.trigger = t) = findOne text t := by
    refine filter_findAll (fun u => decide (u = t)) ?_ order
    rw [List.filter_eq, List.count_eq_one_of_mem hts ht]
    rfl
  refine ⟨fun d hd => trigger_mem_of_findAll hd, fun d hd => ?_, fun t ht => ?_, fun t ht => ?_⟩
  · have hmem : d ∈ findOne text d.trigger := by
      rw [← hown _ (trigger_mem_of_findAll hd)]
      exact List.mem_filter.mpr ⟨hd, decide_eq_true rfl⟩
    obtain ⟨m, hm, heq⟩ := List.mem_map.mp hmem
    obtain ⟨-, hle, hstop⟩ := Pattern.matchesFrom_bounds hm
    rw [Nat.zero_add] at hstop
    rw [← heq]
    exact ⟨hle, hstop⟩
  · rw [hown t ht, findOne]
    exact List.forall₂_map_right_iff.mpr (List.forall₂_same.mpr fun m hm => records_ofMatch hm)
  · rw [hown t ht, findOne]
    refine List.pairwise_map.mpr ?_
    exact (Pattern.pairwise_precedes_matchesFrom _ [] 0 0 text).imp fun h => ⟨h.le, h.advances⟩

/-- Directives are listed by where they start, and those that start at one position as before. -/
structure AreSorted (ds sorted : List (Directive σ)) : Prop where
  perm : sorted.Perm ds
  ordered : sorted.Pairwise fun a b => a.start ≤ b.start
  stable : ∀ n, (sorted.filter fun d => d.start = n) = ds.filter fun d => d.start = n

/-- By position the directives are those by registry, stably sorted. -/
theorem areSorted_findAll (ts : List (Trigger σ)) (text : List Char) :
    AreSorted (findAll .registry ts text) (findAll .position ts text) := by
  refine ⟨List.mergeSort_perm _ _, Dispatch.pairwise_mergeSort Directive.start (findEach ts text),
    fun n => Dispatch.filter_mergeSort Directive.start ?_⟩
  -- All that start at one position are in order already.
  refine List.Pairwise.imp_of_mem (fun {a b} ha hb _ => ?_)
    (List.pairwise_of_forall fun _ _ => trivial)
  have hstart := of_decide_eq_true (List.mem_filter.mp ha).2
  have hstart' := of_decide_eq_true (List.mem_filter.mp hb).2
  exact Nat.le_of_eq (hstart.trans hstart'.symm)

/-- The directives that triggers have in a text; the empty text has none. -/
def foundIn (order : DispatchOrder) (ts : List (Trigger σ)) (text : String) : List (Directive σ) :=
  if text = "" then [] else findAll order ts text.toList

/-- What is found belongs to one of the triggers. -/
theorem trigger_mem_of_foundIn {order : DispatchOrder} {text : String} {d : Directive σ}
    (h : d ∈ foundIn order ts text) : d.trigger ∈ ts := by
  unfold foundIn at h
  split at h
  · cases h
  · exact trigger_mem_of_findAll h

end Directive

namespace Dispatch

open Concierge.Action

variable {σ : Type} {x : Executor} {c : Context}

/-- Directives are executed one after another from a world on, each with its own params, and each has a
report. A directive that is interrupted is the last one, and then there are no reports. -/
inductive RunsOneByOne (x : Executor) (c : Context) :
    List (Directive σ) → World σ → Except Fault (List Report) → World σ → Prop
  | nil (w : World σ) : RunsOneByOne x c [] w (.ok []) w
  | executed {d : Directive σ} {ds : List (Directive σ)} {w left after : World σ} {result : Result}
      {rest : Except Fault (List Report)} :
      x.execute d.trigger (.dict d.params) c w = (.ok result, left) →
      RunsOneByOne x c ds left rest after →
      RunsOneByOne x c (d :: ds) w (rest.map (.ofResult d.trigger.definition result d.start :: ·)) after
  | interrupted {d : Directive σ} {ds : List (Directive σ)} {w left : World σ} {f : Fault} :
      x.execute d.trigger (.dict d.params) c w = (.error f, left) →
      RunsOneByOne x c (d :: ds) w (.error f) left

/-- Executing directives runs them one by one. -/
theorem runsOneByOne_executeAll (ds : List (Directive σ)) (w : World σ) :
    RunsOneByOne x c ds w (executeAll x c ds w).1 (executeAll x c ds w).2 := by
  induction ds generalizing w with
  | nil => exact .nil w
  | cons d ds ih =>
    cases hexecute : x.execute d.trigger (.dict d.params) c w with
    | mk ended left =>
      cases ended with
      | error f =>
        have hone : executeOne x c d w = (.error f, left) := bind_of_error hexecute
        have hrun : executeAll x c (d :: ds) w = (.error f, left) := bind_of_error hone
        rw [hrun]
        exact .interrupted hexecute
      | ok result =>
        have hone : executeOne x c d w =
            (.ok (.ofResult d.trigger.definition result d.start), left) := bind_of_ok hexecute
        have hrun : executeAll x c (d :: ds) w =
            ((executeAll x c ds left).1.map (.ofResult d.trigger.definition result d.start :: ·),
              (executeAll x c ds left).2) := by
          refine (bind_of_ok hone).trans ?_
          cases hrest : executeAll x c ds left with
          | mk rest after =>
            cases rest with
            | ok reports => exact bind_of_ok hrest
            | error f => exact bind_of_error hrest
        rw [hrun]
        exact .executed hexecute (ih left)

/-- The world after the executions of directives. -/
def worldAfter (x : Executor) (c : Context) (ds : List (Directive σ)) (w : World σ) : World σ :=
  ds.foldl (fun w d => (x.execute d.trigger (.dict d.params) c w).2) w

variable {d : Directive σ} {ds : List (Directive σ)} {w after : World σ} {reports : List Report}

/-- When directives have reports, the first one is that of the result of the first directive. -/
theorem RunsOneByOne.cons_inv (h : RunsOneByOne x c (d :: ds) w (.ok reports) after) :
    ∃ result left rest, x.execute d.trigger (.dict d.params) c w = (.ok result, left) ∧
      RunsOneByOne x c ds left (.ok rest) after ∧
      reports = .ofResult d.trigger.definition result d.start :: rest := by
  generalize hreports : Except.ok reports = e at h
  cases h with
  | interrupted => cases hreports
  | @executed _ _ _ left _ result rest hexecute hrest =>
    cases rest with
    | error f => cases hreports
    | ok rest =>
      cases hreports
      exact ⟨result, left, rest, hexecute, hrest, rfl⟩

/-- Each directive has a report, in their order, and the last one leaves the world behind. -/
theorem RunsOneByOne.of_ok (h : RunsOneByOne x c ds w (.ok reports) after) :
    (reports.map key = ds.map fun d => (.text d.trigger.id, (d.start : Int))) ∧
      after = worldAfter x c ds w := by
  induction ds generalizing w reports with
  | nil =>
    cases h
    exact ⟨rfl, rfl⟩
  | cons d ds ih =>
    obtain ⟨result, left, rest, hexecute, hrest, rfl⟩ := h.cons_inv
    obtain ⟨hkeys, hafter⟩ := ih hrest
    refine ⟨?_, ?_⟩
    · rw [List.map_cons, List.map_cons, hkeys]
      rfl
    · rw [worldAfter, List.foldl_cons, hexecute]
      exact hafter

/-- Where the registry gives triggers, their directives are found. -/
theorem exists_find_eq {ts : List (Trigger σ)} {r r' : Registry σ}
    (hall : (Registry.all : Registry.Use σ _) r = (.ok ts, r')) (order : DispatchOrder) (text : String) :
    ∃ left, find order text r = (.ok (Directive.foundIn order ts text), left) := by
  unfold Directive.foundIn
  split
  · rename_i hempty
    exact ⟨r, by rw [find, if_pos hempty]; rfl⟩
  · rename_i hne
    exact ⟨r', find_eq order hne hall⟩

end Dispatch

namespace Assistant

variable {σ : Type} {s : Assistant σ} {c : Context} {ts : List (Trigger σ)} {r : Registry σ}

/-- Dispatch executes the directives that are found. -/
theorem dispatch_eq_executeAll (hall : (Registry.all : Registry.Use σ _) s.registry = (.ok ts, r))
    (text : String) (c : Context) :
    ((dispatch (.text text) c s).1, (dispatch (.text text) c s).2.world) =
      Dispatch.executeAll s.executor c (Directive.foundIn s.order ts text) s.world := by
  obtain ⟨left, hfind⟩ := Dispatch.exists_find_eq hall s.order text
  rw [dispatch_of_found (v := .text text) hfind c]
  rfl

/-- Dispatch executes the directives that are found one by one. -/
theorem dispatch_runsOneByOne (hall : (Registry.all : Registry.Use σ _) s.registry = (.ok ts, r))
    (text : String) (c : Context) :
    Dispatch.RunsOneByOne s.executor c (Directive.foundIn s.order ts text) s.world
      (dispatch (.text text) c s).1 (dispatch (.text text) c s).2.world := by
  have hruns := Dispatch.runsOneByOne_executeAll (x := s.executor) (c := c)
    (Directive.foundIn s.order ts text) s.world
  rwa [← dispatch_eq_executeAll hall text c] at hruns

/-- Dispatch has reports, unless a trigger raises an interrupt. -/
theorem exists_dispatch (hall : (Registry.all : Registry.Use σ _) s.registry = (.ok ts, r))
    (houtage : s.executor.outage.IsOrdinary) (htriggers : ∀ t ∈ ts, t.IsOrdinary c) (text : String) :
    ∃ reports, (dispatch (.text text) c s).1 = .ok reports := by
  obtain ⟨reports, after, hrun⟩ := Dispatch.exists_executeAll houtage
    (fun d hd => htriggers _ (Directive.trigger_mem_of_foundIn hd)) s.world
  rw [← dispatch_eq_executeAll hall text c] at hrun
  exact ⟨reports, congrArg Prod.fst hrun⟩

/-- Where the registry gives a view without duplicates, the directives of a text are the occurrences of its
triggers, listed trigger by trigger or stably sorted by where they start; only the empty text has none,
whatever the patterns match. In both orders dispatch executes the directives one after another, and has one
report for each of them, in their order, unless a trigger raises an interrupt. -/
theorem dispatch_finds_and_runs (text : String) (c : Context)
    (hall : (Registry.all : Registry.Use σ _) s.registry = (.ok ts, r)) (hts : ts.Nodup) :
    ∃ found : DispatchOrder → List (Directive σ),
      (∀ order, (Dispatch.find order text s.registry).1 = .ok (found order)) ∧
      (text = "" → ∀ order, found order = []) ∧
      (text ≠ "" → ∀ order, Directive.AreFound ts text.toList (found order)) ∧
      (text ≠ "" → (found .registry).map (·.trigger) = ts.flatMap fun t =>
        List.replicate (t.definition.pattern.findAll text.toList).length t) ∧
      Directive.AreSorted (found .registry) (found .position) ∧
      ∀ order,
        let ran := dispatch (.text text) c { s with order }
        Dispatch.RunsOneByOne s.executor c (found order) s.world ran.1 ran.2.world ∧
        (∀ reports, ran.1 = .ok reports →
          (reports.map Dispatch.key =
            (found order).map fun d => (.text d.trigger.id, (d.start : Int))) ∧
          ran.2.world = Dispatch.worldAfter s.executor c (found order) s.world) ∧
        (s.executor.outage.IsOrdinary → (∀ t ∈ ts, t.IsOrdinary c) →
          ∃ reports, ran.1 = .ok reports) := by
  have hfound (hne : text ≠ "") (order : DispatchOrder) :
      Directive.foundIn order ts text = Directive.findAll order ts text.toList := if_neg hne
  refine ⟨(Directive.foundIn · ts text), fun order => ?_, fun hempty order => if_pos hempty,
    fun hne order => ?_, fun hne => ?_, ?_, fun order => ?_⟩
  · obtain ⟨left, hfind⟩ := Dispatch.exists_find_eq hall order text
    rw [hfind]
  · dsimp only
    rw [hfound hne]
    exact Directive.areFound_findAll hts order text.toList
  · dsimp only
    rw [hfound hne]
    exact Directive.map_trigger_findEach ts text.toList
  · unfold Directive.foundIn
    split
    · exact ⟨.refl _, .nil, fun _ => rfl⟩
    · exact Directive.areSorted_findAll ts text.toList
  · have hruns := dispatch_runsOneByOne (s := { s with order }) hall text c
    refine ⟨hruns, fun reports hreports => ?_, fun houtage htriggers =>
      exists_dispatch (s := { s with order }) hall houtage htriggers text⟩
    rw [hreports] at hruns
    exact hruns.of_ok

/-- What a shopper is told is found and executed trigger by trigger. -/
theorem dispatch_finds_and_runs_order :
    let text := "[SHOW_PRODUCTS:12] [ADD_TO_CART:12:2] [SHOW_PRODUCTS:15]"
    let shopper : Context := { timestamp := Timestamp.universal 0 }
    let s := sample {} (builtinTriggers {} true) .registry
    ((Registry.all : Registry.Use Site _) s.registry).1 = .ok (builtinTriggers {} true) ∧
      (builtinTriggers {} true).Nodup ∧
      ∃ reports, (dispatch (.text text) shopper s).1 = .ok reports ∧
        reports.map Dispatch.key =
          [(.text "add_to_cart", 19), (.text "show_products", 0), (.text "show_products", 38)] := by
  intro text shopper s
  have hnew : ((builtinTriggers {} true).map Trigger.id).Nodup := by decide
  have hall := Registry.all_new hnew
  obtain ⟨found, hfind, -, -, -, -, hruns⟩ :=
    dispatch_finds_and_runs (s := s) text shopper hall (.of_map _ hnew)
  obtain ⟨-, hkeys, hgives⟩ := hruns .registry
  obtain ⟨reports, hreports⟩ := hgives (by simp [s, sample, Outage.IsOrdinary])
    fun t => isOrdinary_builtin
  refine ⟨congrArg Prod.fst hall, .of_map _ hnew, reports, hreports, ?_⟩
  have hplaces : (Dispatch.find .registry text s.registry).1.map
      (List.map fun d => (Value.text d.trigger.id, (d.start : Int))) =
      .ok [(.text "add_to_cart", 19), (.text "show_products", 0), (.text "show_products", 38)] := by
    decide +kernel
  rw [hfind .registry] at hplaces
  exact (hkeys reports hreports).1.trans (Except.ok.inj hplaces)

/-- A trigger with a pattern and a name for each of its groups, which anyone may fire. -/
def matching (pattern : Pattern) (required : List String)
    (arity : pattern.groupCount = required.length)
    (perform : Params → Context → Action Unit Answer := fun _ _ => return .value .null) :
    Trigger Unit where
  definition :=
    { id := "ping", name := "ping", pattern, required, arity
      description := "", settings := [], budget := none }
  permits _ := .ok (.bool true)
  perform

/-- An assistant with one trigger, in a world with nothing but a store. -/
def alone (t : Trigger Unit) (executor : Executor) (store : Store := {}) : Assistant Unit where
  world := ⟨0, store, (), false⟩
  registry := { builtins := [t] }
  executor

/-- A match of the empty text is not found, two matches may start at one place, the first of two groups of
one name has no argument, and an interrupt leaves no reports. -/
theorem found_otherwise :
    let context : Context := { timestamp := Timestamp.universal 0 }
    let xs := matching (.ofNode "x*" (.loop 0 none true (.char 'x')) 0) [] rfl
    let lazy := matching (.ofNode "x*?" (.loop 0 none false (.char 'x')) 0) [] rfl
    let twice := matching (.ofNode "(x)(y)" (.seq (.group 0 (.char 'x')) (.group 1 (.char 'y'))) 2) ["a", "a"] rfl
    let interrupt : Fault := .raised { label := "KeyboardInterrupt", message := "", isInterrupt := true }
    let stopping := matching (.ofNode "x" (.char 'x') 0) [] rfl fun _ _ => throw interrupt
    (xs.definition.pattern.findAll "".toList = [⟨0, 0, []⟩] ∧
      (Dispatch.find .registry "" (alone xs {}).registry).1 = .ok []) ∧
    (Dispatch.find .registry "x" (alone lazy {}).registry).1.map (List.map fun d => (d.start, d.stop)) =
      .ok [(0, 0), (0, 1), (1, 1)] ∧
    (twice.definition.pattern.findAll "xy".toList = [⟨0, 2, [some ⟨0, 1⟩, some ⟨1, 2⟩]⟩] ∧
      (Dispatch.find .registry "xy" (alone twice {}).registry).1.map (List.map fun d => d.params) =
        .ok [[("a", .text "y")]]) ∧
    (dispatch (.text "x") context (alone stopping {})).1 = .error interrupt := by
  refine ⟨⟨?_, rfl⟩, ?_, ⟨?_, ?_⟩, ?_⟩ <;> decide +kernel

end Assistant

end Concierge
