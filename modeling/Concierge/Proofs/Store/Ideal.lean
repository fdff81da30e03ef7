import Concierge.Proofs.Store.Row

/-!
# Stores as ideal maps

An ideal map has an entry for every key that was set and not deleted, and an entry is present until its
expiry; nothing has to be removed because of its age. A store removes expired rows when it happens to
look at them, and so holds other rows than the ideal map has entries at almost any time. What is present at
an instant is nevertheless the same in both, every call preserves that, and so both give the same answers.
-/

namespace Concierge.Store

/-! ## Calls and answers -/

/-- A call on a store. -/
inductive Call where
  | set (key : String) (value seconds : Value) (keep : Bool)
  | get (key : String)
  | delete (key : String)
  | lifetime (key : String)
  | purge

/-- What a call answers. -/
inductive Answer where
  | stored
  | unstored (error : SetError)
  | value (v : Value)
  | deleted (wasLive : Bool)
  /-- The microseconds that are left. -/
  | lifetime (rest : Option Int)
  deriving DecidableEq

/-- The answer to setting a key. -/
def Answer.ofSetting : Except SetError Unit → Answer
  | .ok _ => stored
  | .error e => unstored e

/-- The call is a purge. -/
def Call.isPurge : Call → Bool
  | purge => true
  | _ => false

/-- A call at an instant: its answer and the store that it leaves. The number of rows that a purge
removes tells nothing about a key, and is no answer. -/
def Call.run (now : Instant) : Call → Store → Option Answer × Store
  | set key value seconds keep, s =>
    let (outcome, s) := s.set now key value seconds keep
    (some (.ofSetting outcome), s)
  | get key, s =>
    let (v, s) := s.get now key
    (some (.value v), s)
  | delete key, s =>
    let (wasLive, s) := s.delete now key
    (some (.deleted wasLive), s)
  | lifetime key, s =>
    let (rest, s) := s.lifetime now key
    (some (.lifetime rest), s)
  | purge, s => (none, (s.purge now).2)

/-- The answers to a sequence of calls, each at its instant. -/
def answersBy {S : Type} (run : Instant → Call → S → Option Answer × S) :
    List (Instant × Call) → S → List Answer
  | [], _ => []
  | (now, call) :: calls, s =>
    (run now call s).1.toList ++ answersBy run calls (run now call s).2

/-- The answers of a store. -/
def answers (calls : List (Instant × Call)) (s : Store) : List Answer := answersBy Call.run calls s

/-! ## The ideal map -/

/-- What a key was set to, and when it expires. -/
structure Ideal.Entry where
  value : Value
  expiry : Option Instant

/-- The entries of the keys that were set and not deleted. -/
abbrev Ideal := String → Option Ideal.Entry

namespace Ideal

/-- The entry is present: it does not expire, or later. -/
def Entry.isPresent (now : Instant) (e : Entry) : Bool := e.expiry.all (now < ·)

/-- The entry of a key, as long as it is present. -/
def present (now : Instant) (m : Ideal) (key : String) : Option Entry := (m key).filter (Entry.isPresent now)

/-- The map with another entry for a key, or with none. -/
def put (key : String) (entry : Option Entry) (m : Ideal) : Ideal :=
  fun k => if key = k then entry else m k

/-- The end of a lifetime in seconds that begins now; there is none without a lifetime. -/
def ending (now : Instant) : Value → Except TimeError (Option Instant)
  | .null => .ok none
  | seconds => do return some (← Instant.shift now (← Span.ofSeconds seconds))

/-- The expiry of a key that is set: a key that is present keeps its own if it is to be kept, and otherwise
it is the end of the lifetime. -/
def expiryFor (now : Instant) (key : String) (seconds : Value) (keep : Bool) (m : Ideal) :
    Except TimeError (Option Instant) :=
  match keep, m.present now key with
  | true, some entry => .ok entry.expiry
  | _, _ => ending now seconds

/-- The entry of a key that is set. A value with an integer of too many digits has none. -/
def entryFor (holds : Value → Value) (now : Instant) (key : String) (value seconds : Value) (keep : Bool)
    (m : Ideal) : Except SetError Entry :=
  match m.expiryFor now key seconds keep with
  | .error e => .error (.time e)
  | .ok expiry => if value.isShort then .ok ⟨holds value, expiry⟩ else .error (.unwritten .tooLong)

/-- A call on an ideal map, which holds values in its own way. -/
def run (holds : Value → Value) (now : Instant) : Call → Ideal → Option Answer × Ideal
  | .set key value seconds keep, m =>
    match m.entryFor holds now key value seconds keep with
    | .ok entry => (some .stored, m.put key (some entry))
    | .error e => (some (.unstored e), m)
  | .get key, m => (some (.value (((m.present now key).map Entry.value).getD .null)), m)
  | .delete key, m => (some (.deleted (m.present now key).isSome), m.put key none)
  | .lifetime key, m =>
    (some (.lifetime (((m.present now key).bind Entry.expiry).map fun e : Instant => (e : Int) - now)), m)
  | .purge, m => (none, m)

/-- The answers of an ideal map that holds values in some way. -/
def answers (holds : Value → Value) (calls : List (Instant × Call)) (m : Ideal) : List Answer :=
  answersBy (run holds) calls m

end Ideal

/-- A row as the entry of an ideal map. -/
def Row.entry (row : Row) : Ideal.Entry := ⟨row.value, row.expiry⟩

/-- The ideal map of the rows of a store. -/
def ideal (s : Store) : Ideal := fun key => (Dict.find? key s.rows).map Row.entry

/-- A row lives as long as its entry is present. -/
theorem map_entry_filter (now : Instant) (row : Option Row) :
    (row.filter (Row.isLive now)).map Row.entry =
      (row.map Row.entry).filter (Ideal.Entry.isPresent now) := by
  cases row with
  | none => rfl
  | some row => by_cases hlive : row.isLive now = true <;>
      simp_all [Option.filter, Row.isLive, Ideal.Entry.isPresent, Row.entry]

/-! ## One call -/

/-- A store and an ideal map in which the same is present at an instant. -/
structure Matches (now : Instant) (s : Store) (m : Ideal) : Prop where
  isKeyed : s.IsKeyed
  present_eq : ∀ key, m.present now key = (s.view now key).map Row.entry

variable {now : Instant} {s : Store} {m : Ideal}

/-- The rows of a store are present as long as they live. -/
theorem matches_ideal (h : s.IsKeyed) (now : Instant) : Matches now s s.ideal := by
  refine ⟨h, fun key => ?_⟩
  rw [view_eq_filter, map_entry_filter]
  rfl

/-- An entry that is present at an instant has been present before it. -/
theorem Ideal.present_later {later : Instant} (hle : now ≤ later) (m : Ideal) (key : String) :
    (m.present now key).filter (Entry.isPresent later) = m.present later key := by
  unfold present
  cases m key with
  | none => rfl
  | some entry =>
    by_cases hlater : entry.isPresent later = true
    · have hnow : entry.isPresent now = true := by
        unfold Entry.isPresent at hlater ⊢
        cases hexpiry : entry.expiry with
        | none => rfl
        | some e =>
          rw [hexpiry] at hlater
          have hlt : later < e := by simpa using hlater
          simpa using Nat.lt_of_le_of_lt hle hlt
      rw [Option.filter_some_pos hnow]
    · by_cases hnow : entry.isPresent now = true <;> simp [Option.filter, hnow, hlater]

/-- The same will be present later. -/
theorem Matches.later {later : Instant} (h : Matches now s m) (hle : now ≤ later) : Matches later s m where
  isKeyed := h.isKeyed
  present_eq key := by
    rw [view_later hle, map_entry_filter, ← h.present_eq, Ideal.present_later hle]

/-- The expiry of a key that is set is that of the ideal map. -/
theorem Matches.expiryFor_eq (h : Matches now s m) (key : String) (seconds : Value) (keep : Bool) :
    m.expiryFor now key seconds keep = expiryFor now (s.view now key) seconds keep := by
  unfold Ideal.expiryFor
  rw [h.present_eq key]
  cases keep <;> cases s.view now key <;> cases seconds <;> rfl

/-- The row of a key that is set is the entry of the ideal map. -/
theorem Matches.entryFor_eq (h : Matches now s m) (key : String) (value seconds : Value) (keep : Bool) :
    m.entryFor Column.held now key value seconds keep =
      (rowFor now (s.view now key) value seconds keep).map Row.entry := by
  unfold rowFor Ideal.entryFor
  rw [h.expiryFor_eq key seconds keep]
  cases expiryFor now (s.view now key) seconds keep with
  | error e => rfl
  | ok expiry => by_cases hshort : value.isShort = true <;> simp [hshort] <;> rfl

/-- What is present in a map with another entry for a key. -/
theorem Ideal.present_put (now : Instant) (key k : String) (entry : Option Entry) (m : Ideal) :
    (m.put key entry).present now k =
      if key = k then entry.filter (Entry.isPresent now) else m.present now k := by
  unfold Ideal.present Ideal.put
  split <;> rfl

/-- A call is answered alike by a store and by an ideal map that match, and they still match after it. -/
theorem Matches.run (h : Matches now s m) (call : Call) :
    (call.run now s).1 = (Ideal.run Column.held now call m).1 ∧
      Matches now (call.run now s).2 (Ideal.run Column.held now call m).2 := by
  cases call with
  | set key value seconds keep =>
    have hentry := h.entryFor_eq key value seconds keep
    have hkeyed := h.isKeyed.set now key value seconds keep
    simp only [Call.run, Ideal.run, hentry]
    cases hset : rowFor now (s.view now key) value seconds keep with
    | ok row =>
      have hview := view_set_of_ok hset now
      rw [set_of_ok hset] at hkeyed hview ⊢
      refine ⟨rfl, hkeyed, fun k => ?_⟩
      show (m.put key (some row.entry)).present now k = _
      rw [hview, Ideal.present_put, h.present_eq k, apply_ite (Option.map Row.entry), map_entry_filter]
      rfl
    | error e =>
      have hview := view_set_of_error hset (Nat.le_refl now)
      rw [set_of_error hset] at hkeyed hview ⊢
      exact ⟨rfl, hkeyed, fun k => (h.present_eq k).trans (congrArg _ (congrFun hview k).symm)⟩
  | get key =>
    refine ⟨?_, h.isKeyed.touch now key, fun k => ?_⟩
    · simp only [Ideal.run, h.present_eq key, Option.map_map]
      rfl
    · exact (h.present_eq k).trans (congrArg _ (congrFun (view_touch now key s) k).symm)
  | delete key =>
    refine ⟨?_, h.isKeyed.delete now key, fun k => ?_⟩
    · simp only [Call.run, Ideal.run, h.present_eq key, delete_fst, Option.isSome_map]
    · simp only [Call.run, Ideal.run]
      rw [view_delete, Ideal.present_put, h.present_eq k, apply_ite (Option.map Row.entry)]
      rfl
  | lifetime key =>
    refine ⟨?_, h.isKeyed.touch now key, fun k => ?_⟩
    · simp only [Call.run, Ideal.run, h.present_eq key, lifetime_fst, Option.bind_map]
      rfl
    · exact (h.present_eq k).trans (congrArg _ (congrFun (view_touch now key s) k).symm)
  | purge =>
    refine ⟨rfl, h.isKeyed.purge now, fun k => ?_⟩
    exact (h.present_eq k).trans (congrArg _ (view_purge h.isKeyed (Nat.le_refl now) k).symm)

/-! ## Sequences of calls -/

/-- At instants that do not decrease, a store gives the answers of an ideal map that matches it. -/
theorem Matches.answers_eq {calls : List (Instant × Call)} (h : Matches now s m)
    (hordered : (now :: calls.map (·.1)).Pairwise (· ≤ ·)) :
    answers calls s = m.answers Column.held calls := by
  induction calls generalizing now s m with
  | nil => rfl
  | cons e calls ih =>
    obtain ⟨next, call⟩ := e
    obtain ⟨hnext, hrest⟩ := List.pairwise_cons.mp hordered
    obtain ⟨hanswer, hmatches⟩ := (h.later (hnext next (by simp))).run call
    have htail := ih hmatches hrest
    unfold answers Ideal.answers at htail ⊢
    rw [answersBy, answersBy, hanswer, htail]

/-- An ideal map answers the same without the purges. -/
theorem Ideal.answers_filter_isPurge (holds : Value → Value) (calls : List (Instant × Call))
    (m : Ideal) : m.answers holds (calls.filter fun e => !e.2.isPurge) = m.answers holds calls := by
  unfold Ideal.answers
  induction calls generalizing m with
  | nil => rfl
  | cons e calls ih =>
    obtain ⟨now, call⟩ := e
    cases call with
    | purge => exact ih m
    | _ => exact congrArg (_ ++ ·) (ih _)

/-- What is left of a lifetime in an ideal map is some time. -/
theorem Ideal.rest_pos {holds : Value → Value} {calls : List (Instant × Call)} {m : Ideal} {rest : Int}
    (h : .lifetime (some rest) ∈ m.answers holds calls) : 0 < rest := by
  unfold Ideal.answers at h
  induction calls generalizing m with
  | nil => cases h
  | cons e calls ih =>
    obtain ⟨now, call⟩ := e
    rw [answersBy, List.mem_append] at h
    refine h.elim (fun hhead => ?_) ih
    cases call with
    | lifetime key =>
      have hrest := Answer.lifetime.inj (Option.some.inj (Option.mem_toList.mp hhead))
      obtain ⟨expiry, hexpiry, rfl⟩ := Option.map_eq_some_iff.mp hrest
      obtain ⟨entry, hpresent, hentry⟩ := Option.bind_eq_some_iff.mp hexpiry
      have hlive := (Option.filter_eq_some_iff.mp hpresent).2
      rw [Entry.isPresent, hentry] at hlive
      have hlater : now < expiry := by simpa using hlive
      exact Int.sub_pos.mpr (Int.ofNat_lt.mpr hlater)
    | set key value seconds keep =>
      simp only [Ideal.run] at hhead
      split at hhead <;> simp at hhead
    | get key => simp [Ideal.run] at hhead
    | delete key => simp [Ideal.run] at hhead
    | purge => simp [Ideal.run] at hhead

/-- The column of values changes nothing but bare numbers, and of these no integer of 64 bits. -/
theorem held_eq_self {v : Value} (hdouble : ∀ d, v ≠ .double d)
    (hint : ∀ n, v = .int n → Column.leastInteger ≤ n ∧ n ≤ Column.greatestInteger) :
    Column.held v = v := by
  cases v with
  | int n => rw [Column.held, if_pos (hint n rfl)]
  | double d => exact absurd rfl (hdouble d)
  | _ => rfl

/-! ## The whole sequence -/

/-- At instants that do not decrease, a store answers any sequence of calls as the ideal map of its rows
does, except that values are held as its column of values holds them; this changes only doubles and
integers of more than 64 bits. Hence purges change no answer, what is left of a lifetime is some time,
and a row that is not stored, since its expiry cannot be computed or its value cannot be written, leaves all
live rows as they were. -/
theorem answers_eq_ideal {calls : List (Instant × Call)} (hkeyed : s.IsKeyed)
    (hordered : (calls.map (·.1)).Pairwise (· ≤ ·)) :
    answers calls s = s.ideal.answers Column.held calls ∧
      (∀ v, (∀ d, v ≠ .double d) →
        (∀ n, v = .int n → Column.leastInteger ≤ n ∧ n ≤ Column.greatestInteger) →
        Column.held v = v) ∧
      (∀ others : List (Instant × Call), (others.map (·.1)).Pairwise (· ≤ ·) →
        (others.filter fun e => !e.2.isPurge) = calls.filter (fun e => !e.2.isPurge) →
        answers others s = answers calls s) ∧
      (∀ rest, .lifetime (some rest) ∈ answers calls s → 0 < rest) ∧
      ∀ now key value seconds keep e, (s.set now key value seconds keep).1 = .error e →
        ∀ later, now ≤ later → (s.set now key value seconds keep).2.view later = s.view later := by
  have hideal : ∀ calls : List (Instant × Call), (calls.map (·.1)).Pairwise (· ≤ ·) →
      answers calls s = s.ideal.answers Column.held calls := by
    intro calls hordered
    refine (matches_ideal hkeyed 0).answers_eq (List.pairwise_cons.mpr ⟨?_, hordered⟩)
    exact fun _ _ => Nat.zero_le _
  refine ⟨hideal calls hordered, fun _ => held_eq_self, ?_, ?_, ?_⟩
  · intro others hothers hcalls
    calc answers others s
      _ = s.ideal.answers Column.held others := hideal others hothers
      _ = s.ideal.answers Column.held calls := by
        rw [← Ideal.answers_filter_isPurge, hcalls, Ideal.answers_filter_isPurge]
      _ = answers calls s := (hideal calls hordered).symm
  · intro rest hrest
    rw [hideal calls hordered] at hrest
    exact Ideal.rest_pos hrest
  · intro now key value seconds keep e hfailed later hle
    cases hset : rowFor now (s.view now key) value seconds keep with
    | ok row => rw [set_of_ok hset] at hfailed; cases hfailed
    | error e' => exact view_set_of_error hset hle

/-- A key is present until the instant of its expiry, and absent from that instant on. -/
theorem answers_at_expiry :
    answers [(0, .set "visits" (.int 1) (.int 1) false), (500000, .lifetime "visits"),
      (999999, .set "visits" (.int 2) .null true), (999999, .get "visits"), (1000000, .purge),
      (1000000, .get "visits")] {} =
        [.stored, .lifetime (some 500000), .stored, .value (.int 2), .value .null] :=
  (answers_eq_ideal isKeyed_empty (by decide)).1.trans rfl

/-- Numbers that are no integers of 64 bits may come back as other numbers than an ideal map gives that
holds values as they are: an integer as a double, and a double as its neighbour. -/
theorem answers_of_great_numbers :
    let calls : Value → List (Instant × Call) := fun v => [(0, .set "n" v .null false), (0, .get "n")]
    (answers (calls (.int 18446744073709551617)) {} ≠
        Ideal.answers id (calls (.int 18446744073709551617)) (ideal {})) ∧
      answers (calls (.double ⟨4626935505041992609⟩)) {} ≠
        Ideal.answers id (calls (.double ⟨4626935505041992609⟩)) (ideal {}) := by
  decide +kernel

end Concierge.Store
