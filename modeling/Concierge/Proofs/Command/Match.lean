import Concierge.Pattern.Command
import Concierge.Proofs.Command.Scanner
import Mathlib.Data.List.TakeWhile

/-!
# Matching a command

The pattern of a command matches at a place just when a command is written there. The argument is that
the matcher never has to go back: an argument ends at the first character that is barred from it, and
what follows in the pattern is such a character.
-/

namespace Concierge.Pattern

/-! ## Places further on -/

/-- The place a number of characters further on. -/
def Place.skip : Nat → Place → Place
  | 0, p => p
  | n + 1, p => skip n p.next

namespace Place

/-- Passing over characters in two parts. -/
theorem skip_add (m n : Nat) (p : Place) : p.skip (m + n) = (p.skip m).skip n := by
  induction m generalizing p with
  | zero => rw [Nat.zero_add]; rfl
  | succ m ih => rw [Nat.succ_add]; exact ih p.next

/-- Passing over a stretch leaves what is behind it. -/
theorem after_skip {p : Place} (passed : List Char) {rest : List Char} (h : p.after = passed ++ rest) :
    (p.skip passed.length).after = rest := by
  induction passed generalizing p with
  | nil => exact h
  | cons c cs ih => exact ih (by rw [next, h]; rfl)

/-- Passing over a stretch moves the offset by its length. -/
theorem offset_skip {p : Place} (passed : List Char) {rest : List Char} (h : p.after = passed ++ rest) :
    (p.skip passed.length).offset = p.offset + passed.length := by
  induction passed generalizing p with
  | nil => rfl
  | cons c cs ih =>
    have hnext : p.next = ⟨c :: p.before, cs ++ rest, p.offset + 1⟩ := by rw [next, h]; rfl
    rw [List.length_cons, skip, ih (p := p.next) (by rw [hnext]), hnext]
    simp only
    omega

end Place

/-- A match goes on a number of characters further on. -/
def Progress.skip (n : Nat) (s : Progress) : Progress := { s with place := s.place.skip n }

/-! ## Sequences -/

/-- What is left to match when expressions follow one another. -/
def runAll : List Node → Rest → Rest
  | [], k => k
  | node :: nodes, k => run node (runAll nodes k)

/-- A sequence is matched part after part. -/
theorem run_sequence (nodes : List Node) (k : Rest) (s : Progress) :
    run (Node.sequence nodes) k s = runAll nodes k s := by
  cases nodes with
  | nil => rfl
  | cons first nodes =>
    show run (nodes.foldl Node.seq first) k s = run first (runAll nodes k) s
    induction nodes generalizing first with
    | nil => rfl
    | cons second nodes ih => exact ih (.seq first second)

/-- One list of expressions behind another. -/
theorem runAll_append (first second : List Node) (k : Rest) :
    runAll (first ++ second) k = runAll first (runAll second k) := by
  induction first with
  | nil => rfl
  | cons node first ih => rw [List.cons_append, runAll, ih]; rfl

/-- A character of a tag is matched by its spellings. -/
theorem run_char_iff {x : Char} (hx : Text.IsTagChar x) {k : Rest} {s t : Progress} :
    run (.char x) k s = some t ↔
      ∃ c rest, s.place.after = c :: rest ∧ c ∈ Text.spellings x ∧ k (s.skip 1) = some t := by
  simp only [run, Progress.step]
  cases h : s.place.after with
  | nil => simp
  | cons c rest =>
    simp only [Option.ite_none_right_eq_some, Text.sameLetter_iff hx, List.cons.injEq]
    constructor
    · rintro ⟨hc, hk⟩
      exact ⟨c, rest, ⟨rfl, rfl⟩, hc, hk⟩
    · rintro ⟨d, _, ⟨rfl, rfl⟩, hd, hk⟩
      exact ⟨hd, hk⟩

/-- A tag is matched where it is spelled. -/
theorem runAll_tag_iff {tag : List Char} (htag : ∀ x ∈ tag, Text.IsTagChar x) {k : Rest}
    {s t : Progress} :
    runAll (tag.map .char) k s = some t ↔
      ∃ written rest, Command.Spells tag written ∧ s.place.after = written ++ rest ∧
        k (s.skip written.length) = some t := by
  induction tag generalizing s with
  | nil =>
    constructor
    · exact fun h => ⟨[], s.place.after, .nil, rfl, h⟩
    · rintro ⟨_, _, hspells, _, h⟩
      cases hspells
      exact h
  | cons x tag ih =>
    rw [List.map_cons, runAll, run_char_iff (htag x List.mem_cons_self)]
    have htail : ∀ y ∈ tag, Text.IsTagChar y := fun y hy => htag y (List.mem_cons_of_mem x hy)
    constructor
    · rintro ⟨c, cs, hafter, hc, h⟩
      obtain ⟨written, rest, hspells, hskip, hk⟩ := (ih htail).mp h
      have hcs : (s.skip 1).place.after = cs :=
        Place.after_skip [c] hafter
      refine ⟨c :: written, rest, .cons hc hspells, by rw [hafter, ← hcs, hskip]; rfl, ?_⟩
      exact hk
    · rintro ⟨_, rest, hspells, hafter, hk⟩
      cases hspells with
      | @cons _ c _ written hc hspells =>
        refine ⟨c, written ++ rest, hafter, hc, (ih htail).mpr ⟨written, rest, hspells, ?_, hk⟩⟩
        exact Place.after_skip [c] hafter

/-! ## Arguments -/

/-- Passing over a character of a class, when there is one more character. -/
theorem step_of_cons {holds : Char → Bool} {k : Rest} {s : Progress} {c : Char} {cs : List Char}
    (h : s.place.after = c :: cs) :
    s.step holds k = if holds c then k (s.skip 1) else none := by
  simp only [Progress.step, h]
  rfl

/-- At the end of the text there is no character to pass over. -/
theorem step_of_nil {holds : Char → Bool} {k : Rest} {s : Progress} (h : s.place.after = []) :
    s.step holds k = none := by
  simp only [Progress.step, h]

/-- Greedy rounds over a class take all that the class holds, when what follows cannot begin with a
character of the class. -/
theorem upTo_step_eq {holds : Char → Bool} {k : Rest}
    (hk : ∀ u t : Progress, k u = some t → ∀ c ∈ u.place.after.head?, holds c = false)
    {n : Nat} {last : Option Nat} {s : Progress}
    (hn : (s.place.after.takeWhile holds).length ≤ n) (hlast : last ≠ some s.place.offset) :
    upTo true (fun k s => s.step holds k) k n last s =
      k (s.skip (s.place.after.takeWhile holds).length) := by
  induction n generalizing last s with
  | zero =>
    rw [Nat.le_zero.mp hn]
    rfl
  | succ n ih =>
    simp only [upTo, if_neg hlast, if_true]
    cases hafter : s.place.after with
    | nil =>
      rw [step_of_nil hafter]
      rfl
    | cons c cs =>
      rw [step_of_cons hafter]
      cases hc : holds c
      · rw [if_neg Bool.false_ne_true, List.takeWhile_cons_of_neg (by simp [hc])]
        rfl
      · have hstop : k s = none := by
          apply Option.eq_none_iff_forall_ne_some.mpr
          intro t ht
          have hfails := hk s t ht c (by rw [hafter]; rfl)
          exact absurd hc (by simp [hfails])
        have hnext : (s.skip 1).place = ⟨c :: s.place.before, cs, s.place.offset + 1⟩ := by
          show s.place.next = _
          rw [Place.next, hafter]
        rw [hafter, List.takeWhile_cons_of_pos hc, List.length_cons] at hn
        have hround := @ih (some s.place.offset) (s.skip 1)
          (by rw [hnext]; exact Nat.le_of_succ_le_succ hn) (by rw [hnext]; simp)
        rw [if_pos rfl, hround, hstop, Option.or_none, hnext, List.takeWhile_cons_of_pos hc]
        rfl

/-- The class of an argument holds what is not barred from it. -/
theorem holds_barred {barred : List Char} (hbarred : barred ⊆ [':', ']']) (c : Char) :
    CharClass.holds ⟨true, barred.map .char⟩ c = decide (c ∉ barred) := by
  have hitem : ∀ x ∈ barred, ClassItem.holds c (.char x) = decide (c = x) := by
    intro x hx
    have hspelled : Text.IsTagChar x ∧ Text.spellings x = [x] := by
      rcases List.mem_cons.mp (hbarred hx) with rfl | hx
      · decide
      · obtain rfl := List.mem_singleton.mp hx
        decide
    rw [Bool.eq_iff_iff, ClassItem.holds, Text.sameLetter_iff hspelled.1, hspelled.2]
    simp
  have hany : (barred.map ClassItem.char).any (ClassItem.holds c) = decide (c ∈ barred) := by
    rw [List.any_map, Bool.eq_iff_iff, List.any_eq_true, decide_eq_true_iff]
    constructor
    · rintro ⟨x, hx, hc⟩
      simp only [Function.comp_apply, hitem x hx, decide_eq_true_iff] at hc
      exact hc ▸ hx
    · intro hc
      exact ⟨c, hc, by simp only [Function.comp_apply, hitem c hc, decide_true]⟩
  simp only [CharClass.holds, hany, Bool.bne_true, decide_not]

/-- An argument takes all characters up to the first one that is barred from it, when what follows
begins with a barred one. -/
theorem run_argument_eq {index : Nat} {barred : List Char} (hbarred : barred ⊆ [':', ']'])
    {k : Rest} (hk : ∀ u t : Progress, k u = some t → ∃ c ∈ barred, u.place.after.head? = some c)
    (s : Progress) :
    run (argumentNode index barred) k s =
      if s.place.after.takeWhile (fun c => decide (c ∉ barred)) = [] then none
      else k ((s.skip (s.place.after.takeWhile fun c => decide (c ∉ barred)).length).record index
        s.place.offset) := by
  obtain ⟨holds, hholds⟩ : ∃ holds : Char → Bool, holds = fun c => decide (c ∉ barred) := ⟨_, rfl⟩
  let k' : Rest := fun u => k (u.record index s.place.offset)
  have hk' : ∀ u t : Progress, k' u = some t → ∀ c ∈ u.place.after.head?, holds c = false := by
    intro u t h c hc
    obtain ⟨d, hd, hhead⟩ := hk _ _ h
    obtain rfl : d = c := Option.some.inj (hhead.symm.trans hc)
    simpa [hholds] using hd
  have hrun : run (argumentNode index barred) k s = s.step holds fun u =>
      upTo true (fun k s => s.step holds k) k' (u.place.after.length + 1) none u := by
    rw [hholds, ← show CharClass.holds ⟨true, barred.map .char⟩ = fun c => decide (c ∉ barred) from
      funext (holds_barred hbarred)]
    rfl
  rw [hrun, ← hholds]
  cases hafter : s.place.after with
  | nil => rw [step_of_nil hafter, List.takeWhile_nil, if_pos rfl]
  | cons c cs =>
    have hcs : (s.skip 1).place.after = cs := Place.after_skip [c] hafter
    have hrounds : ((s.skip 1).place.after.takeWhile holds).length ≤
        (s.skip 1).place.after.length + 1 :=
      Nat.le_succ_of_le (List.takeWhile_sublist _).length_le
    rw [step_of_cons hafter, upTo_step_eq hk' hrounds (by simp), hcs]
    cases hc : holds c
    · rw [if_neg Bool.false_ne_true, List.takeWhile_cons_of_neg (by simp [hc]), if_pos rfl]
    · rw [if_pos rfl, List.takeWhile_cons_of_pos hc, if_neg (List.cons_ne_nil _ _)]
      rfl

/-- An argument is one or more characters that are not barred from it, when what follows begins with a
barred one. -/
theorem run_argument_iff {index : Nat} {barred : List Char} (hbarred : barred ⊆ [':', ']'])
    {k : Rest} (hk : ∀ u t : Progress, k u = some t → ∃ c ∈ barred, u.place.after.head? = some c)
    {s t : Progress} :
    run (argumentNode index barred) k s = some t ↔
      ∃ a rest, a ≠ [] ∧ (∀ c ∈ a, c ∉ barred) ∧ s.place.after = a ++ rest ∧
        k ((s.skip a.length).record index s.place.offset) = some t := by
  rw [run_argument_eq hbarred hk]
  constructor
  · intro h
    split at h
    · cases h
    · rename_i hne
      refine ⟨_, s.place.after.dropWhile fun c => decide (c ∉ barred), hne, fun c hc => ?_,
        List.takeWhile_append_dropWhile.symm, h⟩
      simpa using List.mem_takeWhile_imp hc
  · rintro ⟨a, rest, hne, ha, hafter, h⟩
    obtain ⟨d, hd, hhead⟩ := hk _ _ h
    have hrest : (s.skip a.length).place.after = rest := Place.after_skip _ hafter
    have htake : s.place.after.takeWhile (fun c => decide (c ∉ barred)) = a := by
      rw [hafter, List.takeWhile_append_of_pos fun c hc => by simpa using ha c hc]
      cases rest with
      | nil => simp
      | cons e rest =>
        obtain rfl : e = d := Option.some.inj ((congrArg List.head? hrest).symm.trans hhead)
        rw [List.takeWhile_cons_of_neg (by simpa using hd), List.append_nil]
    rw [htake, if_neg hne]
    exact h

/-- A bracket or a colon is matched by itself. -/
theorem run_mark_iff {x : Char} (hx : x ∈ ['[', ':', ']']) {k : Rest} {s t : Progress} :
    run (.char x) k s = some t ↔ ∃ rest, s.place.after = x :: rest ∧ k (s.skip 1) = some t := by
  have hmark : Text.IsTagChar x ∧ Text.spellings x = [x] := by
    simp only [List.mem_cons, List.not_mem_nil, or_false] at hx
    rcases hx with rfl | rfl | rfl <;> decide
  rw [run_char_iff hmark.1, hmark.2]
  constructor
  · rintro ⟨c, rest, hafter, hc, hk⟩
    obtain rfl := List.mem_singleton.mp hc
    exact ⟨rest, hafter, hk⟩
  · rintro ⟨rest, hafter, hk⟩
    exact ⟨x, rest, hafter, List.mem_singleton_self x, hk⟩

/-- A colon and an argument behind it, when what follows begins with a character that is barred from
the argument. -/
theorem runAll_colon_argument_iff {index : Nat} {barred : List Char} (hbarred : barred ⊆ [':', ']'])
    {nodes : List Node} {k : Rest}
    (hk : ∀ u t : Progress, runAll nodes k u = some t → ∃ c ∈ barred, u.place.after.head? = some c)
    {s t : Progress} :
    runAll (.char ':' :: argumentNode index barred :: nodes) k s = some t ↔
      ∃ a rest, a ≠ [] ∧ (∀ c ∈ a, c ∉ barred) ∧ s.place.after = ':' :: a ++ rest ∧
        runAll nodes k ⟨s.place.skip (a.length + 1),
          s.groups.set index (some ⟨s.place.offset + 1, s.place.offset + 1 + a.length⟩)⟩ =
            some t := by
  simp only [runAll, run_mark_iff (show ':' ∈ ['[', ':', ']'] by decide),
    run_argument_iff hbarred hk]
  have hcolon : ∀ {inside}, s.place.after = ':' :: inside → (s.skip 1).place.after = inside ∧
      (s.skip 1).place.offset = s.place.offset + 1 := fun h =>
    ⟨Place.after_skip [':'] h, Place.offset_skip [':'] h⟩
  have hpassed : ∀ {a rest}, (s.skip 1).place.after = a ++ rest →
      (s.skip 1).place.offset = s.place.offset + 1 →
      ((s.skip 1).skip a.length).record index (s.skip 1).place.offset =
        ⟨s.place.skip (a.length + 1),
          s.groups.set index (some ⟨s.place.offset + 1, s.place.offset + 1 + a.length⟩)⟩ := by
    intro a rest hafter hoffset
    have hstop := Place.offset_skip _ hafter
    rw [Progress.record, hoffset]
    show Progress.mk ((s.skip 1).place.skip a.length) (s.groups.set index
      (some ⟨s.place.offset + 1, ((s.skip 1).place.skip a.length).offset⟩)) = _
    rw [hstop, hoffset]
    rfl
  constructor
  · rintro ⟨inside, hafter, a, rest, hne, ha, hinside, h⟩
    obtain ⟨hskip, hoffset⟩ := hcolon hafter
    refine ⟨a, rest, hne, ha, by rw [hafter, ← hskip, hinside]; rfl, ?_⟩
    rw [← hpassed hinside hoffset]
    exact h
  · rintro ⟨a, rest, hne, ha, hafter, h⟩
    obtain ⟨hskip, hoffset⟩ := hcolon hafter
    refine ⟨a ++ rest, hafter, a, rest, hne, ha, hskip, ?_⟩
    rw [hpassed hskip hoffset]
    exact h

/-- Where the arguments of a command lie, the first of them at an offset. -/
def spansOf : Nat → List (List Char) → List (Option Span)
  | _, [] => []
  | offset, a :: as => some ⟨offset, offset + a.length⟩ :: spansOf (offset + a.length + 1) as

/-- Recording a group that comes next. -/
theorem set_recorded (recorded : List (Option Span)) (more : Nat) (span : Span) :
    (recorded ++ List.replicate (more + 1) none).set recorded.length (some span) =
      recorded ++ some span :: List.replicate more none := by
  rw [List.set_append_right _ _ (Nat.le_refl _), Nat.sub_self]
  rfl

/-- How far a match has come behind arguments at a place, when the groups before them are recorded. -/
def behindArguments (p : Place) (recorded : List (Option Span)) (args : List (List Char)) : Progress :=
  ⟨p.skip (Command.argumentsText args).length, recorded ++ spansOf (p.offset + 1) args⟩

/-- The arguments behind the first one are passed over from the end of it. -/
theorem behindArguments_cons {p : Place} {a rest : List Char} (h : p.after = ':' :: a ++ rest)
    (recorded : List (Option Span)) (as : List (List Char)) :
    behindArguments p recorded (a :: as) =
      behindArguments (p.skip (a.length + 1))
        (recorded ++ [some ⟨p.offset + 1, p.offset + 1 + a.length⟩]) as := by
  have hoffset : (p.skip (a.length + 1)).offset = p.offset + 1 + a.length := by
    rw [← List.length_cons (a := ':'), Place.offset_skip _ h, List.length_cons]
    omega
  rw [behindArguments, behindArguments, hoffset, ← Place.skip_add]
  simp [Command.argumentsText, spansOf, Nat.add_right_comm]

/-- The expressions of the arguments begin with a colon. -/
theorem head_of_runAll_arguments {index more : Nat} {k : Rest} {s t : Progress}
    (h : runAll (argumentNodes index more) k s = some t) : s.place.after.head? = some ':' := by
  obtain ⟨nodes, hnodes⟩ : ∃ nodes, argumentNodes index more = .char ':' :: nodes := by
    cases more <;> exact ⟨_, rfl⟩
  rw [hnodes] at h
  obtain ⟨rest, hafter, -⟩ := (run_mark_iff (by decide)).mp h
  rw [hafter]
  rfl

/-- The expressions of the arguments match where arguments are written, and record where they lie. -/
theorem runAll_arguments_iff {more : Nat} {recorded : List (Option Span)} {p : Place} {t : Progress} :
    runAll (argumentNodes recorded.length more) some
        ⟨p, recorded ++ List.replicate (more + 1) none⟩ = some t ↔
      ∃ args rest, Command.IsArguments more args ∧ p.after = Command.argumentsText args ++ rest ∧
        t = behindArguments p recorded args := by
  induction more generalizing recorded p with
  | zero =>
    have hk : ∀ u t : Progress, runAll [.char ']'] some u = some t →
        ∃ c ∈ [']'], u.place.after.head? = some c := by
      intro u t h
      obtain ⟨rest, hafter, -⟩ := (run_mark_iff (by decide)).mp h
      exact ⟨']', by decide, by rw [hafter]; rfl⟩
    rw [argumentNodes, runAll_colon_argument_iff (by decide) hk]
    simp only [set_recorded]
    constructor
    · rintro ⟨a, behind, hne, ha, hafter, h⟩
      obtain ⟨rest, hbracket, h⟩ := (run_mark_iff (by decide)).mp h
      obtain rfl : behind = ']' :: rest :=
        (Place.after_skip (':' :: a) hafter).symm.trans hbracket
      refine ⟨[a], rest, .last hne fun h => ha _ h (by decide), ?_, ?_⟩
      · simp [hafter, Command.argumentsText]
      · rw [behindArguments_cons hafter, ← Option.some.inj h]
        simp [behindArguments, Command.argumentsText, spansOf, Progress.skip]
    · rintro ⟨args, rest, hargs, hafter, rfl⟩
      cases hargs with
      | @last a hne hbracket =>
        have hafter : p.after = ':' :: a ++ ']' :: rest := by simp [hafter, Command.argumentsText]
        refine ⟨a, ']' :: rest, hne, fun c hc h => hbracket (List.mem_singleton.mp h ▸ hc), hafter,
          (run_mark_iff (by decide)).mpr ⟨rest, Place.after_skip (':' :: a) hafter, ?_⟩⟩
        rw [behindArguments_cons hafter]
        simp [behindArguments, Command.argumentsText, spansOf, Progress.skip, runAll]
  | succ more ih =>
    have hk : ∀ u t : Progress, runAll (argumentNodes (recorded.length + 1) more) some u = some t →
        ∃ c ∈ [':', ']'], u.place.after.head? = some c :=
      fun u t h => ⟨':', by decide, head_of_runAll_arguments h⟩
    have hrest : ∀ {span : Span} {q : Place},
        runAll (argumentNodes (recorded.length + 1) more) some
            ⟨q, recorded ++ some span :: List.replicate (more + 1) none⟩ = some t ↔
          ∃ args rest, Command.IsArguments more args ∧ q.after = Command.argumentsText args ++ rest ∧
            t = behindArguments q (recorded ++ [some span]) args := by
      intro span q
      rw [← ih, List.length_append, List.append_assoc]
      rfl
    rw [argumentNodes, runAll_colon_argument_iff (by decide) hk]
    simp only [set_recorded, hrest]
    constructor
    · rintro ⟨a, behind, hne, ha, hafter, as, rest, has, hbehind, rfl⟩
      obtain rfl : behind = Command.argumentsText as ++ rest :=
        (Place.after_skip (':' :: a) hafter).symm.trans hbehind
      have hbarred : ':' ∉ a ∧ ']' ∉ a :=
        ⟨fun h => ha _ h (by decide), fun h => ha _ h (by decide)⟩
      refine ⟨a :: as, rest, .more hne hbarred.1 hbarred.2 has, ?_,
        (behindArguments_cons hafter recorded as).symm⟩
      simp [hafter, Command.argumentsText]
    · rintro ⟨args, rest, hargs, hafter, rfl⟩
      cases hargs with
      | @more _ a as hne hcolon hbracket has =>
        have hafter : p.after = ':' :: a ++ (Command.argumentsText as ++ rest) := by
          simp [hafter, Command.argumentsText]
        refine ⟨a, Command.argumentsText as ++ rest, hne, fun c hc h => ?_, hafter, as, rest, has,
          Place.after_skip (':' :: a) hafter, behindArguments_cons hafter recorded as⟩
        rcases List.mem_cons.mp h with rfl | h
        · exact hcolon hc
        · exact hbracket (List.mem_singleton.mp h ▸ hc)

/-! ## Commands -/

/-- A command as the pattern of its tag finds it. -/
def matchOf (tag : String) (o : Command.Occurrence) : Match :=
  ⟨o.start, o.stop, spansOf (o.start + tag.toList.length + 2) o.arguments⟩

/-- What is recorded behind a command is where it lies. -/
theorem matchOf_eq {tag : String} {p : Place} {written rest : List Char} {args : List (List Char)}
    (hspells : Command.Spells tag.toList written)
    (hafter : p.after = Command.commandText written args ++ rest) :
    matchOf tag ⟨p.offset, p.offset + (p.after.length - rest.length), args⟩ =
      ⟨p.offset, (behindArguments ((p.skip 1).skip written.length) [] args).place.offset,
        (behindArguments ((p.skip 1).skip written.length) [] args).groups⟩ := by
  have hopen : p.after = ('[' :: written) ++ (Command.argumentsText args ++ rest) := by
    simp [hafter, Command.commandText]
  have hstart := Place.offset_skip _ hopen
  have hstop := Place.offset_skip _ hafter
  have hlength : p.after.length - rest.length = (Command.commandText written args).length := by
    rw [hafter, List.length_append]
    omega
  have hplace : ((p.skip 1).skip written.length).skip (Command.argumentsText args).length =
      p.skip (Command.commandText written args).length := by
    rw [← Place.skip_add, ← Place.skip_add, Command.commandText]
    simp [Nat.add_comm, Nat.add_left_comm]
  rw [List.length_cons, Nat.add_comm, Place.skip_add] at hstart
  rw [matchOf, behindArguments, hplace, hstart, hstop, hlength, hspells.length_eq,
    List.nil_append]
  simp only [Match.mk.injEq, true_and]
  congr 1
  omega

/-- The pattern of a command matches at a place just when the scanner accepts what follows there. -/
theorem matchAt_command_iff {tag : String} (htag : ∀ x ∈ tag.toList, Text.IsTagChar x) {more : Nat}
    {p : Place} {m : Match} :
    (command tag more).matchAt false p = some m ↔
      ∃ args rest, Command.scanHere tag.toList more p.after = some (args, rest) ∧
        m = matchOf tag ⟨p.offset, p.offset + (p.after.length - rest.length), args⟩ := by
  have hrun : (command tag more).matchAt false p =
      (runAll (commandNodes tag more) some ⟨p, List.replicate (more + 1) none⟩).map fun s =>
        ⟨p.offset, s.place.offset, s.groups⟩ := by
    rw [← run_sequence]
    rfl
  have hargs := @runAll_arguments_iff more []
  simp only [List.length_nil, List.nil_append] at hargs
  rw [hrun, commandNodes, List.cons_append, Option.map_eq_some_iff]
  simp only [runAll, runAll_append, run_mark_iff (show '[' ∈ ['[', ':', ']'] by decide),
    runAll_tag_iff htag, Progress.skip, hargs, Command.scanHere_eq_some_iff]
  constructor
  · rintro ⟨_, ⟨inside, hopen, written, behind, hspells, htag, args, rest, hargs, hbehind, rfl⟩, rfl⟩
    have hafter : p.after = Command.commandText written args ++ rest := by
      have hinside : inside = written ++ behind :=
        (Place.after_skip ['['] hopen).symm.trans htag
      have hrest : behind = Command.argumentsText args ++ rest :=
        (Place.after_skip _ htag).symm.trans hbehind
      simp [hopen, hinside, hrest, Command.commandText]
    exact ⟨args, rest, ⟨written, hspells, hargs, hafter⟩, (matchOf_eq hspells hafter).symm⟩
  · rintro ⟨args, rest, ⟨written, hspells, hargs, hafter⟩, rfl⟩
    have hopen : p.after = '[' :: (written ++ (Command.argumentsText args ++ rest)) := by
      simp [hafter, Command.commandText]
    have hinside := Place.after_skip ['['] hopen
    exact ⟨_, ⟨_, hopen, written, _, hspells, hinside, args, rest, hargs, Place.after_skip _ hinside, rfl⟩,
      (matchOf_eq hspells hafter).symm⟩

end Concierge.Pattern
