import Concierge.Proofs.Text.Spelling
import Concierge.Text.Replace
import Mathlib.Data.List.Forall2

/-!
# Scanning for commands

A scanner for commands in brackets that never goes back. It looks for an opening bracket with the tag
and a colon behind it, takes the text up to the next closing bracket, and cuts that text at its first
colons. What it accepts is just what is written as a command.
-/

namespace Concierge

/-- The first occurrence of a character is the one with no other before it. -/
theorem Text.cutAt?_eq_some_iff {x : Char} {cs before after : List Char} :
    cutAt? x cs = some (before, after) ↔ cs = before ++ x :: after ∧ x ∉ before := by
  induction cs generalizing before with
  | nil => simp [cutAt?]
  | cons c cs ih =>
    by_cases hc : c = x
    · subst hc
      simp only [cutAt?, beq_self_eq_true, if_true, Option.some.injEq, Prod.mk.injEq]
      constructor
      · rintro ⟨rfl, rfl⟩
        exact ⟨rfl, List.not_mem_nil⟩
      · rintro ⟨heq, hnot⟩
        cases before with
        | nil => exact ⟨rfl, (List.cons.inj heq).2⟩
        | cons d ds => exact absurd ((List.cons.inj heq).1 ▸ List.mem_cons_self) hnot
    · simp only [cutAt?, beq_eq_false_iff_ne.mpr hc, Bool.false_eq_true, if_false,
        Option.map_eq_some_iff, Prod.exists, Prod.mk.injEq]
      constructor
      · rintro ⟨before, after, hcut, rfl, rfl⟩
        obtain ⟨rfl, hnot⟩ := ih.mp hcut
        exact ⟨rfl, by simp [hnot, Ne.symm hc]⟩
      · rintro ⟨heq, hnot⟩
        cases before with
        | nil => exact absurd (List.cons.inj heq).1 hc
        | cons d ds =>
          obtain ⟨rfl, rfl⟩ := List.cons.inj heq
          exact ⟨ds, after, ih.mpr ⟨rfl, fun h => hnot (List.mem_cons_of_mem c h)⟩, rfl, rfl⟩

namespace Command

/-! ## Commands as they are written -/

/-- A text spells a tag, whatever the case of its letters. -/
def Spells (tag written : List Char) : Prop :=
  List.Forall₂ (fun x c => c ∈ Text.spellings x) tag written

instance (tag written : List Char) : Decidable (Spells tag written) :=
  inferInstanceAs (Decidable (List.Forall₂ _ _ _))

/-- The arguments of a command of which `more` follow the first: none of them is empty or holds a
closing bracket, and none but the last holds a colon. -/
inductive IsArguments : Nat → List (List Char) → Prop
  | last {a : List Char} : a ≠ [] → ']' ∉ a → IsArguments 0 [a]
  | more {n : Nat} {a : List Char} {as : List (List Char)} :
      a ≠ [] → ':' ∉ a → ']' ∉ a → IsArguments n as → IsArguments (n + 1) (a :: as)

/-- Arguments as they are written behind a tag: a colon before each of them, and the closing bracket. -/
def argumentsText : List (List Char) → List Char
  | [] => [']']
  | a :: as => ':' :: a ++ argumentsText as

/-- A command as it is written. -/
def commandText (written : List Char) (args : List (List Char)) : List Char :=
  '[' :: written ++ argumentsText args

/-- A character of a spelled tag is a spelling of a character of the tag. -/
theorem exists_of_mem_spelled {tag written : List Char} (h : Spells tag written) {c : Char}
    (hc : c ∈ written) : ∃ x ∈ tag, c ∈ Text.spellings x := by
  induction h with
  | nil => cases hc
  | cons hd _ ih =>
    rcases List.mem_cons.mp hc with rfl | hc
    · exact ⟨_, List.mem_cons_self, hd⟩
    · obtain ⟨x, hx, hspelled⟩ := ih hc
      exact ⟨x, List.mem_cons_of_mem _ hx, hspelled⟩

/-- The characters of written arguments are their own and the marks between them. -/
theorem mem_argumentsText {args : List (List Char)} {c : Char} (h : c ∈ argumentsText args) :
    c = ':' ∨ c = ']' ∨ ∃ a ∈ args, c ∈ a := by
  induction args with
  | nil => exact .inr (.inl (List.mem_singleton.mp h))
  | cons a as ih =>
    rw [argumentsText, List.cons_append, List.mem_cons, List.mem_append] at h
    rcases h with rfl | h | h
    · exact .inl rfl
    · exact .inr (.inr ⟨a, List.mem_cons_self, h⟩)
    · obtain h | h | ⟨b, hb, hc⟩ := ih h
      · exact .inl h
      · exact .inr (.inl h)
      · exact .inr (.inr ⟨b, List.mem_cons_of_mem a hb, hc⟩)

/-- The arguments of a command begin with a colon. -/
theorem IsArguments.exists_eq_cons {more : Nat} {args : List (List Char)}
    (h : IsArguments more args) (rest : List Char) :
    ∃ inner, argumentsText args ++ rest = ':' :: inner := by
  cases h with
  | last => exact ⟨_, rfl⟩
  | more => exact ⟨_, rfl⟩

/-! ## The scanner -/

/-- Reads a tag in any spelling, and gives the text behind it. -/
def readTag : List Char → List Char → Option (List Char)
  | [], cs => some cs
  | _ :: _, [] => none
  | x :: tag, c :: cs => if c ∈ Text.spellings x then readTag tag cs else none

/-- Cuts a text at its first colons, of which there must be so many. -/
def pieces : Nat → List Char → Option (List (List Char))
  | 0, cs => some [cs]
  | cuts + 1, cs => do
    let (before, after) ← Text.cutAt? ':' cs
    return before :: (← pieces cuts after)

/-- The command at the front of a text: its arguments, and the text behind it. -/
def scanHere (tag : List Char) (more : Nat) : List Char → Option (List (List Char) × List Char)
  | '[' :: cs => do
    let ':' :: inner ← readTag tag cs | none
    let (body, rest) ← Text.cutAt? ']' inner
    let args ← pieces more body
    if [] ∈ args then none else return (args, rest)
  | _ => none

/-! ## What the scanner accepts -/

/-- A tag is read where it is spelled. -/
theorem readTag_eq_some_iff {tag cs rest : List Char} :
    readTag tag cs = some rest ↔ ∃ written, Spells tag written ∧ cs = written ++ rest := by
  induction tag generalizing cs with
  | nil => simp [readTag, Spells, eq_comm]
  | cons x tag ih =>
    cases cs with
    | nil =>
      simp only [readTag, reduceCtorEq, false_iff, not_exists, not_and]
      intro written hspells h
      cases hspells with
      | cons => cases h
    | cons c cs =>
      simp only [readTag, Option.ite_none_right_eq_some, ih]
      constructor
      · rintro ⟨hc, written, hspells, rfl⟩
        exact ⟨c :: written, .cons hc hspells, rfl⟩
      · rintro ⟨written, hspells, h⟩
        cases hspells with
        | cons hd htail =>
          obtain ⟨rfl, rfl⟩ := List.cons.inj h
          exact ⟨hd, _, htail, rfl⟩

/-- Between the colon behind the tag and the next closing bracket the scanner finds the arguments of
a command. -/
theorem pieces_iff {more : Nat} {inner rest : List Char} {args : List (List Char)} :
    (∃ body, Text.cutAt? ']' inner = some (body, rest) ∧ pieces more body = some args ∧ [] ∉ args) ↔
      IsArguments more args ∧ ':' :: inner = argumentsText args ++ rest := by
  constructor
  · rintro ⟨body, hcut, hpieces, hne⟩
    obtain ⟨rfl, hbody⟩ := Text.cutAt?_eq_some_iff.mp hcut
    clear hcut
    induction more generalizing body args with
    | zero =>
      obtain rfl := Option.some.inj hpieces
      exact ⟨.last (fun h => hne (h ▸ List.mem_singleton_self _)) hbody, by simp [argumentsText]⟩
    | succ more ih =>
      simp only [pieces, Option.bind_eq_bind, Option.bind_eq_some_iff, Prod.exists, pure,
        Option.some.injEq] at hpieces
      obtain ⟨before, after, hcut, as, has, rfl⟩ := hpieces
      obtain ⟨rfl, hcolon⟩ := Text.cutAt?_eq_some_iff.mp hcut
      simp only [List.mem_append, List.mem_cons, not_or] at hbody hne
      obtain ⟨hargs, htext⟩ := ih after has hne.2 hbody.2.2
      refine ⟨.more (Ne.symm hne.1) hcolon hbody.1 hargs, ?_⟩
      simp only [argumentsText, List.cons_append, List.append_assoc, ← htext]
  · rintro ⟨hargs, htext⟩
    induction hargs generalizing inner with
    | @last a hne hbracket =>
      have hinner : inner = a ++ ']' :: rest := by simpa [argumentsText] using htext
      exact ⟨a, Text.cutAt?_eq_some_iff.mpr ⟨hinner, hbracket⟩, rfl, by simpa using hne.symm⟩
    | @more n a as hne hcolon hbracket has ih =>
      obtain ⟨behind, hbehind⟩ := has.exists_eq_cons rest
      obtain ⟨body, hcut, hpieces, hrest⟩ := ih hbehind.symm
      obtain ⟨rfl, hbody⟩ := Text.cutAt?_eq_some_iff.mp hcut
      have hinner : inner = a ++ ':' :: body ++ ']' :: rest := by
        simp only [argumentsText, List.cons_append, List.append_assoc, hbehind] at htext
        simpa using htext
      refine ⟨a ++ ':' :: body, Text.cutAt?_eq_some_iff.mpr ⟨hinner, ?_⟩, ?_, ?_⟩
      · simp [hbracket, hbody]
      · have hcolons := Text.cutAt?_eq_some_iff.mpr
          (⟨rfl, hcolon⟩ : a ++ ':' :: body = a ++ ':' :: body ∧ ':' ∉ a)
        simp [pieces, hcolons, hpieces]
      · simp [hne.symm, hrest]

/-- The scanner accepts a text just when a command is written at its front. -/
theorem scanHere_eq_some_iff {tag cs rest : List Char} {more : Nat} {args : List (List Char)} :
    scanHere tag more cs = some (args, rest) ↔
      ∃ written, Spells tag written ∧ IsArguments more args ∧
        cs = commandText written args ++ rest := by
  unfold scanHere
  split
  · rename_i inside
    have hbracket : ∀ {written : List Char},
        '[' :: inside = commandText written args ++ rest ↔
          inside = written ++ (argumentsText args ++ rest) := by
      simp [commandText]
    simp only [hbracket, Option.bind_eq_bind, Option.bind_eq_some_iff]
    constructor
    · rintro ⟨behind, htag, h⟩
      obtain ⟨written, hspells, rfl⟩ := readTag_eq_some_iff.mp htag
      split at h
      · rename_i inner
        simp only [Option.bind_eq_some_iff, Prod.exists] at h
        obtain ⟨body, rest', hcut, args', hpieces, hend⟩ := h
        split at hend
        · cases hend
        · rename_i hne
          obtain ⟨rfl, rfl⟩ := Prod.mk.inj (Option.some.inj hend)
          obtain ⟨hargs, htext⟩ := pieces_iff.mp ⟨body, hcut, hpieces, hne⟩
          exact ⟨written, hspells, hargs, by rw [htext]⟩
      · cases h
    · rintro ⟨written, hspells, hargs, rfl⟩
      obtain ⟨inner, hinner⟩ := hargs.exists_eq_cons rest
      obtain ⟨body, hcut, hpieces, hne⟩ := pieces_iff.mpr ⟨hargs, hinner.symm⟩
      refine ⟨':' :: inner, readTag_eq_some_iff.mpr ⟨written, hspells, by rw [hinner]⟩, ?_⟩
      simp [hcut, hpieces, hne]
  · rename_i hbracket
    simp only [reduceCtorEq, false_iff, not_exists, not_and]
    rintro written _ _ rfl
    exact hbracket _ rfl

/-- The scanner passes over an opening bracket and what stands behind it. -/
theorem eq_append_of_scanHere {tag cs rest : List Char} {more : Nat} {args : List (List Char)}
    (h : scanHere tag more cs = some (args, rest)) : ∃ passed, cs = '[' :: (passed ++ rest) := by
  obtain ⟨written, _, _, rfl⟩ := scanHere_eq_some_iff.mp h
  exact ⟨written ++ argumentsText args, rfl⟩

/-- What the scanner leaves behind a command is shorter than the text. -/
theorem length_lt_of_scanHere {tag cs rest : List Char} {more : Nat} {args : List (List Char)}
    (h : scanHere tag more cs = some (args, rest)) : rest.length < cs.length := by
  obtain ⟨passed, rfl⟩ := eq_append_of_scanHere h
  rw [List.length_cons, List.length_append]
  omega

/-! ## Scanning a text -/

/-- A command in a text: where it begins and ends, and its arguments. -/
structure Occurrence where
  start : Nat
  stop : Nat
  arguments : List (List Char)
  deriving DecidableEq

/-- The commands of a text from an offset on. Behind a command the scanner resumes at its end, and
where there is none at the next character. -/
def scan (tag : List Char) (more offset : Nat) : List Char → List Occurrence
  | [] => []
  | c :: cs =>
    match h : scanHere tag more (c :: cs) with
    | some (args, rest) =>
      ⟨offset, offset + ((c :: cs).length - rest.length), args⟩ ::
        scan tag more (offset + ((c :: cs).length - rest.length)) rest
    | none => scan tag more (offset + 1) cs
termination_by cs => cs.length
decreasing_by
  · exact length_lt_of_scanHere h
  · simp

/-- What the scanner leaves of a text: the characters outside its commands. -/
def unscanned (tag : List Char) (more : Nat) : List Char → List Char
  | [] => []
  | c :: cs =>
    match _h : scanHere tag more (c :: cs) with
    | some (_, rest) => unscanned tag more rest
    | none => c :: unscanned tag more cs
termination_by cs => cs.length
decreasing_by
  · exact length_lt_of_scanHere ‹_›
  · simp

variable {tag : List Char} {more : Nat}

/-- Where the scanner accepts a command, it records it and resumes behind it. -/
theorem scan_cons_of_some {c : Char} {cs rest : List Char} {args : List (List Char)}
    (h : scanHere tag more (c :: cs) = some (args, rest)) (offset : Nat) :
    scan tag more offset (c :: cs) =
      ⟨offset, offset + ((c :: cs).length - rest.length), args⟩ ::
        scan tag more (offset + ((c :: cs).length - rest.length)) rest := by
  rw [scan]
  split
  · rename_i h'
    obtain ⟨rfl, rfl⟩ := Prod.mk.inj (Option.some.inj (h.symm.trans h'))
    rfl
  · rename_i h'
    cases h.symm.trans h'

/-- Where the scanner accepts nothing, it passes over a character. -/
theorem scan_cons_of_none {c : Char} {cs : List Char} (h : scanHere tag more (c :: cs) = none)
    (offset : Nat) : scan tag more offset (c :: cs) = scan tag more (offset + 1) cs := by
  rw [scan]
  split
  · rename_i h'
    cases h.symm.trans h'
  · rfl

/-- Where the scanner accepts a command, it leaves nothing of it. -/
theorem unscanned_cons_of_some {c : Char} {cs rest : List Char} {args : List (List Char)}
    (h : scanHere tag more (c :: cs) = some (args, rest)) :
    unscanned tag more (c :: cs) = unscanned tag more rest := by
  rw [unscanned]
  split
  · rename_i h'
    obtain ⟨rfl, rfl⟩ := Prod.mk.inj (Option.some.inj (h.symm.trans h'))
    rfl
  · rename_i h'
    cases h.symm.trans h'

/-- Where the scanner accepts nothing, it leaves a character. -/
theorem unscanned_cons_of_none {c : Char} {cs : List Char}
    (h : scanHere tag more (c :: cs) = none) :
    unscanned tag more (c :: cs) = c :: unscanned tag more cs := by
  rw [unscanned]
  split
  · rename_i h'
    cases h.symm.trans h'
  · rfl

/-- What the scanner finds is written at its place. -/
theorem mem_scan {offset : Nat} {cs : List Char} {o : Occurrence} (ho : o ∈ scan tag more offset cs) :
    ∃ before written rest, Spells tag written ∧ IsArguments more o.arguments ∧
      cs = before ++ (commandText written o.arguments ++ rest) ∧ o.start = offset + before.length ∧
      o.stop = o.start + (commandText written o.arguments).length := by
  induction offset, cs using scan.induct tag more with
  | case1 offset =>
    rw [scan] at ho
    cases ho
  | case2 offset c cs args rest h ih =>
    obtain ⟨written, hspells, hargs, htext⟩ := scanHere_eq_some_iff.mp h
    have hlength : (c :: cs).length - rest.length = (commandText written args).length := by
      rw [htext, List.length_append]
      omega
    rw [scan_cons_of_some h] at ho
    rcases List.mem_cons.mp ho with rfl | ho
    · exact ⟨[], written, rest, hspells, hargs, htext, rfl, by rw [hlength]⟩
    · obtain ⟨before, written', rest', hspells', hargs', hrest, hstart, hstop⟩ := ih ho
      refine ⟨commandText written args ++ before, written', rest', hspells', hargs', ?_, ?_, hstop⟩
      · rw [htext, hrest, List.append_assoc]
      · rw [hstart, List.length_append, ← Nat.add_assoc, ← hlength]
  | case3 offset c cs h ih =>
    rw [scan_cons_of_none h] at ho
    obtain ⟨before, written, rest, hspells, hargs, hcs, hstart, hstop⟩ := ih ho
    refine ⟨c :: before, written, rest, hspells, hargs, by rw [hcs]; rfl, ?_, hstop⟩
    rw [hstart, List.length_cons]
    omega

/-! ## Commands between other text -/

/-- A command is scanned as it is written, and the scanner resumes behind it. -/
theorem scan_commandText {written : List Char} {args : List (List Char)}
    (hspells : Spells tag written) (hargs : IsArguments more args) (offset : Nat) (rest : List Char) :
    scan tag more offset (commandText written args ++ rest) =
      ⟨offset, offset + (commandText written args).length, args⟩ ::
        scan tag more (offset + (commandText written args).length) rest := by
  have hhere : scanHere tag more (commandText written args ++ rest) = some (args, rest) :=
    scanHere_eq_some_iff.mpr ⟨written, hspells, hargs, rfl⟩
  have hscan := scan_cons_of_some (c := '[') hhere offset
  have hlength : (commandText written args ++ rest).length - rest.length =
      (commandText written args).length := by
    rw [List.length_append]
    omega
  rw [← hlength]
  exact hscan

/-- Nothing is left of a command. -/
theorem unscanned_commandText {written : List Char} {args : List (List Char)}
    (hspells : Spells tag written) (hargs : IsArguments more args) (rest : List Char) :
    unscanned tag more (commandText written args ++ rest) = unscanned tag more rest :=
  unscanned_cons_of_some (c := '[') (scanHere_eq_some_iff.mpr ⟨written, hspells, hargs, rfl⟩)

/-- A command begins with an opening bracket. -/
theorem scanHere_of_ne {c : Char} (hc : c ≠ '[') (cs : List Char) :
    scanHere tag more (c :: cs) = none := by
  apply Option.eq_none_iff_forall_ne_some.mpr
  intro found h
  obtain ⟨passed, hpassed⟩ := eq_append_of_scanHere h
  exact hc (List.cons.inj hpassed).1

/-- The scanner finds nothing in a stretch without opening brackets. -/
theorem scan_append_of_plain {plain : List Char} (hplain : '[' ∉ plain) (offset : Nat)
    (rest : List Char) :
    scan tag more offset (plain ++ rest) = scan tag more (offset + plain.length) rest := by
  induction plain generalizing offset with
  | nil => rfl
  | cons c cs ih =>
    rw [List.mem_cons, not_or] at hplain
    rw [List.cons_append, scan_cons_of_none (scanHere_of_ne (Ne.symm hplain.1) _), ih hplain.2,
      List.length_cons, Nat.add_right_comm, Nat.add_assoc]

/-- The scanner leaves a stretch without opening brackets as it is. -/
theorem unscanned_append_of_plain {plain : List Char} (hplain : '[' ∉ plain) (rest : List Char) :
    unscanned tag more (plain ++ rest) = plain ++ unscanned tag more rest := by
  induction plain with
  | nil => rfl
  | cons c cs ih =>
    rw [List.mem_cons, not_or] at hplain
    rw [List.cons_append, unscanned_cons_of_none (scanHere_of_ne (Ne.symm hplain.1) _),
      ih hplain.2]
    rfl

/-- Two tags whose first letters have no common spelling. -/
def Apart (tag other : List Char) : Prop :=
  ∃ x ∈ tag.head?, ∃ y ∈ other.head?, ∀ c ∈ Text.spellings y, c ∉ Text.spellings x

/-- A command with another tag is not accepted. -/
theorem scanHere_of_apart {other written : List Char} (hapart : Apart tag other)
    (hspells : Spells other written) (args : List (List Char)) (rest : List Char) :
    scanHere tag more (commandText written args ++ rest) = none := by
  obtain ⟨x, hx, y, hy, hdisjoint⟩ := hapart
  apply Option.eq_none_iff_forall_ne_some.mpr
  intro found h
  obtain ⟨written', hspells', -, htext⟩ := scanHere_eq_some_iff.mp h
  cases hspells with
  | nil => cases hy
  | cons hc _ =>
    cases hspells' with
    | nil => cases hx
    | cons hc' _ =>
      obtain rfl := Option.some.inj hx
      obtain rfl := Option.some.inj hy
      obtain ⟨rfl, -⟩ := List.cons.inj (List.cons.inj htext).2
      exact hdisjoint _ hc hc'

end Command

end Concierge
