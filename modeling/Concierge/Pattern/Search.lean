import Concierge.Pattern.Match

/-!
# Search

A pattern is anything that tells its match at a place of a text, and the search relies on nothing else of
it: lookbehind, references to groups or whatever else a matcher may know are covered, since a place shows
the whole text. A pattern is searched for from the left. A match begins where the one before it ended or
later; an empty match may be followed by a match at the same place, but not by another empty one.
-/

namespace Concierge

namespace Pattern

/-- An occurrence of a pattern: where it lies, and where its groups lie. -/
structure Match where
  start : Nat
  stop : Nat
  groups : List (Option Span)
  deriving DecidableEq, Repr

/-- A match belongs to a place: it begins there, ends there or further on within the text, and goes on if it
is barred from being empty. It has a place for each group. -/
structure Match.FitsAt (groupCount : Nat) (barred : Bool) (place : Place) (m : Match) : Prop where
  start : m.start = place.offset
  le : m.start ≤ m.stop
  within : m.stop ≤ place.offset + place.after.length
  moves : barred = true → m.stop ≠ place.offset
  groups : m.groups.length = groupCount

end Pattern

/-- A pattern: its text, the number of its groups, and the match that it has at a place, if there is
one. A match may be barred from being empty. -/
structure Pattern where
  source : String
  groupCount : Nat
  matchAt : Bool → Pattern.Place → Option Pattern.Match
  fits : ∀ {barred place m}, matchAt barred place = some m → m.FitsAt groupCount barred place

namespace Pattern

/-- The matches that begin at a place: none, one, or an empty one and one that is not. -/
def matchesAt (p : Pattern) (place : Place) : List Match :=
  match p.matchAt false place with
  | none => []
  | some m =>
    if m.stop = place.offset then m :: (p.matchAt true place).toList else [m]

/-- Where the next match may begin after some matches. -/
def resumeAfter (resume : Nat) (ms : List Match) : Nat :=
  match ms.getLast? with
  | some m => m.stop
  | none => resume

/-- The matches from a place on that begin at the offset `resume` or later. -/
def matchesFrom (p : Pattern) (before : List Char) (offset resume : Nat) :
    List Char → List Match
  | [] => if offset < resume then [] else p.matchesAt ⟨before, [], offset⟩
  | c :: cs =>
    let here := if offset < resume then [] else p.matchesAt ⟨before, c :: cs, offset⟩
    here ++ matchesFrom p (c :: before) (offset + 1) (resumeAfter resume here) cs

/-- All occurrences of a pattern in a text, from left to right. -/
def findAll (p : Pattern) (text : List Char) : List Match := p.matchesFrom [] 0 0 text

/-- A stretch of a text. -/
def slice (text : List Char) (start stop : Nat) : List Char := (text.drop start).take (stop - start)

/-- The texts of the groups of a match; a group that took no part has none. -/
def Match.groupTexts (m : Match) (text : List Char) : List (Option (List Char)) :=
  m.groups.map fun g => g.map fun s => slice text s.start s.stop

/-- The characters from a place on that lie in no match; `resume` is the end of the last match. -/
def keptFrom (p : Pattern) (before : List Char) (offset resume : Nat) :
    List Char → List Char
  | [] => []
  | c :: cs =>
    let here := if offset < resume then [] else p.matchesAt ⟨before, c :: cs, offset⟩
    let resume := resumeAfter resume here
    let kept := keptFrom p (c :: before) (offset + 1) resume cs
    if offset < resume then kept else c :: kept

/-- A text without the occurrences of a pattern. -/
def erase (p : Pattern) (text : List Char) : List Char := p.keptFrom [] 0 0 text

/-- What is left of a text stands in it in the same order. -/
theorem keptFrom_sublist (p : Pattern) (before : List Char) (offset resume : Nat)
    (text : List Char) : (p.keptFrom before offset resume text).Sublist text := by
  induction text generalizing before offset resume with
  | nil => exact .slnil
  | cons c cs ih =>
    simp only [keptFrom]
    generalize resumeAfter resume _ = r
    by_cases h : offset < r
    · rw [if_pos h]; exact (ih ..).cons c
    · rw [if_neg h]; exact (ih ..).cons_cons c

/-- Erasing a pattern leaves characters out and changes nothing else. -/
theorem erase_sublist (p : Pattern) (text : List Char) : (p.erase text).Sublist text :=
  p.keptFrom_sublist [] 0 0 text

end Pattern

end Concierge
