import Concierge.Pattern.Search

/-!
# Patterns of expressions

An expression is a pattern by its first way to match. Whatever it is, a match of it only passes over
characters of the text: it ends where it began or further on, and not beyond the end of the text, and it
has a place for each group. The matcher works on continuations, so the fact is stated of what it hands on
to them.
-/

namespace Concierge.Pattern

/-- The second place lies in the same text as the first, at it or further on. -/
def Place.Leads (p q : Place) : Prop :=
  ∃ passed, p.after = passed ++ q.after ∧ q.offset = p.offset + passed.length

namespace Place.Leads

/-- Every place leads to itself. -/
theorem refl (p : Place) : p.Leads p := ⟨[], by simp, by simp⟩

/-- Passing over two stretches is passing over the two of them together. -/
theorem trans {p q r : Place} (hpq : p.Leads q) (hqr : q.Leads r) : p.Leads r := by
  obtain ⟨first, hfirst, hq⟩ := hpq
  obtain ⟨second, hsecond, hr⟩ := hqr
  refine ⟨first ++ second, ?_, ?_⟩
  · rw [hfirst, hsecond, List.append_assoc]
  · rw [hr, hq, List.length_append]
    omega

/-- A place leads to the one after the next character. -/
theorem next {p : Place} {c : Char} {cs : List Char} (h : p.after = c :: cs) : p.Leads p.next := by
  refine ⟨[c], ?_, ?_⟩ <;> simp [Place.next, h]

/-- No later place has a smaller offset. -/
theorem offset_le {p q : Place} (h : p.Leads q) : p.offset ≤ q.offset := by
  obtain ⟨passed, _, hoffset⟩ := h
  omega

/-- No later place lies beyond the end of the text. -/
theorem offset_le_end {p q : Place} (h : p.Leads q) : q.offset ≤ p.offset + p.after.length := by
  obtain ⟨passed, hafter, hoffset⟩ := h
  rw [hafter, List.length_append]
  omega

end Place.Leads

/-- The second match has come at least as far as the first in the same text, with as many groups. -/
structure Progress.Leads (s u : Progress) : Prop where
  place : s.place.Leads u.place
  groups : u.groups.length = s.groups.length

namespace Progress.Leads

/-- Every match has come as far as itself. -/
theorem refl (s : Progress) : s.Leads s := ⟨.refl _, rfl⟩

/-- A match that has come as far as another one has come as far as those before it. -/
theorem trans {s u v : Progress} (hsu : s.Leads u) (huv : u.Leads v) : s.Leads v :=
  ⟨hsu.place.trans huv.place, huv.groups.trans hsu.groups⟩

/-- Recording a group leaves the place and the number of groups. -/
theorem record {s u : Progress} (h : s.Leads u) (index start : Nat) :
    s.Leads (u.record index start) :=
  ⟨h.place, List.length_set.trans h.groups⟩

end Progress.Leads

/-- What is matched first hands on only places at its own or further on. -/
def Forward (first : Rest → Rest) : Prop :=
  ∀ (k : Rest) (s t : Progress), first k s = some t → ∃ u, s.Leads u ∧ k u = some t

/-- A character of a class is one character of the text. -/
theorem forward_step (holds : Char → Bool) : Forward fun k s => s.step holds k := by
  intro k s t h
  simp only [Progress.step] at h
  split at h
  · cases h
  · rename_i c cs hafter
    split at h
    · exact ⟨{ s with place := s.place.next }, ⟨.next hafter, rfl⟩, h⟩
    · cases h

/-- A condition passes over nothing. -/
theorem forward_check (holds : Progress → Bool) : Forward fun k s => s.check (holds s) k := by
  intro k s t h
  simp only [Progress.check] at h
  split at h
  · exact ⟨s, .refl _, h⟩
  · cases h

/-- Two forward parts one after the other go forward. -/
theorem Forward.comp {first second : Rest → Rest} (hfirst : Forward first)
    (hsecond : Forward second) : Forward fun k => first (second k) := by
  intro k s t h
  obtain ⟨u, hsu, hu⟩ := hfirst _ s t h
  obtain ⟨v, huv, hv⟩ := hsecond k u t hu
  exact ⟨v, hsu.trans huv, hv⟩

/-- A number of rounds of a forward body goes forward. -/
theorem Forward.times {body : Rest → Rest} (hbody : Forward body) (n : Nat) :
    Forward fun k => times body k n := by
  induction n with
  | zero => exact fun k s t h => ⟨s, .refl _, h⟩
  | succ n ih => exact hbody.comp ih

/-- Further rounds of a forward body go forward, however many of them are made. -/
theorem Forward.upTo {body : Rest → Rest} (hbody : Forward body) (greedy : Bool) (n : Nat)
    (last : Option Nat) : Forward fun k => upTo greedy body k n last := by
  intro k s t h
  induction n generalizing last s with
  | zero => exact ⟨s, .refl _, h⟩
  | succ n ih =>
    have hagain : (if last = some s.place.offset then none
        else body (Pattern.upTo greedy body k n (some s.place.offset)) s) = some t ∨ k s = some t := by
      simp only [Pattern.upTo] at h
      cases greedy <;> simp only [Bool.false_eq_true, if_true, if_false, Option.or_eq_some_iff] at h
      · exact h.symm.imp And.right id
      · exact h.imp id And.right
    rcases hagain with hround | hstop
    · split at hround
      · cases hround
      · obtain ⟨u, hsu, hu⟩ := hbody _ s t hround
        obtain ⟨v, huv, hv⟩ := ih _ u hu
        exact ⟨v, hsu.trans huv, hv⟩
    · exact ⟨s, .refl _, hstop⟩

/-- Matching an expression goes forward. -/
theorem forward_run (node : Node) : Forward (run node) := by
  induction node with
  | empty => exact fun k s t h => ⟨s, .refl _, h⟩
  | char c => exact forward_step _
  | any => exact forward_step _
  | oneOf c => exact forward_step _
  | start => exact forward_check _
  | finish => exact forward_check _
  | edge => exact forward_check _
  | notEdge => exact forward_check _
  | seq a b iha ihb => exact iha.comp ihb
  | alt a b iha ihb =>
    intro k s t h
    simp only [run, Option.or_eq_some_iff] at h
    rcases h with h | ⟨_, h⟩
    · exact iha k s t h
    · exact ihb k s t h
  | group i body ih =>
    intro k s t h
    obtain ⟨u, hsu, hu⟩ := ih _ s t h
    exact ⟨_, hsu.record i s.place.offset, hu⟩
  | loop least most greedy body ih =>
    intro k s t h
    obtain ⟨u, hsu, hu⟩ := ih.times least _ s t h
    obtain ⟨v, huv, hv⟩ := ih.upTo greedy _ none k u t hu
    exact ⟨v, hsu.trans huv, hv⟩

/-- The match of an expression at a place, if there is one. A match that is barred from being empty has to go
on. -/
def Node.matchAt (node : Node) (groupCount : Nat) (barred : Bool) (place : Place) : Option Match :=
  let done (s : Progress) : Option Progress :=
    if barred && s.place.offset == place.offset then none else some s
  (run node done ⟨place, List.replicate groupCount none⟩).map fun s =>
    ⟨place.offset, s.place.offset, s.groups⟩

/-- The match of an expression at a place belongs there. -/
theorem Node.fitsAt_of_matchAt {node : Node} {groupCount : Nat} {barred : Bool} {place : Place} {m : Match}
    (h : node.matchAt groupCount barred place = some m) : m.FitsAt groupCount barred place := by
  obtain ⟨t, ht, rfl⟩ := Option.map_eq_some_iff.mp h
  obtain ⟨u, hleads, hdone⟩ := forward_run _ _ _ _ ht
  split at hdone
  · cases hdone
  · rename_i hmoves
    obtain rfl := Option.some.inj hdone
    refine ⟨rfl, hleads.place.offset_le, hleads.place.offset_le_end, fun hbarred hstays => ?_, ?_⟩
    · exact hmoves (by simpa [hbarred] using hstays)
    · exact hleads.groups.trans List.length_replicate

/-- The pattern of an expression with a number of groups, as a text tells it. -/
def ofNode (source : String) (node : Node) (groupCount : Nat) : Pattern where
  source
  groupCount
  matchAt := node.matchAt groupCount
  fits := Node.fitsAt_of_matchAt

end Concierge.Pattern
