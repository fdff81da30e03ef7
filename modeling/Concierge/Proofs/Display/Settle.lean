import Concierge.Dispatch
import Concierge.Proofs.Display.Tidy
import Concierge.Proofs.Pattern.Disjoint
import Concierge.Proofs.World.Action
import Mathlib.Logic.Function.Iterate

/-!
# Rounds of display come to rest

Removing one directive can bring another one about, so that rounds of removal are repeated. They come
to rest after finitely many of them, at a tidy text in which every occurrence of a pattern is empty.
The rest follows from lengths: a whole round that changes nothing has shortened nothing on the way.
-/

namespace Concierge

namespace Display

variable {patterns : List Pattern} {text : List Char}

/-- Display stops after a number of rounds: at the first one that changes nothing. -/
theorem clean_eq_iterate (patterns : List Pattern) (text : List Char) :
    ∃ rounds : ℕ, clean patterns text = (round patterns)^[rounds] text ∧
      round patterns (clean patterns text) = clean patterns text ∧
      ∀ i < rounds, (round patterns)^[i + 1] text ≠ (round patterns)^[i] text := by
  fun_induction clean patterns text with
  | case1 text hfixed => exact ⟨0, rfl, hfixed, fun i hi => by omega⟩
  | case2 text hmoves ih =>
    obtain ⟨rounds, hclean, hfixed, hearlier⟩ := ih
    refine ⟨rounds + 1, hclean, hfixed, fun i hi => ?_⟩
    cases i with
    | zero => exact hmoves
    | succ i => exact hearlier i (by omega)

/-- The text for display is a fixed point of the rounds. -/
theorem round_clean (patterns : List Pattern) (text : List Char) :
    round patterns (clean patterns text) = clean patterns text := by
  obtain ⟨_, _, hfixed, _⟩ := clean_eq_iterate patterns text
  exact hfixed

/-- A fixed point of the rounds is displayed as it is. -/
theorem clean_eq_self (h : round patterns text = text) : clean patterns text = text := by
  rw [clean, if_pos h]

/-- A round that leads to a fixed point gives the text for display. -/
theorem clean_eq_round (h : round patterns (round patterns text) = round patterns text) :
    clean patterns text = round patterns text := by
  by_cases hfixed : round patterns text = text
  · rw [clean_eq_self hfixed, hfixed]
  · rw [clean, if_neg hfixed, clean_eq_self h]

/-- A round that changes nothing has removed nothing. -/
theorem foldl_erase_eq_of_round_eq (h : round patterns text = text) :
    patterns.foldl (fun t p => p.erase t) text = text := by
  apply (foldl_erase_sublist patterns text).eq_of_length_le
  have hstrip := (Text.trim_sublist Text.isBlank
    (Text.squeeze Text.isBlank (patterns.foldl (fun t p => p.erase t) text))).length_le
  have hsqueeze := Text.length_squeezeFrom_le Text.isBlank false
    (patterns.foldl (fun t p => p.erase t) text)
  have hlength := congrArg List.length h
  simp only [round, Text.strip, Text.squeeze] at hstrip hsqueeze hlength
  omega

/-- Erasing that removes nothing in the end has removed nothing at any pattern. -/
theorem erase_eq_of_foldl_erase_eq {p : Pattern}
    (h : patterns.foldl (fun t q => q.erase t) text = text) (hp : p ∈ patterns) :
    p.erase text = text := by
  induction patterns with
  | nil => cases hp
  | cons q qs ih =>
    rw [List.foldl_cons] at h
    have hq : q.erase text = text := by
      apply (q.erase_sublist text).eq_of_length_le
      have hle := (foldl_erase_sublist qs (q.erase text)).length_le
      rwa [h] at hle
    rcases List.mem_cons.mp hp with rfl | hp
    · exact hq
    · rw [hq] at h
      exact ih h hp

/-- In the text for display every occurrence of a pattern is empty. -/
theorem start_eq_stop_of_mem_findAll_clean {p : Pattern} {m : Pattern.Match} (hp : p ∈ patterns)
    (hm : m ∈ p.findAll (clean patterns text)) : m.start = m.stop :=
  Pattern.start_eq_stop_of_erase_eq
    (erase_eq_of_foldl_erase_eq (foldl_erase_eq_of_round_eq (round_clean patterns text)) hp) hm

/-- The text for display is tidy. -/
theorem isTidy_clean (patterns : List Pattern) (text : List Char) :
    Text.IsTidy (clean patterns text) := by
  rw [← round_clean]
  exact Text.isTidy_strip_squeeze _

/-- A round leaves out characters that are no blanks, and changes none. -/
theorem ink_round_sublist (patterns : List Pattern) (text : List Char) :
    (Text.ink (round patterns text)).Sublist (Text.ink text) :=
  (Text.ink_strip_squeeze_sublist _).trans ((foldl_erase_sublist patterns text).filter _)

/-- Of the characters that are no blanks, display only leaves some out. -/
theorem ink_clean_sublist (patterns : List Pattern) (text : List Char) :
    (Text.ink (clean patterns text)).Sublist (Text.ink text) := by
  fun_induction clean patterns text with
  | case1 => exact .refl _
  | case2 text _ ih => exact ih.trans (ink_round_sublist patterns text)

end Display

namespace Dispatch

variable {σ : Type}

/-- The patterns of triggers. -/
def patternsOf (ts : List (Trigger σ)) : List Pattern := ts.map fun t => t.definition.pattern

/-- The pattern of a trigger is among the patterns of the triggers. -/
theorem mem_patternsOf {ts : List (Trigger σ)} {t : Trigger σ} (ht : t ∈ ts) :
    t.definition.pattern ∈ patternsOf ts := List.mem_map.mpr ⟨t, ht, rfl⟩

/-- In the text for display proper patterns have no directive. -/
theorem findAll_clean_eq_nil {ts : List (Trigger σ)}
    (hproper : ∀ t ∈ ts, t.definition.pattern.IsProper) (order : DispatchOrder)
    (text : List Char) :
    Directive.findAll order ts (Display.clean (patternsOf ts) text) = [] := by
  have hnone : Directive.findEach ts (Display.clean (patternsOf ts) text) = [] := by
    apply List.flatMap_eq_nil_iff.mpr
    intro t ht
    apply List.map_eq_nil_iff.mpr
    apply List.eq_nil_iff_forall_not_mem.mpr
    intro m hm
    have hempty := Display.start_eq_stop_of_mem_findAll_clean (mem_patternsOf ht) hm
    exact hproper t ht _ m hm hempty
  cases order <;> simp [Directive.findAll, hnone, Directive.inOrder]

/-- Stripping a text asks the registry for its triggers, and displays the text by their patterns. -/
theorem strip_eq {ts : List (Trigger σ)} {r r' : Registry σ} (text : String)
    (h : (Registry.all : Registry.Use σ _) r = (.ok ts, r')) :
    strip text r = (.ok (String.ofList (Display.clean (patternsOf ts) text.toList)), r') :=
  bind_of_ok h

/-- Finding the directives of a text asks the registry for its triggers, unless the text is empty. -/
theorem find_eq {ts : List (Trigger σ)} {r r' : Registry σ} (order : DispatchOrder) {text : String}
    (hne : text ≠ "") (h : (Registry.all : Registry.Use σ _) r = (.ok ts, r')) :
    find order text r = (.ok (Directive.findAll order ts text.toList), r') := by
  unfold find
  rw [if_neg hne]
  exact bind_of_ok h

/-- Stripping comes to rest after finitely many rounds, whatever the patterns of the active triggers
are: at a tidy text, with characters of the given one in their order, in which every occurrence of a
pattern is empty. Stripping that text changes nothing, and it has no directives unless a pattern has
empty occurrences. -/
theorem strip_settles (ts : List (Trigger σ)) (text : String) :
    ∃ (shown : String) (rounds : ℕ),
      shown.toList = (Display.round (patternsOf ts))^[rounds] text.toList ∧
      (∀ i < rounds, (Display.round (patternsOf ts))^[i + 1] text.toList ≠
        (Display.round (patternsOf ts))^[i] text.toList) ∧
      Display.round (patternsOf ts) shown.toList = shown.toList ∧
      (∀ t ∈ ts, ∀ m ∈ t.definition.pattern.findAll shown.toList, m.start = m.stop) ∧
      Text.IsTidy shown.toList ∧
      (Text.ink shown.toList).Sublist (Text.ink text.toList) ∧
      ∀ r r' : Registry σ, (Registry.all : Registry.Use σ _) r = (.ok ts, r') →
        strip text r = (.ok shown, r') ∧ strip shown r = (.ok shown, r') ∧
        ((∀ t ∈ ts, t.definition.pattern.IsProper) →
          ∀ order, (find order shown r).1 = .ok []) := by
  obtain ⟨rounds, hiterate, hfixed, hearlier⟩ :=
    Display.clean_eq_iterate (patternsOf ts) text.toList
  let shown := Display.clean (patternsOf ts) text.toList
  have htoList : (String.ofList shown).toList = shown := String.toList_ofList
  refine ⟨String.ofList shown, rounds, ?_, hearlier, ?_, ?_, ?_, ?_, fun r r' hall => ?_⟩
  · rw [htoList]
    exact hiterate
  · rw [htoList]
    exact hfixed
  · rw [htoList]
    exact fun t ht m hm => Display.start_eq_stop_of_mem_findAll_clean (mem_patternsOf ht) hm
  · rw [htoList]
    exact Display.isTidy_clean _ _
  · rw [htoList]
    exact Display.ink_clean_sublist _ _
  · refine ⟨strip_eq text hall, ?_, fun hproper order => ?_⟩
    · rw [strip_eq _ hall, htoList, Display.clean_eq_self hfixed]
    · by_cases hempty : String.ofList shown = ""
      · rw [hempty]
        rfl
      · rw [find_eq order hempty hall, htoList]
        exact congrArg Except.ok (findAll_clean_eq_nil hproper order text.toList)

end Dispatch

end Concierge
