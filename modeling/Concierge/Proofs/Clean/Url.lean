import Concierge.Clean.Url
import Concierge.Proofs.Command.Scanner

/-!
# What a cleaned link looks like

A cleaned link is empty, relative, or has an allowed scheme before its first colon. It has no blanks and
no control characters. What is removed is removed before the scheme is looked for, so that no other scheme
can come about afterwards.
-/

namespace Concierge.Clean

/-- What stands before the first colon is an allowed scheme, in letters of either case. -/
def HasAllowedScheme (cs : List Char) : Prop :=
  ∃ scheme rest, cs = scheme ++ ':' :: rest ∧ ':' ∉ scheme ∧ isScheme scheme = true ∧
    Text.lowered scheme ∈ allowedSchemes

/-- The text is empty, or a link that may be followed. -/
structure IsLink (cs : List Char) : Prop where
  noBlank : ∀ c ∈ cs, Text.isBlank c = false
  noControl : ∀ c ∈ cs, isControl c = false
  target : cs = [] ∨ (∃ c ∈ cs.head?, c = '/' ∨ c = '#' ∨ c = '?') ∨ HasAllowedScheme cs

/-- A link with a scheme has it before its first colon. -/
theorem exists_of_cutScheme {cs scheme rest : List Char} (h : cutScheme cs = (scheme, rest))
    (hscheme : scheme ≠ []) :
    ∃ written, cs = written ++ ':' :: rest ∧ ':' ∉ written ∧ isScheme written = true ∧
      Text.lowered written = scheme := by
  unfold cutScheme at h
  split at h
  · rename_i before after hcut
    obtain ⟨hwritten, hfirst⟩ := Text.cutAt?_eq_some_iff.mp hcut
    split at h
    · rename_i hgood
      cases h
      exact ⟨before, hwritten, hfirst, hgood, rfl⟩
    · cases h
      exact absurd rfl hscheme
  · cases h
    exact absurd rfl hscheme

/-- The scheme of a link is what has been cut off. -/
theorem fst_cutScheme_of_schemeOf {cs scheme : List Char} (h : schemeOf cs = .ok scheme) :
    (cutScheme cs).1 = scheme := by
  unfold schemeOf at h
  dsimp only at h
  split at h
  · cases hchecked : checkAuthority _ with
    | ok _ =>
      rw [hchecked] at h
      exact Except.ok.inj h
    | error e =>
      rw [hchecked] at h
      cases h
  · exact Except.ok.inj h

/-- A link that gets a scheme has it. -/
theorem hasAllowedScheme_plain (cs : List Char) : HasAllowedScheme (plainScheme ++ cs) :=
  ⟨"http".toList, '/' :: '/' :: cs, rfl, by decide, by decide, by decide⟩

/-- What is kept of a link that is not relative is empty or has an allowed scheme. -/
theorem absoluteUrl_cases {cs out : List Char} (h : absoluteUrl cs = .ok out) :
    out = [] ∨ (out = plainScheme ++ cs) ∨ (out = cs ∧ HasAllowedScheme cs) := by
  unfold absoluteUrl at h
  cases hscheme : schemeOf cs with
  | error e =>
    rw [hscheme] at h
    cases h
  | ok scheme =>
    rw [hscheme] at h
    dsimp only [bind, Except.bind] at h
    split at h
    · exact .inr (.inl (Except.ok.inj h).symm)
    · rename_i hpresent
      by_cases hallowed : allowedSchemes.contains scheme = true
      · rw [if_pos hallowed] at h
        have hne : scheme ≠ [] := fun heq => hpresent (by simp [heq])
        obtain ⟨written, hcs, hfirst, hgood, hlowered⟩ :=
          exists_of_cutScheme (Prod.ext (fst_cutScheme_of_schemeOf hscheme) rfl) hne
        refine .inr (.inr ⟨(Except.ok.inj h).symm, written, _, hcs, hfirst, hgood, ?_⟩)
        rw [hlowered]
        simpa using hallowed
      · rw [if_neg hallowed] at h
        exact .inl (Except.ok.inj h).symm

/-- A scheme that a link gets brings no blanks and no control characters. -/
theorem plain_of_mem_plainScheme :
    ∀ c ∈ plainScheme, Text.isBlank c = false ∧ isControl c = false := by
  have hall : plainScheme.all (fun c => !Text.isBlank c && !isControl c) = true := by decide
  intro c hc
  simpa using List.all_eq_true.mp hall c hc

/-- A cleaned link is empty, or may be followed. -/
theorem isLink_of_urlChars {cs out : List Char} (h : urlChars cs = .ok out) : IsLink out := by
  have hkept : ∀ c ∈ (dropControls cs).filter fun c => !Text.isBlank c,
      Text.isBlank c = false ∧ isControl c = false := by
    intro c hc
    obtain ⟨hmem, hblank⟩ := List.mem_filter.mp hc
    exact ⟨by simpa using hblank, by simpa using (List.mem_filter.mp hmem).2⟩
  unfold urlChars at h
  generalize (dropControls cs).filter (fun c => !Text.isBlank c) = kept at hkept h
  cases kept with
  | nil =>
    cases h
    exact ⟨nofun, nofun, .inl rfl⟩
  | cons c kept =>
    dsimp only at h
    split at h
    · rename_i hrelative
      cases h
      exact ⟨fun d hd => (hkept d hd).1, fun d hd => (hkept d hd).2,
        .inr (.inl ⟨c, rfl, by simpa [or_assoc] using hrelative⟩)⟩
    · rcases absoluteUrl_cases h with rfl | rfl | ⟨rfl, hscheme⟩
      · exact ⟨nofun, nofun, .inl rfl⟩
      · have hall : ∀ d ∈ plainScheme ++ c :: kept, Text.isBlank d = false ∧ isControl d = false :=
          List.forall_mem_append.mpr ⟨plain_of_mem_plainScheme, hkept⟩
        exact ⟨fun d hd => (hall d hd).1, fun d hd => (hall d hd).2,
          .inr (.inr (hasAllowedScheme_plain _))⟩
      · exact ⟨fun d hd => (hkept d hd).1, fun d hd => (hkept d hd).2, .inr (.inr hscheme)⟩

end Concierge.Clean
