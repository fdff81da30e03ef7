import Concierge.Proofs.Clean.Erase

/-!
# Cleaning a link once more

A link is cleaned with a look at its authority, and a malformed authority is an error. A text that is taken
for a host is written behind `http://` after that look, so that it becomes an authority only then. Cleaning
it once more either gives the same text or finds this authority malformed. No other text changes, and
without brackets and look-alikes there is nothing to find.
-/

namespace Concierge

namespace Clean

variable {cs : List Char} {e : UrlError}

/-! ## What can be wrong with a link -/

/-- The link begins as a relative one, and its scheme is not looked for. -/
def IsRelative (cs : List Char) : Prop := ∃ c ∈ cs.head?, c = '/' ∨ c = '#' ∨ c = '?'

/-- No scheme is found before the first colon, or one with a dot, so that the text is taken for a host. -/
def IsHostLike (cs : List Char) : Prop := (cutScheme cs).1 = [] ∨ '.' ∈ (cutScheme cs).1

/-- What becomes the authority of a text that is taken for a host. -/
def hostPart (cs : List Char) : List Char := cs.takeWhile fun c => c != '/' && c != '?' && c != '#'

/-- What stands behind `//` in the link, and behind its scheme if it has one, is malformed. -/
def HasBadAuthority (cs : List Char) (e : UrlError) : Prop :=
  ¬ IsRelative cs ∧
    ∃ authority, authority? (cutScheme cs).2 = some authority ∧ checkAuthority authority = .error e

/-- The link is taken for a host that is malformed. -/
def HasBadHost (cs : List Char) (e : UrlError) : Prop :=
  ¬ IsRelative cs ∧ IsHostLike cs ∧ checkAuthority (hostPart cs) = .error e

/-- A text with no character that is looked for in an authority. -/
def IsPlain (cs : List Char) : Prop := ∀ c ∈ cs, c ≠ '[' ∧ c ≠ ']' ∧ c.toNat ∉ lookAlikes

instance (cs : List Char) : Decidable (IsPlain cs) := List.decidableBAll _ cs

/-! ## One look at a link -/

/-- A text without blanks and control characters is visible. -/
theorem visible_eq_self (h : ∀ c ∈ cs, Text.isBlank c = false ∧ isControl c = false) :
    visible cs = cs := by
  rw [visible, dropControls_eq_self fun c hc => (h c hc).2, List.filter_eq_self]
  intro c hc
  simp [(h c hc).1]

/-- Nothing is made of a link in which nothing is visible. -/
theorem urlChars_of_nil (h : visible cs = []) : urlChars cs = .ok [] := by
  unfold visible at h
  rw [urlChars, h]

/-- A relative link is kept. -/
theorem urlChars_of_relative (h : IsRelative (visible cs)) : urlChars cs = .ok (visible cs) := by
  obtain ⟨c, hc, hrelative⟩ := h
  unfold visible at hc ⊢
  unfold urlChars
  cases hkept : (dropControls cs).filter fun c => !Text.isBlank c with
  | nil => rfl
  | cons d kept =>
    rw [hkept] at hc
    obtain rfl : d = c := by simpa using hc
    exact if_pos (by simpa [or_assoc] using hrelative)

/-- The scheme of any other link is looked for. -/
theorem urlChars_of_absolute (hne : visible cs ≠ []) (h : ¬ IsRelative (visible cs)) :
    urlChars cs = absoluteUrl (visible cs) := by
  unfold visible at hne h ⊢
  unfold urlChars
  cases hkept : (dropControls cs).filter fun c => !Text.isBlank c with
  | nil => exact absurd hkept hne
  | cons c kept =>
    rw [hkept] at h
    exact if_neg fun hrelative => h ⟨c, rfl, by simpa [or_assoc] using hrelative⟩

/-- Looking for the scheme fails with what is wrong with the authority. -/
theorem schemeOf_eq_error_iff : schemeOf cs = .error e ↔
    ∃ authority, authority? (cutScheme cs).2 = some authority ∧ checkAuthority authority = .error e := by
  unfold schemeOf
  obtain ⟨scheme, rest⟩ := cutScheme cs
  dsimp only
  cases authority? rest with
  | none => exact iff_of_false nofun nofun
  | some authority =>
    have hiff : (∃ a, some authority = some a ∧ checkAuthority a = .error e) ↔
        checkAuthority authority = .error e := by simp
    rw [hiff]
    dsimp only
    cases checkAuthority authority with
    | error e' => simp [bind, Except.bind]
    | ok _ => exact iff_of_false nofun nofun

/-- Looking at a link fails with what is wrong with its authority. -/
theorem absoluteUrl_eq_error_iff : absoluteUrl cs = .error e ↔
    ∃ authority, authority? (cutScheme cs).2 = some authority ∧ checkAuthority authority = .error e := by
  rw [← schemeOf_eq_error_iff]
  unfold absoluteUrl
  cases schemeOf cs with
  | error e' => rfl
  | ok scheme =>
    -- Once the scheme is known nothing can fail.
    refine iff_of_false (fun h => ?_) nofun
    dsimp only [bind, Except.bind] at h
    split at h <;> cases h

/-- A link whose authority is well formed is taken for a host, kept, or left out, as its scheme tells. -/
theorem absoluteUrl_of_ok {out : List Char} (h : absoluteUrl cs = .ok out) :
    (IsHostLike cs ∧ out = plainScheme ++ cs) ∨
      (¬ IsHostLike cs ∧ (cutScheme cs).1 ∈ allowedSchemes ∧ out = cs) ∨
      (¬ IsHostLike cs ∧ (cutScheme cs).1 ∉ allowedSchemes ∧ out = []) := by
  unfold absoluteUrl at h
  obtain ⟨scheme, hscheme, h⟩ := Fault.ok_of_bind h
  have hcut : (cutScheme cs).1 = scheme := fst_cutScheme_of_schemeOf hscheme
  have hhost : IsHostLike cs ↔ (scheme.isEmpty || scheme.contains '.') = true := by
    simp [IsHostLike, hcut]
  rw [hcut]
  split at h
  · rename_i hplain
    exact .inl ⟨hhost.mpr hplain, (Except.ok.inj h).symm⟩
  · rename_i hplain
    have hnot : ¬ IsHostLike cs := fun hlike => hplain (hhost.mp hlike)
    by_cases hallowed : scheme ∈ allowedSchemes
    · rw [if_pos (by simpa using hallowed)] at h
      exact .inr (.inl ⟨hnot, hallowed, (Except.ok.inj h).symm⟩)
    · rw [if_neg (by simpa using hallowed)] at h
      exact .inr (.inr ⟨hnot, hallowed, (Except.ok.inj h).symm⟩)

/-- Cleaning a link fails with what is wrong with its authority. -/
theorem urlChars_eq_error_iff : urlChars cs = .error e ↔ HasBadAuthority (visible cs) e := by
  unfold HasBadAuthority
  by_cases hrelative : IsRelative (visible cs)
  · rw [urlChars_of_relative hrelative]
    exact iff_of_false nofun fun h => h.1 hrelative
  · rw [and_iff_right hrelative]
    by_cases hnil : visible cs = []
    · rw [urlChars_of_nil hnil, hnil]
      refine iff_of_false nofun ?_
      rintro ⟨authority, hauthority, -⟩
      cases hauthority
    · rw [urlChars_of_absolute hnil hrelative, absoluteUrl_eq_error_iff]

/-! ## A second look -/

/-- A text that is taken for a host becomes an authority, and is judged as one. -/
theorem absoluteUrl_plain_eq_error_iff :
    absoluteUrl (plainScheme ++ cs) = .error e ↔ checkAuthority (hostPart cs) = .error e := by
  have hauthority : authority? (cutScheme (plainScheme ++ cs)).2 = some (hostPart cs) := rfl
  rw [absoluteUrl_eq_error_iff, hauthority]
  simp

/-- A host with the scheme that it gets is kept, if it is well formed. -/
theorem absoluteUrl_plain_of_ok {out : List Char} (h : absoluteUrl (plainScheme ++ cs) = .ok out) :
    out = plainScheme ++ cs := by
  have hscheme : (cutScheme (plainScheme ++ cs)).1 = "http".toList := rfl
  have hallowed : "http".toList ∈ allowedSchemes := by decide
  have hnot : ¬ IsHostLike (plainScheme ++ cs) := by
    rw [IsHostLike, hscheme]
    decide
  rcases absoluteUrl_of_ok h with ⟨hlike, -⟩ | ⟨-, -, hout⟩ | ⟨-, hforbidden, -⟩
  · exact absurd hlike hnot
  · exact hout
  · rw [hscheme] at hforbidden
    exact absurd hallowed hforbidden

/-- A link with a scheme is not relative. -/
theorem not_isRelative_plain (cs : List Char) : ¬ IsRelative (plainScheme ++ cs) := by
  have hhead : (plainScheme ++ cs).head? = some 'h' := rfl
  rintro ⟨c, hc, hrelative⟩
  rw [hhead] at hc
  obtain rfl := Option.some.inj hc
  exact absurd hrelative (by decide)

/-- A text that was not taken for a host has no malformed one. -/
theorem not_hasBadHost (h : cs = [] ∨ IsRelative cs ∨ ¬ IsHostLike cs) : ¬ HasBadHost cs e := by
  rintro ⟨hrelative, hlike, hbad⟩
  rcases h with rfl | hrelative' | hlike'
  · cases hbad
  · exact hrelative hrelative'
  · exact hlike' hlike

/-- A link that was not taken for a host is cleaned to itself. -/
theorem urlChars_of_not_host {out : List Char} (h : urlChars cs = .ok out)
    (hnot : visible cs = [] ∨ IsRelative (visible cs) ∨ ¬ IsHostLike (visible cs)) :
    urlChars out = .ok out := by
  have hlink := isLink_of_urlChars h
  have hvisible : visible out = out :=
    visible_eq_self fun c hc => ⟨hlink.noBlank c hc, hlink.noControl c hc⟩
  by_cases hnil : visible cs = []
  · cases (urlChars_of_nil hnil).symm.trans h
    rfl
  by_cases hrelative : IsRelative (visible cs)
  · cases (urlChars_of_relative hrelative).symm.trans h
    rw [urlChars_of_relative (hvisible.symm ▸ hrelative), hvisible]
  have hlike : ¬ IsHostLike (visible cs) := by
    rcases hnot with hnil' | hrelative' | hlike
    · exact absurd hnil' hnil
    · exact absurd hrelative' hrelative
    · exact hlike
  rw [urlChars_of_absolute hnil hrelative] at h
  rcases absoluteUrl_of_ok h with ⟨hlike', -⟩ | ⟨-, -, rfl⟩ | ⟨-, -, rfl⟩
  · exact absurd hlike' hlike
  · rw [urlChars_of_absolute (hvisible.symm ▸ hnil) (hvisible.symm ▸ hrelative), hvisible, h]
  · rfl

/-- A link that was taken for a host is looked at once more behind the scheme that it has got. -/
theorem urlChars_of_host {out : List Char} (h : urlChars cs = .ok out) (hnil : visible cs ≠ [])
    (hrelative : ¬ IsRelative (visible cs)) (hlike : IsHostLike (visible cs)) :
    out = plainScheme ++ visible cs ∧ urlChars out = absoluteUrl (plainScheme ++ visible cs) := by
  have hlink := isLink_of_urlChars h
  have hvisible : visible out = out :=
    visible_eq_self fun c hc => ⟨hlink.noBlank c hc, hlink.noControl c hc⟩
  rw [urlChars_of_absolute hnil hrelative] at h
  rcases absoluteUrl_of_ok h with ⟨-, rfl⟩ | ⟨hnot, -⟩ | ⟨hnot, -⟩
  · refine ⟨rfl, ?_⟩
    rw [urlChars_of_absolute, hvisible]
    · rw [hvisible]
      exact nofun
    · rw [hvisible]
      exact not_isRelative_plain _
  · exact absurd hlike hnot
  · exact absurd hlike hnot

/-- What a link is cleaned to is cleaned to itself, unless it was taken for a host that is malformed. -/
theorem urlChars_again {out : List Char} (h : urlChars cs = .ok out) :
    (∀ e, urlChars out = .error e ↔ HasBadHost (visible cs) e) ∧
      ∀ again, urlChars out = .ok again → again = out := by
  by_cases hhost : visible cs ≠ [] ∧ ¬ IsRelative (visible cs) ∧ IsHostLike (visible cs)
  · obtain ⟨hnil, hrelative, hlike⟩ := hhost
    obtain ⟨rfl, hagain⟩ := urlChars_of_host h hnil hrelative hlike
    rw [hagain]
    refine ⟨fun e => ?_, fun again => absoluteUrl_plain_of_ok⟩
    rw [absoluteUrl_plain_eq_error_iff, HasBadHost, and_iff_right hrelative, and_iff_right hlike]
  · have hnot : visible cs = [] ∨ IsRelative (visible cs) ∨ ¬ IsHostLike (visible cs) := by tauto
    have hout := urlChars_of_not_host h hnot
    rw [hout]
    exact ⟨fun e => iff_of_false nofun (not_hasBadHost hnot), fun again hagain =>
      (Except.ok.inj hagain).symm⟩

/-! ## Links with nothing to find -/

/-- An authority without brackets and look-alikes is well formed. -/
theorem checkAuthority_of_isPlain (h : IsPlain cs) : checkAuthority cs = .ok () := by
  have hopen : cs.contains '[' = false := by
    simpa using fun hmem : '[' ∈ cs => (h _ hmem).1 rfl
  have hclose : cs.contains ']' = false := by
    simpa using fun hmem : ']' ∈ cs => (h _ hmem).2.1 rfl
  have hlike : (cs.any fun c => lookAlikes.contains c.toNat) = false := by
    refine List.any_eq_false.mpr fun c hc => ?_
    rw [List.contains_iff_mem]
    exact (h c hc).2.2
  simp only [checkAuthority, hopen, hclose, hlike]
  rfl

/-- What is left of a plain text is plain. -/
theorem IsPlain.of_sublist {part : List Char} (h : IsPlain cs) (hpart : part.Sublist cs) :
    IsPlain part := fun c hc => h c (hpart.mem hc)

/-- What is behind the scheme of a link is the end of it. -/
theorem cutScheme_suffix (cs : List Char) : (cutScheme cs).2 <:+ cs := by
  unfold cutScheme
  split
  · rename_i before after hcut
    split
    · rw [(Text.cutAt?_eq_some_iff.mp hcut).1]
      exact (List.suffix_cons ':' after).trans (List.suffix_append before _)
    · exact List.suffix_rfl
  · exact List.suffix_rfl

/-- An authority is a part of the link. -/
theorem authority?_sublist {authority : List Char} (h : authority? cs = some authority) :
    authority.Sublist cs := by
  unfold authority? at h
  split at h
  · cases h
    exact (List.takeWhile_sublist _).trans ((List.sublist_cons_self ..).trans (List.sublist_cons_self ..))
  · cases h

/-- A text without brackets and look-alikes is cleaned, and what it is cleaned to is cleaned to itself. -/
theorem urlChars_of_isPlain (h : IsPlain cs) : ∃ out, urlChars cs = .ok out ∧ urlChars out = .ok out := by
  have hvisible : IsPlain (visible cs) := h.of_sublist (List.filter_sublist.trans List.filter_sublist)
  cases hout : urlChars cs with
  | error e =>
    obtain ⟨-, authority, hauthority, hbad⟩ := urlChars_eq_error_iff.mp hout
    have hplain : IsPlain authority :=
      hvisible.of_sublist ((authority?_sublist hauthority).trans (cutScheme_suffix _).sublist)
    rw [checkAuthority_of_isPlain hplain] at hbad
    cases hbad
  | ok out =>
    obtain ⟨hfails, hsame⟩ := urlChars_again hout
    refine ⟨out, rfl, ?_⟩
    cases hagain : urlChars out with
    | error e =>
      obtain ⟨-, -, hbad⟩ := (hfails e).mp hagain
      have hplain : IsPlain (hostPart (visible cs)) := hvisible.of_sublist (List.takeWhile_sublist _)
      rw [checkAuthority_of_isPlain hplain] at hbad
      cases hbad
    | ok again => rw [hsame again hagain]

/-! ## Texts as links -/

/-- A text is cleaned as its characters are. -/
theorem url_text (s : String) :
    url (.text s) = ((urlChars s.toList).map String.ofList).mapError CleanError.url := rfl

/-- A text is cleaned to the text of what its characters are cleaned to. -/
theorem url_text_eq_ok_iff {s out : String} :
    url (.text s) = .ok out ↔ urlChars s.toList = .ok out.toList := by
  rw [url_text]
  cases urlChars s.toList with
  | error e => exact iff_of_false nofun nofun
  | ok cs =>
    rw [Except.map, Except.mapError, Except.ok.injEq, Except.ok.injEq, ← String.toList_inj,
      String.toList_ofList]

/-- Cleaning a text fails as cleaning its characters does. -/
theorem url_text_eq_error_iff {s : String} {e : CleanError} :
    url (.text s) = .error e ↔ ∃ bad, e = .url bad ∧ urlChars s.toList = .error bad := by
  rw [url_text]
  cases urlChars s.toList with
  | error e' => simp [Except.map, Except.mapError, eq_comm]
  | ok cs =>
    refine iff_of_false nofun ?_
    rintro ⟨_, _, hbad⟩
    cases hbad

/-- Cleaning a text as a link fails if its authority is malformed, and only then. What it is cleaned to is
cleaned to itself, except that cleaning fails the second time if the text was taken for a host that is
malformed. So neither happens to a text without brackets and look-alikes. -/
theorem url_settles_or_fails (s : String) :
    (∀ e, url (.text s) = .error e ↔ ∃ bad, e = .url bad ∧ HasBadAuthority (visible s.toList) bad) ∧
      (∀ out, url (.text s) = .ok out →
        (∀ e, url (.text out) = .error e ↔ ∃ bad, e = .url bad ∧ HasBadHost (visible s.toList) bad) ∧
          ∀ again, url (.text out) = .ok again → again = out) ∧
      (IsPlain s.toList → ∃ out, url (.text s) = .ok out ∧ url (.text out) = .ok out) := by
  refine ⟨fun e => ?_, fun out hout => ?_, fun hplain => ?_⟩
  · simp only [url_text_eq_error_iff, urlChars_eq_error_iff]
  · obtain ⟨hfails, hsame⟩ := urlChars_again (url_text_eq_ok_iff.mp hout)
    refine ⟨fun e => ?_, fun again hagain => ?_⟩
    · simp only [url_text_eq_error_iff, hfails]
    · exact String.toList_inj.mp (hsame _ (url_text_eq_ok_iff.mp hagain))
  · obtain ⟨out, hout, hagain⟩ := urlChars_of_isPlain hplain
    refine ⟨String.ofList out, url_text_eq_ok_iff.mpr ?_, url_text_eq_ok_iff.mpr ?_⟩
    · rw [hout, String.toList_ofList]
    · rw [String.toList_ofList, hagain]

/-- A host with a path gets a scheme, and is left alone after that. -/
theorem url_settles_of_page :
    IsPlain "example.com/page".toList ∧
      url (.text "example.com/page") = .ok "http://example.com/page" ∧
      (∀ again, url (.text "http://example.com/page") = .ok again → again = "http://example.com/page") ∧
      ∃ out, url (.text "example.com/page") = .ok out ∧ url (.text out) = .ok out :=
  ⟨by decide, by decide, ((url_settles_or_fails "example.com/page").2.1 _ (by decide)).2,
    (url_settles_or_fails "example.com/page").2.2 (by decide)⟩

/-- A bracket that is not closed makes an authority malformed; where it becomes one only by cleaning, the
second cleaning fails. -/
theorem open_bracket_is_no_text :
    url (.text "http://[") = .error (.url .unbalancedBrackets) ∧ url (.text "[") = .ok "http://[" := by
  decide

end Clean

end Concierge
