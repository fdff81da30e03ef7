import Concierge.Template
import Mathlib.Data.List.Nodup

/-!
# Substitution in one pass

A template with all of its values put in at once: it is read once from the left, and a placeholder gives
way to its value, which is not read again. Putting in a single value is such a pass, so that a template
that is rendered is passed over once for every value.
-/

namespace Concierge.Template

/-- The first entry whose placeholder the text begins with. -/
def entryAt? (values : List (String × String)) (cs : List Char) : Option (String × String) :=
  values.find? fun e => (placeholder e.1).isPrefixOf cs

/-- Puts in the values of all placeholders in one pass from the left. The count says how many characters
of the last placeholder are still to be passed over. -/
def substituteFrom (values : List (String × String)) : Nat → List Char → List Char
  | _, [] => []
  | skip + 1, _ :: cs => substituteFrom values skip cs
  | 0, c :: cs =>
    match entryAt? values (c :: cs) with
    | some e => e.2.toList ++ substituteFrom values ((placeholder e.1).length - 1) cs
    | none => c :: substituteFrom values 0 cs

/-- A template with the values of all placeholders put in at once. -/
def substitute (values : List (String × String)) (template : String) : String :=
  String.ofList (substituteFrom values 0 template.toList)

/-- A name that can stand between braces. -/
structure IsName (name : List Char) : Prop where
  noOpening : '\x7b' ∉ name
  noClosing : '\x7d' ∉ name

variable {values : List (String × String)} {e : String × String} {c : Char} {cs rest : List Char}

/-! ## One pass -/

/-- Characters that are passed over are left out. -/
theorem substituteFrom_eq_drop (values : List (String × String)) (skip : Nat) (cs : List Char) :
    substituteFrom values skip cs = substituteFrom values 0 (cs.drop skip) := by
  induction cs generalizing skip with
  | nil => simp [substituteFrom]
  | cons c cs ih =>
    cases skip with
    | zero => rfl
    | succ skip => rw [substituteFrom, ih, List.drop_succ_cons]

/-- The text begins with the placeholder of the entry that is found. -/
theorem eq_append_of_entryAt (h : entryAt? values cs = some e) :
    e ∈ values ∧ ∃ rest, cs = placeholder e.1 ++ rest := by
  have hbegins : (placeholder e.1).isPrefixOf cs = true := by
    have hfound := List.find?_some h
    exact hfound
  obtain ⟨rest, hrest⟩ := List.isPrefixOf_iff_prefix.mp hbegins
  exact ⟨List.mem_of_find?_eq_some h, rest, hrest.symm⟩

/-- A placeholder at the front gives way to its value. -/
theorem substituteFrom_placeholder (h : entryAt? values (placeholder e.1 ++ rest) = some e) :
    substituteFrom values 0 (placeholder e.1 ++ rest) = e.2.toList ++ substituteFrom values 0 rest := by
  have hlength : (placeholder e.1).length - 1 = (e.1.toList ++ ['\x7d']).length := by
    simp [placeholder]
  have hcons : placeholder e.1 ++ rest = '\x7b' :: (e.1.toList ++ ['\x7d'] ++ rest) := rfl
  rw [hcons] at h ⊢
  rw [substituteFrom, h]
  dsimp only
  rw [substituteFrom_eq_drop, hlength, List.drop_left]

/-- A character at which no placeholder begins stays. -/
theorem substituteFrom_cons (h : entryAt? values (c :: cs) = none) :
    substituteFrom values 0 (c :: cs) = c :: substituteFrom values 0 cs := by
  rw [substituteFrom, h]

/-- A character other than an opening brace begins no placeholder. -/
theorem entryAt_of_ne (hc : c ≠ '\x7b') : entryAt? values (c :: cs) = none := by
  cases hfound : entryAt? values (c :: cs) with
  | none => rfl
  | some e =>
    obtain ⟨-, rest, hcs⟩ := eq_append_of_entryAt hfound
    exact absurd (List.cons.inj hcs).1 hc

/-- A character other than an opening brace stays. -/
theorem substituteFrom_cons_of_ne (hc : c ≠ '\x7b') :
    substituteFrom values 0 (c :: cs) = c :: substituteFrom values 0 cs :=
  substituteFrom_cons (entryAt_of_ne hc)

/-- What comes before the first opening brace stays. -/
theorem substituteFrom_append_of_plain {plain : List Char} (hplain : '\x7b' ∉ plain) :
    substituteFrom values 0 (plain ++ rest) = plain ++ substituteFrom values 0 rest := by
  induction plain with
  | nil => rfl
  | cons c plain ih =>
    obtain ⟨hc, hrest⟩ := not_or.mp (mt List.mem_cons.mpr hplain)
    rw [List.cons_append, substituteFrom_cons_of_ne (Ne.symm hc), ih hrest, List.cons_append]

/-- A text in which none of the placeholders lies stays. -/
theorem substituteFrom_eq_self (h : ∀ e ∈ values, ¬ placeholder e.1 <:+: cs) :
    substituteFrom values 0 cs = cs := by
  induction cs with
  | nil => rfl
  | cons c cs ih =>
    have hnone : entryAt? values (c :: cs) = none := by
      cases hfound : entryAt? values (c :: cs) with
      | none => rfl
      | some e =>
        obtain ⟨hmem, rest, hcs⟩ := eq_append_of_entryAt hfound
        exact absurd ⟨[], rest, hcs.symm⟩ (h e hmem)
    rw [substituteFrom_cons hnone, ih fun e he hlies => h e he (hlies.trans (List.suffix_cons c cs).isInfix)]

/-- A mark that is in no placeholder and in no value stands in the result as often as in the template. -/
theorem count_substituteFrom {mark : Char} (hnames : ∀ e ∈ values, mark ∉ placeholder e.1)
    (hvalues : ∀ e ∈ values, mark ∉ e.2.toList) (skip : Nat) (cs : List Char) :
    (substituteFrom values skip cs).count mark = (cs.drop skip).count mark := by
  induction cs generalizing skip with
  | nil => simp [substituteFrom]
  | cons c cs ih =>
    cases skip with
    | succ skip => rw [substituteFrom, ih, List.drop_succ_cons]
    | zero =>
      cases hfound : entryAt? values (c :: cs) with
      | none => rw [substituteFrom_cons hfound, List.count_cons, ih 0, List.drop_zero, List.drop_zero,
          List.count_cons]
      | some e =>
        obtain ⟨hmem, rest, hcs⟩ := eq_append_of_entryAt hfound
        have hrest : cs.drop ((placeholder e.1).length - 1) = rest := by
          have hdrop : (c :: cs).drop (placeholder e.1).length = rest := by
            rw [hcs, List.drop_left]
          exact hdrop
        rw [substituteFrom, hfound]
        dsimp only
        rw [List.count_append, List.count_eq_zero_of_not_mem (hvalues e hmem), ih, hrest, List.drop_zero,
          hcs, List.count_append, List.count_eq_zero_of_not_mem (hnames e hmem)]

/-! ## One value after another -/

/-- Putting in one value is a pass with this value alone. -/
theorem fill_eq_substituteFrom (cs : List Char) (e : String × String) :
    fill cs e = substituteFrom [e] 0 cs := by
  have hfrom (skip : Nat) : Text.replaceFrom (placeholder e.1) e.2.toList skip cs =
      substituteFrom [e] skip cs := by
    induction cs generalizing skip with
    | nil => cases skip <;> rfl
    | cons c cs ih =>
      cases skip with
      | succ skip => exact ih skip
      | zero =>
        rw [Text.replaceFrom, substituteFrom, entryAt?, List.find?_singleton]
        split
        · rw [ih]
        · rw [ih]
  exact hfrom 0

/-- A rendered text whose marks are in no placeholder and in no value has as many of them as the
template. -/
theorem count_render {mark : Char} (hnames : ∀ e ∈ values, mark ∉ placeholder e.1)
    (hvalues : ∀ e ∈ values, mark ∉ e.2.toList) (template : String) :
    (render template values).toList.count mark = template.toList.count mark := by
  rw [render, String.toList_ofList]
  generalize template.toList = cs
  induction values generalizing cs with
  | nil => rfl
  | cons e values ih =>
    obtain ⟨hname, hnames⟩ := List.forall_mem_cons.mp hnames
    obtain ⟨hvalue, hvalues⟩ := List.forall_mem_cons.mp hvalues
    rw [List.foldl_cons, ih hnames hvalues, fill_eq_substituteFrom,
      count_substituteFrom (by simpa using hname) (by simpa using hvalue), List.drop_zero]

end Concierge.Template
