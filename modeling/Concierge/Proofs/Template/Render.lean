import Concierge.Proofs.Template.Substitute
import Mathlib.Data.List.Find

/-!
# Values put in one after another

A rendered template has had its values put in one after another, and a placeholder in a value that is in
it by then is taken for one of the template. In a text whose braces stand in pairs every placeholder is a
pair; so what a whole rendering comes to is one pass in which every value has been rendered with the
values behind it. Where no value holds the placeholder of another one, this is the template with its values
as they are, in whichever order they are put in.
-/

namespace Concierge.Template

/-- The braces of a text stand in pairs with a name between them, up to a last part. A closing brace may
stand alone. -/
inductive IsPaired (last : List Char) : List Char → Prop
  | last : IsPaired last last
  | plain {c : Char} {cs : List Char} : c ≠ '\x7b' → IsPaired last cs → IsPaired last (c :: cs)
  | pair {name cs : List Char} : IsName name → IsPaired last cs →
      IsPaired last ('\x7b' :: (name ++ '\x7d' :: cs))

/-- The braces of a template stand in pairs, up to a last part in which no brace is closed. -/
def IsTemplate (cs : List Char) : Prop := ∃ last, '\x7d' ∉ last ∧ IsPaired last cs

/-- The braces of a value stand in pairs. -/
def IsValue (cs : List Char) : Prop := IsPaired [] cs

/-- Every name can stand between braces. -/
def HaveNames (values : List (String × String)) : Prop := ∀ e ∈ values, IsName e.1.toList

/-- The braces of every value stand in pairs. -/
def HaveValues (values : List (String × String)) : Prop := ∀ e ∈ values, IsValue e.2.toList

/-- Every value rendered with the values behind it. -/
def expanded : List (String × String) → List (String × String)
  | [] => []
  | e :: rest => (e.1, render e.2 rest) :: expanded rest

variable {values : List (String × String)} {e : String × String} {last cs cs' name : List Char}

/-! ## Pairs -/

/-- Reads the braces of a text, and tells whether they stand in pairs. The flag says that a brace is
open. -/
def pairsUp : Bool → List Char → Bool
  | isOpen, [] => !isOpen
  | true, c :: cs => if c = '\x7d' then pairsUp false cs else c != '\x7b' && pairsUp true cs
  | false, c :: cs => pairsUp (c == '\x7b') cs

/-- A name and the closing brace behind it are read over. -/
theorem pairsUp_name (hname : IsName name) (cs : List Char) :
    pairsUp true (name ++ '\x7d' :: cs) = pairsUp false cs := by
  induction name with
  | nil => rfl
  | cons c name ih =>
    have hopening : c ≠ '\x7b' := fun heq => hname.noOpening (heq ▸ List.mem_cons_self)
    have hclosing : c ≠ '\x7d' := fun heq => hname.noClosing (heq ▸ List.mem_cons_self)
    have hrest : IsName name :=
      ⟨fun hmem => hname.noOpening (List.mem_cons_of_mem c hmem),
        fun hmem => hname.noClosing (List.mem_cons_of_mem c hmem)⟩
    simp [pairsUp, hopening, hclosing, ih hrest]

/-- A text in which braces pair up is made of pairs; behind an open brace there is first a name, with the
closing brace. -/
theorem isValue_of_pairsUp (cs : List Char) :
    (pairsUp false cs = true → IsValue cs) ∧
      (pairsUp true cs = true → ∃ name rest, IsName name ∧ cs = name ++ '\x7d' :: rest ∧ IsValue rest) := by
  induction cs with
  | nil => exact ⟨fun _ => .last, nofun⟩
  | cons c cs ih =>
    constructor
    · intro h
      rw [pairsUp] at h
      by_cases hopening : c = '\x7b'
      · subst hopening
        obtain ⟨name, rest, hname, rfl, hrest⟩ := ih.2 h
        exact .pair hname hrest
      · rw [beq_eq_false_iff_ne.mpr hopening] at h
        exact .plain hopening (ih.1 h)
    · intro h
      rw [pairsUp] at h
      split at h
      · rename_i hclosing
        subst hclosing
        exact ⟨[], cs, ⟨List.not_mem_nil, List.not_mem_nil⟩, rfl, ih.1 h⟩
      · rename_i hclosing
        rw [Bool.and_eq_true, bne_iff_ne] at h
        obtain ⟨name, rest, hname, rfl, hrest⟩ := ih.2 h.2
        refine ⟨c :: name, rest, ⟨?_, ?_⟩, rfl, hrest⟩
        · exact mt List.mem_cons.mp (not_or.mpr ⟨Ne.symm h.1, hname.noOpening⟩)
        · exact mt List.mem_cons.mp (not_or.mpr ⟨Ne.symm hclosing, hname.noClosing⟩)

/-- The braces of a text stand in pairs if reading them says so. -/
theorem isValue_iff_pairsUp : IsValue cs ↔ pairsUp false cs = true := by
  constructor
  · intro h
    unfold IsValue at h
    induction h with
    | last => rfl
    | plain hc _ ih => rw [pairsUp, beq_eq_false_iff_ne.mpr hc, ih]
    | pair hname _ ih =>
      rw [pairsUp, beq_self_eq_true, pairsUp_name hname, ih]
  · exact (isValue_of_pairsUp cs).1

instance : DecidablePred IsValue := fun _ => decidable_of_iff _ isValue_iff_pairsUp.symm

instance (name : List Char) : Decidable (IsName name) :=
  decidable_of_iff ('\x7b' ∉ name ∧ '\x7d' ∉ name) ⟨fun h => ⟨h.1, h.2⟩, fun h => ⟨h.1, h.2⟩⟩

instance (values : List (String × String)) : Decidable (HaveNames values) :=
  inferInstanceAs (Decidable (∀ e ∈ values, IsName e.1.toList))

instance (values : List (String × String)) : Decidable (HaveValues values) :=
  inferInstanceAs (Decidable (∀ e ∈ values, IsValue e.2.toList))

/-- A text whose braces all stand in pairs is a template. -/
theorem IsValue.isTemplate (h : IsValue cs) : IsTemplate cs := ⟨[], List.not_mem_nil, h⟩

/-- A text whose braces stand in pairs, in front of another one. -/
theorem IsPaired.append (h : IsPaired [] cs) (h' : IsPaired last cs') : IsPaired last (cs ++ cs') := by
  induction h with
  | last => exact h'
  | plain hc _ ih => exact .plain hc ih
  | @pair name cs hname _ ih =>
    rw [List.cons_append, List.append_assoc]
    exact .pair hname ih

/-- What a pair of braces with a name between them gives way to. -/
def pairValue (values : List (String × String)) (name : List Char) : List Char :=
  match values.find? fun e => e.1.toList == name with
  | some e => e.2.toList
  | none => '\x7b' :: (name ++ ['\x7d'])

/-- Two texts before the first closing brace are the same. -/
theorem eq_of_append_closing {rest rest' : List Char} (h : '\x7d' ∉ cs) (h' : '\x7d' ∉ cs')
    (heq : cs ++ '\x7d' :: rest = cs' ++ '\x7d' :: rest') : cs = cs' := by
  induction cs generalizing cs' with
  | nil =>
    cases cs' with
    | nil => rfl
    | cons c cs' =>
      obtain ⟨rfl, -⟩ := List.cons.inj heq
      exact absurd List.mem_cons_self h'
  | cons c cs ih =>
    cases cs' with
    | nil =>
      obtain ⟨rfl, -⟩ := List.cons.inj heq
      exact absurd List.mem_cons_self h
    | cons d cs' =>
      obtain ⟨rfl, hrest⟩ := List.cons.inj heq
      have htail := ih (fun hmem => h (List.mem_cons_of_mem _ hmem))
        (fun hmem => h' (List.mem_cons_of_mem _ hmem)) hrest
      rw [htail]

/-- A pair begins with a placeholder if the name between the braces is that of the placeholder. -/
theorem isPrefixOf_pair {key : String} (hkey : IsName key.toList) (hname : IsName name)
    (cs : List Char) :
    (placeholder key).isPrefixOf ('\x7b' :: (name ++ '\x7d' :: cs)) = (key.toList == name) := by
  rw [Bool.eq_iff_iff, List.isPrefixOf_iff_prefix, beq_iff_eq]
  constructor
  · rintro ⟨rest, hrest⟩
    have htail : key.toList ++ '\x7d' :: rest = name ++ '\x7d' :: cs := by
      simpa [placeholder] using hrest
    exact eq_of_append_closing hkey.noClosing hname.noClosing htail
  · rintro rfl
    exact ⟨cs, by simp [placeholder]⟩

/-- A pair of braces gives way as a whole. -/
theorem substituteFrom_pair (hnames : HaveNames values) (hname : IsName name) (cs : List Char) :
    substituteFrom values 0 ('\x7b' :: (name ++ '\x7d' :: cs)) =
      pairValue values name ++ substituteFrom values 0 cs := by
  have hfind : entryAt? values ('\x7b' :: (name ++ '\x7d' :: cs)) =
      values.find? fun e => e.1.toList == name :=
    List.find?_congr fun e he => isPrefixOf_pair (hnames e he) hname cs
  unfold pairValue
  cases hfound : values.find? fun e => e.1.toList == name with
  | some e =>
    have hkey : e.1.toList = name := by
      have hsame := List.find?_some hfound
      simpa using hsame
    have hwritten : '\x7b' :: (name ++ '\x7d' :: cs) = placeholder e.1 ++ cs := by
      simp [placeholder, hkey]
    rw [hwritten] at hfind ⊢
    exact substituteFrom_placeholder (hfind.trans hfound)
  | none =>
    have hclosing : '\x7d' ≠ '\x7b' := by decide
    rw [substituteFrom_cons (hfind.trans hfound), substituteFrom_append_of_plain hname.noOpening,
      substituteFrom_cons_of_ne hclosing]
    simp

/-- A pair gives way to a text whose braces stand in pairs. -/
theorem isValue_pairValue (hvalues : HaveValues values) (hname : IsName name) :
    IsValue (pairValue values name) := by
  unfold pairValue
  split
  · rename_i e hfound
    exact hvalues e (List.mem_of_find?_eq_some hfound)
  · exact .pair hname .last

/-- The values are put into two texts independently, if the braces of the first stand in pairs. -/
theorem substituteFrom_append (hnames : HaveNames values) (h : IsValue cs) (cs' : List Char) :
    substituteFrom values 0 (cs ++ cs') = substituteFrom values 0 cs ++ substituteFrom values 0 cs' := by
  induction h with
  | last => rfl
  | plain hc _ ih =>
    rw [List.cons_append, substituteFrom_cons_of_ne hc, substituteFrom_cons_of_ne hc, ih,
      List.cons_append]
  | pair hname _ ih =>
    rw [List.cons_append, List.append_assoc, List.cons_append, substituteFrom_pair hnames hname,
      substituteFrom_pair hnames hname, ih, List.append_assoc]

/-- A last part without a closing brace stays. -/
theorem substituteFrom_last (hlast : '\x7d' ∉ last) : substituteFrom values 0 last = last := by
  refine substituteFrom_eq_self fun e _ hlies => hlast (hlies.mem ?_)
  simp [placeholder]

/-- With values whose braces stand in pairs the braces of a text keep standing in pairs. -/
theorem IsPaired.substitute (hnames : HaveNames values) (hvalues : HaveValues values)
    (hlast : '\x7d' ∉ last) (h : IsPaired last cs) : IsPaired last (substituteFrom values 0 cs) := by
  induction h with
  | last =>
    rw [substituteFrom_last hlast]
    exact .last
  | plain hc _ ih =>
    rw [substituteFrom_cons_of_ne hc]
    exact .plain hc ih
  | pair hname _ ih =>
    rw [substituteFrom_pair hnames hname]
    exact (isValue_pairValue hvalues hname).append ih

/-! ## One value after another -/

/-- A pass with one value and then one with others is a single pass, for which the others have been put
into the first value. -/
theorem substituteFrom_substituteFrom (hname : IsName e.1.toList) (hvalue : IsValue e.2.toList)
    (hnames : HaveNames values) (hlast : '\x7d' ∉ last) (h : IsPaired last cs) :
    substituteFrom values 0 (substituteFrom [e] 0 cs) =
      substituteFrom ((e.1, String.ofList (substituteFrom values 0 e.2.toList)) :: values) 0 cs := by
  have hone : HaveNames [e] := by simpa [HaveNames] using hname
  have hall : HaveNames ((e.1, String.ofList (substituteFrom values 0 e.2.toList)) :: values) :=
    List.forall_mem_cons.mpr ⟨hname, hnames⟩
  induction h with
  | last => rw [substituteFrom_last hlast, substituteFrom_last hlast, substituteFrom_last hlast]
  | plain hc _ ih => rw [substituteFrom_cons_of_ne hc, substituteFrom_cons_of_ne hc,
      substituteFrom_cons_of_ne hc, ih]
  | @pair body cs hbody _ ih =>
    rw [substituteFrom_pair hone hbody, substituteFrom_pair hall hbody, ← ih]
    by_cases hkey : e.1.toList = body
    · -- The pair is the placeholder of the first value.
      have hfirst : pairValue [e] body = e.2.toList := by simp [pairValue, hkey]
      rw [hfirst, substituteFrom_append hnames hvalue]
      simp [pairValue, hkey]
    · -- The pair is left for the other values.
      have hfirst : pairValue [e] body = '\x7b' :: (body ++ ['\x7d']) := by simp [pairValue, hkey]
      rw [hfirst, List.cons_append, List.append_assoc, List.singleton_append,
        substituteFrom_pair hnames hbody]
      simp [pairValue, hkey]

/-- The names of expanded values are those of the values. -/
theorem haveNames_expanded (hnames : HaveNames values) : HaveNames (expanded values) := by
  induction values with
  | nil => exact List.forall_mem_nil _
  | cons e values ih =>
    obtain ⟨hname, hrest⟩ := List.forall_mem_cons.mp hnames
    exact List.forall_mem_cons.mpr ⟨hname, ih hrest⟩

/-- A template with values that are put in one after another is the template with the expanded values put
in at once. -/
theorem foldl_fill_eq (hnames : HaveNames values) (hvalues : HaveValues values)
    (hlast : '\x7d' ∉ last) (h : IsPaired last cs) :
    values.foldl fill cs = substituteFrom (expanded values) 0 cs := by
  induction values generalizing last cs with
  | nil => exact (substituteFrom_eq_self (List.forall_mem_nil _)).symm
  | cons e values ih =>
    obtain ⟨hname, hrestNames⟩ := List.forall_mem_cons.mp hnames
    obtain ⟨hvalue, hrestValues⟩ := List.forall_mem_cons.mp hvalues
    have hone : HaveNames [e] := by simpa [HaveNames] using hname
    have honeValue : HaveValues [e] := by simpa [HaveValues] using hvalue
    have hfilled := h.substitute hone honeValue hlast
    have hexpanded : render e.2 values =
        String.ofList (substituteFrom (expanded values) 0 e.2.toList) := by
      rw [render, ih hrestNames hrestValues (by simp) hvalue]
    rw [List.foldl_cons, fill_eq_substituteFrom, ih hrestNames hrestValues hlast hfilled,
      substituteFrom_substituteFrom hname hvalue (haveNames_expanded hrestNames) hlast h, expanded,
      hexpanded]

/-! ## Values that hold no placeholder of another one -/

/-- No value holds the placeholder of another one. -/
def AreVerbatim (values : List (String × String)) : Prop :=
  ∀ e ∈ values, ∀ e' ∈ values, e'.1 ≠ e.1 → ¬ placeholder e'.1 <:+: e.2.toList

instance (values : List (String × String)) : Decidable (AreVerbatim values) :=
  inferInstanceAs (Decidable (∀ e ∈ values, ∀ e' ∈ values,
    e'.1 ≠ e.1 → ¬ placeholder e'.1 <:+: e.2.toList))

/-- A value without the placeholders of others is rendered as it is. -/
theorem render_eq_self {s : String} (h : ∀ e ∈ values, ¬ placeholder e.1 <:+: s.toList) :
    render s values = s := by
  have hfold : values.foldl fill s.toList = s.toList := by
    induction values with
    | nil => rfl
    | cons e values ih =>
      obtain ⟨hfirst, hrest⟩ := List.forall_mem_cons.mp h
      rw [List.foldl_cons, fill_eq_substituteFrom, substituteFrom_eq_self (by simpa using hfirst),
        ih hrest]
  rw [render, hfold, String.ofList_toList]

/-- Values that hold no placeholder of another one are not expanded. -/
theorem expanded_eq_self (hdistinct : (values.map Prod.fst).Nodup) (h : AreVerbatim values) :
    expanded values = values := by
  induction values with
  | nil => rfl
  | cons e values ih =>
    obtain ⟨hfresh, hrest⟩ := List.nodup_cons.mp hdistinct
    have hvalue : render e.2 values = e.2 := by
      refine render_eq_self fun e' he' => h e List.mem_cons_self e' (List.mem_cons_of_mem e he') ?_
      intro heq
      exact hfresh (List.mem_map.mpr ⟨e', he', heq⟩)
    have hothers : expanded values = values := ih hrest fun e he e' he' =>
      h e (List.mem_cons_of_mem _ he) e' (List.mem_cons_of_mem _ he')
    rw [expanded, hvalue, hothers]

/-- At most one of the placeholders begins a text. -/
theorem eq_of_both_begin (hdistinct : (values.map Prod.fst).Nodup) (hnames : HaveNames values)
    {e e' : String × String} (he : e ∈ values) (he' : e' ∈ values)
    (hbegins : placeholder e.1 <+: cs) (hbegins' : placeholder e'.1 <+: cs) : e = e' := by
  obtain ⟨rest, hrest⟩ := hbegins
  obtain ⟨rest', hrest'⟩ := hbegins'
  have htail : e.1.toList ++ '\x7d' :: rest = e'.1.toList ++ '\x7d' :: rest' := by
    have heq := hrest.trans hrest'.symm
    simpa [placeholder] using heq
  have hname : e.1.toList = e'.1.toList :=
    eq_of_append_closing (hnames e he).noClosing (hnames e' he').noClosing htail
  exact List.inj_on_of_nodup_map hdistinct he he' (String.toList_inj.mp hname)

/-- In which order distinct names come does not matter to a pass. -/
theorem substituteFrom_perm {values' : List (String × String)}
    (hdistinct : (values.map Prod.fst).Nodup) (hnames : HaveNames values)
    (hperm : values'.Perm values) (cs : List Char) (skip : Nat) :
    substituteFrom values' skip cs = substituteFrom values skip cs := by
  have hentry (cs : List Char) : entryAt? values' cs = entryAt? values cs := by
    cases hfound : entryAt? values' cs with
    | none =>
      refine (List.find?_eq_none.mpr fun e he => ?_).symm
      exact List.find?_eq_none.mp hfound e (hperm.mem_iff.mpr he)
    | some e =>
      obtain ⟨hmem, rest, hcs⟩ := eq_append_of_entryAt hfound
      cases hfound' : entryAt? values cs with
      | none =>
        have hnot := List.find?_eq_none.mp hfound' e (hperm.mem_iff.mp hmem)
        have hbegins := List.isPrefixOf_iff_prefix.mpr ⟨rest, hcs.symm⟩
        exact absurd hbegins hnot
      | some e' =>
        obtain ⟨hmem', rest', hcs'⟩ := eq_append_of_entryAt hfound'
        rw [eq_of_both_begin hdistinct hnames (hperm.mem_iff.mp hmem) hmem' ⟨rest, hcs.symm⟩
          ⟨rest', hcs'.symm⟩]
  induction cs generalizing skip with
  | nil => simp [substituteFrom]
  | cons c cs ih =>
    cases skip with
    | succ skip => exact ih skip
    | zero =>
      rw [substituteFrom, substituteFrom, hentry]
      split
      · rw [ih]
      · rw [ih]

/-- A rendered template with distinct names is the template with the expanded values put in at once, if
braces stand in pairs in the template and in the values. If besides no value holds the placeholder of
another one, it is the template with the values as they are put in at once, in whichever order they come. -/
theorem render_eq_substitute {template : String} (hdistinct : (values.map Prod.fst).Nodup)
    (hnames : HaveNames values) (htemplate : IsTemplate template.toList)
    (hvalues : HaveValues values) :
    render template values = substitute (expanded values) template ∧
      (AreVerbatim values → ∀ values', values'.Perm values →
        render template values' = substitute values template) := by
  obtain ⟨last, hlast, hpaired⟩ := htemplate
  constructor
  · rw [render, foldl_fill_eq hnames hvalues hlast hpaired, substitute]
  · intro hverbatim values' hperm
    have hdistinct' : (values'.map Prod.fst).Nodup := (hperm.map Prod.fst).nodup_iff.mpr hdistinct
    have hnames' : HaveNames values' := fun e he => hnames e (hperm.mem_iff.mp he)
    have hvalues' : HaveValues values' := fun e he => hvalues e (hperm.mem_iff.mp he)
    have hverbatim' : AreVerbatim values' := fun e he e' he' =>
      hverbatim e (hperm.mem_iff.mp he) e' (hperm.mem_iff.mp he')
    rw [render, foldl_fill_eq hnames' hvalues' hlast hpaired, expanded_eq_self hdistinct' hverbatim',
      substituteFrom_perm hdistinct hnames hperm, substitute]

/-- A value with braces is put in as it is when the name between them has no value, in whichever order the
values come. -/
theorem render_eq_substitute_of_message :
    let values := [("author_name", "Dana"), ("message", "see \x7blink\x7d")]
    let template := "\x7bauthor_name\x7d: \x7bmessage\x7d"
    (values.map Prod.fst).Nodup ∧ HaveNames values ∧ HaveValues values ∧ AreVerbatim values ∧
      IsTemplate template.toList ∧ values.reverse.Perm values ∧
      render template values.reverse = "Dana: see \x7blink\x7d" := by
  intro values template
  have hdistinct : (values.map Prod.fst).Nodup := by decide +kernel
  have hnames : HaveNames values := by decide +kernel
  have hvalues : HaveValues values := by decide +kernel
  have hverbatim : AreVerbatim values := by decide +kernel
  have htemplate : IsTemplate template.toList := IsValue.isTemplate (by decide +kernel)
  have hperm : values.reverse.Perm values := values.reverse_perm
  have hrender := (render_eq_substitute hdistinct hnames htemplate hvalues).2 hverbatim _ hperm
  refine ⟨hdistinct, hnames, hvalues, hverbatim, htemplate, hperm, ?_⟩
  rw [hrender]
  decide +kernel

/-- A value that holds the placeholder of a later one is expanded, and put in as it is when it comes after
that one. -/
theorem inserted_placeholder_is_expanded :
    let values := [("author_name", "Dana"), ("message", "write \x7bpost_title\x7d"),
      ("post_title", "Getting started")]
    let template := "\x7bauthor_name\x7d: \x7bmessage\x7d"
    render template values = "Dana: write Getting started" ∧
      substitute values template = "Dana: write \x7bpost_title\x7d" ∧
      render template values.reverse = "Dana: write \x7bpost_title\x7d" := by
  decide +kernel

/-- Braces within braces are read again: what the inner placeholder becomes may, with the outer braces, be a
placeholder of its own, though no value holds one. -/
theorem nested_placeholder_is_expanded :
    let values := [("a", "b"), ("b", "X")]
    let template := "\x7b\x7ba\x7d\x7d"
    AreVerbatim values ∧ render template values = "X" ∧
      substitute values template = "\x7bb\x7d" ∧ render template values.reverse = "\x7bb\x7d" := by
  decide +kernel

end Concierge.Template
