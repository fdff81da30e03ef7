import Concierge.Directive
import Concierge.Proofs.Builtin.Kind
import Mathlib.Data.List.Nodup

/-!
# Documents with built-in directives

A document is prose with well-formed directives of the built-in triggers in it. Dispatch reads back
just the directives that were written, and the text for display is the prose.
-/

namespace Concierge

/-! ## Documents -/

/-- A built-in directive as it is written: its tag in any spelling, and its arguments, in which there is
no opening bracket. -/
structure WrittenDirective where
  kind : Kind
  tag : List Char
  args : List (List Char)
  spells : Command.Spells kind.tag.toList tag
  isArguments : Command.IsArguments kind.more args
  plain : ∀ a ∈ args, '[' ∉ a

/-- A part of a document. -/
inductive Part where
  | prose (text : List Char) (plain : '[' ∉ text)
  | directive (d : WrittenDirective)

/-- The parts of a document, from left to right. -/
abbrev Document := List Part

namespace WrittenDirective

/-- The text of a directive. -/
def text (d : WrittenDirective) : List Char := Command.commandText d.tag d.args

/-- The directive that is found when one is written at an offset. -/
def found (sender : EmailAuthor.Sender) (offset : Nat) (d : WrittenDirective) : Directive Site where
  trigger := d.kind.trigger sender
  params := d.kind.definition.required.zip (d.args.map fun a => .text (String.ofList a))
  start := offset
  stop := offset + d.text.length
  raw := String.ofList d.text

end WrittenDirective

/-- The text of a part. -/
def Part.text : Part → List Char
  | prose text _ => text
  | directive d => d.text

namespace Document

/-- The text of a document. -/
def text (doc : Document) : List Char := doc.flatMap Part.text

/-- The prose of a document. -/
def prose : Document → List Char
  | [] => []
  | .prose text _ :: doc => text ++ prose doc
  | .directive _ :: doc => prose doc

/-- The directives of a document that begins at an offset, with their offsets. -/
def written (offset : Nat) : Document → List (Nat × WrittenDirective)
  | [] => []
  | .prose text _ :: doc => written (offset + text.length) doc
  | .directive d :: doc => (offset, d) :: written (offset + d.text.length) doc

/-- The directives of a document, in the order of the text. -/
def directives (sender : EmailAuthor.Sender) (doc : Document) : List (Directive Site) :=
  (doc.written 0).map fun (offset, d) => d.found sender offset

/-- The directives of one kind, in the order of the text. -/
def directivesOf (sender : EmailAuthor.Sender) (doc : Document) (k : Kind) : List (Directive Site) :=
  ((doc.written 0).filter fun e => e.2.kind = k).map fun (offset, d) => d.found sender offset

end Document

/-! ## Names and arguments -/

namespace Dict

variable {α : Type}

/-- A key that is not present is set at the end. -/
theorem set_eq_append {key : String} {d : Dict α} (h : key ∉ d.keys) (value : α) :
    set key value d = d ++ [(key, value)] := by
  induction d with
  | nil => rfl
  | cons e d ih =>
    rw [keys, List.map_cons, List.mem_cons, not_or] at h
    rw [set, if_neg (Ne.symm h.1), ih h.2]
    rfl

/-- Entries of different keys that are not present are set at the end in their order. -/
theorem merge_eq_append {d es : Dict α} (h : (d.keys ++ es.keys).Nodup) : merge d es = d ++ es := by
  induction es generalizing d with
  | nil => rw [List.append_nil]; rfl
  | cons e es ih =>
    have hkeys : keys (d ++ [e]) ++ keys es = keys d ++ keys (e :: es) := by simp [keys]
    have hfresh : e.1 ∉ d.keys := fun hmem =>
      (List.nodup_append.mp h).2.2 _ hmem _ List.mem_cons_self rfl
    calc merge d (e :: es)
      _ = merge (d ++ [e]) es := by rw [← set_eq_append hfresh]; rfl
      _ = d ++ e :: es := by rw [ih (hkeys ▸ h), List.append_assoc]; rfl

/-- A list of entries of different keys is its own dictionary. -/
theorem ofEntries_eq_self {es : Dict α} (h : es.keys.Nodup) : ofEntries es = es :=
  merge_eq_append (d := []) h

end Dict

/-- A command has one argument more than follow the first. -/
theorem Command.IsArguments.length_eq {more : Nat} {args : List (List Char)}
    (h : IsArguments more args) : args.length = more + 1 := by
  induction h with
  | last => rfl
  | more _ _ _ _ ih => rw [List.length_cons, ih]

/-! ## One directive -/

namespace Kind

/-- The tags of two kinds begin with different letters. -/
theorem apart_tags {j k : Kind} (h : j ≠ k) : Command.Apart j.tag.toList k.tag.toList := by
  have hapart : ∀ x y : Char, (Text.spellings y).all (fun c => decide (c ∉ Text.spellings x)) = true →
      ∀ c ∈ Text.spellings y, c ∉ Text.spellings x := by
    intro x y hall
    simpa only [List.all_eq_true, decide_eq_true_eq] using hall
  cases j <;> cases k <;> first
    | exact absurd rfl h
    | exact ⟨_, rfl, _, rfl, hapart _ _ (by decide)⟩

/-- No spelling of a tag holds an opening bracket. -/
theorem bracket_not_mem {k : Kind} {tag : List Char} (h : Command.Spells k.tag.toList tag) :
    '[' ∉ tag := by
  intro hmem
  obtain ⟨x, hx, hspelled⟩ := Command.exists_of_mem_spelled h hmem
  have hall : k.tag.toList.all (fun x => decide ('[' ∉ Text.spellings x)) = true := by
    cases k <;> decide
  exact of_decide_eq_true (List.all_eq_true.mp hall x hx) hspelled

/-- There are as many names as arguments. -/
theorem length_required (k : Kind) : k.definition.required.length = k.more + 1 := by
  cases k <;> rfl

/-- No name of an argument occurs twice. -/
theorem nodup_required (k : Kind) : k.definition.required.Nodup := by
  cases k <;> decide

end Kind

namespace WrittenDirective

variable (d : WrittenDirective)

/-- The text of a directive has no opening bracket but the first character. -/
theorem text_eq_cons : ∃ plain, d.text = '[' :: plain ∧ '[' ∉ plain := by
  refine ⟨d.tag ++ Command.argumentsText d.args, rfl, fun hmem => ?_⟩
  rcases List.mem_append.mp hmem with htag | hargs
  · exact Kind.bracket_not_mem d.spells htag
  · obtain h | h | ⟨a, ha, hbracket⟩ := Command.mem_argumentsText hargs
    · cases h
    · cases h
    · exact d.plain a ha hbracket

/-- The scanner for the kind of a directive records it. -/
theorem scan_text (offset : Nat) (rest : List Char) :
    Command.scan d.kind.tag.toList d.kind.more offset (d.text ++ rest) =
      ⟨offset, offset + d.text.length, d.args⟩ ::
        Command.scan d.kind.tag.toList d.kind.more (offset + d.text.length) rest :=
  Command.scan_commandText d.spells d.isArguments offset rest

/-- The scanner for another kind accepts nothing in front of a directive, which goes on without opening
brackets. -/
theorem scanHere_text_of_ne {k : Kind} (h : d.kind ≠ k) (rest : List Char) :
    ∃ plain, d.text = '[' :: plain ∧ '[' ∉ plain ∧
      Command.scanHere k.tag.toList k.more ('[' :: (plain ++ rest)) = none := by
  obtain ⟨plain, htext, hplain⟩ := d.text_eq_cons
  refine ⟨plain, htext, hplain, ?_⟩
  rw [← List.cons_append, ← htext]
  exact Command.scanHere_of_apart (Kind.apart_tags (Ne.symm h)) d.spells d.args rest

/-- The scanner for another kind passes over a directive. -/
theorem scan_text_of_ne {k : Kind} (h : d.kind ≠ k) (offset : Nat) (rest : List Char) :
    Command.scan k.tag.toList k.more offset (d.text ++ rest) =
      Command.scan k.tag.toList k.more (offset + d.text.length) rest := by
  obtain ⟨plain, htext, hplain, hhere⟩ := d.scanHere_text_of_ne h rest
  rw [htext, List.cons_append, Command.scan_cons_of_none hhere, Command.scan_append_of_plain hplain,
    List.length_cons, Nat.add_right_comm, Nat.add_assoc]

/-- The scanner for another kind leaves a directive as it is. -/
theorem unscanned_text_of_ne {k : Kind} (h : d.kind ≠ k) (rest : List Char) :
    Command.unscanned k.tag.toList k.more (d.text ++ rest) =
      d.text ++ Command.unscanned k.tag.toList k.more rest := by
  obtain ⟨plain, htext, hplain, hhere⟩ := d.scanHere_text_of_ne h rest
  rw [htext, List.cons_append, Command.unscanned_cons_of_none hhere,
    Command.unscanned_append_of_plain hplain]
  rfl

/-- The arguments of a match whose groups hold those of a directive are named after the kind. -/
theorem arguments_eq {m : Pattern.Match} {text : List Char}
    (h : m.groupTexts text = d.args.map some) :
    Directive.arguments d.kind.definition text m =
      d.kind.definition.required.zip (d.args.map fun a => .text (String.ofList a)) := by
  have hlength : d.kind.definition.required.length =
      (d.args.map fun a => Value.text (String.ofList a)).length := by
    rw [List.length_map, d.isArguments.length_eq, Kind.length_required]
  have hentries : Directive.arguments d.kind.definition text m = Dict.ofEntries
      (d.kind.definition.required.zip (d.args.map fun a => .text (String.ofList a))) := by
    rw [Directive.arguments, h, List.zip_map_right, List.zip_map_right, List.map_map]
    rfl
  rw [hentries, Dict.ofEntries_eq_self]
  rw [Dict.keys, List.map_fst_zip hlength.le]
  exact d.kind.nodup_required

/-- The match of a directive is read back as it is written. -/
theorem ofMatch_eq_found (sender : EmailAuthor.Sender) {text before rest : List Char}
    (htext : text = before ++ (d.text ++ rest))
    (hscanned : ⟨before.length, before.length + d.text.length, d.args⟩ ∈
      Command.scan d.kind.tag.toList d.kind.more 0 text) :
    Directive.ofMatch (d.kind.trigger sender) text (Pattern.matchOf d.kind.tag
        ⟨before.length, before.length + d.text.length, d.args⟩) =
      d.found sender before.length := by
  have hargs := d.arguments_eq (Pattern.groupTexts_matchOf hscanned)
  have hraw : Pattern.slice text before.length (before.length + d.text.length) = d.text := by
    rw [htext]
    exact Pattern.slice_append before d.text rest
  rw [Directive.ofMatch, d.kind.definition_trigger, hargs, found]
  simp only [Pattern.matchOf, hraw]

end WrittenDirective

/-! ## Reading a document -/

namespace Document

/-- The scanner for a kind finds the directives of that kind where they are written. -/
theorem scan_text (k : Kind) (offset : Nat) (doc : Document) :
    Command.scan k.tag.toList k.more offset doc.text =
      ((doc.written offset).filter fun e => e.2.kind = k).map fun (start, d) =>
        ⟨start, start + d.text.length, d.args⟩ := by
  induction doc generalizing offset with
  | nil =>
    rw [text, List.flatMap_nil, Command.scan]
    rfl
  | cons part doc ih =>
    rw [text, List.flatMap_cons]
    cases part with
    | prose cs plain =>
      rw [Part.text, Command.scan_append_of_plain plain]
      exact ih _
    | directive d =>
      rw [Part.text, written]
      by_cases hkind : d.kind = k
      · subst hkind
        rw [d.scan_text, List.filter_cons_of_pos (by simp), List.map_cons]
        exact congrArg _ (ih _)
      · rw [d.scan_text_of_ne hkind, List.filter_cons_of_neg (by simpa using hkind)]
        exact ih _

/-- A directive lies where it is written. -/
theorem mem_written {offset start : Nat} {d : WrittenDirective} {doc : Document}
    (h : (start, d) ∈ doc.written offset) :
    ∃ before rest, doc.text = before ++ (d.text ++ rest) ∧ start = offset + before.length := by
  induction doc generalizing offset with
  | nil => cases h
  | cons part doc ih =>
    rw [text, List.flatMap_cons]
    have hlater : ∀ {cs : List Char}, (start, d) ∈ written (offset + cs.length) doc →
        ∃ before rest, cs ++ doc.flatMap Part.text = before ++ (d.text ++ rest) ∧
          start = offset + before.length := by
      intro cs h
      obtain ⟨before, rest, htext, hstart⟩ := ih h
      refine ⟨cs ++ before, rest, ?_, by rw [hstart, List.length_append, Nat.add_assoc]⟩
      rw [List.append_assoc, ← htext]
      rfl
    cases part with
    | prose cs plain => exact hlater h
    | directive e =>
      rcases List.mem_cons.mp h with heq | h
      · obtain ⟨rfl, rfl⟩ := Prod.mk.inj heq
        exact ⟨[], _, rfl, rfl⟩
      · exact hlater h

/-- The directives of a document begin at different offsets, one behind another. -/
theorem pairwise_written (offset : Nat) (doc : Document) :
    (doc.written offset).Pairwise fun e f => e.1 < f.1 := by
  induction doc generalizing offset with
  | nil => exact .nil
  | cons part doc ih =>
    cases part with
    | prose cs plain => exact ih _
    | directive d =>
      refine .cons (fun e he => ?_) (ih _)
      obtain ⟨before, -, -, hstart⟩ := mem_written (d := e.2) he
      obtain ⟨plain, htext, -⟩ := d.text_eq_cons
      rw [hstart, htext, List.length_cons]
      show offset < _
      omega

/-- The directives of a document are those of its kinds, in some order. -/
theorem perm_filter_kinds (es : List (Nat × WrittenDirective)) :
    (Kind.all.flatMap fun k => es.filter fun e => e.2.kind = k).Perm es := by
  induction es with
  | nil => exact .nil
  | cons e es ih =>
    simp only [Kind.all, List.flatMap_cons, List.flatMap_nil, List.append_nil] at ih ⊢
    cases hkind : e.2.kind <;> simp only [List.filter_cons, hkind, decide_true, decide_false,
      reduceCtorEq, if_true, Bool.false_eq_true, if_false]
    · exact ih.cons e
    · exact List.perm_middle.trans (ih.cons e)
    · rw [← List.append_assoc] at ih ⊢
      exact List.perm_middle.trans (ih.cons e)

/-- A document without the directives of a kind. -/
def without (k : Kind) : Document → Document
  | [] => []
  | .prose cs plain :: doc => .prose cs plain :: without k doc
  | .directive d :: doc => if d.kind = k then without k doc else .directive d :: without k doc

/-- The scanner for a kind leaves the document without the directives of that kind. -/
theorem unscanned_text (k : Kind) (doc : Document) :
    Command.unscanned k.tag.toList k.more doc.text = (doc.without k).text := by
  induction doc with
  | nil =>
    rw [text, List.flatMap_nil, Command.unscanned]
    rfl
  | cons part doc ih =>
    rw [text, List.flatMap_cons]
    cases part with
    | prose cs plain =>
      rw [Part.text, Command.unscanned_append_of_plain plain]
      exact congrArg _ ih
    | directive d =>
      rw [Part.text, without]
      by_cases hkind : d.kind = k
      · subst hkind
        rw [if_pos rfl, WrittenDirective.text, Command.unscanned_commandText d.spells d.isArguments]
        exact ih
      · rw [if_neg hkind, d.unscanned_text_of_ne hkind]
        exact congrArg _ ih

/-- Without the directives of all kinds the prose is left. -/
theorem text_foldl_without (doc : Document) :
    (Kind.all.foldl (fun doc k => doc.without k) doc).text = doc.prose := by
  simp only [Kind.all, List.foldl_cons, List.foldl_nil]
  induction doc with
  | nil => rfl
  | cons part doc ih =>
    cases part with
    | prose cs plain => exact congrArg _ ih
    | directive d =>
      cases hkind : d.kind <;> simp [without, hkind, prose, ih]

variable (sender : EmailAuthor.Sender)

/-- The directives of a kind are found where they are written. -/
theorem findOne_text (k : Kind) (doc : Document) :
    Directive.findOne doc.text (k.trigger sender) = doc.directivesOf sender k := by
  have hpattern : (k.trigger sender).definition.pattern = Pattern.command k.tag k.more := by
    rw [k.definition_trigger, k.pattern_definition]
  have hscan := scan_text k 0 doc
  rw [Directive.findOne, hpattern, Pattern.findAll_command Kind.isTagChar_of_mem_tag, hscan,
    directivesOf, List.map_map, List.map_map]
  apply List.map_congr_left
  rintro ⟨start, d⟩ he
  have hscanned := hscan ▸ List.mem_map_of_mem he
  obtain ⟨hwritten, hkind⟩ := List.mem_filter.mp he
  obtain rfl : d.kind = k := by simpa using hkind
  obtain ⟨before, rest, htext, hstart⟩ := mem_written hwritten
  obtain rfl : start = before.length := by rw [hstart, Nat.zero_add]
  exact d.ofMatch_eq_found sender htext hscanned

/-- The directives of all kinds are listed kind by kind. -/
theorem findEach_text (doc : Document) :
    Directive.findEach (builtinTriggers sender true) doc.text =
      Kind.all.flatMap (doc.directivesOf sender) := by
  rw [← Kind.map_trigger_all, Directive.findEach, List.flatMap_map]
  exact congrArg (Kind.all.flatMap ·) (funext fun k => findOne_text sender k doc)

/-- Directives that begin at different offsets are listed by their offsets. -/
theorem inOrder_position_eq {σ : Type} {ds sorted : List (Directive σ)} (hperm : ds.Perm sorted)
    (hsorted : sorted.Pairwise fun a b => a.start < b.start) :
    Directive.inOrder .position ds = sorted := by
  have hnodup : (sorted.map Directive.start).Nodup :=
    (List.pairwise_map.mpr hsorted).imp fun hlt => Nat.ne_of_lt hlt
  have hmerged : (ds.mergeSort fun a b => a.start ≤ b.start).Pairwise
      fun a b => decide (a.start ≤ b.start) = true :=
    List.pairwise_mergeSort (fun a b c hab hbc => by simp at *; omega) (fun a b => by simp; omega) ds
  refine List.Perm.eq_of_pairwise (fun a b ha hb hab hba => ?_) hmerged
    (hsorted.imp fun hlt => by simp; omega) ((List.mergeSort_perm ds _).trans hperm)
  have ha' : a ∈ sorted := hperm.mem_iff.mp (List.mem_mergeSort.mp ha)
  refine List.inj_on_of_nodup_map hnodup ha' hb (Nat.le_antisymm ?_ ?_)
  · simpa using hab
  · simpa using hba

/-- The directives of a document are those of all kinds, listed by their offsets. -/
theorem inOrder_position_directivesOf (doc : Document) :
    Directive.inOrder .position (Kind.all.flatMap (doc.directivesOf sender)) =
      doc.directives sender := by
  apply inOrder_position_eq
  · rw [directives]
    have hmap : Kind.all.flatMap (doc.directivesOf sender) =
        (Kind.all.flatMap fun k => (doc.written 0).filter fun e => e.2.kind = k).map
          fun (offset, d) => d.found sender offset := by
      rw [List.map_flatMap]
      rfl
    rw [hmap]
    exact (perm_filter_kinds _).map _
  · exact List.pairwise_map.mpr (pairwise_written 0 doc)

/-- An empty document has no directives. -/
theorem written_eq_nil {doc : Document} (h : doc.text = []) : doc.written 0 = [] := by
  apply List.eq_nil_iff_forall_not_mem.mpr
  rintro ⟨start, d⟩ he
  obtain ⟨before, rest, htext, -⟩ := mem_written he
  obtain ⟨plain, hd, -⟩ := d.text_eq_cons
  rw [h, hd] at htext
  simp at htext

/-- The prose of a document has no opening bracket. -/
theorem bracket_not_mem_prose (doc : Document) : '[' ∉ doc.prose := by
  induction doc with
  | nil => exact List.not_mem_nil
  | cons part doc ih =>
    cases part with
    | prose cs plain => simp [prose, plain, ih]
    | directive d => exact ih

end Document

end Concierge
