import Concierge.Proofs.Builtin.Document
import Concierge.Proofs.Display.Settle
import Concierge.Proofs.Registry.Serves

/-!
# Dispatch of documents

With the built-in triggers registered, dispatch reads back just the directives that were written in a
document, and displays its prose.
-/

namespace Concierge

namespace Document

variable (sender : EmailAuthor.Sender)

/-- Erasing patterns of kinds leaves the document without the directives of these kinds. -/
theorem foldl_erase_text (ks : List Kind) (doc : Document) :
    (ks.map fun k => k.definition.pattern).foldl (fun t p => p.erase t) doc.text =
      (ks.foldl (fun doc k => doc.without k) doc).text := by
  induction ks generalizing doc with
  | nil => rfl
  | cons k ks ih =>
    rw [List.map_cons, List.foldl_cons, List.foldl_cons, k.pattern_definition,
      Pattern.erase_command Kind.isTagChar_of_mem_tag, unscanned_text, ih]

/-- The patterns of the built-in triggers are those of the kinds. -/
theorem patternsOf_builtinTriggers :
    Dispatch.patternsOf (builtinTriggers sender true) = Kind.all.map fun k => k.definition.pattern :=
  rfl

/-- One round leaves the prose of a document, with single spaces between its words. -/
theorem round_text (doc : Document) :
    Display.round (Dispatch.patternsOf (builtinTriggers sender true)) doc.text =
      Text.strip (Text.squeeze Text.isBlank doc.prose) := by
  rw [Display.round, patternsOf_builtinTriggers, foldl_erase_text, text_foldl_without]

/-- The text for display of a document is its prose, with single spaces between its words. -/
theorem clean_text (doc : Document) :
    Display.clean (Dispatch.patternsOf (builtinTriggers sender true)) doc.text =
      Text.strip (Text.squeeze Text.isBlank doc.prose) := by
  rw [← round_text sender doc]
  apply Display.clean_eq_round
  rw [round_text]
  -- What is shown is a document of prose only.
  have hplain : '[' ∉ Text.strip (Text.squeeze Text.isBlank doc.prose) := by
    intro hmem
    have hink : '[' ∈ Text.ink (Text.strip (Text.squeeze Text.isBlank doc.prose)) :=
      List.mem_filter.mpr ⟨hmem, by decide⟩
    exact doc.bracket_not_mem_prose
      (List.mem_filter.mp ((Text.ink_strip_squeeze_sublist doc.prose).mem hink)).1
  have hshown := round_text sender [.prose _ hplain]
  simp only [text, prose, List.flatMap_cons, List.flatMap_nil, Part.text, List.append_nil] at hshown
  rw [hshown, (Text.isTidy_strip_squeeze doc.prose).strip_squeeze]

end Document

/-! ## Dispatch -/

namespace Dispatch

variable (sender : EmailAuthor.Sender) (order : DispatchOrder) (doc : Document) {r : Registry Site}

/-- The directives that are found in a document are those of its kinds. -/
theorem find_document
    (hall : ((Registry.all : Registry.Use Site _) r).1 = .ok (builtinTriggers sender true)) :
    (find order (String.ofList doc.text) r).1 =
      .ok (Directive.inOrder order (Kind.all.flatMap (doc.directivesOf sender))) := by
  by_cases hempty : doc.text = []
  · have hnone : Kind.all.flatMap (doc.directivesOf sender) = [] := by
      apply List.flatMap_eq_nil_iff.mpr
      intro k _
      rw [Document.directivesOf, Document.written_eq_nil hempty]
      rfl
    rw [hnone, hempty]
    cases order <;> simp [Directive.inOrder] <;> rfl
  · have hne : String.ofList doc.text ≠ "" := fun h => hempty (by simpa using h)
    rw [find_eq order hne (Prod.ext hall rfl), String.toList_ofList, Directive.findAll,
      Document.findEach_text]

/-- A document is displayed as its prose. -/
theorem strip_document
    (hall : ((Registry.all : Registry.Use Site _) r).1 = .ok (builtinTriggers sender true)) :
    (strip (String.ofList doc.text) r).1 =
      .ok (String.ofList (Text.strip (Text.squeeze Text.isBlank doc.prose))) := by
  rw [strip_eq _ (Prod.ext hall rfl), String.toList_ofList, Document.clean_text]

/-- Dispatch reads a document back as it is written: it finds just the written directives, each with its
trigger, its arguments under their names, its offsets and its text, and they are listed kind by
kind or in the order of the text. What it displays is the prose, with single spaces between its words
and none at the ends. -/
theorem dispatch_document (r : Registry Site)
    (hall : ((Registry.all : Registry.Use Site _) r).1 = .ok (builtinTriggers sender true)) :
    (find .registry (String.ofList doc.text) r).1 =
        .ok (Kind.all.flatMap (doc.directivesOf sender)) ∧
      (find .position (String.ofList doc.text) r).1 = .ok (doc.directives sender) ∧
      (strip (String.ofList doc.text) r).1 =
        .ok (String.ofList (Text.strip (Text.squeeze Text.isBlank doc.prose))) := by
  refine ⟨find_document sender .registry doc hall, ?_, strip_document sender doc hall⟩
  rw [find_document sender .position doc hall, Document.inOrder_position_directivesOf]

/-- A directive between prose, read back from a new registry. -/
theorem dispatch_document_between_prose :
    let text := "Done: [Add_To_Cart:7:2] !"
    let r : Registry Site := { builtins := builtinTriggers {} true }
    let d : Directive Site := ⟨AddToCart.trigger,
      [("product_id", .text "7"), ("quantity", .text "2")], 6, 23, "[Add_To_Cart:7:2]"⟩
    (find .registry text r).1 = .ok [d] ∧ (find .position text r).1 = .ok [d] ∧
      (strip text r).1 = .ok "Done: !" :=
  dispatch_document {} [.prose "Done: ".toList (by decide),
    .directive {
      kind := .addToCart, tag := "Add_To_Cart".toList, args := ["7".toList, "2".toList]
      spells := by decide
      isArguments := .more (by decide) (by decide) (by decide) (.last (by decide) (by decide))
      plain := by decide },
    .prose " !".toList (by decide)] _ (Registry.all_builtins (by decide))

end Dispatch

end Concierge
