import Concierge.Clean.Block
import Concierge.Proofs.Clean.Line
import Concierge.Proofs.Text.Pieces

/-!
# What a cleaned block holds

A cleaned block has no markup tag, no control character, no tab and no carriage return, and blanks stand
neither at its ends nor at the ends of its lines. Cleaning leaves such a block as it is. Cleaning a text as
a block keeps its words, so that the line made of the block is the line made of the text; and a line is a
block already.
-/

namespace Concierge

namespace Text

variable {cs : List Char}

/-- No line of the text has blanks at its ends. -/
def HasTrimmedLines (cs : List Char) : Prop := ∀ line ∈ split (· == '\n') cs, IsTrimmed line

/-- A blank before trimmed lines is a line feed, and the lines behind it are trimmed. -/
theorem HasTrimmedLines.of_cons {c : Char} (hc : isBlank c = true) (h : HasTrimmedLines (c :: cs)) :
    HasTrimmedLines cs := by
  cases hfeed : c == '\n' with
  | true =>
    intro line hline
    refine h line ?_
    rw [split, if_pos hfeed]
    exact List.mem_cons_of_mem [] hline
  | false =>
    -- Otherwise the blank would be at the front of the first line.
    obtain ⟨piece, pieces, hpieces⟩ := exists_split_cons (p := (· == '\n')) hfeed cs
    have hfirst : IsTrimmed (c :: piece) := h _ (by rw [hpieces]; exact List.mem_cons_self)
    have hhead := hfirst.head c rfl
    rw [hc] at hhead
    cases hhead

/-- A blank behind trimmed lines is a line feed, and the lines before it are trimmed. -/
theorem HasTrimmedLines.of_concat {c : Char} (hc : isBlank c = true) (h : HasTrimmedLines (cs ++ [c])) :
    HasTrimmedLines cs := by
  cases hfeed : c == '\n' with
  | true =>
    intro line hline
    refine h line ?_
    rw [split_append_cons cs [] (p := (· == '\n')) hfeed]
    exact List.mem_append_left _ hline
  | false =>
    obtain ⟨piece, hpiece, hlast⟩ := exists_mem_split_concat (p := (· == '\n')) hfeed cs
    have hend := (h piece hpiece).last c hlast
    rw [hc] at hend
    cases hend

/-- Stripping drops empty lines, and leaves the others trimmed. -/
theorem HasTrimmedLines.strip (h : HasTrimmedLines cs) : HasTrimmedLines (strip cs) := by
  have hfront : HasTrimmedLines (cs.dropWhile isBlank) := by
    induction cs with
    | nil => exact h
    | cons c cs ih =>
      cases hc : isBlank c with
      | true =>
        rw [List.dropWhile_cons_of_pos hc]
        exact ih (h.of_cons hc)
      | false =>
        rw [List.dropWhile_cons_of_neg (by simp [hc])]
        exact h
  unfold Text.strip trim
  generalize cs.dropWhile isBlank = front at hfront
  induction front using List.reverseRecOn with
  | nil => exact hfront
  | append_singleton front c ih =>
    rw [trimEnd_concat]
    split
    · rename_i hc
      exact ih (hfront.of_concat hc)
    · exact hfront

/-- A squeezed text holds spaces, and what is not squeezed. -/
theorem mem_squeezeFrom {p : Char → Bool} {inRun : Bool} {c : Char} (h : c ∈ squeezeFrom p inRun cs) :
    c = ' ' ∨ (c ∈ cs ∧ p c = false) := by
  induction cs generalizing inRun with
  | nil => cases h
  | cons d cs ih =>
    have hrest {run : Bool} (hmem : c ∈ squeezeFrom p run cs) : c = ' ' ∨ (c ∈ d :: cs ∧ p c = false) :=
      (ih hmem).imp_right fun hkept => ⟨List.mem_cons_of_mem d hkept.1, hkept.2⟩
    rw [squeezeFrom] at h
    split at h
    · split at h
      · exact hrest h
      · exact (List.mem_cons.mp h).elim .inl hrest
    · rename_i hd
      rcases List.mem_cons.mp h with rfl | hmem
      · exact .inr ⟨List.mem_cons_self, by simpa using hd⟩
      · exact hrest hmem

/-- Nothing is replaced where the first character of the needle does not occur. -/
theorem replaceAll_of_not_mem {mark : Char} (needle value : List Char) (h : mark ∉ cs) :
    replaceAll (mark :: needle) value cs = cs := by
  rw [replaceAll, if_neg (by simp)]
  induction cs with
  | nil => rfl
  | cons c cs ih =>
    rw [List.mem_cons, not_or] at h
    have hfirst : ¬ (mark :: needle).isPrefixOf (c :: cs) = true := by
      simp [List.isPrefixOf, h.1]
    rw [replaceFrom, if_neg hfirst, ih h.2]

end Text

namespace Clean

variable {cs : List Char}

/-! ## What a block is -/

/-- A block of lines of plain text. -/
structure IsBlock (cs : List Char) : Prop where
  noTag : ¬ HasTag cs
  noControl : ∀ c ∈ cs, isControl c = false
  noTab : '\t' ∉ cs
  noReturn : '\r' ∉ cs
  /-- No two neighbours are spaces. -/
  apart : cs.IsChain fun a b => isSpacing a = false ∨ isSpacing b = false
  /-- No line has blanks at its ends. -/
  lines : Text.HasTrimmedLines cs
  /-- The block has no blanks at its ends, and so no empty lines. -/
  isTrimmed : Text.IsTrimmed cs

/-- What is squeezed in a line of a block is blank. -/
theorem isBlank_of_isSpacing (c : Char) (h : isSpacing c = true) : Text.isBlank c = true := by
  simp only [isSpacing, Bool.or_eq_true, beq_iff_eq] at h
  rcases h with (((rfl | rfl) | rfl) | rfl) | rfl <;> decide

/-- What is not blank is not squeezed in a line of a block. -/
theorem isSpacing_of_not_isBlank {c : Char} (h : Text.isBlank c = false) : isSpacing c = false := by
  cases hspacing : isSpacing c with
  | false => rfl
  | true => rw [isBlank_of_isSpacing c hspacing] at h; cases h

/-- The only spacing in a block are spaces. -/
theorem IsBlock.eq_space (h : IsBlock cs) {c : Char} (hc : c ∈ cs) (hspacing : isSpacing c = true) :
    c = ' ' := by
  have hcontrol := h.noControl c hc
  simp only [isSpacing, Bool.or_eq_true, beq_iff_eq] at hspacing
  rcases hspacing with (((rfl | rfl) | rfl) | rfl) | rfl
  · rfl
  · exact absurd hc h.noTab
  · exact absurd hc h.noReturn
  · exact absurd hcontrol (by decide)
  · exact absurd hcontrol (by decide)

/-- A line of a block is left as it is. -/
theorem IsBlock.blockLine_eq (h : IsBlock cs) {line : List Char}
    (hline : line ∈ Text.split (· == '\n') cs) : blockLine line = line := by
  have hstretch := Text.infix_of_mem_split hline
  have hapart : line.IsChain fun a b => isSpacing a = false ∨ isSpacing b = false :=
    List.IsChain.infix h.apart hstretch
  have hsqueeze : Text.squeeze isSpacing line = line :=
    Text.squeezeFrom_eq_self (fun c hc => h.eq_space (hstretch.mem hc)) hapart nofun
  rw [blockLine, hsqueeze, (h.lines line hline).strip_eq]

/-- A block is left as it is. -/
theorem IsBlock.blockChars_eq (h : IsBlock cs) : blockChars cs = cs := by
  have hlines : blockLines cs = Text.split (· == '\n') cs := by
    rw [blockLines, dropTags_eq_self h.noTag, Text.replaceAll_of_not_mem _ _ h.noReturn,
      dropControls_eq_self h.noControl]
  have hsame : (Text.split (· == '\n') cs).map blockLine = Text.split (· == '\n') cs :=
    (List.map_congr_left fun _ => h.blockLine_eq).trans (List.map_id _)
  rw [blockChars, hlines, hsame, Text.intercalate_split, h.isTrimmed.strip_eq]

/-- A line is a block. -/
theorem IsLine.isBlock (h : IsLine cs) : IsBlock cs where
  noTag := h.noTag
  noControl := h.noControl
  noTab hc := absurd (h.isTidy.eq_space _ hc (by decide)) (by decide)
  noReturn hc := absurd (h.isTidy.eq_space _ hc (by decide)) (by decide)
  apart := h.isTidy.apart.imp fun _ _ => .imp isSpacing_of_not_isBlank isSpacing_of_not_isBlank
  lines line hline := by
    have hfeed : ∀ c ∈ cs, (c == '\n') = false := by
      intro c hc
      rw [beq_eq_false_iff_ne]
      rintro rfl
      exact absurd (h.isTidy.eq_space _ hc (by decide)) (by decide)
    rw [Text.split_of_forall hfeed, List.mem_singleton] at hline
    exact hline ▸ h.isTidy.isTrimmed
  isTrimmed := h.isTidy.isTrimmed

/-! ## The words of a block -/

/-- Breaks of two characters become line feeds, which leaves the words as they are. What is still to be
passed over is left out on both sides. -/
theorem squeezeFrom_breaks (inRun : Bool) (skip : Nat) (cs rest : List Char) :
    Text.squeezeFrom Text.isBlank inRun
        (dropControls (Text.replaceFrom ['\r', '\n'] ['\n'] skip cs) ++ rest) =
      Text.squeezeFrom Text.isBlank inRun (dropControls (cs.drop skip) ++ rest) := by
  have hreturn : isControl '\r' = false ∧ Text.isBlank '\r' = true := by decide
  have hfeed : isControl '\n' = false ∧ Text.isBlank '\n' = true := by decide
  unfold dropControls
  induction cs generalizing inRun skip with
  | nil => cases skip <;> rfl
  | cons c cs ih =>
    cases skip with
    | succ skip => exact ih inRun skip
    | zero =>
      rw [Text.replaceFrom, List.drop_zero]
      split
      · rename_i hbreak
        cases cs with
        | nil => simp [List.isPrefixOf] at hbreak
        | cons d cs =>
          obtain ⟨rfl, rfl⟩ : '\r' = c ∧ '\n' = d := by simpa [List.isPrefixOf] using hbreak
          have hnext := ih true 1
          cases inRun <;> simpa [Text.squeezeFrom, hreturn, hfeed] using hnext
      · have hnext (run : Bool) := ih run 0
        cases hcontrol : isControl c
        · cases hblank : Text.isBlank c <;> cases inRun <;>
            simpa [Text.squeezeFrom, hcontrol, hblank] using hnext _
        · simpa [hcontrol] using hnext inRun

/-- Cleaning a line of a block leaves its words. -/
theorem spacedWords_blockLine (line : List Char) :
    Text.spacedWords (blockLine line) = Text.spacedWords line := by
  rw [blockLine, Text.spacedWords_strip, Text.spacedWords_squeeze isBlank_of_isSpacing]

/-- A block has the words of the text that it is made of, without tags and control characters. -/
theorem spacedWords_blockChars (cs : List Char) :
    Text.spacedWords (blockChars cs) = Text.spacedWords (dropControls (dropTags cs)) := by
  have hfeed : Text.isBlank '\n' = true := by decide
  have hbreaks : Text.spacedWords (dropControls (Text.replaceAll ['\r', '\n'] ['\n'] (dropTags cs))) =
      Text.spacedWords (dropControls (dropTags cs)) := squeezeFrom_breaks true 0 (dropTags cs) [' ']
  calc Text.spacedWords (blockChars cs)
      = ((blockLines cs).map blockLine).flatMap Text.spacedWords := by
        rw [blockChars, Text.spacedWords_strip, Text.spacedWords_intercalate hfeed]
    _ = (blockLines cs).flatMap Text.spacedWords := by
        simp only [List.flatMap_map, spacedWords_blockLine]
    _ = Text.spacedWords (dropControls (dropTags cs)) := by
        rw [← Text.spacedWords_intercalate hfeed, blockLines, Text.intercalate_split, hbreaks]

/-- The line made of a block is the line made of the text. -/
theorem lineChars_eq (cs : List Char) :
    lineChars cs = Text.trimEnd Text.isBlank (Text.spacedWords (dropControls (dropTags cs))) :=
  Text.strip_squeeze_eq _

/-! ## What cleaning makes of a text -/

/-- The lines of a text hold no line feeds and no control characters. -/
theorem plain_of_mem_blockLines {line : List Char} (hline : line ∈ blockLines cs) :
    ∀ c ∈ line, c ≠ '\n' ∧ isControl c = false := by
  intro c hc
  refine ⟨?_, ?_⟩
  · rintro rfl
    exact Text.not_mem_of_mem_split hline hc
  · simpa using (List.mem_filter.mp ((Text.infix_of_mem_split hline).mem hc)).2

/-- A cleaned line holds spaces, and what it held before that is no spacing. -/
theorem mem_blockLine {line : List Char} {c : Char} (h : c ∈ blockLine line) :
    c = ' ' ∨ (c ∈ line ∧ isSpacing c = false) :=
  Text.mem_squeezeFrom ((Text.strip_isInfix _).mem h)

/-- No line feed comes about within a line. -/
theorem not_mem_blockLine {line : List Char} (hline : line ∈ blockLines cs) : '\n' ∉ blockLine line := by
  intro h
  rcases mem_blockLine h with hspace | ⟨hmem, -⟩
  · exact absurd hspace (by decide)
  · exact (plain_of_mem_blockLines hline _ hmem).1 rfl

/-- A cleaned block holds line feeds, spaces, and characters that are neither spacing nor control
characters. -/
theorem mem_blockChars {c : Char} (h : c ∈ blockChars cs) :
    c = '\n' ∨ c = ' ' ∨ (isSpacing c = false ∧ isControl c = false) := by
  rcases Text.mem_intercalate ((Text.strip_isInfix _).mem h) with rfl | ⟨cleaned, hcleaned, hc⟩
  · exact .inl rfl
  · obtain ⟨line, hline, rfl⟩ := List.mem_map.mp hcleaned
    rcases mem_blockLine hc with rfl | ⟨hmem, hspacing⟩
    · exact .inr (.inl rfl)
    · exact .inr (.inr ⟨hspacing, (plain_of_mem_blockLines hline c hmem).2⟩)

/-- No spacing but spaces and line feeds is left in a cleaned block. -/
theorem not_mem_blockChars {c : Char} (hfeed : c ≠ '\n') (hspace : c ≠ ' ')
    (hspacing : isSpacing c = true) : c ∉ blockChars cs := by
  intro h
  rcases mem_blockChars h with heq | heq | ⟨hnot, -⟩
  · exact hfeed heq
  · exact hspace heq
  · exact Bool.false_ne_true (hnot.symm.trans hspacing)

/-- The lines that a block is put together from are trimmed. -/
theorem hasTrimmedLines_blockLines (cs : List Char) :
    Text.HasTrimmedLines (List.intercalate ['\n'] ((blockLines cs).map blockLine)) := by
  intro line hline
  have hne : (blockLines cs).map blockLine ≠ [] := by
    rw [Ne, List.map_eq_nil_iff, blockLines, Text.split_eq_splitOnP]
    exact List.splitOnP_ne_nil _ _
  rw [Text.split_intercalate hne (List.forall_mem_map.mpr fun _ => not_mem_blockLine)] at hline
  obtain ⟨l, -, rfl⟩ := List.mem_map.mp hline
  exact Text.isTrimmed_strip _

/-- No two neighbours in a cleaned block are spacing. -/
theorem isChain_blockChars (cs : List Char) :
    (blockChars cs).IsChain fun a b => isSpacing a = false ∨ isSpacing b = false := by
  have hfeed : isSpacing '\n' = false := by decide
  refine List.IsChain.infix (Text.isChain_intercalate (fun _ => .inr hfeed) (fun _ => .inl hfeed) ?_)
    (Text.strip_isInfix _)
  intro line hline
  obtain ⟨l, -, rfl⟩ := List.mem_map.mp hline
  exact List.IsChain.infix (Text.isChain_squeezeFrom isSpacing false l) (Text.strip_isInfix _)

/-- A cleaned block is a block of lines of plain text. -/
theorem isBlock_blockChars (cs : List Char) : IsBlock (blockChars cs) where
  noTag h := by
    have hink : Text.ink (blockChars cs) = Text.ink (dropControls (dropTags cs)) := by
      rw [← Text.ink_spacedWords, spacedWords_blockChars, Text.ink_spacedWords]
    have hcontrols : HasTag (dropControls (dropTags cs)) := h.of_ink (hink ▸ .refl _)
    exact not_hasTag_dropTagsFrom false cs (hcontrols.trans List.filter_sublist)
  noControl c hc := by
    rcases mem_blockChars hc with rfl | rfl | ⟨-, hcontrol⟩
    · decide
    · decide
    · exact hcontrol
  noTab := not_mem_blockChars (by decide) (by decide) (by decide)
  noReturn := not_mem_blockChars (by decide) (by decide) (by decide)
  apart := isChain_blockChars cs
  lines := (hasTrimmedLines_blockLines cs).strip
  isTrimmed := Text.isTrimmed_strip _

/-- Cleaning leaves just the blocks as they are. -/
theorem blockChars_eq_self_iff : blockChars cs = cs ↔ IsBlock cs :=
  ⟨fun h => h ▸ isBlock_blockChars cs, IsBlock.blockChars_eq⟩

/-- Cleaning leaves just the lines as they are. -/
theorem lineChars_eq_self_iff : lineChars cs = cs ↔ IsLine cs :=
  ⟨fun h => h ▸ isLine_lineChars cs, IsLine.lineChars_eq⟩

/-- The line made of a block is the line made of the text. -/
theorem lineChars_blockChars (cs : List Char) : lineChars (blockChars cs) = lineChars cs := by
  have hblock := isBlock_blockChars cs
  rw [lineChars_eq, dropTags_eq_self hblock.noTag, dropControls_eq_self hblock.noControl,
    spacedWords_blockChars, lineChars_eq]

/-! ## Cleaning once more -/

/-- The block of a text. -/
theorem block_text (s : String) : block (.text s) = .ok (String.ofList (blockChars s.toList)) := rfl

/-- A value is cleaned as its text is, if it has one. -/
theorem block_eq {v : Value} {s : String} (h : v.asText = .ok s) : block v = block (.text s) := by
  rw [block, h]
  rfl

/-- A value has a block, unless one of its integers is too long. -/
theorem block_cases (v : Value) :
    (v.isShort = false ∧ block v = .error .tooLong) ∨
      ∃ s, v.asText = .ok s ∧ block v = block (.text s) := by
  rcases v.showsIf_asText with ⟨-, s, hs⟩ | ⟨hlong, herror⟩
  · exact .inr ⟨s, hs, block_eq hs⟩
  · exact .inl ⟨hlong, by rw [block, herror]; rfl⟩

/-- A text is left as it is when it is cleaned as a line, if it is one. -/
theorem line_text_eq_self_iff {s : String} : line (.text s) = .ok s ↔ IsLine s.toList := by
  rw [line_text, Except.ok.injEq, ← String.toList_inj, String.toList_ofList]
  exact lineChars_eq_self_iff

/-- A text is left as it is when it is cleaned as a block, if it is one. -/
theorem block_text_eq_self_iff {s : String} : block (.text s) = .ok s ↔ IsBlock s.toList := by
  rw [block_text, Except.ok.injEq, ← String.toList_inj, String.toList_ofList]
  exact blockChars_eq_self_iff

/-- What a value is cleaned to as a block is a block. -/
theorem isBlock_of_block {v : Value} {s : String} (h : block v = .ok s) : IsBlock s.toList := by
  rcases block_cases v with ⟨-, herror⟩ | ⟨given, -, hgiven⟩
  · rw [herror] at h
    cases h
  · rw [hgiven, block_text, Except.ok.injEq] at h
    rw [← h, String.toList_ofList]
    exact isBlock_blockChars _

/-- What cleaning a value as a line and as a block comes to. -/
structure Settles (v : Value) (asLine asBlock : String) : Prop where
  line_eq : line v = .ok asLine
  block_eq : block v = .ok asBlock
  line_line : line (.text asLine) = .ok asLine
  block_block : block (.text asBlock) = .ok asBlock
  isBlock : IsBlock asBlock.toList
  line_block : line (.text asBlock) = .ok asLine
  block_line : block (.text asLine) = .ok asLine

/-- The line of the block of a text is the line of the text, and the line is a block already. -/
theorem settles_text (s : String) :
    Settles (.text s) (String.ofList (lineChars s.toList)) (String.ofList (blockChars s.toList)) := by
  have hline := isLine_of_line (line_text s)
  have hblock := isBlock_of_block (block_text s)
  exact {
    line_eq := line_text s
    block_eq := block_text s
    line_line := line_text_eq_self_iff.mpr hline
    block_block := block_text_eq_self_iff.mpr hblock
    isBlock := hblock
    line_block := by rw [line_text, String.toList_ofList, lineChars_blockChars]
    block_line := block_text_eq_self_iff.mpr hline.isBlock }

/-- Whatever a value was, cleaning it once more as a line or as a block changes nothing; the block is a
block of plain text; the line of the block is the line of the value, and the line is a block already. Only a
value with an integer of too many digits, which no text has, is not cleaned. The texts that cleaning leaves
as they are are all the lines and all the blocks. -/
theorem line_and_block_settle :
    (∀ v : Value,
      (v.isShort = false ∧ line v = .error .tooLong ∧ block v = .error .tooLong) ∨
        ∃ asLine asBlock, Settles v asLine asBlock) ∧
    (∀ s : String, ∃ asLine asBlock, Settles (.text s) asLine asBlock) ∧
    ∀ s : String,
      (line (.text s) = .ok s ↔ IsLine s.toList) ∧ (block (.text s) = .ok s ↔ IsBlock s.toList) := by
  refine ⟨fun v => ?_, fun s => ⟨_, _, settles_text s⟩, fun s =>
    ⟨line_text_eq_self_iff, block_text_eq_self_iff⟩⟩
  rcases v.showsIf_asText with ⟨-, s, hs⟩ | ⟨hlong, herror⟩
  · exact .inr ⟨_, _, { settles_text s with
      line_eq := (Clean.line_eq hs).trans (line_text s)
      block_eq := (Clean.block_eq hs).trans (block_text s) }⟩
  · exact .inl ⟨hlong, by rw [line, herror]; rfl, by rw [block, herror]; rfl⟩

end Clean

end Concierge
