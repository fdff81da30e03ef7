import Concierge.Registry
import Concierge.Text.Blank

/-!
# Directives in a text

A directive is an occurrence of a trigger's pattern in a text. Directives are listed trigger by
trigger, or by their positions. For display all of them are removed and the blanks are squeezed, over
and over until nothing changes, since a removal can bring a new directive about.
-/

namespace Concierge

/-- An occurrence of a directive. -/
structure Directive (σ : Type) where
  trigger : Trigger σ
  params : Params
  start : Nat
  stop : Nat
  raw : String

/-- The order in which the directives of a text are listed. -/
inductive DispatchOrder where
  | registry
  | position
  deriving DecidableEq, Repr

/-- The order with a name. -/
def DispatchOrder.ofName? : String → Option DispatchOrder
  | "registry" => some registry
  | "position" => some position
  | _ => none

/-- The name of an order. -/
def DispatchOrder.name : DispatchOrder → String
  | registry => "registry"
  | position => "position"

namespace Directive

variable {σ : Type}

/-- The arguments of a match: the groups in order; one that took no part is empty. -/
def arguments (d : Definition) (text : List Char) (m : Pattern.Match) : Params :=
  Dict.ofEntries ((d.required.zip (m.groupTexts text)).map fun (name, group) =>
    (name, .text (String.ofList (group.getD []))))

/-- The directive of a match. -/
def ofMatch (t : Trigger σ) (text : List Char) (m : Pattern.Match) : Directive σ where
  trigger := t
  params := arguments t.definition text m
  start := m.start
  stop := m.stop
  raw := String.ofList (Pattern.slice text m.start m.stop)

/-- The directives of one trigger. -/
def findOne (text : List Char) (t : Trigger σ) : List (Directive σ) :=
  (t.definition.pattern.findAll text).map (ofMatch t text)

/-- The directives of all triggers, trigger by trigger. -/
def findEach (ts : List (Trigger σ)) (text : List Char) : List (Directive σ) :=
  ts.flatMap (findOne text)

/-- Directives in an order; those that start at one position keep the order of their triggers. -/
def inOrder (order : DispatchOrder) (ds : List (Directive σ)) : List (Directive σ) :=
  match order with
  | .registry => ds
  | .position => ds.mergeSort fun a b => a.start ≤ b.start

/-- The directives of a text. -/
def findAll (order : DispatchOrder) (ts : List (Trigger σ)) (text : List Char) :
    List (Directive σ) := inOrder order (findEach ts text)

end Directive

namespace Display

/-- A text without directives, with single spaces between words and none at the ends. -/
def round (patterns : List Pattern) (text : List Char) : List Char :=
  Text.strip (Text.squeeze Text.isBlank (patterns.foldl (fun t p => p.erase t) text))

/-- The number of blanks that are no spaces. -/
def oddBlanks (text : List Char) : Nat := text.countP fun c => Text.isBlank c && c != ' '

/-- Removing the occurrences of patterns leaves the rest of a text in place. -/
theorem foldl_erase_sublist (patterns : List Pattern) (text : List Char) :
    (patterns.foldl (fun t p => p.erase t) text).Sublist text := by
  induction patterns generalizing text with
  | nil => exact .refl _
  | cons p ps ih => exact (ih _).trans (p.erase_sublist text)

/-- A round makes no text longer. -/
theorem length_round_le (patterns : List Pattern) (text : List Char) :
    (round patterns text).length ≤ text.length :=
  calc
    _ ≤ _ := (Text.trim_sublist Text.isBlank _).length_le
    _ ≤ _ := Text.length_squeezeFrom_le ..
    _ ≤ _ := (foldl_erase_sublist patterns text).length_le

/-- After a round the only blanks are spaces. -/
theorem oddBlanks_round (patterns : List Pattern) (text : List Char) :
    oddBlanks (round patterns text) = 0 := by
  refine List.countP_eq_zero.2 fun c hc => ?_
  have hmem := (Text.trim_sublist Text.isBlank _).mem hc
  cases hb : Text.isBlank c
  · simp
  · simp [Text.eq_space_of_mem_squeezeFrom hmem hb]

/-- A round that makes a text no shorter replaces its blanks by spaces. -/
theorem round_eq_map {patterns : List Pattern} {text : List Char}
    (h : (round patterns text).length = text.length) :
    round patterns text = text.map fun c => if Text.isBlank c then ' ' else c := by
  have h₁ := (Text.trim_sublist Text.isBlank
    (Text.squeeze Text.isBlank (patterns.foldl (fun t p => p.erase t) text)))
  have h₂ := Text.length_squeezeFrom_le Text.isBlank false
    (patterns.foldl (fun t p => p.erase t) text)
  have h₃ := foldl_erase_sublist patterns text
  have h₄ := h₁.length_le
  have h₅ := h₃.length_le
  simp only [round, Text.strip, Text.squeeze] at *
  rw [h₁.eq_of_length (by omega), Text.squeezeFrom_eq_map (by omega), h₃.eq_of_length (by omega)]

/-- A text that a round changes becomes shorter, or keeps its length and loses its odd blanks. -/
theorem round_decreases {patterns : List Pattern} {text : List Char}
    (h : round patterns text ≠ text) :
    (round patterns text).length < text.length ∨
      (round patterns text).length = text.length ∧
        oddBlanks (round patterns text) < oddBlanks text := by
  have hle := length_round_le patterns text
  by_cases hlt : (round patterns text).length < text.length
  · exact .inl hlt
  · have heq : (round patterns text).length = text.length := by omega
    refine .inr ⟨heq, ?_⟩
    rw [oddBlanks_round]
    refine Nat.pos_of_ne_zero fun hzero => h ?_
    rw [round_eq_map heq]
    refine (List.map_congr_left fun c hc => ?_).trans (List.map_id text)
    have hodd := List.countP_eq_zero.1 hzero c hc
    cases hb : Text.isBlank c
    · simp
    · have hspace : c = ' ' := by simpa [hb] using hodd
      simp [hspace]

/-- A text for display: rounds follow one another until one changes nothing. -/
def clean (patterns : List Pattern) (text : List Char) : List Char :=
  if round patterns text = text then text else clean patterns (round patterns text)
termination_by (text.length, oddBlanks text)
decreasing_by
  rename_i h
  rcases round_decreases h with hlt | ⟨heq, hlt⟩
  · exact Prod.Lex.left _ _ hlt
  · rw [heq]; exact Prod.Lex.right _ hlt

end Display

end Concierge
