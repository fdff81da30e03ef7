import Concierge.Proofs.Command.Search
import Concierge.Trigger.Builtin

/-!
# The kinds of built-in directives

Each built-in trigger has a tag and a number of arguments. What its pattern finds in a text is what the
scanner finds for them.
-/

namespace Concierge

/-- A kind of built-in directive. -/
inductive Kind where
  | emailAuthor
  | addToCart
  | showProducts
  deriving DecidableEq

namespace Kind

/-- The kinds in the order in which their triggers are registered. -/
def all : List Kind := [emailAuthor, addToCart, showProducts]

/-- The tag of a kind. -/
def tag : Kind → String
  | emailAuthor => "EMAIL_AUTHOR"
  | addToCart => "ADD_TO_CART"
  | showProducts => "SHOW_PRODUCTS"

/-- How many arguments follow the first one. -/
def more : Kind → Nat
  | emailAuthor => 2
  | addToCart => 1
  | showProducts => 0

/-- The trigger of a kind. -/
def trigger (sender : EmailAuthor.Sender) : Kind → Trigger Site
  | emailAuthor => EmailAuthor.trigger sender
  | addToCart => AddToCart.trigger
  | showProducts => ShowProducts.trigger

/-- The definition of a kind. -/
def definition : Kind → Definition
  | emailAuthor => EmailAuthor.definition
  | addToCart => AddToCart.definition
  | showProducts => ShowProducts.definition

/-- The triggers of all kinds are the built-in ones of a site with a shop. -/
theorem map_trigger_all (sender : EmailAuthor.Sender) :
    all.map (trigger sender) = builtinTriggers sender true := rfl

/-- The trigger of a kind has its definition. -/
theorem definition_trigger (sender : EmailAuthor.Sender) (k : Kind) :
    (k.trigger sender).definition = k.definition := by
  cases k <;> rfl

/-- The pattern of a kind is that of a command with its tag. -/
theorem pattern_definition (k : Kind) : k.definition.pattern = Pattern.command k.tag k.more := by
  cases k <;> rfl

/-- The pattern of a kind is the one that its text stands for. -/
theorem ofSource_pattern (k : Kind) :
    Pattern.ofSource k.definition.pattern.source = .ok k.definition.pattern := by
  have hread : (Pattern.parse (Pattern.commandSource k.tag k.more)).toOption =
      some (Pattern.Node.sequence (Pattern.commandNodes k.tag k.more), k.more + 1) := by
    cases k <;> decide +kernel
  rw [pattern_definition]
  change Pattern.ofSource (Pattern.commandSource k.tag k.more) = _
  cases h : Pattern.parse (Pattern.commandSource k.tag k.more) with
  | error e =>
    rw [h] at hread
    cases hread
  | ok expression =>
    rw [h] at hread
    rw [Pattern.ofSource, h, Option.some.inj hread]
    rfl

/-- The tags are written in capitals and underscores. -/
theorem isTagChar_of_mem_tag {k : Kind} : ∀ x ∈ k.tag.toList, Text.IsTagChar x := by
  have hall : k.tag.toList.all (fun x => decide (Text.IsTagChar x)) = true := by
    cases k <;> decide
  simpa only [List.all_eq_true, decide_eq_true_eq] using hall

/-- In every text, whatever brackets, colons and letters it holds, the pattern of a built-in trigger has
just the matches that the scanner accepts for its tag and its number of arguments, at the same
offsets and with the arguments as the texts of the groups. -/
theorem findAll_eq_scan (k : Kind) (text : List Char) :
    (k.definition.pattern.findAll text).map (fun m => (m.start, m.stop, m.groupTexts text)) =
      (Command.scan k.tag.toList k.more 0 text).map fun o =>
        (o.start, o.stop, o.arguments.map some) := by
  rw [k.pattern_definition, Pattern.findAll_command isTagChar_of_mem_tag, List.map_map]
  apply List.map_congr_left
  intro o ho
  rw [Function.comp_apply, Pattern.groupTexts_matchOf ho]
  rfl

end Kind

end Concierge
