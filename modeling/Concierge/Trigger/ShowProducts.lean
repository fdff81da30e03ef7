import Concierge.Pattern.Command
import Concierge.Settings
import Concierge.Site.Basic
import Concierge.Trigger.Basic
import Concierge.Trigger.Switch

/-!
# Showing products

`[SHOW_PRODUCTS:12,15,31]` answers with the cards of the published products among those that it lists.
Anyone may fire it. The argument is a list, and its name keeps it from being cleaned as one number.
-/

namespace Concierge.ShowProducts

/-- How many products a directive shows when no other number is set. -/
def defaultMost : Nat := 10

/-- The definition of the trigger. -/
def definition : Definition where
  id := "show_products"
  name := "Show Products"
  pattern := Pattern.command "SHOW_PRODUCTS" 0
  required := ["product_list"]
  description := "Returns product information for display in the chat."
  settings :=
    [.switch "Allow the AI to display product information.",
     { name := "max_products", kind := "number", label := "Maximum products per directive"
       fallback := .int defaultMost },
     { name := "hide_out_of_stock", kind := "checkbox", label := "Hide out-of-stock products"
       fallback := .bool false }]
  budget := none
  arity := rfl

/-- Adds a number to a list unless it is zero or already there. -/
def addNumber (numbers : List Nat) (n : Nat) : List Nat :=
  if n = 0 ∨ n ∈ numbers then numbers else numbers ++ [n]

/-- The distinct positive numbers in a list with commas. -/
def numbersOf (v : Value) : Except NumberError (List Nat) := do
  let listed ← v.shown
  let parts ← (Text.split (· == ',') listed.toList).mapM Clean.leadingNumber
  return parts.foldl addNumber []

/-- How many products the settings allow. -/
def mostOf (settings : Dict Value) : Except NumberError Nat := do
  let most ← Clean.number ((Dict.find? "max_products" settings).getD .null)
  return if most = 0 then defaultMost else most

/-- The product is shown. -/
def isShown (hidesMissing : Bool) (p : Product) : Bool :=
  p.status == publishedStatus && (p.inStock.truthy || !hidesMissing)

/-- The products with the given numbers that are shown. -/
def shown (shop : Shop) (hidesMissing : Bool) (numbers : List Nat) : List Product :=
  (numbers.filterMap fun n : Nat => shop.product? (.int n)).filter (isShown hidesMissing)

/-- The card of a product. -/
def card (p : Product) : Value :=
  .dict
    [("id", p.number), ("name", p.name), ("price", p.price), ("url", p.url), ("image", p.image),
     ("inStock", p.inStock)]

/-- The result for the products that are shown. -/
def found (products : List Product) : Result :=
  if products.isEmpty then .failure "No valid products found."
  else
    { message := "Found " ++ toString products.length ++
        (if products.length = 1 then " product." else " products.")
      data := [("products", .list (products.map card))] }

/-- Looks up the products that the arguments list. -/
def perform (params : Params) : Action Site Result := do
  let listed ← Action.ofExcept (((Value.dict params).field "product_list").mapError .shape)
  let numbers ← Action.ofExcept ((numbersOf listed).mapError .number)
  if numbers.isEmpty then return .failure "No product IDs provided."
  let settings ← Action.tryStore (Settings.keyOf definition.id) fun now store =>
    Settings.resolve now definition store
  let most ← Action.ofExcept ((mostOf settings).mapError .number)
  let hidesMissing := Settings.isOn ((Dict.find? "hide_out_of_stock" settings).getD .null)
  let w ← get
  return found (shown w.site.shop hidesMissing (numbers.take most))

/-- The trigger. -/
def trigger : Trigger Site where
  definition
  permits _ := .ok (.bool true)
  perform params _ := return .ofResult (← perform params)

end Concierge.ShowProducts
