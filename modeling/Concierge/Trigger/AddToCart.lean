import Concierge.Pattern.Command
import Concierge.Site.Basic
import Concierge.Trigger.Basic
import Concierge.Trigger.Switch

/-!
# Adding to the cart

`[ADD_TO_CART:product:quantity]` puts a product into the visitor's cart, if it can be bought and is
in stock. Anyone may fire it.
-/

namespace Concierge.AddToCart

/-- The definition of the trigger. -/
def definition : Definition where
  id := "add_to_cart"
  name := "Add to Cart"
  pattern := Pattern.command "ADD_TO_CART" 1
  required := ["product_id", "quantity"]
  description := "Adds a product to the shopping cart."
  settings := [.switch "Allow the AI to add products to the shopping cart."]
  budget := none
  arity := rfl

/-- What a directive asks for. -/
structure Request where
  product : Int
  quantity : Int
  deriving DecidableEq, Repr

/-- The request of cleaned arguments; at least one item is added. -/
def Request.ofParams (params : Params) : Except Fault Request := do
  let product ← ((Value.dict params).field "product_id").mapError .shape
  let product ← product.toInteger.mapError .number
  let quantity ← ((Dict.find? "quantity" params).getD (.int 1)).toInteger.mapError .number
  return ⟨product, max quantity 1⟩

/-- The result of a line that was added to the cart. It tells the quantity and the name, and there is none
when these cannot be shown. -/
def added (r : Request) (product : Product) (shop : Shop) (key : String) :
    Except NumberError Result := do
  let quantity ← decimalText r.quantity
  let name ← product.name.shown
  return {
    message := "Added " ++ quantity ++ " × " ++ name ++ " to cart."
    data :=
      [("productId", .int r.product), ("productName", product.name),
       ("quantity", .int r.quantity), ("cartUrl", .text shop.cartUrl), ("cartItemKey", .text key)] }

/-- Adds a request to the cart of a shop. The line has been added when its result cannot be told. -/
def add (r : Request) (shop : Shop) : Except NumberError Result × Shop :=
  match shop.product? (.int r.product) with
  | none => (.ok (.failure "Product not found."), shop)
  | some product =>
    if !product.purchasable.truthy then (.ok (.failure "This product cannot be purchased."), shop)
    else if !product.inStock.truthy then (.ok (.failure "This product is out of stock."), shop)
    else
      match shop.addToCart (.int r.product) (.int r.quantity) with
      | (some key, shop) => (added r product shop key, shop)
      | (none, shop) => (.ok (.failure "Failed to add product to cart."), shop)

/-- Adds what the arguments ask for to the cart of the site. -/
def perform (params : Params) : Action Site Result := do
  let r ← Action.ofExcept (Request.ofParams params)
  let w ← get
  let (result, shop) := add r w.site.shop
  set { w with site := { w.site with shop } }
  Action.ofExcept (result.mapError .number)

/-- The trigger. -/
def trigger : Trigger Site where
  definition
  permits _ := .ok (.bool true)
  perform params _ := return .ofResult (← perform params)

end Concierge.AddToCart
