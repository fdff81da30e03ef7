import Concierge.Site.Content

/-!
# Sites

What the built-in triggers act on: the content of a site, a mailer that keeps what it sends, and a
shop with a catalogue and one cart.
-/

namespace Concierge

/-- A message that was sent. -/
structure Mail where
  recipient : Value
  subject : String
  body : String
  headers : List String := []
  deriving DecidableEq

/-- A mailer, which keeps the messages it has accepted. -/
structure Mailer where
  accepts : Bool := true
  outbox : List Mail := []
  deriving DecidableEq

/-- Sends a message, and tells whether it was accepted. -/
def Mailer.send (m : Mailer) (mail : Mail) : Bool × Mailer :=
  if m.accepts then (true, { m with outbox := m.outbox ++ [mail] }) else (false, m)

/-- A product of a shop. -/
structure Product where
  number : Value
  name : Value
  price : Value
  url : Value := .text ""
  image : Value := .text ""
  inStock : Value := .bool true
  purchasable : Value := .bool true
  status : Value := publishedStatus
  deriving DecidableEq

/-- One line of a cart. -/
structure CartLine where
  key : String
  product : Value
  quantity : Value
  deriving DecidableEq

/-- The key of the line of a cart with a number. -/
def CartLine.keyOf (number : Nat) : String := "item-" ++ toString number

/-- Puts a line into a cart, in place of the line with its key if there is one. -/
def CartLine.put (line : CartLine) : List CartLine → List CartLine
  | [] => [line]
  | other :: rest => if other.key = line.key then line :: rest else other :: line.put rest

/-- A catalogue and a cart. -/
structure Shop where
  products : List Product := []
  cart : List CartLine := []
  baseUrl : String := "http://localhost"
  /-- How many cart lines have been made. -/
  issued : Nat := 0
  /-- Nothing can be added to the cart. -/
  refusesCart : Bool := false
  deriving DecidableEq

namespace Shop

/-- Adds or replaces a product. -/
def addProduct (s : Shop) (p : Product) : Shop :=
  { s with products := putByNumber Product.number p s.products }

/-- The product with a number. -/
def product? (s : Shop) (number : Value) : Option Product :=
  s.products.find? (·.number.isSameKey number)

/-- Adds a product to the cart under the next key. -/
def addToCart (s : Shop) (product quantity : Value) : Option String × Shop :=
  if s.refusesCart || (s.product? product).isNone then (none, s)
  else
    let key := CartLine.keyOf (s.issued + 1)
    (some key,
      { s with issued := s.issued + 1, cart := CartLine.put ⟨key, product, quantity⟩ s.cart })

/-- The address of the cart. -/
def cartUrl (s : Shop) : String :=
  String.ofList (Text.trimEnd (· == '/') s.baseUrl.toList) ++ "/cart"

end Shop

/-- What the built-in triggers act on. -/
structure Site where
  content : Content := {}
  mailer : Mailer := {}
  shop : Shop := {}
  deriving DecidableEq

end Concierge
