import Concierge.Trigger.AddToCart
import Concierge.Trigger.EmailAuthor
import Concierge.Trigger.ShowProducts

/-!
# The built-in triggers

Mail to authors comes first; the triggers of a shop follow if there is one.
-/

namespace Concierge

/-- The built-in triggers in the order of their registration. -/
def builtinTriggers (sender : EmailAuthor.Sender) (hasShop : Bool) : List (Trigger Site) :=
  EmailAuthor.trigger sender ::
    if hasShop then [AddToCart.trigger, ShowProducts.trigger] else []

end Concierge
