import Concierge.Site.Basic
import Concierge.Value.Record

/-!
# Sites as records

The record of a site lists posts, authors and products, each of them a record of its own, which has to
tell what no default can. What is left out is published, in stock and for sale.
-/

namespace Concierge

/-- The post that a record describes. -/
def Post.ofRecord (v : Value) : Except RecordError Post := do
  v.checkParts "Post" ["id", "title", "author_id"] ["url", "content", "status"]
  return {
    number := v.fieldOr "id" .null
    title := v.fieldOr "title" .null
    authorNumber := v.fieldOr "author_id" .null
    url := v.fieldOr "url" (.text "")
    content := v.fieldOr "content" (.text "")
    status := v.fieldOr "status" publishedStatus }

/-- The author that a record describes. -/
def Author.ofRecord (v : Value) : Except RecordError Author := do
  v.checkParts "Author" ["id", "display_name", "email"] []
  return {
    number := v.fieldOr "id" .null
    name := v.fieldOr "display_name" .null
    email := v.fieldOr "email" .null }

/-- The product that a record describes. -/
def Product.ofRecord (v : Value) : Except RecordError Product := do
  v.checkParts "Product" ["id", "name", "price"]
    ["url", "image", "in_stock", "purchasable", "status"]
  return {
    number := v.fieldOr "id" .null
    name := v.fieldOr "name" .null
    price := v.fieldOr "price" .null
    url := v.fieldOr "url" (.text "")
    image := v.fieldOr "image" (.text "")
    inStock := v.fieldOr "in_stock" (.bool true)
    purchasable := v.fieldOr "purchasable" (.bool true)
    status := v.fieldOr "status" publishedStatus }

/-- The site that a record describes. -/
def Site.ofRecord (v : Value) : Except RecordError Site := do
  let posts ← (v.itemsAt "posts").mapM Post.ofRecord
  let authors ← (v.itemsAt "authors").mapM Author.ofRecord
  let products ← (v.itemsAt "products").mapM Product.ofRecord
  return {
    content :=
      { posts := byNumber Post.number posts
        authors := byNumber Author.number authors
        excerptWords := v.integerAt "context_words" 50 }
    shop :=
      { products := byNumber Product.number products
        baseUrl := v.textAt "base_url" "http://localhost" } }

end Concierge
