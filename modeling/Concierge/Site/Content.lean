import Concierge.Clean.Line
import Concierge.Text.Excerpt
import Concierge.Value.Amount

/-!
# Posts and authors

The content of a site: posts, of which only the published ones are shown, and their authors. Each is
found by its number; adding one under a number that is taken replaces it in place. What an application
tells about them may be of any kind.
-/

namespace Concierge

/-- Adds an item to a list in which each number occurs once, in place if its number is taken. -/
def putByNumber {α : Type} (number : α → Value) (item : α) : List α → List α
  | [] => [item]
  | other :: rest =>
    if (number other).isSameKey (number item) then item :: rest
    else other :: putByNumber number item rest

/-- The items of a list, the last one for each number. -/
def byNumber {α : Type} (number : α → Value) (items : List α) : List α :=
  items.foldl (fun found item => putByNumber number item found) []

/-- The status of what is shown to visitors. -/
def publishedStatus : Value := .text "publish"

/-- A post of a site. -/
structure Post where
  number : Value
  title : Value
  authorNumber : Value
  url : Value := .text ""
  content : Value := .text ""
  status : Value := publishedStatus
  deriving DecidableEq

/-- The post is shown to visitors. -/
def Post.isPublished (p : Post) : Bool := p.status == publishedStatus

/-- Someone who writes posts. -/
structure Author where
  number : Value
  name : Value
  email : Value
  deriving DecidableEq

/-- One piece of content for the model. -/
structure ContentItem where
  title : Value
  content : String
  deriving DecidableEq

/-- The posts and authors of a site. -/
structure Content where
  posts : List Post := []
  authors : List Author := []
  /-- How many words of a post the model is given. -/
  excerptWords : Int := 50
  /-- Posts can be looked up before they are published. -/
  showsDrafts : Bool := false
  deriving DecidableEq

namespace Content

/-- Adds or replaces a post. -/
def addPost (c : Content) (p : Post) : Content := { c with posts := putByNumber Post.number p c.posts }

/-- Adds or replaces an author. -/
def addAuthor (c : Content) (a : Author) : Content :=
  { c with authors := putByNumber Author.number a c.authors }

/-- The post with a number, as far as it can be looked up. -/
def post? (c : Content) (number : Value) : Option Post :=
  (c.posts.find? (·.number.isSameKey number)).filter fun p => c.showsDrafts || p.isPublished

/-- The author with a number. -/
def author? (c : Content) (number : Value) : Option Author :=
  c.authors.find? (·.number.isSameKey number)

/-- What the model is given: the title and the first words of every published post. -/
def items (c : Content) : Except NumberError (List ContentItem) :=
  (c.posts.filter Post.isPublished).mapM fun p => do
    return ⟨p.title, Text.excerpt c.excerptWords (← Clean.line p.content)⟩

end Content

end Concierge
