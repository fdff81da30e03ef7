import Concierge.Site.Content

/-!
# The system prompt

The prompt tells the model what site it answers for and how, and quotes the content that it may use.
-/

namespace Concierge.Chat

/-- The instructions to the model. -/
def instructions : String :=
  ". Your role is to answer questions ONLY using the content provided below from this website.\n" ++
  "\n" ++
  "Instructions:\n" ++
  "1. The content below is the source of truth. Prefer it over anything said earlier in the " ++
  "conversation.\n" ++
  "2. Match the user's terms against the content case-insensitively, allowing for partial " ++
  "matches and small spelling differences.\n" ++
  "3. If you earlier said something was unavailable but it is in the content below, correct " ++
  "yourself.\n" ++
  "4. Only say information is not available after checking every item below.\n" ++
  "5. When you use an item, cite its title.\n" ++
  "\n" ++
  "Be concise, friendly, and helpful."

/-- One item of the content under its number. -/
def itemBlock (number : Nat) (item : ContentItem) : String :=
  "[Post " ++ toString number ++ "]\nTitle: " ++ item.title.word ++ "\nContent: " ++ item.content ++ "\n"

/-- The items of the content under the numbers from one on. -/
def itemBlocks (items : List ContentItem) : List String :=
  items.zipIdx.map fun (item, i) => itemBlock (i + 1) item

/-- The content that the prompt quotes; nothing when there are no items. -/
def contentSection (items : List ContentItem) : String :=
  if items.isEmpty then ""
  else
    "\n\n=== AVAILABLE CONTENT FROM THE WEBSITE ===\n\n" ++
      String.intercalate "\n" (itemBlocks items) ++ "\n=== END OF CONTENT ===\n"

/-- The prompt of a site. -/
def systemPrompt (siteName siteUrl : String) (items : List ContentItem) : String :=
  "You are a helpful assistant for " ++ siteName ++ " (" ++ siteUrl ++ ")" ++ instructions ++
    contentSection items

end Concierge.Chat
