import Concierge.Site.Basic

/-!
# A sample site

A small site to try the assistant on: one author, two posts and a draft, a mug, and a poster that is
out of stock.
-/

namespace Concierge.Site

/-- The content of the sample site. -/
def sampleContent : Content where
  posts :=
    [{ number := .int 5, title := .text "Getting started", authorNumber := .int 42
       url := .text "http://localhost/getting-started"
       content := .text "How to set up the assistant on your site." },
     { number := .int 7, title := .text "Opening hours", authorNumber := .int 42
       url := .text "http://localhost/hours"
       content := .text "We are open Monday to Friday, nine to five." },
     { number := .int 9, title := .text "Unreleased", authorNumber := .int 42, status := .text "draft" }]
  authors := [⟨.int 42, .text "Dana", .text "dana@example.com"⟩]

/-- The shop of the sample site. -/
def sampleShop : Shop where
  products :=
    [{ number := .int 12, name := .text "Mug", price := .text "9.00", url := .text "http://localhost/mug" },
     { number := .int 15, name := .text "Poster", price := .text "15.00", inStock := .bool false }]

/-- The sample site. -/
def sample : Site := { content := sampleContent, shop := sampleShop }

end Concierge.Site
