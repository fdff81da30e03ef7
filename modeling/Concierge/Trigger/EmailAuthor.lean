import Concierge.Pattern.Command
import Concierge.Settings
import Concierge.Site.Basic
import Concierge.Template
import Concierge.Trigger.Basic
import Concierge.Trigger.Switch

/-!
# Mail to the author of a post

`[EMAIL_AUTHOR:post:subject:message]` mails the author of a published post. Only those who may edit
posts can fire it. The body comes from a template in markup, in which every value is escaped.
-/

namespace Concierge.EmailAuthor

/-- The template of a body when no other one is set. -/
def defaultTemplate : String :=
  "<html><body>\n" ++
  "<p>\x7bauthor_name\x7d,</p>\n" ++
  "<p>You have received a message regarding your post.</p>\n" ++
  "<p><strong>Message:</strong> \x7bmessage\x7d</p>\n" ++
  "<p><strong>Post:</strong> <a href=\"\x7bpost_link\x7d\">\x7bpost_title\x7d</a></p>\n" ++
  "<p>Best regards,<br>\x7bsite_name\x7d</p>\n" ++
  "</body></html>"

/-- The definition of the trigger. -/
def definition : Definition where
  id := "email_post_author"
  name := "Email Post Author"
  pattern := Pattern.command "EMAIL_AUTHOR" 2
  required := ["post_id", "subject", "message"]
  description := "Sends an email to the author of a specified post."
  settings :=
    [.switch "Allow the AI to send emails to post authors.",
     { name := "from_email", kind := "email", label := "From Email Address", fallback := .text ""
       description := "Address to send from. Leave empty to use the admin email." },
     { name := "email_template", kind := "textarea", label := "Email Template"
       fallback := .text defaultTemplate
       description := "Placeholders: \x7bauthor_name\x7d, \x7bmessage\x7d, \x7bpost_title\x7d, " ++
         "\x7bpost_link\x7d, \x7bsite_name\x7d" }]
  budget := none
  arity := rfl

/-- The capability that firing the trigger needs. -/
def capability : String := "edit_posts"

/-- Who sends. -/
structure Sender where
  siteName : String := ""
  /-- The address to send from when no other one is set. -/
  adminEmail : String := ""
  deriving DecidableEq, Repr

/-- What a directive asks for. -/
structure Request where
  post : Int
  subject : String
  message : String
  deriving DecidableEq, Repr

/-- The request of cleaned arguments. -/
def Request.ofParams (params : Params) : Except Fault Request := do
  let number ← ((Value.dict params).field "post_id").mapError .shape
  let post ← number.toInteger.mapError .number
  let subject := (Dict.find? "subject" params).getD (.text "")
  let message := (Dict.find? "message" params).getD (.text "")
  let subject ← subject.shown.mapError .number
  return ⟨post, subject, ← (Clean.block message).mapError .number⟩

/-- The template that the settings name. -/
def templateOf (settings : Dict Value) : Except ShapeError String :=
  match (Dict.find? "email_template" settings).getD .null with
  | .text s => .ok (if s = "" then defaultTemplate else s)
  | v => if v.truthy then .error (.noPlaceholders v.kind) else .ok defaultTemplate

/-- The address to send from. -/
def Sender.address (s : Sender) (settings : Dict Value) : Except NumberError String := do
  let set ← Clean.email ((Dict.find? "from_email" settings).getD .null)
  return if set = "" then s.adminEmail else set

/-- A value as it stands in markup; only a text can. -/
def escaped : Value → Except ShapeError String
  | .text s => .ok (Template.escape s)
  | v => .error (.noPlaceholders v.kind)

/-- The values of the placeholders. -/
def placeholders (s : Sender) (r : Request) (post : Post) (author : Author) :
    Except ShapeError (List (String × String)) := do
  return [("author_name", ← escaped author.name), ("message", Template.escape r.message),
    ("post_title", ← escaped post.title), ("post_link", ← escaped post.url),
    ("site_name", Template.escape s.siteName)]

/-- The message to the author. -/
def compose (s : Sender) (r : Request) (post : Post) (author : Author) (settings : Dict Value) :
    Except Fault Mail := do
  let address ← (s.address settings).mapError .number
  let values ← (placeholders s r post author).mapError .shape
  let template ← (templateOf settings).mapError .shape
  return {
    recipient := author.email
    subject := if r.subject = "" then "Message about your post on " ++ s.siteName else r.subject
    body := Template.render template values
    headers :=
      (if address = "" then [] else ["From: " ++ s.siteName ++ " <" ++ address ++ ">"]) ++
        ["Content-Type: text/html; charset=UTF-8"] }

/-- The result of a message that was sent. -/
def sent (r : Request) (author : Author) : Result where
  message := "Email sent successfully to " ++ author.name.word ++ "."
  data :=
    [("postId", .int r.post), ("authorId", author.number), ("authorName", author.name)]

/-- Hands a message to the mailer of the site. -/
def deliver (mail : Mail) : Action Site Bool := fun w =>
  let (accepted, mailer) := w.site.mailer.send mail
  (.ok accepted, { w with site := { w.site with mailer } })

/-- Mails the author of a post. -/
def perform (s : Sender) (params : Params) : Action Site Result := do
  let r ← Action.ofExcept (Request.ofParams params)
  let w ← get
  match (w.site.content.post? (.int r.post)).filter Post.isPublished with
  | none => return .failure "Post not found."
  | some post =>
    match (w.site.content.author? post.authorNumber).filter (·.email.truthy) with
    | none => return .failure "Post author not found."
    | some author =>
      let settings ← Action.tryStore (Settings.keyOf definition.id) fun now store =>
        Settings.resolve now definition store
      let mail ← Action.ofExcept (compose s r post author settings)
      if ← deliver mail then return sent r author
      else return .failure "Failed to send email. Please check the mail configuration."

/-- The trigger of a sender. -/
def trigger (s : Sender) : Trigger Site where
  definition
  permits c := .ok (.bool (c.grants capability))
  perform params _ := return .ofResult (← perform s params)

end Concierge.EmailAuthor
