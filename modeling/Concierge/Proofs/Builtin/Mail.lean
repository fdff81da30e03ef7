import Concierge.Proofs.Builtin.Effect
import Concierge.Proofs.Clean.Email
import Concierge.Proofs.Clean.Line
import Concierge.Proofs.Executor.Reach
import Concierge.Proofs.Template.Substitute
import Concierge.Site.Sample

/-!
# What a mail is made of

A mail to an author has a cleaned line as its subject and a cleaned address in its headers, so that no
argument can add a line to them. Its body is the template with escaped values, so that none can add markup:
whatever the values are put in for, no mark of markup is added or lost.
-/

namespace Concierge

namespace Template

/-- The characters that markup is made of. -/
def markupMarks : List Char := ['<', '>', '"', '\'']

/-- What the characters of markup and the ampersand are escaped to. -/
theorem not_mem_entity {mark : Char} (hmark : mark ∈ markupMarks) : mark ∉ "&amp;".toList ∧
    mark ∉ "&lt;".toList ∧ mark ∉ "&gt;".toList ∧ mark ∉ "&quot;".toList ∧ mark ∉ "&#x27;".toList := by
  simp only [markupMarks, List.mem_cons, List.not_mem_nil, or_false] at hmark
  rcases hmark with rfl | rfl | rfl | rfl <;> decide +kernel

/-- An escaped character holds no mark of markup. -/
theorem not_mem_escapeChar {mark : Char} (hmark : mark ∈ markupMarks) (c : Char) :
    mark ∉ escapeChar c := by
  obtain ⟨hamp, hlt, hgt, hquot, hapostrophe⟩ := not_mem_entity hmark
  unfold escapeChar
  split_ifs with _ hless hgreater hdouble hsingle
  · exact hamp
  · exact hlt
  · exact hgt
  · exact hquot
  · exact hapostrophe
  · -- The character is kept, and is no mark.
    intro hmem
    obtain rfl := List.mem_singleton.mp hmem
    simp [markupMarks, hless, hgreater, hdouble, hsingle] at hmark

/-- An escaped text holds no mark of markup. -/
theorem not_mem_escape {mark : Char} (hmark : mark ∈ markupMarks) (s : String) :
    mark ∉ (escape s).toList := by
  intro hmem
  rw [escape, String.toList_ofList] at hmem
  obtain ⟨c, -, hc⟩ := List.mem_flatMap.mp hmem
  exact not_mem_escapeChar hmark c hc

end Template

/-- A key that is looked up is one of the entries. -/
theorem Dict.mem_of_find? {α : Type} {d : Dict α} {key : String} {v : α} (h : find? key d = some v) :
    (key, v) ∈ d := by
  induction d with
  | nil => cases h
  | cons e d ih =>
    obtain ⟨k, v'⟩ := e
    rw [find?] at h
    split at h
    · rename_i hk
      cases h
      rw [hk]
      exact List.mem_cons_self
    · exact List.mem_cons_of_mem _ (ih h)

namespace EmailAuthor

variable {s : Sender} {r : Request} {post : Post} {author : Author} {settings : Dict Value} {mail : Mail}
  {params : Params} {w : World Site}

/-! ## The parts of a message -/

/-- The subject of a cleaned request stays on one line. -/
theorem isUnbroken_subject (h : Request.ofParams params = .ok r) (hclean : params.AreClean) :
    Text.IsUnbroken r.subject := by
  obtain ⟨number, -, h⟩ := Fault.ok_of_bind h
  obtain ⟨post, -, h⟩ := Fault.ok_of_bind h
  obtain ⟨subject, hshown, h⟩ := Fault.ok_of_bind h
  obtain ⟨message, -, h⟩ := Fault.ok_of_bind h
  cases h
  have hshown := Fault.ok_of_mapError hshown
  cases hsubject : Dict.find? "subject" params with
  | none =>
    rw [hsubject] at hshown
    cases hshown
    exact nofun
  | some v =>
    have hline : Category.ofName "subject" = .line := by decide +kernel
    have hadmits : Category.line.Admits v := by
      have hmem := hclean _ (Dict.mem_of_find? hsubject)
      rwa [hline] at hmem
    rw [hsubject] at hshown
    cases v with
    | text line =>
      cases hshown
      exact (Clean.IsLine.isTidy hadmits).isUnbroken
    | _ => exact hadmits.elim

/-- The address that a message comes from stays on one line. -/
theorem isUnbroken_address (hadmin : Text.IsUnbroken s.adminEmail) {address : String}
    (h : s.address settings = .ok address) : Text.IsUnbroken address := by
  obtain ⟨given, hgiven, h⟩ := Fault.ok_of_bind h
  cases h
  split
  · exact hadmin
  · exact Clean.isUnbroken_of_isEmail (Clean.isEmail_of_email hgiven)

/-- The names of the placeholders. -/
def placeholderNames : List String := ["author_name", "message", "post_title", "post_link", "site_name"]

/-- The placeholders have these names, and escaped texts as their values. -/
theorem escaped_of_placeholders {values : List (String × String)}
    (h : placeholders s r post author = .ok values) :
    ∀ e ∈ values, e.1 ∈ placeholderNames ∧ ∃ text, e.2 = Template.escape text := by
  have hescaped {v : Value} {value : String} (hv : escaped v = .ok value) :
      ∃ text, value = Template.escape text := by
    cases v with
    | text s =>
      cases hv
      exact ⟨s, rfl⟩
    | _ => cases hv
  obtain ⟨name, hname, h⟩ := Fault.ok_of_bind h
  obtain ⟨title, htitle, h⟩ := Fault.ok_of_bind h
  obtain ⟨link, hlink, h⟩ := Fault.ok_of_bind h
  cases h
  intro e he
  simp only [List.mem_cons, List.not_mem_nil, or_false] at he
  rcases he with rfl | rfl | rfl | rfl | rfl
  · exact ⟨by simp [placeholderNames], hescaped hname⟩
  · exact ⟨by simp [placeholderNames], _, rfl⟩
  · exact ⟨by simp [placeholderNames], hescaped htitle⟩
  · exact ⟨by simp [placeholderNames], hescaped hlink⟩
  · exact ⟨by simp [placeholderNames], _, rfl⟩

/-- The values of the placeholders add no mark of markup to a template, and none is lost with their
names. -/
theorem count_body {values : List (String × String)} (h : placeholders s r post author = .ok values)
    {mark : Char} (hmark : mark ∈ Template.markupMarks) (template : String) :
    (Template.render template values).toList.count mark = template.toList.count mark := by
  have hnames : ∀ name ∈ placeholderNames, mark ∉ Template.placeholder name := by
    simp only [Template.markupMarks, List.mem_cons, List.not_mem_nil, or_false] at hmark
    rcases hmark with rfl | rfl | rfl | rfl <;> decide +kernel
  refine Template.count_render (fun e he => ?_) (fun e he => ?_) template
  · exact hnames e.1 (escaped_of_placeholders h e he).1
  · obtain ⟨text, htext⟩ := (escaped_of_placeholders h e he).2
    rw [htext]
    exact Template.not_mem_escape hmark text

/-- A message has its subject from the request, its headers from the sender and the settings, and as its
body the template with the values of the placeholders. -/
structure IsMadeOf (s : Sender) (r : Request) (post : Post) (author : Author) (settings : Dict Value)
    (mail : Mail) (address template : String) (values : List (String × String)) : Prop where
  subject : mail.subject = if r.subject = "" then "Message about your post on " ++ s.siteName else r.subject
  headers : mail.headers =
    (if address = "" then [] else ["From: " ++ s.siteName ++ " <" ++ address ++ ">"]) ++
      ["Content-Type: text/html; charset=UTF-8"]
  body : mail.body = Template.render template values
  address : s.address settings = .ok address
  template : templateOf settings = .ok template
  values : placeholders s r post author = .ok values

/-- A message that is composed is made of these parts. -/
theorem exists_isMadeOf (h : compose s r post author settings = .ok mail) :
    ∃ address template values, IsMadeOf s r post author settings mail address template values := by
  obtain ⟨address, haddress, h⟩ := Fault.ok_of_bind h
  obtain ⟨values, hvalues, h⟩ := Fault.ok_of_bind h
  obtain ⟨template, htemplate, h⟩ := Fault.ok_of_bind h
  cases h
  exact ⟨address, template, values, rfl, rfl, rfl, Fault.ok_of_mapError haddress,
    Fault.ok_of_mapError htemplate, Fault.ok_of_mapError hvalues⟩

/-- A message of a sender who stays on one line, for a cleaned request, stays on one line in its subject
and in every header. -/
theorem isUnbroken_of_isMadeOf {address template : String} {values : List (String × String)}
    (h : IsMadeOf s r post author settings mail address template values)
    (hrequest : Request.ofParams params = .ok r) (hclean : params.AreClean)
    (hsite : Text.IsUnbroken s.siteName) (hadmin : Text.IsUnbroken s.adminEmail) :
    Text.IsUnbroken mail.subject ∧ ∀ header ∈ mail.headers, Text.IsUnbroken header := by
  constructor
  · rw [h.subject]
    split
    · exact Text.IsUnbroken.append (by decide +kernel) hsite
    · exact isUnbroken_subject hrequest hclean
  · have hfrom : Text.IsUnbroken ("From: " ++ s.siteName ++ " <" ++ address ++ ">") := by
      have hbegins : Text.IsUnbroken "From: " := by decide +kernel
      have hopens : Text.IsUnbroken " <" := by decide +kernel
      have hcloses : Text.IsUnbroken ">" := by decide +kernel
      exact (((hbegins.append hsite).append hopens).append (isUnbroken_address hadmin h.address)).append
        hcloses
    have hkind : Text.IsUnbroken "Content-Type: text/html; charset=UTF-8" := by decide +kernel
    intro header hheader
    rw [h.headers] at hheader
    split at hheader
    · obtain rfl := List.mem_singleton.mp hheader
      exact hkind
    · rcases List.mem_cons.mp hheader with rfl | hheader
      · exact hfrom
      · obtain rfl := List.mem_singleton.mp hheader
        exact hkind

/-! ## One execution -/

/-- Acting comes to the site that mailing the author comes to. -/
theorem perform_site (s : Sender) (params : Params) (c : Context) (w : World Site) :
    ((trigger s).perform params c w).2.site = (perform s params w).2.site := by
  have hperform : (trigger s).perform params c = perform s params >>= fun r => pure (.ofResult r) := rfl
  rw [hperform]
  exact Keeps.snd_bind (I := fun left : World Site => left.site = (perform s params w).2.site) rfl
    fun _ => .pure _

/-- What an execution of the trigger sends was composed for the cleaned arguments of its directive, with
the settings that were found when it began. -/
theorem sent_of_execute (x : Executor) (s : Sender) (params : Value) (c : Context) (w : World Site) :
    (x.execute (trigger s) params c w).2.site = w.site ∨
      ∃ given cleaned r post author settings mail, params = .dict given ∧
        Clean.arguments given = .ok cleaned ∧
        Composes s cleaned w r post author settings mail ∧
        (x.execute (trigger s) params c w).2.site = w.site.withMail mail := by
  rcases Executor.execute_site_cases x (trigger s) params c w with
    hsite | ⟨given, cleaned, begun, hreaches, hsite⟩
  · exact .inl hsite
  · -- The trigger begins with the settings that the directive has found.
    have hsettings : (Settings.resolve begun.now definition begun.store).1 =
        (Settings.resolve w.now definition w.store).1 := hreaches.settings_eq
    have hbegun : begun.site = w.site := hreaches.site_eq
    rw [hsite, perform_site]
    rcases brings_sent s cleaned begun with
      ⟨hleft, -⟩ | ⟨_, -, -, r, post, author, settings, mail, hcomposes, hsent⟩
    · exact .inl (hleft.trans hbegun)
    · refine .inr ⟨given, cleaned, r, post, author, settings, mail, hreaches.given_eq,
        hreaches.cleaned_eq, ?_, by rw [hsent, hbegun]⟩
      exact { hcomposes with
        post_mem := hbegun ▸ hcomposes.post_mem
        author_mem := hbegun ▸ hcomposes.author_mem
        settings_eq := hsettings ▸ hcomposes.settings_eq }

/-- Every mail that an execution sends has a subject and headers of one line each, if the name of the site
and the address of its administrator have only one. Its body is the template that the settings name with
values put in, and has as many of each mark of markup as the template has. -/
theorem mail_brings_no_markup (hsite : Text.IsUnbroken s.siteName)
    (hadmin : Text.IsUnbroken s.adminEmail) (x : Executor) (params : Value) (c : Context)
    (w : World Site) :
    ∃ sent, (x.execute (trigger s) params c w).2.site.mailer.outbox = w.site.mailer.outbox ++ sent ∧
      ∀ mail ∈ sent, Text.IsUnbroken mail.subject ∧ (∀ header ∈ mail.headers, Text.IsUnbroken header) ∧
        ∃ settings template values,
          (Settings.resolve w.now definition w.store).1 = .ok settings ∧
          templateOf settings = .ok template ∧ mail.body = Template.render template values ∧
          ∀ mark ∈ Template.markupMarks, mail.body.toList.count mark = template.toList.count mark := by
  rcases sent_of_execute x s params c w with
    hleft | ⟨given, cleaned, r, post, author, settings, mail, -, hcleaned, hcomposes, hsent⟩
  · refine ⟨[], ?_, List.forall_mem_nil _⟩
    rw [hleft, List.append_nil]
  · refine ⟨[mail], by rw [hsent]; rfl, ?_⟩
    intro sent hmem
    obtain rfl := List.mem_singleton.mp hmem
    obtain ⟨address, template, values, hparts⟩ := exists_isMadeOf hcomposes.mail_eq
    have hclean : cleaned.AreClean := Clean.areClean_of_arguments hcleaned
    obtain ⟨hsubject, hheaders⟩ :=
      isUnbroken_of_isMadeOf hparts hcomposes.request hclean hsite hadmin
    refine ⟨hsubject, hheaders, settings, template, values, hcomposes.settings_eq, hparts.template,
      hparts.body, ?_⟩
    intro mark hmark
    rw [hparts.body, count_body hparts.values hmark]

/-- Arguments that try to add a header, markup and another placeholder, under settings with an address on
two lines, are sent as one mail without any of it. -/
theorem mail_brings_no_markup_of_attempts :
    let s : Sender := ⟨"Blog", "admin@example.com"⟩
    let settings : Dict Value := [("from_email", .text "staff\r\n@example.com"),
      ("email_template", .text "<b>\x7bmessage\x7d</b>")]
    let w : World Site := ⟨0, (Settings.set 0 definition.id settings {}).2, Site.sample, false⟩
    let c : Context := { timestamp := Timestamp.universal 0, capabilities := [capability] }
    let params : Params := [("post_id", .text "5"), ("subject", .text "Hi\r\nBcc: all@example.com"),
      ("message", .text "1 < 2 \"really\"\n'yes' \x7bsite_name\x7d")]
    Text.IsUnbroken s.siteName ∧ Text.IsUnbroken s.adminEmail ∧
      ∃ mail, (({} : Executor).execute (trigger s) (.dict params) c w).2.site.mailer.outbox = [mail] ∧
        Text.IsUnbroken mail.subject ∧ (∀ header ∈ mail.headers, Text.IsUnbroken header) ∧
        ∃ settings template values,
          (Settings.resolve w.now definition w.store).1 = .ok settings ∧
          templateOf settings = .ok template ∧ mail.body = Template.render template values ∧
          ∀ mark ∈ Template.markupMarks, mail.body.toList.count mark = template.toList.count mark := by
  intro s settings w c params
  have hsite : Text.IsUnbroken s.siteName := by decide +kernel
  have hadmin : Text.IsUnbroken s.adminEmail := by decide +kernel
  have hone : (({} : Executor).execute (trigger s) (.dict params) c w).2.site.mailer.outbox.length = 1 := by
    decide +kernel
  obtain ⟨sent, houtbox, hsent⟩ := mail_brings_no_markup hsite hadmin {} (.dict params) c w
  have hempty : w.site.mailer.outbox = [] := rfl
  rw [houtbox, hempty, List.nil_append] at hone
  obtain ⟨mail, rfl⟩ := List.length_eq_one_iff.mp hone
  refine ⟨hsite, hadmin, mail, ?_, hsent mail List.mem_cons_self⟩
  rw [houtbox, hempty, List.nil_append]

end EmailAuthor

end Concierge
