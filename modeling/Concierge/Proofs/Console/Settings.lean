import Concierge.Proofs.Assistant.Settings
import Concierge.Proofs.Builtin.Mail
import Concierge.Proofs.Builtin.Scope
import Concierge.Proofs.Console.Arguments
import Concierge.Proofs.Dispatch.Run

/-!
# A mail template that is set on the console

Settings are cleaned by what their names hold. The name of the template for mail to authors holds the word
`email`, so that the text that an administrator sets is cleaned as an email address: what is stored is an
address or nothing, and mail is made of that address, or of the default template.
-/

namespace Concierge

namespace Console.Command

open Concierge.Assistant Concierge.Console

variable {s : Assistant Site} {d : Definition} {changes cleaned : Dict Value}

/-! ## The command -/

/-- Settings that are known and can be cleaned are written. -/
theorem change_eq (hknown : unknownSettings d changes = []) (hcleaned : Settings.clean changes = .ok cleaned)
    (hpresent : s.world.isLost = false) {merged : Dict Value} {store : Store}
    (hupdate : Settings.update s.world.now d.id cleaned s.world.store = (.ok merged, store)) :
    change d changes s = (.ok (), { s with world := { s.world with store } }) := by
  unfold change
  rw [hknown, hcleaned]
  exact bind_of_ok (act_tryStore hpresent hupdate)

/-- An assistant when the settings of a trigger have been written: they have certain values, and do not
expire. Only their row has changed, and in the registry what looking up the trigger changes. -/
structure Configured (s : Assistant Site) (d : Definition) (values : Dict Value) (after : Assistant Site) :
    Prop where
  registry : after.registry = (Registry.lookUp d.id s.registry).2
  executor : after.executor = s.executor
  now : after.world.now = s.world.now
  store : s.world.store.KeptBut (Settings.keyOf d.id) s.world.now after.world.store
  lasting : Settings.IsLasting after.world.now d.id after.world.store
  settings : after.settingsOf d = .ok values

/-- One setting of a trigger that is served is written, and then all of them are read and shown. -/
theorem perform_settings {ts : List (Trigger Site)} (hserves : s.registry.Serves ts) {t : Trigger Site}
    (hfound : ts.find? (·.id == t.definition.id) = some t) (hpresent : s.world.isLost = false)
    (hlasting : Settings.IsLasting s.world.now t.definition.id s.world.store) {values : Dict Value}
    (hvalues : s.settingsOf t.definition = .ok values) {name : String} {v v' : Value}
    (hshort : v'.isShort = true) (hknown : unknownSettings t.definition [(name, v)] = [])
    (hcleaned : Settings.clean [(name, v)] = .ok [(name, v')]) :
    ∃ lines after, (settings t.definition.id [(name, v)]).perform s = (.ok lines, after) ∧
      Configured s t.definition (Dict.set name v' values) after := by
  obtain ⟨stored, hstored, rfl⟩ : ∃ stored,
      (Settings.get s.world.now t.definition.id s.world.store).1 = .ok stored ∧
        Dict.merge t.definition.defaults stored = values := Fault.ok_of_map hvalues
  obtain ⟨merged, store, hupdate, hlasts, hresolved⟩ :=
    Settings.update_of_readable hlasting hstored name hshort
  have hkept : s.world.store.KeptBut (Settings.keyOf t.definition.id) s.world.now store := by
    have hwritten := Settings.keptBut_update s.world.now t.definition.id [(name, v')] s.world.store
    rwa [hupdate] at hwritten
  have hgiven := (Registry.settles_lookUp_of_found hfound s.registry hserves).1
  let registry := (Registry.lookUp t.definition.id s.registry).2
  have hlookUp : use (Registry.lookUp t.definition.id) s = (.ok t, { s with registry }) :=
    use_eq (Prod.ext hgiven rfl)
  let written : Assistant Site := { s with registry, world := { s.world with store } }
  have hchange : change t.definition [(name, v)] { s with registry } = (.ok (), written) :=
    change_eq (s := { s with registry }) hknown hcleaned hpresent hupdate
  -- Reading the settings leaves the live rows.
  let read := (Settings.resolve s.world.now t.definition store).2
  have hview : read.view s.world.now (Settings.keyOf t.definition.id) =
      store.view s.world.now (Settings.keyOf t.definition.id) :=
    congrFun (store.view_get s.world.now (Settings.keyOf t.definition.id)) _
  have hresolve : act (Action.tryStore (Settings.keyOf t.id) fun now store =>
      Settings.resolve now t.definition store) written =
        (.ok (Dict.set name v' (Dict.merge t.definition.defaults stored)),
          { written with world := { written.world with store := read } }) :=
    act_tryStore (s := written) hpresent (Prod.ext (hresolved t.definition rfl) rfl)
  have hperform : (settings t.definition.id [(name, v)]).perform s =
      (use (Registry.lookUp t.definition.id) >>= fun t' => do
        change t'.definition [(name, v)]
        let values ← act (Action.tryStore (Settings.keyOf t'.id) fun now store =>
          Settings.resolve now t'.definition store)
        return settingLines (.text t.definition.id) (values.map fun e => (.text e.1, e.2))) s := rfl
  let shown := settingLines (.text t.definition.id)
    ((Dict.set name v' (Dict.merge t.definition.defaults stored)).map fun e => (.text e.1, e.2))
  refine ⟨shown, { written with world := { written.world with store := read } }, ?_, ?_⟩
  · rw [hperform, bind_of_ok hlookUp, bind_of_ok hchange, bind_of_ok hresolve]
    rfl
  · constructor
    · rfl
    · rfl
    · rfl
    · exact hkept.trans (.get (Settings.keyOf t.definition.id) s.world.now store)
    · constructor
      · rw [hview]
        exact hlasts.expiry
      · rw [Store.valueAt_eq, hview, ← Store.valueAt_eq]
        exact hlasts.nodup
    · exact (Settings.resolve_congr hview).trans (hresolved t.definition rfl)

/-- Written settings are still found after requests, and uses of the store that do not write them. -/
theorem Configured.settings_after {values : Dict Value} {after : Assistant Site}
    (h : Configured s d values after) (hreads : s.registry.Only Trigger.OnlyReads)
    (hlog : s.executor.log.key = "trigger_logs") (hkeyed : s.world.store.IsKeyed)
    {run : List (Nat × Operation)} (hrun : ∀ e ∈ run, e.2.IsRoutine s.executor.log d.id) :
    (timed Operation.after run after).settingsOf d = .ok values := by
  have hkeyed' : after.world.store.IsKeyed := h.store.isKeyed hkeyed
  have honly : after.registry.Only Trigger.OnlyReads := by
    rw [h.registry]
    exact Registry.keeps_lookUp _ _ hreads
  have hspares : after.world.Spares (· = Settings.keyOf d.id) (timed Operation.after run after).world := by
    refine (spares_timed (fun _ ht => ht) honly ?_ hkeyed' ?_).world
    · rw [h.executor]
      exact hlog
    · rw [h.executor]
      exact hrun
  exact (hspares.resolve_eq rfl h.lasting).trans h.settings

/-! ## The template for mail -/

/-- A setting whose name holds the word is cleaned as an email address. -/
theorem cleanSetting_of_email {name : String} (hne : name ≠ "enabled")
    (hemail : Text.contains "email" name = true) {v : Value} {address : String}
    (haddress : Clean.email v = .ok address) : Settings.cleanSetting name v = .ok (.text address) := by
  unfold Settings.cleanSetting
  rw [if_neg hne, if_pos hemail, haddress]
  rfl

/-- A template that is set is cleaned as an email address. -/
theorem clean_template (text : String) : Settings.clean [("email_template", .text text)] =
    .ok [("email_template", .text (String.ofList (Clean.emailChars text.toList)))] := by
  have hemail : Text.contains "email" "email_template" = true := by decide +kernel
  unfold Settings.clean
  rw [List.mapM_cons, List.mapM_nil]
  dsimp only
  rw [cleanSetting_of_email (by decide) hemail (Clean.email_text text)]
  rfl

/-- The template that a stored text makes the trigger use. -/
def templateFrom (text : String) : String := if text = "" then EmailAuthor.defaultTemplate else text

/-- The template is made of the text that is set for it. -/
theorem templateOf_set (text : String) (values : Dict Value) :
    EmailAuthor.templateOf (Dict.set "email_template" (.text text) values) = .ok (templateFrom text) := by
  rw [EmailAuthor.templateOf, Dict.find?_set, if_pos rfl]
  rfl

/-- While a text is stored for the template, the mails of an execution are made of what it is for. -/
theorem mails_of_template {sender : EmailAuthor.Sender} {w : World Site} {text : String}
    {values : Dict Value} (hsettings : (Settings.resolve w.now EmailAuthor.definition w.store).1 =
      .ok (Dict.set "email_template" (.text text) values))
    (x : Executor) (params : Value) (c : Context) :
    ∃ sent, (x.execute (EmailAuthor.trigger sender) params c w).2.site.mailer.outbox =
        w.site.mailer.outbox ++ sent ∧
      ∀ mail ∈ sent, ∃ r post author values,
        EmailAuthor.placeholders sender r post author = .ok values ∧
        mail.body = Template.render (templateFrom text) values := by
  rcases EmailAuthor.sent_of_execute x sender params c w with
    hleft | ⟨given, cleaned, r, post, author, settings, mail, -, -, hcomposes, hsent⟩
  · refine ⟨[], ?_, List.forall_mem_nil _⟩
    rw [hleft, List.append_nil]
  · refine ⟨[mail], by rw [hsent]; rfl, ?_⟩
    intro sent hmem
    obtain rfl := List.mem_singleton.mp hmem
    obtain ⟨address, template, inserted, hparts⟩ := EmailAuthor.exists_isMadeOf hcomposes.mail_eq
    have hfound : settings = Dict.set "email_template" (.text text) values :=
      Except.ok.inj (hcomposes.settings_eq.symm.trans hsettings)
    have htemplate : template = templateFrom text := by
      have hof := hparts.template
      rw [hfound, templateOf_set] at hof
      exact (Except.ok.inj hof).symm
    exact ⟨r, post, author, inserted, hparts.values, htemplate ▸ hparts.body⟩

/-- What an administrator sets as the template for mail is stored as the email address that it is cleaned
to, or as the empty text if it is none, and the other settings stay. Over a run of requests, and of uses of
the store that do not write these settings, every mail of the trigger is made of that address, or of the
default template. -/
theorem template_set_as_address {s : Assistant Site} {ts : List (Trigger Site)}
    {sender : EmailAuthor.Sender} (hserves : s.registry.Serves ts)
    (hfound : ts.find? (·.id == EmailAuthor.definition.id) = some (EmailAuthor.trigger sender))
    (hreads : s.registry.Only Trigger.OnlyReads) (hlog : s.executor.log.key = "trigger_logs")
    (hpresent : s.world.isLost = false) (hkeyed : s.world.store.IsKeyed)
    (hlasting : Settings.IsLasting s.world.now EmailAuthor.definition.id s.world.store)
    {values : Dict Value} (hvalues : s.settingsOf EmailAuthor.definition = .ok values) (text : String) :
    let address := String.ofList (Clean.emailChars text.toList)
    let command := settings EmailAuthor.definition.id [("email_template", .text text)]
    Clean.email (.text text) = .ok address ∧ Clean.IsEmail address.toList ∧
    ofName "settings" [EmailAuthor.definition.id, "email_template" ++ "=" ++ text] = .ok command ∧
    ∃ lines after, command.perform s = (.ok lines, after) ∧
      after.settingsOf EmailAuthor.definition =
        .ok (Dict.set "email_template" (.text address) values) ∧
      ∀ run : List (Nat × Operation),
        (∀ e ∈ run, e.2.IsRoutine s.executor.log EmailAuthor.definition.id) →
        let w := (timed Operation.after run after).world
        ∀ (x : Executor) (params : Value) (c : Context), ∃ sent,
          (x.execute (EmailAuthor.trigger sender) params c w).2.site.mailer.outbox =
            w.site.mailer.outbox ++ sent ∧
          ∀ mail ∈ sent, ∃ r post author values,
            EmailAuthor.placeholders sender r post author = .ok values ∧
            mail.body = Template.render (templateFrom address) values := by
  intro address command
  have haddress : Clean.IsEmail address.toList := by
    rw [String.toList_ofList]
    exact Clean.isEmail_emailChars text.toList
  have hcommand : ofName "settings" [EmailAuthor.definition.id, "email_template" ++ "=" ++ text] =
      .ok command :=
    ofName_settings (by decide +kernel) (by decide +kernel) (by decide) (by decide +kernel)
      (by decide +kernel) text
  have hknown : unknownSettings EmailAuthor.definition [("email_template", .text text)] = [] := by
    show sortedSet (["email_template"].filter fun name =>
      !Dict.has name EmailAuthor.definition.defaults) = []
    decide +kernel
  obtain ⟨lines, after, hperform, hconfigured⟩ := perform_settings (t := EmailAuthor.trigger sender)
    hserves hfound hpresent hlasting hvalues rfl hknown (clean_template text)
  refine ⟨Clean.email_text text, haddress, hcommand, lines, after, hperform, hconfigured.settings, ?_⟩
  intro run hrun w x params c
  exact mails_of_template (hconfigured.settings_after hreads hlog hkeyed hrun) x params c

/-- An editor of the sample site. -/
def editor : Context :=
  { timestamp := Timestamp.universal 0, capabilities := [EmailAuthor.capability] }

/-- Arguments for mail to the author of a post. -/
def greeting : Value :=
  .dict [("post_id", .text "5"), ("subject", .text "Hi"), ("message", .text "Hello")]

/-- A template that is an email address, with a placeholder for the message, is stored as it is, and used
for mail after a request and a purge. -/
theorem template_set_as_address_of_address :
    let text := "\x7bmessage\x7d@example.org"
    let sender : EmailAuthor.Sender := ⟨"Blog", "admin@example.com"⟩
    let s := sample {} (builtinTriggers sender true) .registry
    let run : List (Nat × Operation) :=
      [(1, .ask (.fire "add_to_cart" (.dict [("product_id", .text "12"), ("quantity", .text "1")]) none)),
       (70000000, .use (.call .purge))]
    let after := ((settings EmailAuthor.definition.id [("email_template", .text text)]).perform s).2
    let sent := (({} : Executor).execute (EmailAuthor.trigger sender) greeting editor
      (timed Operation.after run after).world).2
    after.settingsOf EmailAuthor.definition =
        .ok (Dict.set "email_template" (.text text) EmailAuthor.definition.defaults) ∧
      ∃ mail, sent.site.mailer.outbox = [mail] ∧ ∃ r post author values,
        EmailAuthor.placeholders sender r post author = .ok values ∧
        mail.body = Template.render text values := by
  intro text sender s run after
  have hserves : s.registry.Serves (builtinTriggers sender true) :=
    Registry.serves_builtins (by decide +kernel)
  have hfound : (builtinTriggers sender true).find? (·.id == EmailAuthor.definition.id) =
      some (EmailAuthor.trigger sender) := rfl
  have hreads : s.registry.Only Trigger.OnlyReads :=
    Registry.only_builtins fun _ ht => onlyReads_builtin ht
  have hrun : ∀ e ∈ run, e.2.IsRoutine s.executor.log EmailAuthor.definition.id := by
    simp only [run, List.forall_mem_cons]
    exact ⟨trivial, .purge, nofun⟩
  have hvalues : s.settingsOf EmailAuthor.definition = .ok EmailAuthor.definition.defaults := rfl
  have haddress : String.ofList (Clean.emailChars text.toList) = text := by decide +kernel
  obtain ⟨-, -, -, lines, left, hperform, hsettings, hmail⟩ :=
    template_set_as_address (s := s) hserves hfound hreads rfl rfl Store.isKeyed_empty
      (Settings.isLasting_empty _ _) hvalues text
  obtain rfl : left = after := (congrArg Prod.snd hperform).symm
  rw [haddress] at hsettings hmail
  obtain ⟨mails, houtbox, hbody⟩ := hmail run hrun {} greeting editor
  have hempty : (timed Operation.after run after).world.site.mailer.outbox = [] := by decide +kernel
  have hnew : (({} : Executor).execute (EmailAuthor.trigger sender) greeting editor
      (timed Operation.after run after).world).2.site.mailer.outbox.length = 1 := by decide +kernel
  rw [houtbox, hempty, List.nil_append] at hnew
  obtain ⟨mail, rfl⟩ := List.length_eq_one_iff.mp hnew
  refine ⟨hsettings, mail, ?_, hbody mail List.mem_cons_self⟩
  rw [hempty, List.nil_append] at houtbox
  exact houtbox

/-- A template that is a line of text and no email address is stored as the empty text, and mail is made of
the default template. -/
theorem template_is_emptied :
    let text := "Dear \x7bauthor_name\x7d"
    let sender : EmailAuthor.Sender := ⟨"Blog", "admin@example.com"⟩
    let s := sample {} (builtinTriggers sender true) .registry
    let after := ((settings EmailAuthor.definition.id [("email_template", .text text)]).perform s).2
    let sent := (({} : Executor).execute (EmailAuthor.trigger sender) greeting editor
      after.world).2
    Clean.line (.text text) = .ok text ∧ text ≠ "" ∧
      ((after.settingsOf EmailAuthor.definition).toOption.bind (Dict.find? "email_template")) =
        some (.text "") ∧
      sent.site.mailer.outbox.map Mail.body = [Template.render EmailAuthor.defaultTemplate
        [("author_name", "Dana"), ("message", "Hello"), ("post_title", "Getting started"),
         ("post_link", "http://localhost/getting-started"), ("site_name", "Blog")]] := by
  refine ⟨congrArg Except.ok (by decide +kernel), by decide +kernel, by decide +kernel, ?_⟩
  rfl

end Console.Command

end Concierge
