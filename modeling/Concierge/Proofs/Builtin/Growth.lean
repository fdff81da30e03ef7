import Concierge.Proofs.Builtin.Effect

/-!
# What is told and what is done

Of each directive a notice tells which trigger it was for and whether it has succeeded, with the
capabilities it was executed with and the content and the catalogue of the site at that time. The outbox
and the cart of a site grow just as the notices tell: by one message for each success of mail to an
author, by one line for each success of adding to the cart, in order, and by nothing else but the lines
that cannot be told, for which a failure is reported.
-/

namespace Concierge

open Concierge.Action

/-- What is told of one directive, with which capabilities it was executed, and what the site was like
then. -/
structure Notice where
  content : Content
  products : List Product
  capabilities : List String
  triggerId : Value
  success : Value

namespace Notice

/-- The notice of a result. -/
def ofResult (site : Site) (c : Context) (id : String) (r : Result) : Notice :=
  ⟨site.content, site.shop.products, c.capabilities, .text id, .bool r.success⟩

/-- The notice of a report. -/
def ofReport (site : Site) (c : Context) (r : Report) : Notice :=
  ⟨site.content, site.shop.products, c.capabilities, r.triggerId, r.success⟩

/-- A trigger has succeeded. -/
def tells (id : String) (n : Notice) : Bool :=
  decide (n.triggerId = .text id ∧ n.success = .bool true)

/-- The message goes to the author of a published post, and was sent with the capability for it. -/
def IsMail (n : Notice) (mail : Mail) : Prop :=
  EmailAuthor.capability ∈ n.capabilities ∧ mail.IsToAuthor n.content

/-- The line has a product that was for sale, and a number of items. -/
def IsLine (n : Notice) (line : CartLine) : Prop := Shop.Sells n.products line.product line.quantity

/-- The quantity of the line and the name of its product can be shown. -/
def CanTell (n : Notice) (line : CartLine) : Prop := Shop.Tells n.products line.product line.quantity

/-- The lines that a directive has put into the cart. -/
inductive Puts (n : Notice) : List CartLine → Prop where
  /-- A success of adding to the cart. -/
  | told {line : CartLine} (htells : n.tells AddToCart.definition.id = true) (hline : n.IsLine line)
      (hcan : n.CanTell line) : Puts n [line]
  /-- A failure of adding to the cart, reported because the line cannot be told. -/
  | untold {line : CartLine} (hid : n.triggerId = .text AddToCart.definition.id)
      (hfailed : n.success = .bool false) (hline : n.IsLine line) (hcannot : ¬n.CanTell line) :
      Puts n [line]
  /-- Another failure, or another trigger. -/
  | nothing (hsilent : n.tells AddToCart.definition.id = false) : Puts n []

variable {site : Site} {c : Context} {id : String} {r : Result}

/-- A result tells of its trigger only, and only when it is a success. -/
theorem tells_ofResult (id' : String) :
    (ofResult site c id r).tells id' = (decide (id = id') && r.success) := by
  simp [tells, ofResult]

/-- Notices that tell of no success of adding to the cart may stand for an unchanged cart. -/
theorem puts_nothing {told : List Notice} (h : ∀ n ∈ told, n.tells AddToCart.definition.id = false) :
    List.Forall₂ Puts told (told.map fun _ => []) := by
  rw [List.forall₂_map_right_iff, List.forall₂_same]
  exact fun n hn => .nothing (h n hn)

end Notice

/-- From one site to another the outbox and the cart have grown just as notices tell: by one message for
each success of mail to an author, and by one line for each success of adding to the cart, which
replaces no other line. Otherwise a line is added only if it cannot be told, and then a failure is told. -/
structure Site.Grows (told : List Notice) (site after : Site) : Prop where
  outbox : ∃ mails, after.mailer.outbox = site.mailer.outbox ++ mails ∧
    List.Forall₂ Notice.IsMail (told.filter (·.tells EmailAuthor.definition.id)) mails
  cart : ∃ lines, after.shop.cart = site.shop.cart ++ lines.flatten ∧ List.Forall₂ Notice.Puts told lines
  isKeyed : after.shop.IsKeyed

namespace Site.Grows

variable {told told' : List Notice} {site mid after : Site} {c : Context} {id : String} {r : Result}

/-- Nothing has grown when no success of these triggers is told. -/
theorem of_silent (hkeyed : site.shop.IsKeyed)
    (hmail : ∀ n ∈ told, n.tells EmailAuthor.definition.id = false)
    (hline : ∀ n ∈ told, n.tells AddToCart.definition.id = false)
    (houtbox : after.mailer.outbox = site.mailer.outbox) (hcart : after.shop.cart = site.shop.cart)
    (hissued : after.shop.issued = site.shop.issued) : site.Grows told after where
  outbox := by
    refine ⟨[], by rw [houtbox, List.append_nil], ?_⟩
    rw [List.filter_eq_nil_iff.mpr fun n hn => Bool.eq_false_iff.mp (hmail n hn)]
    exact .nil
  cart := by
    refine ⟨told.map fun _ => [], ?_, Notice.puts_nothing hline⟩
    rw [hcart, List.flatten_eq_nil_iff.mpr (by simp), List.append_nil]
  isKeyed := by
    refine ⟨hcart ▸ hkeyed.nodup, ?_⟩
    rw [hcart, hissued]
    exact hkeyed.issued

/-- The site is the same, and the result is a failure or that of another trigger. -/
theorem of_same (hkeyed : site.shop.IsKeyed)
    (hother : r.success = true → id ≠ EmailAuthor.definition.id ∧ id ≠ AddToCart.definition.id)
    (hafter : after = site) : site.Grows [.ofResult site c id r] after := by
  have hsilent {id' : String} (hne : r.success = true → id ≠ id') :
      ∀ n ∈ [Notice.ofResult site c id r], n.tells id' = false := by
    intro n hn
    rw [List.mem_singleton.mp hn, Notice.tells_ofResult, Bool.and_eq_false_iff]
    cases hsuccess : r.success with
    | false => exact .inr rfl
    | true => exact .inl (decide_eq_false (hne hsuccess))
  subst hafter
  exact of_silent hkeyed (hsilent fun h => (hother h).1) (hsilent fun h => (hother h).2) rfl rfl rfl

/-- A message that was sent. -/
theorem of_mail (hkeyed : site.shop.IsKeyed) (hgrants : EmailAuthor.capability ∈ c.capabilities)
    {mail : Mail} (hto : mail.IsToAuthor site.content) (hsuccess : r.success = true)
    (hafter : after = site.withMail mail) :
    site.Grows [.ofResult site c EmailAuthor.definition.id r] after where
  outbox := by
    refine ⟨[mail], by rw [hafter]; rfl, ?_⟩
    rw [List.filter_singleton, Notice.tells_ofResult, hsuccess]
    exact .cons ⟨hgrants, hto⟩ .nil
  cart := by
    refine ⟨[[]], by rw [hafter, List.flatten_singleton, List.append_nil]; rfl, ?_⟩
    refine .cons (.nothing ?_) .nil
    rw [Notice.tells_ofResult, decide_eq_false (by decide), Bool.false_and]
  isKeyed := hafter ▸ hkeyed

/-- A line that was put into the cart. -/
theorem of_line (hkeyed : site.shop.IsKeyed) {product quantity : Value}
    (hsells : Shop.Sells site.shop.products product quantity)
    (htells : Shop.Tells site.shop.products product quantity ↔ r.success = true)
    (hafter : after = { site with shop := site.shop.withLine product quantity }) :
    site.Grows [.ofResult site c AddToCart.definition.id r] after where
  outbox := by
    refine ⟨[], by rw [hafter, List.append_nil], ?_⟩
    rw [List.filter_singleton, Notice.tells_ofResult, decide_eq_false (by decide), Bool.false_and]
    exact .nil
  cart := by
    refine ⟨[[site.shop.nextLine product quantity]], ?_, .cons ?_ .nil⟩
    · rw [hafter]
      exact hkeyed.cart_withLine product quantity
    · cases hsuccess : r.success with
      | true => exact .told (by rw [Notice.tells_ofResult, hsuccess]; rfl) hsells (htells.mpr hsuccess)
      | false =>
        exact .untold rfl (congrArg Value.bool hsuccess) hsells fun hcan =>
          nomatch hsuccess.symm.trans (htells.mp hcan)
  isKeyed := hafter ▸ hkeyed.withLine product quantity

/-- One growth after another. -/
theorem trans (h : site.Grows told mid) (h' : mid.Grows told' after) :
    site.Grows (told ++ told') after where
  outbox := by
    obtain ⟨mails, houtbox, hmails⟩ := h.outbox
    obtain ⟨mails', houtbox', hmails'⟩ := h'.outbox
    refine ⟨mails ++ mails', by rw [houtbox', houtbox, List.append_assoc], ?_⟩
    rw [List.filter_append]
    exact List.rel_append hmails hmails'
  cart := by
    obtain ⟨lines, hcart, hlines⟩ := h.cart
    obtain ⟨lines', hcart', hlines'⟩ := h'.cart
    refine ⟨lines ++ lines', ?_, List.rel_append hlines hlines'⟩
    rw [hcart', hcart, List.flatten_append, List.append_assoc]
  isKeyed := h'.isKeyed

end Site.Grows

/-! ## One execution -/

namespace Executor

variable {x : Executor} {s : EmailAuthor.Sender} {hasShop : Bool} {t : Trigger Site} {c : Context}
  {site after : Site} {r : Result} {w : World Site}

/-- A trigger that answers with proper results. -/
theorem ofResult_eq (act : Action Site Result) (w : World Site) :
    (do return Answer.ofResult (← act) : Action Site Answer) w =
      ((act w).1.map Answer.ofResult, (act w).2) := by
  show (act >>= fun r => pure (Answer.ofResult r)) w = _
  rcases bind_cases act (fun r => pure (Answer.ofResult r)) w with
    ⟨f, left, hrun, hbind⟩ | ⟨r, left, hrun, hbind⟩
  · rw [hbind, hrun]
    rfl
  · rw [hbind, hrun]
    rfl

/-- What the executor makes of a proper result is a success just if the result is. -/
theorem success_resultOf (x : Executor) (e : Except Fault Result) :
    (x.resultOf (e.map Answer.ofResult)).success = true ↔ ∃ r, e = .ok r ∧ r.success = true := by
  cases e with
  | error f => exact ⟨fun h => (nomatch h), fun ⟨_, h, _⟩ => nomatch h⟩
  | ok r =>
    have hsuccess : (x.resultOf (.ok (.ofResult r))).success = r.success := by
      rw [resultOf, conclusion, Answer.normalized_ofResult]
      rfl
    refine ⟨fun h => ⟨r, rfl, hsuccess.symm.trans h⟩, ?_⟩
    rintro ⟨_, ⟨rfl⟩, h⟩
    exact hsuccess.trans h

/-- When a built-in trigger has acted, the site has grown as the result tells. -/
theorem Acted.grows (h : x.Acted t c site r after) (ht : t ∈ builtinTriggers s hasShop)
    (hkeyed : site.shop.IsKeyed) : site.Grows [.ofResult site c t.id r] after := by
  obtain ⟨_, params, w, hpermitted, -, rfl, rfl, rfl⟩ := h
  rcases mem_builtinTriggers ht with rfl | rfl | rfl
  · rw [show (EmailAuthor.trigger s).perform params c w = _ from ofResult_eq _ w]
    rcases EmailAuthor.brings_perform s params w with
      ⟨hsite, hfailed⟩ | ⟨r, hr, hsuccess, mail, hto, hafter⟩
    · refine .of_same hkeyed (fun h => ?_) hsite
      obtain ⟨r, hr, hsuccess⟩ := (success_resultOf x _).mp h
      exact nomatch (hfailed r hr).symm.trans hsuccess
    · have hgrants : c.grants EmailAuthor.capability = true := Except.ok.inj hpermitted
      exact .of_mail hkeyed (List.contains_iff_mem.mp hgrants) hto
        ((success_resultOf x _).mpr ⟨r, hr, hsuccess⟩) hafter
  · rw [show AddToCart.trigger.perform params c w = _ from ofResult_eq _ w]
    rcases AddToCart.perform_cases params w with
      ⟨hsite, hfailed⟩ | ⟨product, quantity, hsells, htells, hafter⟩
    · refine .of_same hkeyed (fun h => ?_) hsite
      obtain ⟨r, hr, hsuccess⟩ := (success_resultOf x _).mp h
      exact nomatch (hfailed r hr).symm.trans hsuccess
    · exact .of_line hkeyed hsells (htells.trans (success_resultOf x _).symm) hafter
  · have hsite : (ShowProducts.trigger.perform params c w).2.site = w.site :=
      ((ShowProducts.leaves_perform _ params).bind fun _ => .ofExcept _ (.ok _)).site_eq w
    exact .of_same hkeyed (fun _ => by decide) hsite

/-- An execution of a built-in trigger gives a result, and the site has grown as it tells. -/
theorem grows_execute (houtage : x.outage.IsOrdinary) (ht : t ∈ builtinTriggers s hasShop)
    (hkeyed : w.site.shop.IsKeyed) (params : Value) :
    ∃ r after, x.execute t params c w = (.ok r, after) ∧
      w.site.Grows [.ofResult w.site c t.id r] after.site := by
  obtain ⟨r, after, hrun, hcases⟩ := execute_cases houtage (isOrdinary_builtin (c := c) ht) params w
  refine ⟨r, after, hrun, ?_⟩
  rcases hcases with ⟨hsite, hfailed⟩ | hacted
  · exact .of_same hkeyed (fun h => nomatch hfailed.symm.trans h) hsite
  · exact hacted.grows ht hkeyed

/-- An execution of a built-in trigger leaves the content and the catalogue. -/
theorem stock_of_execute (ht : t ∈ builtinTriggers s hasShop) {params : Value} {e : Except Fault Result}
    {left : World Site} (hrun : x.execute t params c w = (e, left)) :
    left.site.content = w.site.content ∧ left.site.shop.products = w.site.shop.products := by
  let stock (site : Site) := (site.content, site.shop.products)
  have hperform (params : Params) :
      Leaves (Scope.ofPart (fun _ => False) stock) (t.perform params c) := by
    refine leaves_builtin ht (fun _ _ _ => rfl) fun _ site shop hproducts => ?_
    show stock site = stock { site with shop }
    exact Prod.ext rfl hproducts.symm
  have hleaves : Leaves (Scope.ofPart (fun _ => False) stock) (x.execute t params c) :=
    leaves_execute (fun h => h) (fun h => h) hperform params
  exact Prod.mk.inj (hleaves.alike hrun).site.symm

end Executor

/-! ## All directives of a text -/

namespace Dispatch

variable {x : Executor} {s : EmailAuthor.Sender} {hasShop : Bool} {c : Context} {w : World Site}

/-- When directives are executed one after another, the site grows as their reports tell. -/
theorem grows_executeAll (houtage : x.outage.IsOrdinary) {ds : List (Directive Site)}
    (hds : ∀ d ∈ ds, d.trigger ∈ builtinTriggers s hasShop) (hkeyed : w.site.shop.IsKeyed) :
    ∃ reports after, executeAll x c ds w = (.ok reports, after) ∧
      w.site.Grows (reports.map (Notice.ofReport w.site c)) after.site := by
  induction ds generalizing w with
  | nil =>
    refine ⟨[], w, rfl, ?_⟩
    exact .of_silent hkeyed (List.forall_mem_nil _) (List.forall_mem_nil _) rfl rfl rfl
  | cons d ds ih =>
    have hd := hds d List.mem_cons_self
    obtain ⟨r, left, hexecute, hfirst⟩ := x.grows_execute (c := c) houtage hd hkeyed (.dict d.params)
    obtain ⟨reports, after, hrest, hlater⟩ :=
      ih (fun d' hd' => hds d' (List.mem_cons_of_mem d hd')) hfirst.isKeyed
    refine ⟨_, after, executeAll_cons (bind_of_ok hexecute) hrest, ?_⟩
    -- The later directives find the content and the catalogue of before.
    obtain ⟨hcontent, hproducts⟩ := Executor.stock_of_execute hd hexecute
    have hnotice : Notice.ofReport left.site c = Notice.ofReport w.site c := by
      funext report
      rw [Notice.ofReport, Notice.ofReport, hcontent, hproducts]
    rw [hnotice] at hlater
    exact hfirst.trans hlater

end Dispatch

end Concierge
