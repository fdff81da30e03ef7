import Concierge.Proofs.Builtin.Scope
import Concierge.Proofs.Executor.Effect

/-!
# What the built-in triggers do to a site

Mail to an author that succeeds has put one message into the outbox, and adding to the cart that
succeeds has put one line into the cart; a failure has done neither, and showing products never does. Only
a line that cannot be told is in the cart without a success. A message goes to the author of a published
post, and a line has a product that was for sale, and a number of items.
-/

namespace Concierge

open Concierge.Action

/-- The message goes to the author of a published post. -/
def Mail.IsToAuthor (content : Content) (mail : Mail) : Prop :=
  ∃ post ∈ content.posts, post.isPublished = true ∧
    ∃ author ∈ content.authors, author.number.isSameKey post.authorNumber = true ∧
      mail.recipient = author.email

/-- The product is in the catalogue, can be bought and is in stock, and the quantity is at least one. -/
def Shop.Sells (products : List Product) (product quantity : Value) : Prop :=
  (∃ p ∈ products, p.number.isSameKey product = true ∧ p.purchasable.truthy = true ∧
      p.inStock.truthy = true) ∧
    ∃ n : Int, quantity = .int n ∧ 1 ≤ n

/-- A line can be told: its quantity, and the name of the product that is found for it, can be shown. -/
def Shop.Tells (products : List Product) (product quantity : Value) : Prop :=
  quantity.isShort = true ∧
    ∀ p, products.find? (·.number.isSameKey product) = some p → p.name.isShort = true

/-- The site after a message was sent. -/
def Site.withMail (site : Site) (mail : Mail) : Site :=
  { site with mailer := { site.mailer with outbox := site.mailer.outbox ++ [mail] } }

/-- The next line of a cart. -/
def Shop.nextLine (s : Shop) (product quantity : Value) : CartLine :=
  ⟨CartLine.keyOf (s.issued + 1), product, quantity⟩

/-- The shop after the next line was put into the cart. -/
def Shop.withLine (s : Shop) (product quantity : Value) : Shop :=
  { s with issued := s.issued + 1, cart := (s.nextLine product quantity).put s.cart }

/-! ## The keys of a cart -/

/-- Different lines have different keys. -/
theorem CartLine.keyOf_injective {m n : Nat} (h : keyOf m = keyOf n) : m = n := by
  have hdigits : Nat.toDigits 10 m = Nat.toDigits 10 n :=
    String.ofList_injective ((String.append_right_inj _).mp h)
  rw [← Nat.ofDigitChars_toDigits (b := 10) (n := m) (by decide) (by decide), hdigits,
    Nat.ofDigitChars_toDigits (by decide) (by decide)]

/-- A line with a new key comes last, and replaces none. -/
theorem CartLine.put_of_fresh {line : CartLine} {lines : List CartLine}
    (h : line.key ∉ lines.map CartLine.key) : line.put lines = lines ++ [line] := by
  induction lines with
  | nil => rfl
  | cons other rest ih =>
    obtain ⟨hother, hrest⟩ := not_or.mp (mt List.mem_cons.mpr h)
    rw [put, if_neg (Ne.symm hother), ih hrest]
    rfl

/-- The lines in the cart have distinct keys, which are among those that were given out. -/
structure Shop.IsKeyed (s : Shop) : Prop where
  nodup : (s.cart.map CartLine.key).Nodup
  issued : ∀ line ∈ s.cart, ∃ n ≤ s.issued, line.key = CartLine.keyOf n

namespace Shop.IsKeyed

variable {s : Shop}

/-- An empty cart has no keys. -/
theorem of_empty (h : s.cart = []) : s.IsKeyed := by
  refine ⟨?_, ?_⟩ <;> simp [h]

/-- The key of the next line is new. -/
theorem fresh (h : s.IsKeyed) (product quantity : Value) :
    (s.nextLine product quantity).key ∉ s.cart.map CartLine.key := by
  intro hmem
  obtain ⟨line, hline, hkey⟩ := List.mem_map.mp hmem
  obtain ⟨n, hn, hissued⟩ := h.issued line hline
  have hnext : n = s.issued + 1 := CartLine.keyOf_injective (hissued.symm.trans hkey)
  omega

/-- The next line comes last. -/
theorem cart_withLine (h : s.IsKeyed) (product quantity : Value) :
    (s.withLine product quantity).cart = s.cart ++ [s.nextLine product quantity] :=
  CartLine.put_of_fresh (h.fresh product quantity)

/-- A cart with the next line. -/
theorem withLine (h : s.IsKeyed) (product quantity : Value) : (s.withLine product quantity).IsKeyed where
  nodup := by
    rw [h.cart_withLine, List.map_append, List.nodup_append]
    refine ⟨h.nodup, by simp, ?_⟩
    rintro key hkey _ hnext rfl
    rw [List.map_singleton, List.mem_singleton] at hnext
    exact h.fresh product quantity (hnext ▸ hkey)
  issued line hline := by
    rw [h.cart_withLine] at hline
    rcases List.mem_append.mp hline with hold | hnew
    · obtain ⟨n, hn, hkey⟩ := h.issued line hold
      exact ⟨n, Nat.le_succ_of_le hn, hkey⟩
    · rw [List.mem_singleton.mp hnew]
      exact ⟨s.issued + 1, Nat.le_refl _, rfl⟩

end Shop.IsKeyed

/-! ## One trigger -/

namespace EmailAuthor

/-- A message was sent to the author of a published post. -/
def Delivered (site : Site) (r : Result) (after : Site) : Prop :=
  r.success = true ∧ ∃ mail : Mail, mail.IsToAuthor site.content ∧ after = site.withMail mail

/-- A message that is composed goes to the author. -/
theorem recipient_of_compose {s : Sender} {r : Request} {post : Post} {author : Author}
    {settings : Dict Value} {mail : Mail} (h : compose s r post author settings = .ok mail) :
    mail.recipient = author.email := by
  obtain ⟨address, -, h⟩ := Fault.ok_of_bind h
  obtain ⟨values, -, h⟩ := Fault.ok_of_bind h
  obtain ⟨template, -, h⟩ := Fault.ok_of_bind h
  cases h
  rfl

/-- An accepting mailer keeps the message. -/
theorem deliver_of_accepts {w : World Site} (h : w.site.mailer.accepts = true) (mail : Mail) :
    deliver mail w = (.ok true, { w with site := w.site.withMail mail }) := by
  rw [deliver, Mailer.send, if_pos h]
  rfl

/-- A mailer that does not accept the message leaves the site. -/
theorem deliver_of_not_accepts {w : World Site} (h : w.site.mailer.accepts = false) (mail : Mail) :
    deliver mail w = (.ok false, w) := by
  rw [deliver, Mailer.send, if_neg (Bool.eq_false_iff.mp h)]

/-- A post that is looked up and published is one of the published posts. -/
theorem mem_posts {content : Content} {number : Value} {post : Post}
    (h : (content.post? number).filter Post.isPublished = some post) :
    post ∈ content.posts ∧ post.isPublished = true := by
  obtain ⟨hfound, hpublished⟩ := Option.filter_eq_some_iff.mp h
  exact ⟨List.mem_of_find?_eq_some (Option.filter_eq_some_iff.mp hfound).1, hpublished⟩

/-- An author who is looked up has the number. -/
theorem mem_authors {content : Content} {number : Value} {author : Author}
    (h : (content.author? number).filter (·.email.truthy) = some author) :
    author ∈ content.authors ∧ author.number.isSameKey number = true := by
  have hfound : content.authors.find? (·.number.isSameKey number) = some author :=
    (Option.filter_eq_some_iff.mp h).1
  have hsame := List.find?_some hfound
  exact ⟨List.mem_of_find?_eq_some hfound, hsame⟩

/-- A message is the one that a request asks for: it goes to the author of a published post, and has been
composed with the settings that are found in the store. -/
structure Composes (s : Sender) (params : Params) (w : World Site) (r : Request) (post : Post)
    (author : Author) (settings : Dict Value) (mail : Mail) : Prop where
  request : Request.ofParams params = .ok r
  post_mem : post ∈ w.site.content.posts
  isPublished : post.isPublished = true
  author_mem : author ∈ w.site.content.authors
  isAuthor : author.number.isSameKey post.authorNumber = true
  settings_eq : (Settings.resolve w.now definition w.store).1 = .ok settings
  mail_eq : compose s r post author settings = .ok mail

/-- A message that was composed as a request asks for it was sent. -/
def Sent (s : Sender) (params : Params) (w : World Site) (r : Result) (after : Site) : Prop :=
  r.success = true ∧ ∃ request post author settings mail,
    Composes s params w request post author settings mail ∧ after = w.site.withMail mail

/-- Mail to an author fails and leaves the site, or the message that it asks for was sent. -/
theorem brings_sent (s : Sender) (params : Params) (w : World Site) :
    Brings (fun r => r.success = false) (Sent s params w) w.site (perform s params w) := by
  have hstops {v : World Site} (hsite : v.site = w.site) (message : String) :
      Brings (fun r => r.success = false) (Sent s params w) w.site
        ((pure (.failure message) : Action Site Result) v) :=
    .of_leaves (.ofExcept _ (.ok _)) hsite fun r h => by cases h; rfl
  refine .bind (.ofExcept _ _) rfl fun r v hrequest _ => ?_
  obtain ⟨hr, rfl⟩ := Prod.mk.inj hrequest
  refine .bind (fun w => .refl _ w) rfl fun read v hread _ => ?_
  obtain ⟨hread, rfl⟩ := Prod.mk.inj hread
  cases hread
  cases hpost : (w.site.content.post? (.int r.post)).filter Post.isPublished with
  | none => exact hstops rfl _
  | some post =>
    cases hauthor : (w.site.content.author? post.authorNumber).filter (·.email.truthy) with
    | none =>
      simp only [hauthor]
      exact hstops rfl _
    | some author =>
      simp only [hauthor]
      refine .bind (Settings.leaves_resolve _ definition) rfl fun settings v hsettings hsettled => ?_
      refine .bind (.ofExcept _ _) hsettled fun mail v hmail hsettled => ?_
      cases haccepts : v.site.mailer.accepts with
      | false =>
        rw [bind_of_ok (deliver_of_not_accepts haccepts mail)]
        exact hstops hsettled _
      | true =>
        rw [bind_of_ok (deliver_of_accepts haccepts mail)]
        obtain ⟨hmem, hpublished⟩ := mem_posts hpost
        obtain ⟨hauthored, hnumber⟩ := mem_authors hauthor
        refine .inr ⟨sent r author, rfl, rfl, r, post, author, settings, mail, ?_, ?_⟩
        · exact ⟨hr, hmem, hpublished, hauthored, hnumber,
            ok_of_tryStore hsettings, congrArg Prod.fst hmail⟩
        · rw [← hsettled]
          rfl

/-- Mail to an author fails and leaves the site, or a message was sent. -/
theorem brings_perform (s : Sender) (params : Params) (w : World Site) :
    Brings (fun r => r.success = false) (Delivered w.site) w.site (perform s params w) := by
  refine (brings_sent s params w).mono fun r after hsent => ?_
  obtain ⟨hsuccess, request, post, author, settings, mail, hcomposes, hafter⟩ := hsent
  refine ⟨hsuccess, mail, ⟨post, hcomposes.post_mem, hcomposes.isPublished, author,
    hcomposes.author_mem, hcomposes.isAuthor, recipient_of_compose hcomposes.mail_eq⟩, hafter⟩

end EmailAuthor

namespace AddToCart

/-- A line was added to the cart, which is a success just if the line can be told. -/
def Placed (site : Site) (e : Except Fault Result) (after : Site) : Prop :=
  ∃ product quantity, Shop.Sells site.shop.products product quantity ∧
    (Shop.Tells site.shop.products product quantity ↔ ∃ r, e = .ok r ∧ r.success = true) ∧
    after = { site with shop := site.shop.withLine product quantity }

/-- A request is for at least one item. -/
theorem one_le_quantity {params : Params} {r : Request} (h : Request.ofParams params = .ok r) :
    1 ≤ r.quantity := by
  obtain ⟨number, -, h⟩ := Fault.ok_of_bind h
  obtain ⟨product, -, h⟩ := Fault.ok_of_bind h
  obtain ⟨quantity, -, h⟩ := Fault.ok_of_bind h
  cases h
  exact Int.le_max_right quantity 1

/-- A line for a product of the catalogue is put into a cart that accepts it. -/
theorem addToCart_of_accepts {shop : Shop} {product : Value} {p : Product}
    (haccepts : shop.refusesCart = false) (hfound : shop.product? product = some p) (quantity : Value) :
    shop.addToCart product quantity =
      (some (shop.nextLine product quantity).key, shop.withLine product quantity) := by
  have hadmits : ¬ (shop.refusesCart || (shop.product? product).isNone) = true := by
    simp [haccepts, hfound]
  exact if_neg hadmits

/-- Nothing is put into a cart that refuses it. -/
theorem addToCart_of_refuses {shop : Shop} (hrefuses : shop.refusesCart = true) (product quantity : Value) :
    shop.addToCart product quantity = (none, shop) := by
  rw [Shop.addToCart, hrefuses, Bool.true_or, if_pos rfl]

/-- A line has a result, which is a success, just if it can be told. -/
theorem tells_iff_added {r : Request} {p : Product} {shop : Shop}
    (hfound : shop.product? (.int r.product) = some p) (after : Shop) (key : String) :
    Shop.Tells shop.products (.int r.product) (.int r.quantity) ↔
      ∃ result, (added r p after key).mapError Fault.number = .ok result ∧ result.success = true := by
  have htells : Shop.Tells shop.products (.int r.product) (.int r.quantity) ↔
      (Value.int r.quantity).isShort = true ∧ p.name.isShort = true := by
    refine and_congr_right fun _ => ⟨fun h => h p hfound, fun h p' hp' => ?_⟩
    cases hfound.symm.trans hp'
    exact h
  rw [htells, added]
  rcases Value.showsIf_decimalText r.quantity with ⟨hshort, text, htext⟩ | ⟨hlong, htext⟩
  · rcases Value.showsIf_shown p.name with ⟨hshort', name, hname⟩ | ⟨hlong', hname⟩
    · rw [htext, hname]
      exact ⟨fun _ => ⟨_, rfl, rfl⟩, fun _ => ⟨hshort, hshort'⟩⟩
    · rw [htext, hname]
      exact ⟨fun h => (nomatch hlong'.symm.trans h.2), fun ⟨_, h, _⟩ => nomatch h⟩
  · rw [htext]
    exact ⟨fun h => (nomatch hlong.symm.trans h.1), fun ⟨_, h, _⟩ => nomatch h⟩

/-- A request fails and leaves the shop, or it adds a line for a product that is sold. -/
theorem add_cases (r : Request) (site : Site) (hquantity : 1 ≤ r.quantity) :
    ((add r site.shop).2 = site.shop ∧ ∃ message, (add r site.shop).1 = .ok (.failure message)) ∨
      Placed site ((add r site.shop).1.mapError .number) { site with shop := (add r site.shop).2 } := by
  unfold add
  cases hfound : site.shop.product? (.int r.product) with
  | none => exact .inl ⟨rfl, _, rfl⟩
  | some p =>
    cases hpurchasable : p.purchasable.truthy with
    | false => exact .inl ⟨by simp [hpurchasable], _, by simp [hpurchasable]; rfl⟩
    | true =>
      cases hstock : p.inStock.truthy with
      | false => exact .inl ⟨by simp [hpurchasable, hstock], _, by simp [hpurchasable, hstock]; rfl⟩
      | true =>
        simp only [hpurchasable, hstock, Bool.not_true, Bool.false_eq_true, if_false]
        cases hrefuses : site.shop.refusesCart with
        | true =>
          rw [addToCart_of_refuses hrefuses]
          exact .inl ⟨rfl, _, rfl⟩
        | false =>
          rw [addToCart_of_accepts hrefuses hfound]
          have hsame := List.find?_some hfound
          have hsells : Shop.Sells site.shop.products (.int r.product) (.int r.quantity) :=
            ⟨⟨p, List.mem_of_find?_eq_some hfound, hsame, hpurchasable, hstock⟩, _, rfl, hquantity⟩
          exact .inr ⟨_, _, hsells, tells_iff_added hfound _ _, rfl⟩

/-- Adding to the cart leaves the site and is no success, or a line was added. -/
theorem perform_cases (params : Params) (w : World Site) :
    ((perform params w).2.site = w.site ∧ ∀ r, (perform params w).1 = .ok r → r.success = false) ∨
      Placed w.site (perform params w).1 (perform params w).2.site := by
  cases hr : Request.ofParams params with
  | error f =>
    rw [perform_of_error hr]
    exact .inl ⟨rfl, fun _ h => by cases h⟩
  | ok r =>
    rw [perform_of_ok hr]
    rcases add_cases r w.site (one_le_quantity hr) with ⟨hshop, message, hfailed⟩ | hplaced
    · refine .inl ⟨by rw [hshop], ?_⟩
      rw [hfailed]
      rintro _ ⟨rfl⟩
      rfl
    · exact .inr hplaced

end AddToCart

end Concierge
