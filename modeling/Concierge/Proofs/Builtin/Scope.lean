import Concierge.Proofs.Dispatch.Separate
import Concierge.Proofs.Executor.Spares
import Concierge.Proofs.Store.Keys
import Concierge.Trigger.Builtin

/-!
# The scopes of the built-in triggers

Mail to authors is about the content of the site and the mailer, the cart is about the shop, and showing
products about its catalogue, which the cart does not change. Beyond this each of them has its settings
and its budget. So the built-in triggers share no state. Mail to authors and lists of products look up
settings, and nothing that a built-in trigger does writes a row, so that all rows are spared while it acts.
-/

namespace Concierge

/-! ## What the triggers see -/

/-- What a trigger with an identifier sees of a site; the rest is left empty. -/
def builtinPart (id : String) (site : Site) : Site :=
  if id = EmailAuthor.definition.id then { site with shop := {} }
  else if id = AddToCart.definition.id then { shop := site.shop }
  else { shop := { products := site.shop.products } }

/-- The scope of a trigger with an identifier: its settings, and what it sees of the site. -/
def builtinScope (id : String) : Scope Site := .ofPart (· = Settings.keyOf id) (builtinPart id)

open Concierge.Action

variable {S : Scope Site} {params : Params} {c : Context} {s : EmailAuthor.Sender}

/-- Reading the settings of a definition changes nothing. -/
theorem Settings.leaves_resolve (S : Scope Site) (d : Definition) :
    Leaves S (Action.tryStore (keyOf d.id) fun now store => resolve now d store) :=
  .tryStore fun now store k _ => congrFun (store.view_get now (keyOf d.id)) k

/-- What is read of the settings of a definition depends on their row. -/
theorem Settings.inStep_resolve {d : Definition} (hsees : S.sees (keyOf d.id)) :
    InStep S Eq (Action.tryStore (keyOf d.id) fun now store => resolve now d store)
      (Action.tryStore (keyOf d.id) fun now store => resolve now d store) :=
  .ofKey (fun now store => .get (keyOf d.id) now store) (fun now => dependsOn_resolve now d) hsees

namespace EmailAuthor

/-- Mail to an author changes the mailer only. -/
theorem leaves_perform (h : ∀ (site : Site) mailer, S.site.r site { site with mailer }) :
    Leaves S (perform s params) := by
  refine (Leaves.ofExcept S _).bind fun r => .bind (fun w => .refl S w) fun w => ?_
  split
  · exact .ofExcept S (.ok _)
  · split
    · exact .ofExcept S (.ok _)
    · refine (Settings.leaves_resolve S definition).bind fun settings => ?_
      refine (Leaves.ofExcept S _).bind fun mail => .bind (fun w => ?_) fun accepted => ?_
      · exact ⟨rfl, rfl, fun _ _ => rfl, h w.site _⟩
      · split
        · exact .ofExcept S (.ok _)
        · exact .ofExcept S (.ok _)

/-- Mail to an author depends on the content, the mailer and the settings. -/
theorem inStep_perform (hsettings : S.sees (Settings.keyOf definition.id))
    (hsite : ∀ site site', S.site.r site site' → site'.content = site.content ∧
      site'.mailer = site.mailer ∧
        ∀ mailer, S.site.r { site with mailer } { site' with mailer }) :
    InStep S Eq (perform s params) (perform s params) := by
  refine (InStep.ofExcept (fun _ => rfl) _).bind fun r _ heq => ?_
  subst heq
  refine .bind (R := S.Alike) (fun w w' halike => ⟨halike, halike⟩) fun w w' halike => ?_
  rw [(hsite _ _ halike.site).1]
  split
  · exact .pure rfl
  · split
    · exact .pure rfl
    · refine (Settings.inStep_resolve hsettings).bind fun settings _ heq => ?_
      subst heq
      refine (InStep.ofExcept (fun _ => rfl) _).bind fun mail _ heq => ?_
      subst heq
      refine .bind (R := Eq) (fun w w' halike => ?_) fun accepted _ heq => ?_
      · obtain ⟨-, hmailer, hchanged⟩ := hsite _ _ halike.site
        unfold deliver
        rw [hmailer]
        exact ⟨rfl, halike.now, halike.isLost, halike.view, hchanged _⟩
      · subst heq
        split
        · exact .pure rfl
        · exact .pure rfl

end EmailAuthor

namespace AddToCart

/-- What is added changes the cart only. -/
theorem products_add (r : Request) (shop : Shop) : (add r shop).2.products = shop.products := by
  unfold add Shop.addToCart
  dsimp only
  split
  · rfl
  · split
    · rfl
    · split
      · rfl
      · split
        · rename_i hadded
          split at hadded
          · cases hadded
          · cases hadded
            rfl
        · rename_i hadded
          split at hadded
          · cases hadded
            rfl
          · cases hadded

/-- A request is carried out on the shop of the site. -/
theorem perform_of_ok {r : Request} (h : Request.ofParams params = .ok r) (w : World Site) :
    perform params w = ((add r w.site.shop).1.mapError .number,
      { w with site := { w.site with shop := (add r w.site.shop).2 } }) := by
  rw [perform, h]
  rfl

/-- Without a request nothing is done. -/
theorem perform_of_error {f : Fault} (h : Request.ofParams params = .error f) (w : World Site) :
    perform params w = (.error f, w) := by
  rw [perform, h]
  rfl

/-- Adding to the cart changes nothing but the cart. -/
theorem leaves_perform
    (h : ∀ (site : Site) shop, shop.products = site.shop.products → S.site.r site { site with shop }) :
    Leaves S (perform params) := by
  intro w
  cases hr : Request.ofParams params with
  | ok r =>
    rw [perform_of_ok hr]
    exact ⟨rfl, rfl, fun _ _ => rfl, h w.site _ (products_add r w.site.shop)⟩
  | error f =>
    rw [perform_of_error hr]
    exact .refl S w

/-- Adding to the cart depends on the shop. -/
theorem inStep_perform (hsite : ∀ site site', S.site.r site site' → site'.shop = site.shop ∧
      ∀ shop, S.site.r { site with shop } { site' with shop }) :
    InStep S Eq (perform params) (perform params) := by
  intro w w' halike
  obtain ⟨hshop, hchanged⟩ := hsite _ _ halike.site
  cases hr : Request.ofParams params with
  | ok r =>
    rw [perform_of_ok hr, perform_of_ok hr, hshop]
    exact ⟨.of_eq (fun _ => rfl) rfl, halike.now, halike.isLost, halike.view, hchanged _⟩
  | error f =>
    rw [perform_of_error hr, perform_of_error hr]
    exact ⟨rfl, halike⟩

end AddToCart

namespace ShowProducts

/-- What is shown depends on the catalogue of a shop. -/
theorem shown_congr {shop shop' : Shop} (h : shop'.products = shop.products) (hidesMissing : Bool)
    (numbers : List Nat) : shown shop' hidesMissing numbers = shown shop hidesMissing numbers := by
  unfold shown Shop.product?
  rw [h]

/-- Showing products changes nothing. -/
theorem leaves_perform (S : Scope Site) (params : Params) : Leaves S (perform params) := by
  refine (Leaves.ofExcept S _).bind fun listed => (Leaves.ofExcept S _).bind fun numbers => ?_
  split
  · exact .ofExcept S (.ok _)
  · refine (Settings.leaves_resolve S definition).bind fun settings => ?_
    exact (Leaves.ofExcept S _).bind fun most w => .refl S w

/-- Showing products depends on the catalogue and the settings. -/
theorem inStep_perform (hsettings : S.sees (Settings.keyOf definition.id))
    (hsite : ∀ site site', S.site.r site site' → site'.shop.products = site.shop.products) :
    InStep S Eq (perform params) (perform params) := by
  refine (InStep.ofExcept (fun _ => rfl) _).bind fun listed _ heq => ?_
  subst heq
  refine (InStep.ofExcept (fun _ => rfl) _).bind fun numbers _ heq => ?_
  subst heq
  split
  · exact .pure rfl
  · refine (Settings.inStep_resolve hsettings).bind fun settings _ heq => ?_
    subst heq
    refine (InStep.ofExcept (fun _ => rfl) _).bind fun most _ heq w w' halike => ?_
    subst heq
    have hshown := shown_congr (hsite _ _ halike.site)
      (Settings.isOn ((Dict.find? "hide_out_of_stock" settings).getD .null)) (numbers.take most)
    exact ⟨congrArg found hshown.symm, halike⟩

end ShowProducts

/-! ## The built-in triggers together -/

variable {x : Executor} {t : Trigger Site} {hasShop : Bool}

/-- A built-in trigger is one of three. -/
theorem mem_builtinTriggers (h : t ∈ builtinTriggers s hasShop) :
    t = EmailAuthor.trigger s ∨ t = AddToCart.trigger ∨ t = ShowProducts.trigger := by
  cases hasShop <;> simp [builtinTriggers] at h
  · exact .inl h
  · exact h

/-- The log has a key of its own. -/
def Executor.HasOwnLog (x : Executor) (c : Context) : Prop :=
  ∀ id, x.log.key ≠ Settings.keyOf id ∧ x.log.key ≠ Budget.keyOf id c.session

/-- Only the triggers of the shop see the shop. -/
theorem builtinPart_emailAuthor (site : Site) :
    builtinPart (EmailAuthor.trigger s).id site = { site with shop := {} } := if_pos rfl

/-- The cart is seen with the catalogue. -/
theorem builtinPart_addToCart (site : Site) :
    builtinPart AddToCart.trigger.id site = { shop := site.shop } :=
  (if_neg (by decide)).trans (if_pos rfl)

/-- Of the shop only the catalogue is shown. -/
theorem builtinPart_showProducts (site : Site) :
    builtinPart ShowProducts.trigger.id site = { shop := { products := site.shop.products } } :=
  (if_neg (by decide)).trans (if_neg (by decide))

/-- A built-in trigger leaves a scope in which neither mail nor a changed cart can be seen, if the
trigger sends mail or changes the cart. -/
theorem leaves_builtin (h : t ∈ builtinTriggers s hasShop)
    (hmail : t = EmailAuthor.trigger s → ∀ (site : Site) mailer, S.site.r site { site with mailer })
    (hcart : t = AddToCart.trigger → ∀ (site : Site) shop, shop.products = site.shop.products →
      S.site.r site { site with shop }) : Leaves S (t.perform params c) := by
  rcases mem_builtinTriggers h with rfl | rfl | rfl
  · exact (EmailAuthor.leaves_perform (hmail rfl)).bind fun _ => .ofExcept S (.ok _)
  · exact (AddToCart.leaves_perform (hcart rfl)).bind fun _ => .ofExcept S (.ok _)
  · exact (ShowProducts.leaves_perform S params).bind fun _ => .ofExcept S (.ok _)

/-- The log has a key of its own unless another one is chosen for it. -/
theorem Executor.hasOwnLog_of_default (h : x.log.key = "trigger_logs") (c : Context) :
    x.HasOwnLog c := fun id =>
  ⟨ne_of_getElem? (Audit.Log.getElem?_key h) (Settings.getElem?_keyOf id) (by decide),
    ne_of_getElem? (Audit.Log.getElem?_key h) (Budget.getElem?_keyOf id c.session) (by decide)⟩

/-- The built-in triggers share no state. -/
theorem separate_builtinTriggers (hlog : x.HasOwnLog c) :
    Dispatch.Separate x c builtinScope (builtinTriggers s hasShop) where
  settings t _ := rfl
  reads_no_budget t _ u _ _ := ne_of_getElem? (Budget.getElem?_keyOf t.id c.session)
    (Settings.getElem?_keyOf u.id) (by decide)
  reads_no_log t _ := (hlog t.id).1
  log_ne_budget t _ := (hlog t.id).2
  leaves t ht u hu hne params := by
    refine leaves_builtin ht ?_ ?_
    · rintro rfl site mailer
      show builtinPart u.id site = builtinPart u.id { site with mailer }
      rcases mem_builtinTriggers hu with rfl | rfl | rfl
      · exact absurd rfl hne
      · rw [builtinPart_addToCart, builtinPart_addToCart]
      · rw [builtinPart_showProducts, builtinPart_showProducts]
    · rintro rfl site shop hproducts
      show builtinPart u.id site = builtinPart u.id { site with shop }
      rcases mem_builtinTriggers hu with rfl | rfl | rfl
      · rw [builtinPart_emailAuthor, builtinPart_emailAuthor]
      · exact absurd rfl hne
      · rw [builtinPart_showProducts, builtinPart_showProducts, hproducts]
  within t ht params := leaves_builtin ht (fun _ _ _ => rfl) fun _ _ _ _ => rfl

/-- The built-in triggers depend on nothing outside their scopes. -/
theorem steady_builtinTriggers : Dispatch.Steady c builtinScope (builtinTriggers s hasShop) := by
  intro t ht params
  have hsettings : (builtinScope t.id).sees (Settings.keyOf t.id) := rfl
  have hsite {site site' : Site} (h : (builtinScope t.id).site.r site site') :
      builtinPart t.id site = builtinPart t.id site' := h
  rcases mem_builtinTriggers ht with rfl | rfl | rfl
  · refine (EmailAuthor.inStep_perform hsettings fun site site' halike => ?_).bind
      fun _ _ heq => .pure (by rw [heq])
    have hpart := hsite halike
    rw [builtinPart_emailAuthor, builtinPart_emailAuthor] at hpart
    obtain ⟨hcontent, hmailer, -⟩ := Site.mk.inj hpart
    refine ⟨hcontent.symm, hmailer.symm, fun mailer => ?_⟩
    show builtinPart _ _ = builtinPart _ _
    rw [builtinPart_emailAuthor, builtinPart_emailAuthor, hcontent]
  · refine (AddToCart.inStep_perform fun site site' halike => ?_).bind
      fun _ _ heq => .pure (by rw [heq])
    have hpart := hsite halike
    rw [builtinPart_addToCart, builtinPart_addToCart] at hpart
    obtain ⟨-, -, hshop⟩ := Site.mk.inj hpart
    refine ⟨hshop.symm, fun shop => ?_⟩
    show builtinPart _ _ = builtinPart _ _
    rw [builtinPart_addToCart, builtinPart_addToCart]
  · refine (ShowProducts.inStep_perform hsettings fun site site' halike => ?_).bind
      fun _ _ heq => .pure (by rw [heq])
    have hpart := hsite halike
    rw [builtinPart_showProducts, builtinPart_showProducts] at hpart
    exact congrArg (fun site => site.shop.products) hpart.symm

/-! ## Faults -/

/-- An error of a part of the library, by which a computation of a built-in trigger may end. -/
theorem Fault.ordinary_of_shape {α : Type} {e : Except ShapeError α} :
    ∀ f, e.mapError Fault.shape = .error f → f.isInterrupt = false :=
  fun _ => ordinary_of_mapError fun _ => rfl

/-- A number that cannot be read is no interrupt. -/
theorem Fault.ordinary_of_number {α : Type} {e : Except NumberError α} :
    ∀ f, e.mapError Fault.number = .error f → f.isInterrupt = false :=
  fun _ => ordinary_of_mapError fun _ => rfl

/-- A message that cannot be composed is no interrupt. -/
theorem EmailAuthor.ordinary_of_compose {s : Sender} {r : Request} {post : Post} {author : Author}
    {settings : Dict Value} :
    ∀ f, compose s r post author settings = .error f → f.isInterrupt = false := fun _ =>
  Fault.ordinary_of_bind Fault.ordinary_of_number fun _ _ =>
    Fault.ordinary_of_bind Fault.ordinary_of_shape fun _ _ =>
      Fault.ordinary_of_bind Fault.ordinary_of_shape fun _ _ h => by cases h

/-- Mail to an author ends with no interrupt. -/
theorem EmailAuthor.isOrdinary_perform (s : Sender) (params : Params) :
    (perform s params).IsOrdinary := by
  refine IsOrdinary.bind (.ofExcept fun f => ?_) fun r => .bind .get fun w => ?_
  · exact Fault.ordinary_of_bind Fault.ordinary_of_shape fun _ _ =>
      Fault.ordinary_of_bind Fault.ordinary_of_number fun _ _ =>
        Fault.ordinary_of_bind Fault.ordinary_of_number fun _ _ =>
          Fault.ordinary_of_bind Fault.ordinary_of_number fun _ _ h => by cases h
  · split
    · exact .pure _
    · split
      · exact .pure _
      · refine IsOrdinary.bind (.tryStore fun _ _ _ => Settings.ordinary_of_resolve) fun settings => ?_
        refine IsOrdinary.bind (.ofExcept ordinary_of_compose) fun mail => ?_
        refine IsOrdinary.bind (fun _ _ h => by cases h) fun accepted => ?_
        split
        · exact .pure _
        · exact .pure _

/-- Adding to the cart ends with no interrupt. -/
theorem AddToCart.isOrdinary_perform (params : Params) : (perform params).IsOrdinary := by
  refine IsOrdinary.bind (.ofExcept fun f => ?_) fun r => .bind .get fun w =>
    .bind (fun _ _ h => by cases h) fun _ => .ofExcept Fault.ordinary_of_number
  exact Fault.ordinary_of_bind Fault.ordinary_of_shape fun _ _ =>
    Fault.ordinary_of_bind Fault.ordinary_of_number fun _ _ =>
      Fault.ordinary_of_bind Fault.ordinary_of_number fun _ _ h => by cases h

/-- Showing products ends with no interrupt. -/
theorem ShowProducts.isOrdinary_perform (params : Params) : (perform params).IsOrdinary := by
  refine IsOrdinary.bind (.ofExcept Fault.ordinary_of_shape) fun listed => ?_
  refine IsOrdinary.bind (.ofExcept Fault.ordinary_of_number) fun numbers => ?_
  split
  · exact .pure _
  · refine IsOrdinary.bind (.tryStore fun _ _ _ => Settings.ordinary_of_resolve) fun settings => ?_
    refine IsOrdinary.bind (.ofExcept Fault.ordinary_of_number) fun most => ?_
    exact IsOrdinary.bind .get fun w => .pure _

/-- The built-in triggers raise no interrupts. -/
theorem isOrdinary_builtin (h : t ∈ builtinTriggers s hasShop) : t.IsOrdinary c := by
  rcases mem_builtinTriggers h with rfl | rfl | rfl
  · exact ⟨fun _ h => (by cases h), fun params =>
      (EmailAuthor.isOrdinary_perform s params).bind fun _ => .pure _⟩
  · exact ⟨fun _ h => (by cases h), fun params =>
      (AddToCart.isOrdinary_perform params).bind fun _ => .pure _⟩
  · exact ⟨fun _ h => (by cases h), fun params =>
      (ShowProducts.isOrdinary_perform params).bind fun _ => .pure _⟩

/-! ## What they leave of the store -/

variable {keys : String → Prop} {w : World Site}

/-- Reading the settings of a definition spares all rows. -/
theorem Settings.keeps_resolve (w : World Site) (d : Definition) : Keeps (w.Spares keys)
    (Action.tryStore (keyOf d.id) fun now store => resolve now d store) :=
  keeps_tryStore fun _ hw' _ => hw'.touch (keyOf d.id)

/-- Mail to an author spares all rows. -/
theorem EmailAuthor.keeps_perform (s : Sender) (w : World Site) :
    Keeps (w.Spares keys) (perform s params) := by
  refine (keeps_ofExcept _).bind fun r => Keeps.get.bind fun read => ?_
  split
  · exact .pure _
  · split
    · exact .pure _
    · refine (Settings.keeps_resolve w definition).bind fun settings => ?_
      refine (keeps_ofExcept _).bind fun mail => ?_
      have hdeliver : Keeps (w.Spares keys) (deliver mail) :=
        fun _ hw' => ⟨hw'.le, hw'.isKeyed, hw'.view⟩
      refine hdeliver.bind fun accepted => ?_
      split
      · exact .pure _
      · exact .pure _

/-- Adding to the cart spares all rows. -/
theorem AddToCart.keeps_perform (w : World Site) : Keeps (w.Spares keys) (perform params) := by
  intro w' hw'
  cases hr : Request.ofParams params with
  | ok r =>
    rw [perform_of_ok hr]
    exact ⟨hw'.le, hw'.isKeyed, hw'.view⟩
  | error f =>
    rw [perform_of_error hr]
    exact hw'

/-- Showing products spares all rows. -/
theorem ShowProducts.keeps_perform (w : World Site) : Keeps (w.Spares keys) (perform params) := by
  refine (keeps_ofExcept _).bind fun listed => (keeps_ofExcept _).bind fun numbers => ?_
  split
  · exact .pure _
  · refine (Settings.keeps_resolve w definition).bind fun settings => ?_
    exact (keeps_ofExcept _).bind fun most => Keeps.get.bind fun _ => .pure _

/-- The built-in triggers only read the store. -/
theorem onlyReads_builtin {s : EmailAuthor.Sender} {hasShop : Bool} {t : Trigger Site}
    (h : t ∈ builtinTriggers s hasShop) : t.OnlyReads := by
  intro params c w hkeyed
  have hspares : Keeps (w.Spares fun _ => True) (t.perform params c) := by
    rcases mem_builtinTriggers h with rfl | rfl | rfl
    · exact (EmailAuthor.keeps_perform s w).bind fun _ => .pure _
    · exact (AddToCart.keeps_perform w).bind fun _ => .pure _
    · exact (ShowProducts.keeps_perform w).bind fun _ => .pure _
  exact hspares w (.refl _ hkeyed)

end Concierge
