import Concierge.Proofs.Builtin.Dispatch
import Concierge.Proofs.Builtin.Scope
import Concierge.Proofs.Clean.Number
import Concierge.Proofs.Dispatch.Allowance
import Concierge.Proofs.Executor.Reach

/-!
# Lists of products

A directive that lists products is printed, found in a text, cleaned, cut at its commas and read again. On
its way no number is lost, repeated or moved. So it shows the cards of the products that were listed, in the
order in which they were listed first, as far as the settings allow them.
-/

namespace Concierge

namespace ShowProducts

/-! ## The list -/

/-- Numbers as they are listed in a directive. -/
def listText (ns : List Nat) : String := String.intercalate "," (ns.map toString)

/-- The numbers of a list without zeros, each where it stands first. -/
def distinct (ns : List Nat) : List Nat := (ns.filter (· ≠ 0)).eraseDups

/-- The characters of a list are those of its numbers, with commas between them. -/
theorem toList_listText (ns : List Nat) :
    (listText ns).toList = [','].intercalate (ns.map fun n => (toString n).toList) := by
  rw [listText, String.toList_intercalate, List.map_map]
  rfl

/-- A list holds digits and commas. -/
theorem mem_listText {ns : List Nat} {c : Char} (h : c ∈ (listText ns).toList) :
    c = ',' ∨ c.isDigit = true := by
  rw [toList_listText] at h
  rcases Text.mem_intercalate h with rfl | ⟨piece, hpiece, hc⟩
  · exact .inl rfl
  · obtain ⟨n, -, rfl⟩ := List.mem_map.mp hpiece
    exact .inr (Text.isDigit_of_mem_toString hc)

/-- A character that is neither a digit nor a comma does not stand in a list. -/
theorem not_mem_listText {mark : Char} (hcomma : mark ≠ ',') (hdigit : mark.isDigit = false)
    (ns : List Nat) : mark ∉ (listText ns).toList := by
  intro hmem
  rcases mem_listText hmem with heq | hisDigit
  · exact hcomma heq
  · rw [hisDigit] at hdigit
    cases hdigit

/-- The characters of a list are visible. -/
theorem isVisible_listText (ns : List Nat) : ∀ c ∈ (listText ns).toList, Text.IsVisible c := by
  intro c hc
  rcases mem_listText hc with rfl | hdigit
  · exact ⟨by decide, by decide⟩
  · exact Text.isVisible_of_isDigit hdigit

/-- A list with members is not empty. -/
theorem listText_ne_nil {ns : List Nat} (hne : ns ≠ []) : (listText ns).toList ≠ [] := by
  cases ns with
  | nil => exact absurd rfl hne
  | cons n ns =>
    have hdigits : (toString n).toList ≠ [] := by
      rw [Nat.toString_eq_repr, Nat.toList_repr]
      exact Nat.toDigits_ne_nil
    rw [toList_listText, List.map_cons, Text.intercalate_cons]
    exact List.append_ne_nil_of_left_ne_nil hdigits _

/-- Cleaning leaves a list as it is. -/
theorem line_listText (ns : List Nat) : Clean.line (.text (listText ns)) = .ok (listText ns) :=
  Clean.line_text_eq_self_iff.mpr (Clean.isLine_of_isVisible (isVisible_listText ns)
    (not_mem_listText (by decide) (by decide) ns))

/-- Adding numbers to a list adds those that are not zero and not in the list, each where it stands
first. -/
theorem foldl_addNumber (ns numbers : List Nat) :
    ns.foldl addNumber numbers =
      numbers ++ ((ns.filter (· ≠ 0)).filter (· ∉ numbers)).eraseDups := by
  induction ns generalizing numbers with
  | nil => exact (List.append_nil numbers).symm
  | cons n ns ih =>
    rw [List.foldl_cons, addNumber]
    by_cases hzero : n = 0
    · rw [if_pos (.inl hzero), ih, List.filter_cons_of_neg (by simpa using hzero)]
    · rw [List.filter_cons_of_pos (by simpa using hzero)]
      by_cases hmem : n ∈ numbers
      · rw [if_pos (.inr hmem), ih, List.filter_cons_of_neg (by simpa using hmem)]
      · have hnew : ¬ (n = 0 ∨ n ∈ numbers) := by
          rintro (h | h)
          · exact hzero h
          · exact hmem h
        -- What follows is looked for among the numbers and the new one.
        have hrest : (ns.filter (· ≠ 0)).filter (· ∉ numbers ++ [n]) =
            ((ns.filter (· ≠ 0)).filter (· ∉ numbers)).filter fun m => !m == n := by
          rw [List.filter_filter (l := ns.filter (· ≠ 0))]
          refine List.filter_congr fun m _ => Bool.eq_iff_iff.mpr ?_
          simp [and_comm]
        rw [if_neg hnew, ih, List.filter_cons_of_pos (by simpa using hmem), List.eraseDups_cons, hrest,
          List.append_assoc, List.singleton_append]

/-- A list of numbers that are not too long is read as its distinct numbers. -/
theorem numbersOf_listText {ns : List Nat} (hne : ns ≠ [])
    (hshort : ∀ n ∈ ns, (toString n).length ≤ digitLimit) :
    numbersOf (.text (listText ns)) = .ok (distinct ns) := by
  have hpieces : Text.split (· == ',') (listText ns).toList = ns.map fun n => (toString n).toList := by
    rw [toList_listText]
    refine Text.split_intercalate (fun h => hne (List.map_eq_nil_iff.mp h)) fun piece hpiece => ?_
    obtain ⟨n, -, rfl⟩ := List.mem_map.mp hpiece
    exact Text.not_mem_of_isDigit (fun _ => Text.isDigit_of_mem_toString) (by decide)
  have hread : (ns.map fun n => (toString n).toList).mapM Clean.leadingNumber = .ok ns := by
    clear hne hpieces
    induction ns with
    | nil => rfl
    | cons n ns ih =>
      have hfirst := Clean.leadingNumber_toString (hshort n List.mem_cons_self)
      have hothers := ih fun m hm => hshort m (List.mem_cons_of_mem n hm)
      rw [List.map_cons, List.mapM_cons, hfirst, hothers]
      rfl
  have hfold : ns.foldl addNumber [] = distinct ns := by
    rw [foldl_addNumber, List.nil_append, distinct]
    simp
  have hshown : (Value.text (listText ns)).shown = .ok (listText ns) := rfl
  rw [numbersOf, hshown]
  dsimp only [Except.bind, Bind.bind]
  rw [hpieces, hread]
  exact congrArg Except.ok hfold

/-- Only a list of zeros has no distinct numbers. -/
theorem distinct_eq_nil_iff (ns : List Nat) : distinct ns = [] ↔ ∀ n ∈ ns, n = 0 := by
  have hnone : (ns.filter (· ≠ 0)).eraseDups = [] ↔ ns.filter (· ≠ 0) = [] := by
    simp only [List.eq_nil_iff_forall_not_mem, List.mem_eraseDups]
  rw [distinct, hnone, List.filter_eq_nil_iff]
  simp

/-! ## The products -/

/-- A product is on offer: it is published, and it is in stock if products out of stock are hidden. -/
def IsOffered (hidesMissing : Bool) (p : Product) : Prop :=
  p.status = .text "publish" ∧ (hidesMissing = true → p.inStock.truthy = true)

instance (hidesMissing : Bool) (p : Product) : Decidable (IsOffered hidesMissing p) :=
  inferInstanceAs (Decidable (_ ∧ _))

/-- The products of a shop with some numbers that are on offer, in the order of the numbers. -/
def offered (shop : Shop) (hidesMissing : Bool) (ids : List Nat) : List Product :=
  (ids.filterMap fun n : Nat => shop.product? (.int n)).filter (IsOffered hidesMissing ·)

/-- The products on offer are shown. -/
theorem shown_eq_offered (shop : Shop) (hidesMissing : Bool) (ids : List Nat) :
    shown shop hidesMissing ids = offered shop hidesMissing ids := by
  refine List.filter_congr fun p _ => Bool.eq_iff_iff.mpr ?_
  cases hidesMissing <;> simp [isShown, IsOffered, publishedStatus]

/-- What a directive comes to that lists some numbers and for which some products are shown. -/
structure Shows (ns : List Nat) (products : List Product) (r : Result) : Prop where
  success_iff : r.success = true ↔ products ≠ []
  cards : products ≠ [] → r.data = [("products", .list (products.map card))]
  failure : products = [] → r = .failure
    (if ∀ n ∈ ns, n = 0 then "No product IDs provided." else "No valid products found.")

/-- What is found for a list that is not of zeros only. -/
theorem shows_found {ns : List Nat} (hsome : ¬ ∀ n ∈ ns, n = 0) (products : List Product) :
    Shows ns products (found products) := by
  cases products with
  | nil => exact ⟨by decide, fun h => absurd rfl h, fun _ => by rw [if_neg hsome]; rfl⟩
  | cons p products => exact ⟨by simp [found], fun _ => rfl, nofun⟩

/-- What is found has a message. -/
theorem message_found_ne (products : List Product) : (found products).message ≠ "" := by
  unfold found
  split
  · decide
  · intro h
    have hfront := congrArg (fun message : String => message.toList.head?) h
    simp at hfront

variable {x : Executor} {c : Context} {w : World Site} {settings : Dict Value} {most : Nat} {ns : List Nat}

/-- How many products are shown at most. -/
theorem mostOf_eq (hmost : Clean.number ((Dict.find? "max_products" settings).getD .null) = .ok most) :
    mostOf settings = .ok (if most = 0 then 10 else most) := by
  rw [mostOf, hmost]
  rfl

/-- The arguments of a directive that lists numbers. -/
def listArguments (ns : List Nat) : Params := [("product_list", .text (listText ns))]

/-- The products that a directive may show: those of the distinct numbers, up to the most that are allowed,
which are ten if it is not told how many. -/
def allowed (shop : Shop) (settings : Dict Value) (most : Nat) (ns : List Nat) : List Product :=
  offered shop (Settings.isOn ((Dict.find? "hide_out_of_stock" settings).getD .null))
    ((distinct ns).take (if most = 0 then 10 else most))

/-- Acting on a list shows the products that are allowed. -/
theorem perform_listArguments (hne : ns ≠ []) (hshort : ∀ n ∈ ns, (toString n).length ≤ digitLimit)
    (hpresent : w.isLost = false) (hsettings : (Settings.resolve w.now definition w.store).1 = .ok settings)
    (hmost : Clean.number ((Dict.find? "max_products" settings).getD .null) = .ok most) :
    ∃ r, (perform (listArguments ns) w).1 = .ok r ∧ r.message ≠ "" ∧
      Shows ns (allowed w.site.shop settings most ns) r := by
  have hlisted : (Action.ofExcept (((Value.dict (listArguments ns)).field "product_list").mapError
      Fault.shape) : Action Site Value) w = (.ok (.text (listText ns)), w) := rfl
  have hnumbers : (Action.ofExcept ((numbersOf (.text (listText ns))).mapError Fault.number) :
      Action Site (List Nat)) w = (.ok (distinct ns), w) := by
    rw [numbersOf_listText hne hshort]
    rfl
  rw [perform, bind_of_ok hlisted, bind_of_ok hnumbers]
  by_cases hzeros : ∀ n ∈ ns, n = 0
  · have hnone : distinct ns = [] := (distinct_eq_nil_iff ns).mpr hzeros
    have hempty : allowed w.site.shop settings most ns = [] := by
      rw [allowed, hnone, List.take_nil]
      rfl
    rw [hnone, hempty]
    refine ⟨_, rfl, by decide, by simp, fun h => absurd rfl h, fun _ => ?_⟩
    rw [if_pos hzeros]
  · have hsome : (distinct ns).isEmpty = false := by
      rw [List.isEmpty_eq_false_iff]
      exact mt (distinct_eq_nil_iff ns).mp hzeros
    have hresolved : (Action.tryStore (Settings.keyOf definition.id) fun now store =>
        Settings.resolve now definition store) w =
          (.ok settings, { w with store := (Settings.resolve w.now definition w.store).2 }) :=
      Action.tryStore_eq hpresent (Prod.ext hsettings rfl)
    refine ⟨found (allowed w.site.shop settings most ns), ?_, message_found_ne _, shows_found hzeros _⟩
    rw [hsome, if_neg Bool.false_ne_true, bind_of_ok hresolved, mostOf_eq hmost, allowed,
      ← shown_eq_offered]
    rfl

/-! ## The directive -/

/-- A directive that lists numbers. -/
def written (hne : ns ≠ []) : WrittenDirective where
  kind := .showProducts
  tag := "SHOW_PRODUCTS".toList
  args := [(listText ns).toList]
  spells := by decide
  isArguments := .last (listText_ne_nil hne) (not_mem_listText (by decide) (by decide) ns)
  plain a ha := by
    obtain rfl := List.mem_singleton.mp ha
    exact not_mem_listText (by decide) (by decide) ns

/-- The text of the directive. -/
theorem text_written (hne : ns ≠ []) :
    String.ofList (Document.text [.directive (written hne)]) =
      "[SHOW_PRODUCTS:" ++ String.intercalate "," (ns.map toString) ++ "]" := by
  rw [← String.toList_inj, String.toList_ofList, String.toList_append, String.toList_append]
  show Command.commandText "SHOW_PRODUCTS".toList [(listText ns).toList] ++ [] = _
  rw [List.append_nil]
  rfl

/-- Nothing but the directive is found in its text. -/
theorem find_written {sender : EmailAuthor.Sender} {r : Registry Site}
    (hall : ((Registry.all : Registry.Use Site _) r).1 = .ok (builtinTriggers sender true))
    (order : DispatchOrder) (hne : ns ≠ []) :
    (Dispatch.findIn order
      (.text ("[SHOW_PRODUCTS:" ++ String.intercalate "," (ns.map toString) ++ "]")) r).1 =
      .ok [(written hne).found sender 0] := by
  have hkinds : Kind.all.flatMap (Document.directivesOf sender [.directive (written hne)]) =
      [(written hne).found sender 0] := rfl
  have hfound := Dispatch.find_document sender order [.directive (written hne)] hall
  rw [text_written, hkinds] at hfound
  refine hfound.trans (congrArg Except.ok ?_)
  cases order with
  | registry => rfl
  | position => exact List.mergeSort_singleton _

/-- Nothing is missing in the arguments of the directive. -/
theorem firstMissing_listArguments (hne : ns ≠ []) :
    ParamCheck.firstMissing definition.required (listArguments ns) = none := by
  have hpresent : (Value.text (listText ns)).isBlank = false := by
    cases hchars : (listText ns).toList with
    | nil => exact absurd hchars (listText_ne_nil hne)
    | cons c cs =>
      have hvisible := isVisible_listText ns c (hchars ▸ List.mem_cons_self)
      rw [Value.isBlank, Text.isBlankText, hchars, List.all_cons, hvisible.isBlank_eq, Bool.false_and]
  refine List.find?_eq_none.mpr fun name hname => ?_
  obtain rfl := List.mem_singleton.mp hname
  exact Bool.eq_false_iff.mp hpresent

/-- Cleaning leaves the arguments of the directive as they are. -/
theorem arguments_listArguments (ns : List Nat) :
    Clean.arguments (listArguments ns) = .ok (listArguments ns) := by
  have hline : Category.ofName "product_list" = .line := by decide +kernel
  have hclean : Clean.argument "product_list" (.text (listText ns)) = .ok (.text (listText ns)) := by
    rw [Clean.argument, hline, Category.clean, line_listText]
    rfl
  rw [Clean.arguments, listArguments, List.mapM_cons, List.mapM_nil]
  dsimp only
  rw [hclean]
  rfl

/-- The directive is executed within its budget: it shows the products that are allowed. -/
theorem execute_listArguments (houtage : x.outage.IsOrdinary)
    (henabled : (x.isEnabled definition w).1 = .ok true)
    (hwithin : (x.isWithinBudget definition c w).1 = .ok true)
    (hsettings : (Settings.resolve w.now definition w.store).1 = .ok settings)
    (hmost : Clean.number ((Dict.find? "max_products" settings).getD .null) = .ok most) (hne : ns ≠ [])
    (hshort : ∀ n ∈ ns, (toString n).length ≤ digitLimit) :
    ∃ r, (x.execute trigger (.dict (listArguments ns)) c w).1 = .ok r ∧
      Shows ns (allowed w.site.shop settings most ns) r := by
  have hreaches : x.Reaches trigger (.dict (listArguments ns)) c w (listArguments ns)
      (listArguments ns) (x.admission trigger c w).2 :=
    { admitted := Prod.ext (Executor.admission_of_checks henabled rfl hwithin) rfl
      given_eq := rfl
      complete := firstMissing_listArguments hne
      cleaned_eq := arguments_listArguments ns }
  have hpresent := Executor.isLost_of_isEnabled henabled
  have hbegun := (hreaches.settings_eq).trans hsettings
  obtain ⟨r, hperform, hmessage, hshows⟩ := perform_listArguments hne hshort
    (hreaches.isLost_eq.trans hpresent) hbegun hmost
  rw [hreaches.site_eq] at hshows
  refine ⟨r, ?_, hshows⟩
  have hanswer : (trigger.perform (listArguments ns) c (x.admission trigger c w).2).1 =
      .ok (.ofResult r) := by
    have hrun : trigger.perform (listArguments ns) c = perform (listArguments ns) >>= fun r =>
        pure (.ofResult r) := rfl
    rw [hrun, bind_of_ok (Prod.ext hperform rfl)]
    rfl
  have hbuiltin : trigger ∈ builtinTriggers {} true := by simp [builtinTriggers]
  rw [hreaches.execute_fst houtage (isOrdinary_builtin hbuiltin), hanswer, Executor.resultOf,
    Executor.conclusion, Answer.normalized_ofResult, if_neg hmessage]
  rfl

end ShowProducts

/-- A directive alone is executed, and reported on. -/
theorem Dispatch.executeAll_singleton {σ : Type} {x : Executor} {c : Context} {d : Directive σ}
    {w : World σ} {r : Result} (h : (x.execute d.trigger (.dict d.params) c w).1 = .ok r) :
    (executeAll x c [d] w).1 = .ok [.ofResult d.trigger.definition r d.start] := by
  have hone : executeOne x c d w =
      (.ok (.ofResult d.trigger.definition r d.start), (x.execute d.trigger (.dict d.params) c w).2) :=
    bind_of_ok (Prod.ext h rfl)
  rw [executeAll, bind_of_ok hone]
  rfl

namespace Assistant

open Concierge.ShowProducts

variable {sender : EmailAuthor.Sender} {s : Assistant Site} {c : Context} {settings : Dict Value}
  {most : Nat} {ns : List Nat}

/-- Dispatching a directive that lists numbers gives one report. While the trigger is switched on and its
budget is not used up, the directive shows the products that are on offer among the first distinct numbers,
as many as the settings allow. It succeeds with their cards if there are any, and otherwise tells whether
all numbers are zeros. -/
theorem dispatch_shows_products
    (hall : ((Registry.all : Registry.Use Site _) s.registry).1 = .ok (builtinTriggers sender true))
    (houtage : s.executor.outage.IsOrdinary)
    (henabled : (s.executor.isEnabled ShowProducts.definition s.world).1 = .ok true)
    (hwithin : (s.executor.isWithinBudget ShowProducts.definition c s.world).1 = .ok true)
    (hsettings : (Settings.resolve s.world.now ShowProducts.definition s.world.store).1 = .ok settings)
    (hmost : Clean.number ((Dict.find? "max_products" settings).getD .null) = .ok most) (hne : ns ≠ [])
    (hshort : ∀ n ∈ ns, (toString n).length ≤ 4300) :
    let text := "[SHOW_PRODUCTS:" ++ String.intercalate "," (ns.map toString) ++ "]"
    let hidesMissing := Settings.isOn ((Dict.find? "hide_out_of_stock" settings).getD .null)
    let ids := (distinct ns).take (if most = 0 then 10 else most)
    ∃ r, (dispatch (.text text) c s).1 = .ok [.ofResult ShowProducts.definition r] ∧
      Shows ns (offered s.world.site.shop hidesMissing ids) r := by
  intro text hidesMissing ids
  obtain ⟨r, hexecute, hshows⟩ :=
    execute_listArguments houtage henabled hwithin hsettings hmost hne hshort
  have hfind := find_written hall s.order hne
  have hparams : ((written hne).found sender 0).params = listArguments ns :=
    congrArg (fun text => [("product_list", Value.text text)]) String.ofList_toList
  have hrun := dispatch_of_found (Prod.ext hfind rfl) c
  refine ⟨r, (congrArg Prod.fst hrun).trans ?_, hshows⟩
  refine Dispatch.executeAll_singleton (d := (written hne).found sender 0) ?_
  rw [hparams]
  exact hexecute

/-- Of a list with a zero, a repeated number and one that no product has, two products of the sample site are
shown, in the order of the list. -/
theorem dispatch_shows_two_products :
    let s := sample {} (builtinTriggers {} true) .position
    let c : Context := { timestamp := Timestamp.universal 0 }
    ∃ r poster mug, (dispatch (.text "[SHOW_PRODUCTS:15,0,12,15,31]") c s).1 =
        .ok [.ofResult ShowProducts.definition r] ∧
      Site.sampleShop.product? (.int 15) = some poster ∧ Site.sampleShop.product? (.int 12) = some mug ∧
      r.success = true ∧ r.data = [("products", .list [card poster, card mug])] := by
  intro s c
  have hall : ((Registry.all : Registry.Use Site _) s.registry).1 = .ok (builtinTriggers {} true) :=
    Registry.all_builtins (by decide)
  have houtage : s.executor.outage.IsOrdinary := by rintro f (h | h) <;> cases h
  have henabled : (s.executor.isEnabled ShowProducts.definition s.world).1 = .ok true := by decide +kernel
  have hwithin : (s.executor.isWithinBudget ShowProducts.definition c s.world).1 = .ok true := by
    decide +kernel
  have hsettings : (Settings.resolve s.world.now ShowProducts.definition s.world.store).1 =
      .ok ShowProducts.definition.defaults := rfl
  have hmost : Clean.number ((Dict.find? "max_products" ShowProducts.definition.defaults).getD .null) =
      .ok 10 := rfl
  have hshort : ∀ n ∈ [15, 0, 12, 15, 31], (toString n).length ≤ 4300 := by decide +kernel
  obtain ⟨r, hdispatch, hshows⟩ :=
    dispatch_shows_products hall houtage henabled hwithin hsettings hmost (by decide) hshort
  have htext : "[SHOW_PRODUCTS:" ++ String.intercalate "," ([15, 0, 12, 15, 31].map toString) ++ "]" =
      "[SHOW_PRODUCTS:15,0,12,15,31]" := by decide +kernel
  rw [htext] at hdispatch
  have hids : (distinct [15, 0, 12, 15, 31]).take (if 10 = 0 then 10 else 10) = [15, 12, 31] := by decide
  rw [hids] at hshows
  have hoffered : offered s.world.site.shop false [15, 12, 31] ≠ [] := by decide +kernel
  exact ⟨r, _, _, hdispatch, rfl, rfl, hshows.success_iff.mpr hoffered, hshows.cards hoffered⟩

end Assistant

end Concierge
