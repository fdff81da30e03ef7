import Concierge.Completion.Client
import Concierge.Proofs.World.Action

/-!
# What an exchange comes to

An exchange answers with what one of its attempts comes to, as long as the waits between them can be
computed. An attempt that reaches the service comes to a completion, or to an error of the completion. There
are two exceptions: bodies that are nested too deeply to be read, and refusals whose body is no text in the
charset that they name. All of this holds for any library that receives the responses.
-/

namespace Concierge

/-! ## Values that are read and written -/

namespace Json

/-- The digits at the front of a text are digits. -/
theorem lt_of_mem_digits {cs : List Char} : ∀ d ∈ (digits cs).1, d < 10 := by
  intro d hd
  obtain ⟨c, hc, rfl⟩ := List.mem_map.mp hd
  have hdigit : isAsciiDigit c = true := List.all_eq_true.mp List.all_takeWhile c hc
  have hbounds : '0'.toNat ≤ c.toNat ∧ c.toNat ≤ '9'.toNat := by
    rw [isAsciiDigit, Bool.and_eq_true, decide_eq_true_eq, decide_eq_true_eq] at hdigit
    exact hdigit
  have hzero : '0'.toNat = 48 := rfl
  have hnine : '9'.toNat = 57 := rfl
  omega

/-- The digits of a number before its point are digits. -/
theorem lt_of_mem_wholeDigits {cs : List Char} : ∀ d ∈ (wholeDigits cs).1, d < 10 := by
  unfold wholeDigits
  split
  · exact List.forall_mem_singleton.mpr (by decide)
  · exact lt_of_mem_digits

/-- A number that is read is short. -/
theorem isShort_of_number {negative : Bool} {cs rest : List Char} {v : Value}
    (h : number? negative cs = some (v, rest)) : v.isShort = true := by
  unfold number? at h
  dsimp only at h
  split at h
  · cases h
  · split at h
    · split at h
      · rename_i n hread
        have hshort : Concierge.isShort n = true := 
          Reading.isShort_of_boundedNat lt_of_mem_wholeDigits hread
        cases h
        rw [Value.isShort]
        split
        · rw [isShort_iff, Int.natAbs_neg, ← isShort_iff]
          exact hshort
        · exact hshort
      · cases h
    · cases h
      rfl

/-- A value that is neither a list nor a dictionary is short when it is read. -/
theorem isShort_of_scalar {cs rest : List Char} {v : Value} (h : scalar? cs = some (v, rest)) :
    v.isShort = true := by
  unfold scalar? at h
  split at h
  · rename_i found hfound
    cases h
    obtain ⟨⟨name, v'⟩, hname, hvalue⟩ := Option.map_eq_some_iff.mp hfound
    cases hvalue
    have hall : ∀ e ∈ names, e.2.isShort = true := by decide
    exact hall _ (List.mem_of_find?_eq_some hname)
  · split at h
    · obtain ⟨_, -, hvalue⟩ := Option.map_eq_some_iff.mp h
      cases hvalue
      rfl
    · exact isShort_of_number h
    · exact isShort_of_number h

/-- A dictionary of short values is short. -/
theorem isShort_ofEntries {es : List (String × Value)} (h : ∀ e ∈ es, e.2.isShort = true) :
    (Value.dict (Dict.ofEntries es)).isShort = true := by
  have hmerge (d : Dict Value) (hd : (Value.dict d).isShort = true) :
      (Value.dict (Dict.merge d es)).isShort = true := by
    induction es generalizing d with
    | nil => exact hd
    | cons e es ih =>
      obtain ⟨hfirst, hrest⟩ := List.forall_mem_cons.mp h
      exact ih hrest _ (Value.isShort_dict_set hd hfirst e.1)
  exact hmerge [] rfl

/-- What is read is short, whatever it is made of. The recursion of the reader is bounded by its fuel. -/
theorem isShort_of_value (fuel : Nat) :
    (∀ depth cs v rest, value depth fuel cs = .ok (v, rest) → v.isShort = true) ∧
      (∀ depth cs vs rest, items depth fuel cs = .ok (vs, rest) → ∀ v ∈ vs, v.isShort = true) ∧
        ∀ depth cs es rest, entries depth fuel cs = .ok (es, rest) → ∀ e ∈ es, e.2.isShort = true := by
  induction fuel with
  | zero =>
    refine ⟨fun _ _ _ _ h => ?_, fun _ _ _ _ h => ?_, fun _ _ _ _ h => ?_⟩ <;> cases h
  | succ fuel ih =>
    obtain ⟨hvalue, hitems, hentries⟩ := ih
    refine ⟨fun depth cs v rest h => ?_, fun depth cs vs rest h => ?_, fun depth cs es rest h => ?_⟩
    · unfold value at h
      split at h
      · cases h
      · cases h
      · split at h
        · cases h
          rfl
        · obtain ⟨⟨vs, after⟩, hread, hvalue⟩ := Fault.ok_of_map h
          cases hvalue
          exact Value.isShort_list_iff.mpr (hitems _ _ _ _ hread)
      · split at h
        · cases h
          rfl
        · obtain ⟨⟨es, after⟩, hread, hvalue⟩ := Fault.ok_of_map h
          cases hvalue
          exact isShort_ofEntries (hentries _ _ _ _ hread)
      · unfold wellFormed at h
        split at h
        · rename_i found hfound
          cases h
          exact isShort_of_scalar hfound
        · cases h
    · unfold items at h
      obtain ⟨⟨v, after⟩, hfirst, h⟩ := Fault.ok_of_bind h
      dsimp only at h
      split at h
      · obtain ⟨⟨more, last⟩, hrest, h⟩ := Fault.ok_of_bind h
        cases h
        exact List.forall_mem_cons.mpr ⟨hvalue _ _ _ _ hfirst, hitems _ _ _ _ hrest⟩
      · cases h
        exact List.forall_mem_singleton.mpr (hvalue _ _ _ _ hfirst)
      · cases h
    · unfold entries at h
      split at h
      · obtain ⟨⟨key, after⟩, -, h⟩ := Fault.ok_of_bind h
        dsimp only at h
        split at h
        · obtain ⟨⟨v, after⟩, hfirst, h⟩ := Fault.ok_of_bind h
          dsimp only at h
          split at h
          · obtain ⟨⟨more, last⟩, hrest, h⟩ := Fault.ok_of_bind h
            cases h
            exact List.forall_mem_cons.mpr ⟨hvalue _ _ _ _ hfirst, hentries _ _ _ _ hrest⟩
          · cases h
            exact List.forall_mem_singleton.mpr (hvalue _ _ _ _ hfirst)
          · cases h
        · cases h
      · cases h

/-- A text that is read as JSON holds short integers only. -/
theorem isShort_of_readWithin {depth : Nat} {s : String} {v : Value} (h : readWithin depth s = .ok v) :
    v.isShort = true := by
  obtain ⟨⟨read, rest⟩, hvalue, h⟩ := Fault.ok_of_bind h
  dsimp only at h
  split at h
  · cases h
    exact (isShort_of_value _).1 _ _ _ _ hvalue
  · cases h

/-- A value can be sent: it has a text in the style of messages to a service. -/
def CanSend (v : Value) : Prop := ∃ s, write strict v = .ok s

/-- A text can be sent. -/
theorem canSend_text (s : String) : CanSend (.text s) := ⟨_, rfl⟩

/-- A list can be sent if its items can. -/
theorem canSend_list {vs : List Value} (h : ∀ v ∈ vs, CanSend v) : CanSend (.list vs) := by
  obtain ⟨parts, hparts⟩ : ∃ parts, writeItems strict vs = .ok parts := by
    induction vs with
    | nil => exact ⟨[], rfl⟩
    | cons v vs ih =>
      obtain ⟨⟨first, hfirst⟩, hrest⟩ := List.forall_mem_cons.mp h
      obtain ⟨parts, hparts⟩ := ih hrest
      exact ⟨first :: parts, by rw [writeItems, hfirst, hparts]; rfl⟩
  exact ⟨_, by rw [write, hparts]; rfl⟩

/-- A dictionary can be sent if its values can. -/
theorem canSend_dict {d : Dict Value} (h : ∀ e ∈ d, CanSend e.2) : CanSend (.dict d) := by
  obtain ⟨parts, hparts⟩ : ∃ parts, writeEntries strict d = .ok parts := by
    induction d with
    | nil => exact ⟨[], rfl⟩
    | cons e d ih =>
      obtain ⟨⟨first, hfirst⟩, hrest⟩ := List.forall_mem_cons.mp h
      obtain ⟨parts, hparts⟩ := ih hrest
      exact ⟨_, by rw [writeEntries, hfirst, hparts]; rfl⟩
  exact ⟨_, by rw [write, hparts]; rfl⟩

end Json

namespace Completion

/-! ## One attempt -/

/-- Sending comes to a response, or the service is not reached. -/
def Outcome.IsRegular : Outcome → Prop
  | failed _ => False
  | _ => True

variable {lib : Library} {r : Response} {o : Outcome} {address : Address}

/-- What is read from a body is short. -/
theorem isShort_of_readBody {most : Nat} {body : List UInt8} {v : Value}
    (h : readBody most body = .ok v) : v.isShort = true := by
  obtain ⟨text, -, h⟩ := Fault.ok_of_bind h
  exact Json.isShort_of_readWithin h

/-- A body without choices that can be read stands for an error of the completion, which shows it. -/
theorem exists_noChoices {v : Value} (hshort : v.isShort = true) :
    ∃ e, noChoices v = .completion e ∧ e.kind = .malformed := by
  rcases Value.showsIf_shown v with ⟨-, text, hshown⟩ | ⟨hlong, -⟩
  · exact ⟨.noChoices (shortened text), by rw [noChoices, hshown], rfl⟩
  · cases hshort.symm.trans hlong

/-- The body of a response is a completion or stands for an error, unless it is nested too deeply. -/
theorem ofBody_cases (most : Nat) (body : List UInt8) :
    (∃ completion, ofBody most body = .ok completion) ∨
      (∃ e, ofBody most body = .error (.completion e)) ∨
        ∃ kind, ofBody most body = .error (.tooNested kind) := by
  unfold ofBody
  cases hread : readBody most body with
  | error e =>
    cases e with
    | malformed => exact .inr (.inl ⟨_, rfl⟩)
    | tooNested kind => exact .inr (.inr ⟨kind, rfl⟩)
  | ok v =>
    obtain ⟨e, he, -⟩ := exists_noChoices (isShort_of_readBody hread)
    cases v with
    | dict d =>
      dsimp only
      split
      · exact .inl ⟨_, rfl⟩
      · exact .inr (.inl ⟨e, congrArg _ he⟩)
    | _ => exact .inr (.inl ⟨e, congrArg _ he⟩)

/-- An error that quotes the body of a response, if that is a text. -/
theorem quoting_cases (lib : Library) (r : Response) (error : String → CompletionError) :
    (∃ s, lib.text r = .ok s ∧ lib.quoting r error = .completion (error s)) ∨
      ∃ e, lib.text r = .error e ∧ lib.quoting r error = .raised e := by
  unfold Library.quoting
  cases htext : lib.text r with
  | ok s => exact .inl ⟨s, rfl, rfl⟩
  | error e => exact .inr ⟨e, rfl, rfl⟩

/-- The body of a response is quoted, when it limits the rate or refuses the request otherwise. -/
def Response.IsQuoted (r : Response) : Prop :=
  r.status = 429 ∨ 400 ≤ r.status ∧ r.status < 500 ∧ r.status ∉ [401, 403]

/-- A bad status stands for an error of the completion, unless the body is to be quoted and is no text. -/
theorem statusFault_cases {f : Fault} (h : statusFault? lib r = some f) :
    (∃ e, f = .completion e) ∨ r.IsQuoted ∧ ∃ e, lib.text r = .error e ∧ f = .raised e := by
  have hquoting {error : String → CompletionError} (hquoted : r.IsQuoted)
      (hf : some (lib.quoting r error) = some f) :
      (∃ e, f = .completion e) ∨ r.IsQuoted ∧ ∃ e, lib.text r = .error e ∧ f = .raised e := by
    obtain rfl := Option.some.inj hf
    rcases quoting_cases lib r error with ⟨s, -, hs⟩ | ⟨e, he, hraised⟩
    · exact .inl ⟨_, hs⟩
    · exact .inr ⟨hquoted, e, he, hraised⟩
  unfold statusFault? at h
  split at h
  · exact .inl ⟨_, (Option.some.inj h).symm⟩
  · rename_i hknown
    split at h
    · rename_i hlimited
      exact hquoting (.inl hlimited) h
    · split at h
      · exact .inl ⟨_, (Option.some.inj h).symm⟩
      · rename_i hworks
        split at h
        · rename_i hbad
          have hothers : r.status ∉ [401, 403] := by simpa using hknown
          exact hquoting (.inr ⟨hbad, by omega, hothers⟩) h
        · cases h

/-- A response holds a completion or stands for an error, unless its body is nested too deeply, or is to be
quoted and is no text. -/
theorem check_cases (lib : Library) (r : Response) :
    (∃ completion, check lib r = .ok completion) ∨ (∃ e, check lib r = .error (.completion e)) ∨
      (∃ kind, check lib r = .error (.tooNested kind)) ∨
        r.IsQuoted ∧ ∃ e, lib.text r = .error e ∧ check lib r = .error (.raised e) := by
  unfold check
  cases hstatus : statusFault? lib r with
  | some f =>
    rcases statusFault_cases hstatus with ⟨e, rfl⟩ | ⟨hquoted, e, he, rfl⟩
    · exact .inr (.inl ⟨e, rfl⟩)
    · exact .inr (.inr (.inr ⟨hquoted, e, he, rfl⟩))
  | none =>
    rcases ofBody_cases lib.mostNested r.body with hcompletion | herror | hnested
    · exact .inl hcompletion
    · exact .inr (.inl herror)
    · exact .inr (.inr (.inl hnested))

/-- What an attempt comes to that is sent to an address of a known kind. -/
theorem settled_of_hasKind (hkind : address.hasKind = true) (lib : Library) (r : Response) :
    (Outcome.response r).settled lib address = check lib r := by
  rw [Outcome.settled, if_pos hkind]

/-! ## Attempt after attempt -/

namespace Policy

variable {p : Policy}

/-- Waits that are bounded by a number can be computed. -/
theorem exists_wait (hmost : p.most.truncated?.isSome = true) (number : Nat) :
    ∃ seconds, p.wait number = .ok seconds := by
  have hbounded : p.most.truncated?.isNone = false := by
    rw [← Option.not_isSome, hmost]
    rfl
  unfold wait
  simp only [hbounded, Bool.and_false, Bool.false_and, Bool.false_eq_true, if_false]
  exact ⟨_, rfl⟩

/-- Attempts that are bounded by a number can be counted. -/
theorem exists_tries (hattempts : p.attempts.amount?.isSome = true) : ∃ tries, p.tries = .ok tries := by
  obtain ⟨a, ha⟩ := Option.isSome_iff_exists.mp hattempts
  have hbound : p.bound = .ok (if a ≠ .nan ∧ !(Amount.ratio 1 1).le a then .int 1 else p.attempts) := by
    rw [bound, ha]
  unfold tries
  rw [hbound]
  dsimp only [Bind.bind, Except.bind]
  split <;> exact ⟨_, rfl⟩

end Policy

/-- An exchange answers with what one of the attempts comes to. -/
theorem exists_exchangeFrom_eq {p : Policy} (hmost : p.most.truncated?.isSome = true)
    (outcome : Nat → Outcome) (r : Request) (done more : Nat) :
    ∃ number, (exchangeFrom lib p outcome r done more).answer = (outcome number).settled lib r.address := by
  -- A transient fault is an answer if no attempt is left, and is passed over otherwise.
  induction more generalizing done with
  | zero =>
    refine ⟨done + 1, ?_⟩
    unfold exchangeFrom attempted
    cases (outcome (done + 1)).settled lib r.address with
    | ok v => rfl
    | error f =>
      obtain ⟨seconds, hwait⟩ := Policy.exists_wait hmost (done + 1)
      cases htransient : isTransient f with
      | false => simp only [htransient, Bool.false_eq_true, if_false]
      | true => simp only [htransient, if_true, hwait]
  | succ more ih =>
    unfold exchangeFrom attempted
    cases hsettled : (outcome (done + 1)).settled lib r.address with
    | ok v => exact ⟨done + 1, hsettled.symm⟩
    | error f =>
      obtain ⟨seconds, hwait⟩ := Policy.exists_wait hmost (done + 1)
      cases htransient : isTransient f with
      | false =>
        refine ⟨done + 1, ?_⟩
        simp only [htransient, Bool.false_eq_true, if_false, hsettled]
      | true =>
        obtain ⟨number, hanswer⟩ := ih (done + 1)
        refine ⟨number, ?_⟩
        simpa only [htransient, if_true, hwait] using hanswer

/-! ## A client -/

/-- A library that reads every body as UTF-8, with what is not well formed replaced. -/
def Library.plain (mostNested : Nat) : Library where
  text r := .ok (String.ofList (Text.ofBytes (r.body.map UInt8.toNat)))
  mostNested

/-- A client can send requests to an address: the address has a kind, all parameters can be sent, and
attempts and waits are bounded by numbers. -/
structure Client.CanSend (client : Client) (address : Address) : Prop where
  endpoint : client.endpoint = .ok address
  hasKind : address.hasKind = true
  model : Json.CanSend client.model
  temperature : Json.CanSend client.temperature
  maxTokens : Json.CanSend client.maxTokens
  attempts : client.policy.attempts.amount?.isSome = true
  most : client.policy.most.truncated?.isSome = true

namespace Client

variable {client : Client} {messages : Value}

/-- A client that has been made of parameters that can be sent can send requests where its address has a
kind. -/
theorem canSend_of_make {options : Options} {environment : Dict String}
    (hmake : make lib options environment = .ok client) (hmodel : Json.CanSend options.model)
    (htemperature : Json.CanSend options.temperature) (hmaxTokens : Json.CanSend options.maxTokens)
    (hattempts : options.attempts.amount?.isSome = true) (hendpoint : client.endpoint = .ok address)
    (hkind : address.hasKind = true) : client.CanSend address := by
  unfold make at hmake
  split at hmake
  · cases hmake
  · obtain ⟨root, -, hmake⟩ := Fault.ok_of_bind hmake
    obtain ⟨-, -, hmake⟩ := Fault.ok_of_bind hmake
    cases hmake
    have hmost : ({} : Policy).most.truncated?.isSome = true := by decide +kernel
    exact ⟨hendpoint, hkind, hmodel, htemperature, hmaxTokens, hattempts, hmost⟩

/-- A client that has been made for a library leaves the responses to it. -/
theorem library_of_make {options : Options} {environment : Dict String}
    (hmake : make lib options environment = .ok client) : client.library = lib := by
  unfold make at hmake
  split at hmake
  · cases hmake
  · obtain ⟨root, -, hmake⟩ := Fault.ok_of_bind hmake
    obtain ⟨-, -, hmake⟩ := Fault.ok_of_bind hmake
    cases hmake
    rfl

/-- A client that has been made of a key can send requests. -/
theorem exists_canSend (lib : Library) : ∃ client address,
    make lib { key := some "key" } [] = .ok client ∧ client.CanSend address := by
  -- Whether it can does not depend on the library.
  have hmakes : make lib { key := some "key" } [] =
      (make (.plain 0) { key := some "key" } []).map fun client => { client with library := lib } := rfl
  have hfound : (match make (.plain 0) { key := some "key" } [] with
      | .ok client =>
        match client.endpoint with
        | .ok address => address.hasKind
        | .error _ => false
      | .error _ => false) = true := by decide +kernel
  have htemperature : Json.CanSend ({} : Options).temperature := by
    have hwritten : (Json.write Json.strict ({} : Options).temperature).isOk = true := by decide +kernel
    cases hwrite : Json.write Json.strict ({} : Options).temperature with
    | ok s => exact ⟨s, hwrite⟩
    | error e =>
      rw [hwrite] at hwritten
      cases hwritten
  split at hfound
  · rename_i client hmake
    split at hfound
    · rename_i address hendpoint
      rw [hmake] at hmakes
      exact ⟨_, address, hmakes, canSend_of_make hmakes (Json.canSend_text _) htemperature ⟨_, rfl⟩ rfl
        hendpoint hfound⟩
    · exact absurd hfound Bool.false_ne_true
  · exact absurd hfound Bool.false_ne_true

/-- A parameter of a client can be sent where it is sent. -/
theorem canSend_of_mem_entry {name : String} {v : Value} (h : Json.CanSend v) {e : String × Value}
    (he : e ∈ entry name v) : Json.CanSend e.2 := by
  unfold entry at he
  split at he
  · cases he
  · obtain rfl := List.mem_singleton.mp he
    exact h

/-- A request for an answer of the model with a name can be made. -/
theorem CanSend.request_eq (h : client.CanSend address) (hmessages : Json.CanSend messages)
    (name : String) : ∃ r, client.request messages [("model", .text name)] = .ok r ∧
      r.address = address := by
  let payload := client.payload messages [("model", .text name)]
  have hpayload : Json.CanSend (.dict payload) := by
    refine Json.canSend_dict fun e he => ?_
    have hbase : payload =
        [("model", if (Value.text name).truthy then .text name else client.model),
          ("messages", messages)] ++ entry "temperature" client.temperature ++
          entry "max_tokens" client.maxTokens := rfl
    rw [hbase] at he
    rcases List.mem_append.mp he with he | he
    · rcases List.mem_append.mp he with he | he
      · rcases List.mem_cons.mp he with rfl | he
        · dsimp only
          split
          · exact Json.canSend_text name
          · exact h.model
        · obtain rfl := List.mem_singleton.mp he
          exact hmessages
      · exact canSend_of_mem_entry h.temperature he
    · exact canSend_of_mem_entry h.maxTokens he
  obtain ⟨text, hwritten⟩ := hpayload
  refine ⟨⟨address, client.authorization address, payload⟩, ?_, rfl⟩
  rw [request, h.endpoint]
  dsimp only [Except.mapError, Bind.bind, Except.bind]
  rw [hwritten]
  rfl

/-- A client that can send requests answers with what one of the attempts comes to. -/
theorem CanSend.exists_answer_eq (h : client.CanSend address) (hmessages : Json.CanSend messages)
    (name : String) (outcome : Nat → Outcome) :
    ∃ number, (client.chat messages [("model", .text name)] outcome).answer =
      (outcome number).settled client.library address := by
  obtain ⟨tries, htries⟩ := Policy.exists_tries h.attempts
  obtain ⟨r, hrequest, rfl⟩ := h.request_eq hmessages name
  rw [chat, htries, hrequest]
  exact exists_exchangeFrom_eq h.most outcome r 0 (tries - 1)

end Client

end Completion

end Concierge
