import Concierge.Proofs.Completion.Exchange
import Mathlib.Control.Monad.Basic

/-!
# The attempts of a request

A request is sent again as long as the service was not reached, limits the rate or fails, until the
attempts are used up. All attempts send the same request, there is one wait between two of them, and the
outcome of the last one is classified by status and body. Three things are no error of the completion: a
body that is nested too deeply to be read, a body to be quoted that is no text in its charset, and a wait
that is too long to be computed.
-/

namespace Concierge.Completion

/-! ## What an outcome stands for -/

/-- Another attempt may come to something else: the service was not reached, limits the rate in a body that
is a text, or fails. -/
def Outcome.isRetryable (lib : Library) : Outcome → Bool
  | unreachable _ => true
  | response r => (r.status = 429 ∧ (lib.text r).isOk = true) ∨ 500 ≤ r.status
  | failed _ => false

/-- An answer is an error of the completion of a kind. -/
def IsErrorOf (kind : CompletionKind) (answer : Except Fault Value) : Prop :=
  ∃ e, answer = .error (.completion e) ∧ e.kind = kind

/-- A body is a JSON dictionary with choices. -/
def HoldsCompletion (mostNested : Nat) (body : List UInt8) (d : Dict Value) : Prop :=
  readBody mostNested body = .ok (.dict d) ∧ Dict.has "choices" d = true

/-- An answer classifies a response by its status, and one with a good status by its body. -/
structure Response.Classifies (lib : Library) (r : Response) (answer : Except Fault Value) : Prop where
  unauthorized : r.status = 401 ∨ r.status = 403 → IsErrorOf .unauthorized answer
  limited : r.status = 429 → (lib.text r).isOk = true → IsErrorOf .limited answer
  unavailable : 500 ≤ r.status → IsErrorOf .unavailable answer
  /-- A refusal tells the status. -/
  refused : 400 ≤ r.status → r.status < 500 → r.status ∉ [401, 403, 429] → (lib.text r).isOk = true →
    ∃ e, answer = .error (.completion e) ∧ e.kind = .refused ∧ e.status = some r.status
  /-- A body that is to be quoted and is no text is one exception. -/
  unread : r.IsQuoted → ∀ e, lib.text r = .error e → answer = .error (.raised e)
  completion : r.status < 400 → ∀ d, HoldsCompletion lib.mostNested r.body d → answer = .ok (.dict d)
  /-- A body that cannot be read for its depth is the other one. -/
  malformed : r.status < 400 → (∀ d, ¬HoldsCompletion lib.mostNested r.body d) →
    IsErrorOf .malformed answer ∨
      ∃ kind, readBody lib.mostNested r.body = .error (.tooNested kind) ∧
        answer = .error (.tooNested kind)

/-- An answer classifies an outcome. -/
def Outcome.Classifies (lib : Library) (answer : Except Fault Value) : Outcome → Prop
  | unreachable _ => IsErrorOf .unavailable answer
  | response r => r.Classifies lib answer
  | failed fault => answer = .error fault

variable {lib : Library} {r : Response} {o : Outcome} {address : Address}

/-- A response with a good status is judged by its body. -/
theorem statusFault?_of_lt (h : r.status < 400) : statusFault? lib r = none := by
  unfold statusFault?
  rw [if_neg (by omega), if_neg (by omega), if_neg (by omega), if_neg (by omega)]

/-- A body is a text, or it is none. -/
theorem text_cases (lib : Library) (r : Response) :
    (∃ s, lib.text r = .ok s ∧ (lib.text r).isOk = true) ∨
      ∃ e, lib.text r = .error e ∧ (lib.text r).isOk = false := by
  cases lib.text r with
  | ok s => exact .inl ⟨s, rfl, rfl⟩
  | error e => exact .inr ⟨e, rfl, rfl⟩

/-- An error quotes a body that is a text. -/
theorem quoting_of_isOk (h : (lib.text r).isOk = true) (error : String → CompletionError) :
    ∃ s, lib.quoting r error = .completion (error s) := by
  rcases quoting_cases lib r error with ⟨s, -, hquoting⟩ | ⟨e, htext, -⟩
  · exact ⟨s, hquoting⟩
  · rw [htext] at h
    cases h

/-- A body that is no text is a fault of its own. -/
theorem quoting_of_error {e : Raised} (h : lib.text r = .error e) (error : String → CompletionError) :
    lib.quoting r error = .raised e := by
  rw [Library.quoting, h]

/-- The body of a completion is its dictionary. -/
theorem ofBody_of_holds {most : Nat} {body : List UInt8} {d : Dict Value}
    (h : HoldsCompletion most body d) : ofBody most body = .ok (.dict d) := by
  simp only [ofBody, h.1, h.2, if_true]

/-- Any other body stands for a malformed answer, unless it is nested too deeply. -/
theorem ofBody_of_not_holds {most : Nat} {body : List UInt8} (h : ∀ d, ¬HoldsCompletion most body d) :
    IsErrorOf .malformed (ofBody most body) ∨
      ∃ kind, readBody most body = .error (.tooNested kind) ∧
        ofBody most body = .error (.tooNested kind) := by
  unfold ofBody
  cases hread : readBody most body with
  | error e =>
    cases e with
    | malformed => exact .inl ⟨_, rfl, rfl⟩
    | tooNested kind => exact .inr ⟨kind, rfl, rfl⟩
  | ok v =>
    obtain ⟨e, he, hkind⟩ := exists_noChoices (isShort_of_readBody hread)
    cases v with
    | dict d =>
      have hlacks : ¬Dict.has "choices" d = true := fun hhas => h d ⟨hread, hhas⟩
      simp only [hlacks, Bool.false_eq_true, if_false]
      exact .inl ⟨e, congrArg _ he, hkind⟩
    | _ => exact .inl ⟨e, congrArg _ he, hkind⟩

/-- What the check of a response comes to classifies it. -/
theorem classifies_check (lib : Library) (r : Response) : r.Classifies lib (check lib r) := by
  -- Each kind of status is the first one in the order of the check that applies.
  refine ⟨fun h => ?_, fun h htext => ?_, fun h => ?_, fun hleast hmost hothers htext => ?_,
    fun hquoted e htext => ?_, fun h d hd => ?_, fun h hnone => ?_⟩
  · rw [check, statusFault?, if_pos h]
    exact ⟨_, rfl, rfl⟩
  · rw [check, statusFault?, if_neg (by omega), if_pos h]
    obtain ⟨s, hquoting⟩ := quoting_of_isOk htext _
    rw [hquoting]
    exact ⟨_, rfl, rfl⟩
  · rw [check, statusFault?, if_neg (by omega), if_neg (by omega), if_pos h]
    exact ⟨_, rfl, rfl⟩
  · simp only [List.mem_cons, List.not_mem_nil, or_false, not_or] at hothers
    rw [check, statusFault?, if_neg (by omega), if_neg (by omega), if_neg (by omega), if_pos hleast]
    obtain ⟨s, hquoting⟩ := quoting_of_isOk htext _
    rw [hquoting]
    exact ⟨_, rfl, rfl, rfl⟩
  · rw [check, statusFault?]
    by_cases hlimited : r.status = 429
    · rw [if_neg (by omega), if_pos hlimited, quoting_of_error htext]
    · obtain ⟨hleast, hmost, hothers⟩ := hquoted.resolve_left hlimited
      simp only [List.mem_cons, List.not_mem_nil, or_false] at hothers
      rw [if_neg hothers, if_neg hlimited, if_neg (by omega), if_pos hleast, quoting_of_error htext]
  · rw [check, statusFault?_of_lt h]
    exact ofBody_of_holds hd
  · rw [check, statusFault?_of_lt h]
    exact ofBody_of_not_holds hnone

/-- What an outcome is settled to classifies it, when it is sent to an address of a known kind. -/
theorem classifies_settled (lib : Library) (hkind : address.hasKind = true) (ho : o.IsRegular) :
    o.Classifies lib (o.settled lib address) := by
  cases o with
  | unreachable reason => exact ⟨_, rfl, rfl⟩
  | failed fault => exact ho.elim
  | response r =>
    rw [settled_of_hasKind hkind]
    exact classifies_check lib r

/-- An answer is a fault after which another attempt may succeed. -/
def IsTransientAnswer (answer : Except Fault Value) : Prop :=
  ∃ f, answer = .error f ∧ isTransient f = true

/-- Whether an error of the completion is transient depends on its kind. -/
theorem IsErrorOf.transient_iff {kind : CompletionKind} {answer : Except Fault Value}
    (h : IsErrorOf kind answer) : IsTransientAnswer answer ↔ kind.isTransient = true := by
  obtain ⟨e, rfl, rfl⟩ := h
  refine ⟨?_, fun htransient => ⟨_, rfl, htransient⟩⟩
  rintro ⟨_, ⟨rfl⟩, htransient⟩
  exact htransient

namespace Response.Classifies

variable {answer : Except Fault Value}

/-- A response with a good status is final, whatever its body is. -/
theorem not_transient_of_lt (h : r.Classifies lib answer) (hgood : r.status < 400) :
    ¬IsTransientAnswer answer := by
  by_cases hholds : ∃ d, HoldsCompletion lib.mostNested r.body d
  · obtain ⟨d, hd⟩ := hholds
    rw [h.completion hgood d hd]
    rintro ⟨f, ⟨⟩, -⟩
  · rcases h.malformed hgood (not_exists.mp hholds) with hmalformed | ⟨kind, -, rfl⟩
    · rw [hmalformed.transient_iff]
      exact Bool.false_ne_true
    · rintro ⟨f, ⟨rfl⟩, htransient⟩
      cases htransient

/-- A body that is to be quoted and is no text is final. -/
theorem not_transient_of_unread (h : r.Classifies lib answer) (hquoted : r.IsQuoted) {e : Raised}
    (htext : lib.text r = .error e) : ¬IsTransientAnswer answer := by
  rw [h.unread hquoted e htext]
  rintro ⟨f, ⟨rfl⟩, htransient⟩
  cases htransient

/-- Only rate limits that can be quoted and failures of the service are worth another attempt. -/
theorem transient_iff (h : r.Classifies lib answer) :
    IsTransientAnswer answer ↔ (r.status = 429 ∧ (lib.text r).isOk = true) ∨ 500 ≤ r.status := by
  by_cases hgood : r.status < 400
  · exact iff_of_false (h.not_transient_of_lt hgood) (by omega)
  · by_cases hfails : 500 ≤ r.status
    · exact iff_of_true ((h.unavailable hfails).transient_iff.mpr rfl) (.inr hfails)
    · by_cases hrejected : r.status = 401 ∨ r.status = 403
      · refine iff_of_false ?_ (by omega)
        rw [(h.unauthorized hrejected).transient_iff]
        exact Bool.false_ne_true
      · have hquoted : r.IsQuoted := .inr ⟨by omega, by omega, by simpa using hrejected⟩
        rcases text_cases lib r with ⟨-, -, htext⟩ | ⟨e, he, htext⟩
        · by_cases hlimited : r.status = 429
          · exact iff_of_true ((h.limited hlimited htext).transient_iff.mpr rfl) (.inl ⟨hlimited, htext⟩)
          · refine iff_of_false ?_ (by omega)
            obtain ⟨e, hanswer, hrefused, -⟩ :=
              h.refused (by omega) (by omega) (by simp; omega) htext
            rw [IsErrorOf.transient_iff ⟨e, hanswer, hrefused⟩]
            exact Bool.false_ne_true
        · refine iff_of_false (h.not_transient_of_unread hquoted he) ?_
          rw [htext]
          simp
          omega

end Response.Classifies

/-- An outcome is worth another attempt just when it is settled to a transient fault. -/
theorem transient_settled_iff (hkind : address.hasKind = true) (ho : o.IsRegular) :
    IsTransientAnswer (o.settled lib address) ↔ o.isRetryable lib = true := by
  have hclassifies := classifies_settled lib hkind ho
  cases o with
  | unreachable reason =>
    have herror : IsErrorOf .unavailable ((Outcome.unreachable reason).settled lib address) := hclassifies
    exact herror.transient_iff
  | failed fault => exact ho.elim
  | response r =>
    have hresponse : r.Classifies lib ((Outcome.response r).settled lib address) := hclassifies
    rw [hresponse.transient_iff, Outcome.isRetryable, decide_eq_true_eq]

/-! ## Attempt after attempt -/

/-- What an attempt comes to whose outcome is worth another one: there is one after a wait, if the wait can
be computed. -/
theorem attempted_of_retryable {p : Policy} {r : Request} (hkind : r.address.hasKind = true)
    (ho : o.IsRegular) (hretryable : o.isRetryable lib = true) (number : Nat) :
    ∃ f, o.settled lib r.address = .error f ∧
      attempted lib p r number o = match p.wait number with
        | .ok seconds => .again f seconds
        | .error e => .ended (.error (.number e)) := by
  obtain ⟨f, hsettled, htransient⟩ := (transient_settled_iff hkind ho).mpr hretryable
  refine ⟨f, hsettled, ?_⟩
  rw [attempted, hsettled]
  exact if_pos htransient

/-- An attempt whose outcome is not worth another one ends with what the outcome is settled to. -/
theorem attempted_of_final {p : Policy} {r : Request} (hkind : r.address.hasKind = true)
    (ho : o.IsRegular) (hfinal : o.isRetryable lib = false) (number : Nat) :
    attempted lib p r number o = .ended (o.settled lib r.address) := by
  have hnot : ¬IsTransientAnswer (o.settled lib r.address) := by
    rw [transient_settled_iff hkind ho, hfinal]
    exact Bool.false_ne_true
  unfold attempted
  cases hsettled : o.settled lib r.address with
  | ok v => rfl
  | error f =>
    have hlasting : isTransient f = false :=
      Bool.eq_false_iff.mpr fun htransient => hnot ⟨f, hsettled, htransient⟩
    simp only [hlasting, Bool.false_eq_true, if_false]

/-- An attempt is followed by another one, as far as its outcome and the wait after it tell. -/
def Repeats (lib : Library) (p : Policy) (outcome : Nat → Outcome) (number : Nat) : Prop :=
  (outcome number).isRetryable lib = true ∧ ∃ seconds, p.wait number = .ok seconds

/-- The last attempt behind some number of them, when so many may still follow: all others are followed by
another one, and it is not, or uses the attempts up. -/
structure IsLast (lib : Library) (p : Policy) (outcome : Nat → Outcome) (done more number : Nat) : Prop where
  lt : done < number
  le : number ≤ done + more
  before : ∀ i, done < i → i < number → Repeats lib p outcome i
  last : number = done + more ∨ ¬Repeats lib p outcome number

/-- The answer of an exchange that ends with an outcome: the outcome is classified, unless a wait after it
would be due that cannot be computed. -/
structure AnswersTo (lib : Library) (p : Policy) (number : Nat) (o : Outcome)
    (answer : Except Fault Value) : Prop where
  classifies : o.isRetryable lib = false ∨ (∃ seconds, p.wait number = .ok seconds) → o.Classifies lib answer
  endless : o.isRetryable lib = true → ∀ e, p.wait number = .error e → answer = .error (.number e)

/-- An attempt is followed by another one, or ends with its answer. -/
theorem attempted_cases (p : Policy) {r : Request} {outcome : Nat → Outcome}
    (hkind : r.address.hasKind = true) (hregular : ∀ i, (outcome i).IsRegular) (number : Nat) :
    (Repeats lib p outcome number ∧ ∃ f seconds,
      attempted lib p r number (outcome number) = .again f seconds ∧
        AnswersTo lib p number (outcome number) (.error f)) ∨
    ¬Repeats lib p outcome number ∧ ∃ answer,
      attempted lib p r number (outcome number) = .ended answer ∧
        AnswersTo lib p number (outcome number) answer := by
  have hclassifies := classifies_settled lib hkind (hregular number)
  cases hretryable : (outcome number).isRetryable lib with
  | false =>
    refine .inr ⟨fun h => ?_, _, attempted_of_final hkind (hregular number) hretryable number, ?_⟩
    · rw [h.1] at hretryable
      cases hretryable
    · exact ⟨fun _ => hclassifies, fun h => by rw [hretryable] at h; cases h⟩
  | true =>
    obtain ⟨f, hsettled, hattempted⟩ :=
      attempted_of_retryable (p := p) hkind (hregular number) hretryable number
    rw [hsettled] at hclassifies
    rw [hattempted]
    cases hwait : p.wait number with
    | ok seconds =>
      refine .inl ⟨⟨hretryable, seconds, hwait⟩, f, seconds, rfl, fun _ => hclassifies, fun _ e he => ?_⟩
      cases hwait.symm.trans he
    | error e =>
      refine .inr ⟨?_, _, rfl, fun h => ?_, fun _ e' he => ?_⟩
      · rintro ⟨-, seconds, hseconds⟩
        cases hwait.symm.trans hseconds
      · rcases h with hfinal | ⟨seconds, hseconds⟩
        · rw [hretryable] at hfinal
          cases hfinal
        · cases hwait.symm.trans hseconds
      · cases hwait.symm.trans he
        rfl

/-- An attempt that is not followed by another one is the last. -/
theorem IsLast.of_not_repeats {p : Policy} {outcome : Nat → Outcome} {done : Nat} (more : Nat)
    (h : more = 0 ∨ ¬Repeats lib p outcome (done + 1)) : IsLast lib p outcome done (more + 1) (done + 1) where
  lt := Nat.lt_succ_self done
  le := by omega
  before i hlt hle := by omega
  last := h.imp (fun hzero => by omega) id

/-- The last attempt behind one that is followed by another one. -/
theorem IsLast.of_repeats {p : Policy} {outcome : Nat → Outcome} {done more n : Nat}
    (hrepeats : Repeats lib p outcome (done + 1)) (h : IsLast lib p outcome (done + 1) more n) :
    IsLast lib p outcome done (more + 1) n where
  lt := Nat.lt_of_succ_lt h.lt
  le := by have := h.le; omega
  before i hlt hle := by
    by_cases hfirst : i = done + 1
    · exact hfirst ▸ hrepeats
    · exact h.before i (by omega) hle
  last := h.last.imp (fun heq => by omega) id

variable {p : Policy} {outcome : Nat → Outcome} {r : Request} {done : Nat}

/-- An exchange ends with the attempt that ends it. -/
theorem exchangeFrom_ended {answer : Except Fault Value}
    (h : attempted lib p r (done + 1) (outcome (done + 1)) = .ended answer) (more : Nat) :
    exchangeFrom lib p outcome r done more = ⟨answer, [r], []⟩ := by
  cases more <;> simp only [exchangeFrom, h]

/-- The fault after which no attempt is left is the answer. -/
theorem exchangeFrom_used_up {fault : Fault} {seconds : Double}
    (h : attempted lib p r (done + 1) (outcome (done + 1)) = .again fault seconds) :
    exchangeFrom lib p outcome r done 0 = ⟨.error fault, [r], []⟩ := by
  simp only [exchangeFrom, h]

/-- Behind an attempt that is followed by another one, there is a wait and the rest of the exchange. -/
theorem exchangeFrom_again {fault : Fault} {seconds : Double}
    (h : attempted lib p r (done + 1) (outcome (done + 1)) = .again fault seconds) (more : Nat) :
    exchangeFrom lib p outcome r done (more + 1) =
      let rest := exchangeFrom lib p outcome r (done + 1) more
      ⟨rest.answer, r :: rest.sent, seconds :: rest.waits⟩ := by
  rw [exchangeFrom, h]

/-- What an exchange comes to whose last attempt has a number: it sends its request until then, waits
between two attempts, and answers to the outcome of the last one. -/
structure Ends (lib : Library) (p : Policy) (outcome : Nat → Outcome) (r : Request) (done number : Nat)
    (exchange : Exchange) : Prop where
  sent : exchange.sent = List.replicate (number - done) r
  waits : exchange.waits.length = number - done - 1
  answer : AnswersTo lib p number (outcome number) exchange.answer

/-- An exchange that consists of one attempt ends with it. -/
theorem Ends.one {answer : Except Fault Value}
    (h : AnswersTo lib p (done + 1) (outcome (done + 1)) answer) :
    Ends lib p outcome r done (done + 1) ⟨answer, [r], []⟩ where
  sent := by rw [Nat.add_sub_cancel_left]; rfl
  waits := by rw [Nat.add_sub_cancel_left]; rfl
  answer := h

/-- An exchange ends as the rest of it does. -/
theorem Ends.cons {number : Nat} {rest : Exchange} (h : Ends lib p outcome r (done + 1) number rest)
    (hlt : done + 1 < number) (seconds : Double) :
    Ends lib p outcome r done number ⟨rest.answer, r :: rest.sent, seconds :: rest.waits⟩ where
  sent := by
    rw [h.sent, ← List.replicate_succ]
    exact congrArg (List.replicate · r) (by omega)
  waits := by
    rw [List.length_cons, h.waits]
    omega
  answer := h.answer

/-- An exchange ends with its last attempt. -/
theorem exchangeFrom_isLast (p : Policy) (hkind : r.address.hasKind = true)
    (hregular : ∀ i, (outcome i).IsRegular) (done more : Nat) :
    ∃ n, IsLast lib p outcome done (more + 1) n ∧
      Ends lib p outcome r done n (exchangeFrom lib p outcome r done more) := by
  induction more generalizing done with
  | zero =>
    refine ⟨done + 1, .of_not_repeats 0 (.inl rfl), ?_⟩
    rcases attempted_cases p hkind hregular (done + 1) with
      ⟨-, f, seconds, hattempted, hanswers⟩ | ⟨-, answer, hattempted, hanswers⟩
    · rw [exchangeFrom_used_up hattempted]
      exact .one hanswers
    · rw [exchangeFrom_ended hattempted]
      exact .one hanswers
  | succ more ih =>
    rcases attempted_cases p hkind hregular (done + 1) with
      ⟨hrepeats, f, seconds, hattempted, -⟩ | ⟨hends, answer, hattempted, hanswers⟩
    · obtain ⟨n, hlast, hrest⟩ := ih (done + 1)
      rw [exchangeFrom_again hattempted]
      exact ⟨n, hlast.of_repeats hrepeats, hrest.cons hlast.lt seconds⟩
    · rw [exchangeFrom_ended hattempted]
      exact ⟨done + 1, .of_not_repeats _ (.inr hends), .one hanswers⟩

/-! ## A client -/

namespace Policy

/-- A policy with a number of attempts makes so many at most, and at least one. -/
theorem tries_of_int {p : Policy} {attempts : Int} (h : p.attempts = .int attempts) :
    p.tries = .ok (max attempts 1).toNat := by
  have hbound : p.bound = .ok (.int (max attempts 1)) := by
    have hle : (Amount.ratio 1 1).le (.ratio attempts 1) = decide (1 ≤ attempts) := by simp [Amount.le]
    unfold bound
    rw [h]
    by_cases hattempts : 1 ≤ attempts
    · rw [Int.max_eq_left hattempts]
      simp [Value.amount?, hle, hattempts]
    · rw [Int.max_eq_right (Int.le_of_not_le hattempts)]
      simp [Value.amount?, hle, hattempts]
  unfold tries
  rw [hbound]
  dsimp only [Bind.bind, Except.bind, Value.amount?]
  congr 2
  simp

end Policy

/-- A client that has been made has the waits of a policy without options. -/
theorem Client.policy_of_make {options : Options} {environment : Dict String} {client : Client}
    (hmake : make lib options environment = .ok client) :
    client.policy = { attempts := options.attempts } := by
  unfold make at hmake
  split at hmake
  · cases hmake
  · obtain ⟨root, -, hmake⟩ := Fault.ok_of_bind hmake
    obtain ⟨-, -, hmake⟩ := Fault.ok_of_bind hmake
    cases hmake
    rfl

/-- A client sends one and the same request until the attempts are used up, or until the first of them
whose outcome is not worth another one or after which the wait cannot be computed. It waits between two
attempts, and its answer classifies the outcome of the last one. A request that cannot be made is not sent
at all. -/
theorem Client.chat_sends_until_last {client : Client} {messages : Value} {parameters : Dict Value}
    {attempts : Int} {outcome : Nat → Outcome} (hattempts : client.policy.attempts = .int attempts)
    (hregular : ∀ i, (outcome i).IsRegular) :
    let exchange := client.chat messages parameters outcome
    (∀ r, client.request messages parameters = .ok r → r.address.hasKind = true →
      ∃ n, IsLast client.library client.policy outcome 0 (max attempts 1).toNat n ∧
        exchange.sent = List.replicate n r ∧ exchange.waits.length = n - 1 ∧
        AnswersTo client.library client.policy n (outcome n) exchange.answer) ∧
    ∀ f, client.request messages parameters = .error f →
      exchange.answer = .error f ∧ exchange.sent = [] ∧ exchange.waits = [] := by
  intro exchange
  refine ⟨fun r hrequest hkind => ?_, fun f hrequest => ?_⟩
  · have hchat : exchange =
        exchangeFrom client.library client.policy outcome r 0 ((max attempts 1).toNat - 1) := by
      dsimp only [exchange]
      rw [chat, Policy.tries_of_int hattempts, hrequest]
      rfl
    have hpos : (max attempts 1).toNat - 1 + 1 = (max attempts 1).toNat := by omega
    obtain ⟨n, hlast, hends⟩ :=
      exchangeFrom_isLast client.policy hkind hregular 0 ((max attempts 1).toNat - 1)
    rw [hpos] at hlast
    rw [← hchat] at hends
    exact ⟨n, hlast, hends.sent, hends.waits, hends.answer⟩
  · dsimp only [exchange]
    rw [chat, Policy.tries_of_int hattempts, hrequest]
    exact ⟨rfl, rfl, rfl⟩

/-- A service that is reached at the second attempt is sent two requests, with one wait between them. -/
theorem Client.chat_sends_until_second :
    let body : List UInt8 := "\x7b\"choices\": []\x7d".toUTF8.toList
    let outcome : Nat → Outcome := fun number =>
      if number = 1 then .unreachable "timeout" else .response { status := 200, body }
    ∃ client r, make (.plain 988) { key := some "key" } [] = .ok client ∧
      client.request (.list []) [("model", .text "m")] = .ok r ∧
      let exchange := client.chat (.list []) [("model", .text "m")] outcome
      exchange.sent = [r, r] ∧ exchange.waits.length = 1 ∧
        exchange.answer = .ok (.dict [("choices", .list [])]) := by
  intro body outcome
  obtain ⟨client, address, hmake, hcan⟩ := exists_canSend (.plain 988)
  have hlibrary := library_of_make hmake
  obtain ⟨r, hrequest, haddress⟩ := hcan.request_eq (Json.canSend_list (List.forall_mem_nil _)) "m"
  refine ⟨client, r, hmake, hrequest, ?_⟩
  have hattempts : client.policy.attempts = .int 3 := congrArg Policy.attempts (policy_of_make hmake)
  have hregular (i : Nat) : (outcome i).IsRegular := by
    dsimp only [outcome]
    split
    · trivial
    · trivial
  obtain ⟨n, hlast, hsent, hwaits, hanswers⟩ :=
    (chat_sends_until_last hattempts hregular).1 r hrequest (haddress ▸ hcan.hasKind)
  have hfirst : Repeats client.library client.policy outcome 1 := ⟨rfl, Policy.exists_wait hcan.most 1⟩
  have hsecond : ¬Repeats client.library client.policy outcome 2 := fun h => by
    have hretryable := h.1
    rw [hlibrary] at hretryable
    cases hretryable
  obtain rfl : n = 2 := by
    have hle : n ≤ 0 + (max (3 : Int) 1).toNat := hlast.le
    have hne : n ≠ 1 := by
      rintro rfl
      exact hlast.last.elim (by decide) (absurd hfirst)
    have hlt : ¬2 < n := fun hlt => hsecond (hlast.before 2 (by decide) hlt)
    have := hlast.lt
    omega
  rw [hlibrary] at hanswers
  have hclassifies : ({ status := 200, body } : Response).Classifies (.plain 988) _ :=
    hanswers.classifies (.inl rfl)
  have hread : readBody 988 body = .ok (.dict [("choices", .list [])]) := by decide +kernel
  exact ⟨hsent, hwaits, hclassifies.completion (by decide) _ ⟨hread, rfl⟩⟩

/-! ## Bodies that are nested too deeply -/

/-- Lists that are nested deeper than allowed cannot be read, whatever stands in them. -/
theorem value_of_nested (rest : List Char) (depth fuel : Nat) (hfuel : 2 * depth < fuel) :
    Json.value depth fuel (List.replicate (depth + 1) '[' ++ rest) = .error (.tooNested "array") := by
  induction depth generalizing fuel with
  | zero =>
    obtain ⟨fuel, rfl⟩ : ∃ n, fuel = n + 1 := ⟨fuel - 1, by omega⟩
    rfl
  | succ depth ih =>
    -- A list inside takes one step of the reader for itself, and one for its items.
    obtain ⟨fuel, rfl⟩ : ∃ n, fuel = n + 1 + 1 := ⟨fuel - 2, by omega⟩
    have hinner := ih fuel (by omega)
    have hitems : Json.items depth (fuel + 1) (List.replicate (depth + 1) '[' ++ rest) =
        .error (.tooNested "array") := by
      rw [Json.items, hinner]
      rfl
    show Except.map _ (Json.items depth (fuel + 1) (List.replicate (depth + 1) '[' ++ rest)) = _
    rw [hitems]
    rfl

/-- Opening brackets are read as they are: four bytes without zeros tell that the units of the text are
single bytes. -/
theorem recoded?_of_brackets (n : Nat) :
    Text.recoded? (List.replicate (n + 4) 0x5b) = some (List.replicate (n + 4) '[') := by
  have hdecoded (n : Nat) :
      Text.decoded true none (List.replicate n 0x5b) = List.replicate n (some '[') := by
    induction n with
    | zero => rfl
    | succ n ih =>
      rw [List.replicate_succ, List.replicate_succ, ← ih]
      rfl
  have hall (n : Nat) : (List.replicate n (some '[')).mapM (fun c => c) = some (List.replicate n '[') := by
    induction n with
    | zero => rfl
    | succ n ih =>
      rw [List.replicate_succ, List.mapM_cons, ih]
      rfl
  have hunits : Text.unmarked (List.replicate (n + 4) 0x5b) =
      (.single, List.replicate (n + 4) 0x5b) := rfl
  rw [Text.recoded?, hunits]
  dsimp only
  rw [Text.ofBytes?, hdecoded, hall]

/-- A body of lists that are nested deeper than allowed cannot be read. -/
theorem readBody_of_nested {most n : Nat} (hfour : 4 ≤ n) (hdeep : most < n) :
    readBody most (List.replicate n 0x5b) = .error (.tooNested "array") := by
  obtain ⟨more, rfl⟩ : ∃ more, n = more + 4 := ⟨n - 4, by omega⟩
  have hbrackets : List.replicate (more + 4) '[' =
      List.replicate (most + 1) '[' ++ List.replicate (more + 3 - most) '[' := by
    rw [List.replicate_append_replicate]
    exact congrArg (List.replicate · '[') (by omega)
  have hspace : Json.skipSpace (List.replicate (more + 4) '[') = List.replicate (more + 4) '[' := rfl
  have hwithin : Json.readWithin most (String.ofList (List.replicate (more + 4) '[')) =
      .error (.tooNested "array") := by
    rw [Json.readWithin, String.toList_ofList, String.length_ofList, hspace, List.length_replicate,
      hbrackets, value_of_nested _ _ _ (by omega)]
    rfl
  unfold readBody
  rw [List.map_replicate, show UInt8.toNat 0x5b = 0x5b from rfl, recoded?_of_brackets]
  exact hwithin

/-- A body that is nested too deeply is no malformed answer: the fault tells its depth as it stands. -/
theorem settled_of_nested {body : List UInt8} {kind : String} (hkind : address.hasKind = true)
    (hread : readBody lib.mostNested body = .error (.tooNested kind)) :
    (Outcome.response { status := 200, body }).settled lib address = .error (.tooNested kind) := by
  rw [settled_of_hasKind hkind, check, statusFault?_of_lt (show (200 : Int) < 400 by decide)]
  dsimp only
  rw [ofBody, hread]

/-- A client answers with no error of the completion where the body is nested too deeply. -/
theorem Client.nested_body_is_no_error :
    ∃ client, make (.plain 988) { key := some "key" } [] = .ok client ∧
      let exchange := client.chat (.list []) [("model", .text "m")] fun _ =>
        .response { status := 200, body := List.replicate 100000 0x5b }
      exchange.answer = .error (.tooNested "array") ∧ ¬IsErrorOf .malformed exchange.answer := by
  obtain ⟨client, address, hmake, hcan⟩ := exists_canSend (.plain 988)
  have hread : readBody client.library.mostNested (List.replicate 100000 0x5b) =
      .error (.tooNested "array") := by
    rw [library_of_make hmake]
    exact readBody_of_nested (by decide) (by decide)
  generalize List.replicate 100000 (0x5b : UInt8) = body at hread ⊢
  obtain ⟨number, hsettled⟩ := hcan.exists_answer_eq (Json.canSend_list (List.forall_mem_nil _)) "m"
    fun _ => .response { status := 200, body }
  rw [settled_of_nested hcan.hasKind hread] at hsettled
  refine ⟨client, hmake, hsettled, ?_⟩
  rintro ⟨e, herror, -⟩
  cases hsettled.symm.trans herror

end Concierge.Completion
