import Concierge.Audit.Entry
import Concierge.Proofs.Time.Iso
import Concierge.Proofs.World.Action

/-!
# Entries are read as they are stored

An entry is stored as a dictionary. Reading the dictionary gives the entry back, if the user is a number,
the success a truth value, the arguments a dictionary, and the timestamp one that its text tells. An entry
that has been read, from a dictionary of whatever parts, is always of this kind. So what is read of a
stored entry does not change any more, however often it is stored and read again.
-/

namespace Concierge.Audit.Entry

/-- An entry whose parts are of their kinds. Its texts may be any values. -/
structure IsProper (e : Entry) : Prop where
  userId : ∃ n, e.userId = .int n
  params : ∃ d, e.params = .dict d
  success : ∃ b, e.success = .bool b
  timestamp : e.timestamp.IsTold

variable {e : Entry}

/-- A proper entry is read as it was stored. -/
theorem ofValue_toDict (h : e.IsProper) : ofValue (.dict e.toDict) = .ok e := by
  obtain ⟨n, hn⟩ := h.userId
  obtain ⟨d, hd⟩ := h.params
  obtain ⟨b, hb⟩ := h.success
  have htimestamp : Timestamp.ofValue (.text e.timestamp.iso) = .ok e.timestamp := by
    rw [Timestamp.ofValue, Timestamp.ofIso_iso h.timestamp]
  have hentry : e = { e with userId := .int n, params := .dict d, success := .bool b } := by
    rw [← hn, ← hd, ← hb]
  have hid : (Value.dict e.toDict).field "trigger_id" = .ok e.triggerId := rfl
  have hread : (Value.dict e.toDict).field "timestamp" = .ok (.text e.timestamp.iso) := rfl
  have huser : (Value.dict e.toDict).fieldOr "user_id" (.int 0) = .int n := hn
  have hparams : (Value.dict e.toDict).fieldOr "params" .null = .dict d := hd
  have hsuccess : (Value.dict e.toDict).fieldOr "success" (.bool false) = .bool b := hb
  have hok {ε ε' α : Type} (f : ε → ε') (a : α) : (Except.ok a).mapError f = .ok a := rfl
  have hnext {ε α β : Type} (a : α) (f : α → Except ε β) : (Except.ok a >>= f) = f a := rfl
  unfold ofValue
  simp only [hid, huser, hread, hparams, hsuccess, Value.toInteger, hok, hnext, htimestamp]
  rw [hentry]
  -- A dictionary without arguments is false, and is read as one without arguments.
  cases d <;> rfl

/-- A timestamp that is read from a value is told by its text. -/
theorem isTold_of_ofValue {v : Value} {t : Timestamp} (h : Timestamp.ofValue v = .ok t) : t.IsTold := by
  cases v with
  | text s => exact Timestamp.isTold_of_ofIso h
  | _ => cases h

/-- An entry that is read from a value is proper, whichever parts the value lacks. -/
theorem isProper_of_ofValue {v : Value} (h : ofValue v = .ok e) : e.IsProper := by
  unfold ofValue at h
  obtain ⟨triggerId, -, h⟩ := Fault.ok_of_bind h
  obtain ⟨userId, -, h⟩ := Fault.ok_of_bind h
  obtain ⟨stored, -, h⟩ := Fault.ok_of_bind h
  obtain ⟨timestamp, htimestamp, h⟩ := Fault.ok_of_bind h
  have htold : timestamp.IsTold := isTold_of_ofValue (Fault.ok_of_mapError htimestamp)
  dsimp only at h
  -- Arguments that are false are read as none; either way they are a dictionary.
  split at h
  all_goals
    obtain ⟨params, -, h⟩ := Fault.ok_of_bind h
    cases h
    exact ⟨⟨userId, rfl⟩, ⟨params, rfl⟩, ⟨_, rfl⟩, htold⟩

/-- An entry whose parts are of the kinds that they are declared with: its timestamp is any point of the
calendar, without an offset or in universal time. -/
structure IsDeclared (e : Entry) : Prop where
  triggerId : ∃ s, e.triggerId = .text s
  triggerName : ∃ s, e.triggerName = .text s
  userId : ∃ n, e.userId = .int n
  session : ∃ s, e.session = .text s
  address : ∃ s, e.address = .text s
  timestamp : e.timestamp.IsValid
  offset : e.timestamp.offset = none ∨ e.timestamp.offset = some 0
  params : ∃ d, e.params = .dict d
  success : ∃ b, e.success = .bool b
  message : ∃ s, e.message = .text s
  outcome : ∃ s, e.outcome = .text s

/-- An entry as it is declared is proper. -/
theorem IsDeclared.isProper (h : e.IsDeclared) : e.IsProper where
  userId := h.userId
  params := h.params
  success := h.success
  timestamp := Timestamp.isTold_of_isValid h.timestamp h.offset

/-- Every entry as it is declared is read as it was stored. The entries that are read so are just the
proper ones, and an entry that was read from anything is one of them. -/
theorem stored_entry_is_read_back :
    (∀ e : Entry, e.IsDeclared → ofValue (.dict e.toDict) = .ok e) ∧
    (∀ e : Entry, ofValue (.dict e.toDict) = .ok e ↔ e.IsProper) ∧
    ∀ v e, ofValue v = .ok e → ofValue (.dict e.toDict) = .ok e :=
  ⟨fun _ he => ofValue_toDict he.isProper, fun _ => ⟨isProper_of_ofValue, ofValue_toDict⟩,
    fun _ _ h => ofValue_toDict (isProper_of_ofValue h)⟩

/-- An entry of a leap day's last microsecond, in universal time, is read back. So is an entry that was read
from a dictionary with no more than an identifier and a date. -/
theorem stored_entry_is_read_back_of_leap_day :
    let e : Entry := {
      triggerId := .text "email_post_author", triggerName := .text "", userId := .int (-1)
      session := .text "s", address := .text "::1"
      timestamp := { year := 2024, month := 2, day := 29, hour := 23, minute := 59, second := 59,
                     micro := 999999, offset := some 0 }
      params := .dict [("message", .text "")], success := .bool false, message := .text ""
      outcome := .text "denied" }
    let bare : Entry := {
      triggerId := .text "x", triggerName := .text "", userId := .int 0
      session := .text "", address := .text ""
      timestamp := { year := 1, month := 1, day := 1 } }
    ofValue (.dict e.toDict) = .ok e ∧ ofValue (.dict bare.toDict) = .ok bare :=
  ⟨stored_entry_is_read_back.1 _ {
      triggerId := ⟨_, rfl⟩
      triggerName := ⟨_, rfl⟩
      userId := ⟨_, rfl⟩
      session := ⟨_, rfl⟩
      address := ⟨_, rfl⟩
      timestamp := by decide
      offset := .inr rfl
      params := ⟨_, rfl⟩
      success := ⟨_, rfl⟩
      message := ⟨_, rfl⟩
      outcome := ⟨_, rfl⟩ },
    stored_entry_is_read_back.2.2
      (.dict [("trigger_id", .text "x"), ("timestamp", .text "0001-01-01")]) _ (by rfl)⟩

end Concierge.Audit.Entry
