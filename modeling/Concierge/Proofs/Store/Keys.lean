import Concierge.Audit.Log
import Concierge.Chat.Turn
import Concierge.Proofs.Command.Scanner
import Concierge.Settings

/-!
# Keys

Settings, the budgets of triggers, the budgets of chats and the log share one space of keys, and their
keys are made of identifiers and sessions that may be any text. No key of one kind is ever one of another
kind, since the words in front of them differ at one place. Two keys of one kind are another matter.
-/

namespace Concierge

/-- Keys with different characters at one place are different. -/
theorem ne_of_getElem? {k k' : String} {c c' : Char} {i : Nat} (h : k.toList[i]? = some c)
    (h' : k'.toList[i]? = some c') (hne : c ≠ c') : k ≠ k' := by
  rintro rfl
  exact hne (Option.some.inj (h.symm.trans h'))

/-- The words in front of a key are its first characters. -/
theorem getElem?_of_front {front : String} {c : Char} {i : Nat} (h : front.toList[i]? = some c)
    (rest : String) : (front ++ rest).toList[i]? = some c := by
  rw [String.toList_append]
  exact List.getElem?_append_left (List.getElem?_eq_some_iff.mp h).1 ▸ h

namespace Settings

/-- The character that tells keys of settings from other keys. -/
theorem getElem?_keyOf (id : String) : (keyOf id).toList[8]? = some 's' := getElem?_of_front rfl id

/-- Different triggers have different keys of settings. -/
theorem keyOf_injective {id id' : String} (h : keyOf id = keyOf id') : id = id' :=
  (String.append_right_inj _).mp h

end Settings

namespace Budget

/-- The character that tells keys of budgets from other keys. -/
theorem getElem?_keyOf (id : String) (session : Value) :
    (keyOf id session).toList[8]? = some 'r' := by
  unfold keyOf
  rw [String.append_assoc, String.append_assoc]
  exact getElem?_of_front rfl _

/-- The budgets of different triggers in one session have different keys. -/
theorem keyOf_injective {id id' : String} {session : Value}
    (h : keyOf id session = keyOf id' session) : id = id' := by
  unfold keyOf at h
  have hbefore := (String.append_left_inj _).mp h
  exact (String.append_right_inj _).mp ((String.append_left_inj _).mp hbefore)

/-- Where identifiers have no colon, the key of a budget tells the trigger and the session. -/
theorem keyOf_text_inj {id id' session session' : String} (hid : ':' ∉ id.toList)
    (hid' : ':' ∉ id'.toList) (hsession : session ≠ "") (hsession' : session' ≠ "") :
    keyOf id (.text session) = keyOf id' (.text session') ↔ id = id' ∧ session = session' := by
  have hkey (i word : String) (hword : word ≠ "") :
      (keyOf i (.text word)).toList = "trigger_rate:".toList ++ (i.toList ++ ':' :: word.toList) := by
    have htruthy : (Value.text word).truthy = true := by simpa [Value.truthy] using hword
    rw [keyOf, htruthy]
    simp
  constructor
  · intro h
    have hlists := congrArg String.toList h
    rw [hkey id session hsession, hkey id' session' hsession'] at hlists
    have hcut' := Text.cutAt?_eq_some_iff.mpr ⟨List.append_cancel_left hlists, hid'⟩
    rw [Text.cutAt?_eq_some_iff.mpr ⟨rfl, hid⟩] at hcut'
    have hparts := Option.some.inj hcut'
    exact ⟨String.toList_inj.mp (congrArg Prod.fst hparts), String.toList_inj.mp (congrArg Prod.snd hparts)⟩
  · rintro ⟨rfl, rfl⟩
    rfl

end Budget

/-- The character that tells keys of the budgets of chats from other keys. -/
theorem Chat.getElem?_budgetKey (session : Value) : (budgetKey session).toList[8]? = some 'e' :=
  getElem?_of_front rfl _

/-- The character that tells the key that logs have, unless another one is chosen, from other keys. -/
theorem Audit.Log.getElem?_key {log : Audit.Log} (h : log.key = "trigger_logs") :
    log.key.toList[8]? = some 'l' := by
  rw [h]
  rfl

end Concierge
