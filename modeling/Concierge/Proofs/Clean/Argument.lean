import Concierge.Clean.Argument
import Concierge.Proofs.Clean.Email
import Concierge.Proofs.Clean.Line
import Concierge.Proofs.Clean.Url
import Concierge.Proofs.World.Action

/-!
# What cleaned arguments are

Each category of arguments has a rule for its values, and cleaning by a category gives values that follow
the rule, whatever they were before. So after cleaning every argument follows the rule of the category
that its name tells.
-/

namespace Concierge

/-- The rule that values of a category follow. -/
def Category.Admits : Category → Value → Prop
  | .email, .text s => Clean.IsEmail s.toList
  | .url, .text s => Clean.IsLink s.toList
  | .number, .int n => 0 ≤ n
  | .line, .text s => Clean.IsLine s.toList
  | _, _ => False

/-- Every argument follows the rule of the category that its name tells. -/
def Params.AreClean (params : Params) : Prop := ∀ e ∈ params, (Category.ofName e.1).Admits e.2

/-- What every value has that a function gives, all members of a list have that it has made. -/
theorem forall_of_mapM {ε α β : Type} {f : α → Except ε β} {P : β → Prop}
    (hf : ∀ a b, f a = .ok b → P b) {as : List α} {bs : List β} (h : as.mapM f = .ok bs) :
    ∀ b ∈ bs, P b := by
  induction as generalizing bs with
  | nil =>
    cases h
    exact List.forall_mem_nil _
  | cons a as ih =>
    rw [List.mapM_cons] at h
    obtain ⟨b, hb, h⟩ := Fault.ok_of_bind h
    obtain ⟨rest, hrest, h⟩ := Fault.ok_of_bind h
    cases h
    exact List.forall_mem_cons.mpr ⟨hf a b hb, ih hrest⟩

namespace Clean

/-- No arguments at all are clean. -/
theorem areClean_nil : Params.AreClean [] := List.forall_mem_nil _

/-- A value that has a link has a text, which the link is made of. -/
theorem exists_of_url {v : Value} {s : String} (h : url v = .ok s) :
    ∃ text cs, v.asText = .ok text ∧ urlChars text.toList = .ok cs ∧ s = String.ofList cs := by
  obtain ⟨text, htext, h⟩ := Fault.ok_of_bind h
  obtain ⟨cs, hcs, rfl⟩ := Fault.ok_of_map (Fault.ok_of_mapError h)
  exact ⟨text, cs, Fault.ok_of_mapError htext, hcs, rfl⟩

/-- What a value is cleaned to as a link is a link. -/
theorem isLink_of_url {v : Value} {s : String} (h : url v = .ok s) : IsLink s.toList := by
  obtain ⟨text, cs, -, hcs, rfl⟩ := exists_of_url h
  rw [String.toList_ofList]
  exact isLink_of_urlChars hcs

/-- What cleaning by a category gives follows the rule of the category. -/
theorem admits_of_clean {category : Category} {v cleaned : Value} (h : category.clean v = .ok cleaned) :
    category.Admits cleaned := by
  cases category with
  | email =>
    obtain ⟨s, hs, rfl⟩ := Fault.ok_of_map (Fault.ok_of_mapError h)
    exact isEmail_of_email hs
  | url =>
    obtain ⟨s, hs, rfl⟩ := Fault.ok_of_map h
    exact isLink_of_url hs
  | number =>
    obtain ⟨i, hi, rfl⟩ := Fault.ok_of_map (Fault.ok_of_mapError h)
    obtain ⟨n, -, hi⟩ := Fault.ok_of_bind hi
    cases hi
    exact Int.natCast_nonneg n
  | line =>
    obtain ⟨s, hs, rfl⟩ := Fault.ok_of_map (Fault.ok_of_mapError h)
    exact isLine_of_line hs

/-- A number that is made of a value that can be written can be written. -/
theorem isShort_number {v : Value} {n : Nat} (hshort : v.isShort = true) (h : number v = .ok n) :
    isShort n = true := by
  have htext {cs : List Char} (h : leadingNumber cs = .ok n) : isShort n = true := by
    unfold leadingNumber at h
    have hdigits := @Reading.lt_of_mem_leadingDigits (Reading.sign (cs.dropWhile Text.isBlank)).2
    split at h
    · cases h
      rfl
    · rename_i hleading
      rw [hleading] at hdigits
      exact Reading.isShort_of_boundedNat hdigits h
  cases v with
  | bool b => cases h; cases b <;> rfl
  | int i =>
    cases h
    rw [Value.isShort, isShort_iff] at hshort
    rw [isShort_iff, Int.natAbs_natCast]
    exact hshort
  | double d =>
    obtain ⟨i, hi, rfl⟩ := Fault.ok_of_map h
    have hwhole := isShort_iff.mp (Reading.isShort_of_integerOfDouble hi)
    rw [isShort_iff, Int.natAbs_natCast]
    exact hwhole
  | _ =>
    obtain ⟨s, -, h⟩ := Fault.ok_of_bind h
    exact htext h

/-- A value that can be written can be written when it has been cleaned. -/
theorem isShort_of_clean {category : Category} {v cleaned : Value} (hshort : v.isShort = true)
    (h : category.clean v = .ok cleaned) : cleaned.isShort = true := by
  cases category with
  | email =>
    obtain ⟨s, -, rfl⟩ := Fault.ok_of_map (Fault.ok_of_mapError h)
    rfl
  | url =>
    obtain ⟨s, -, rfl⟩ := Fault.ok_of_map h
    rfl
  | number =>
    obtain ⟨i, hi, rfl⟩ := Fault.ok_of_map (Fault.ok_of_mapError h)
    obtain ⟨n, hn, hi⟩ := Fault.ok_of_bind hi
    cases hi
    exact isShort_number hshort hn
  | line =>
    obtain ⟨s, -, rfl⟩ := Fault.ok_of_map (Fault.ok_of_mapError h)
    rfl

/-- Arguments that can be written can be written when they have been cleaned. -/
theorem isShort_arguments {params cleaned : Params} (hshort : (Value.dict params).isShort = true)
    (h : arguments params = .ok cleaned) : (Value.dict cleaned).isShort = true := by
  rw [Value.isShort_dict_iff] at hshort ⊢
  induction params generalizing cleaned with
  | nil =>
    cases h
    exact List.forall_mem_nil _
  | cons e params ih =>
    obtain ⟨hfirst, hrest⟩ := List.forall_mem_cons.mp hshort
    unfold arguments at h ih
    rw [List.mapM_cons] at h
    obtain ⟨e', he', h⟩ := Fault.ok_of_bind h
    obtain ⟨rest, hrest', h⟩ := Fault.ok_of_bind h
    obtain ⟨v, hv, he'⟩ := Fault.ok_of_bind he'
    cases he'
    cases h
    exact List.forall_mem_cons.mpr ⟨isShort_of_clean hfirst hv, ih hrest hrest'⟩

/-- Cleaned arguments are clean. -/
theorem areClean_of_arguments {params cleaned : Params} (h : arguments params = .ok cleaned) :
    Params.AreClean cleaned := by
  refine forall_of_mapM (fun e e' he => ?_) h
  obtain ⟨v, hv, he⟩ := Fault.ok_of_bind he
  cases he
  exact admits_of_clean hv

end Clean

end Concierge
