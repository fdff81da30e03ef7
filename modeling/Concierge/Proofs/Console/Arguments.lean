import Concierge.Console.Command
import Concierge.Proofs.Command.Scanner

/-!
# The settings command

Which command the arguments of the settings command make. The text behind the first equals sign of an
assignment is its value, whatever it holds.
-/

namespace Concierge.Console

variable {specs : List OptionSpec} {arg : String} {rest : List String} {key : String}

/-- An argument does not begin with a dash, so that it is no option. -/
def IsPlain (arg : String) : Prop := arg.toList.head? ≠ some '-'

instance (arg : String) : Decidable (IsPlain arg) :=
  inferInstanceAs (Decidable (arg.toList.head? ≠ some '-'))

/-- A plain argument is one of the arguments of the command. -/
theorem parseFrom_cons (harg : IsPlain arg) (fuel : Nat) :
    parseFrom specs true (fuel + 1) (arg :: rest) = (parseFrom specs true fuel rest).map fun g =>
      { g with arguments := arg :: g.arguments } := by
  have hmap (e : Except UsageError Given) :
      (do let g ← e; return { g with arguments := arg :: g.arguments } : Except UsageError Given) =
        e.map fun g => { g with arguments := arg :: g.arguments } := by
    cases e <;> rfl
  rw [parseFrom]
  split
  · rename_i hdashes
    exact absurd (by rw [hdashes]; rfl) harg
  · rename_i hdashes
    exact absurd (by rw [hdashes]; rfl) harg
  · rename_i hdash
    exact absurd (by rw [hdash]; rfl) harg
  · rw [if_pos rfl, hmap]

/-- Plain arguments are the arguments of the command. -/
theorem parse_of_plain {args : List String} (hplain : ∀ arg ∈ args, IsPlain arg) :
    parse specs true args = .ok { arguments := args } := by
  unfold parse
  induction args with
  | nil => rfl
  | cons arg rest ih =>
    obtain ⟨harg, hrest⟩ := List.forall_mem_cons.mp hplain
    rw [List.length_cons, parseFrom_cons harg, ih hrest]
    rfl

/-- An assignment of a text to a key without blanks around it and without an equals sign. -/
theorem assignment_eq (hne : key ≠ "") (hequals : '=' ∉ key.toList) (htidy : Text.strip key.toList = key.toList)
    (value : String) : assignment (key ++ "=" ++ value) = .ok (key, .text value) := by
  have hwritten : (key ++ "=" ++ value).toList = key.toList ++ '=' :: value.toList := by simp
  have hcut : Text.cutAt? '=' (key ++ "=" ++ value).toList = some (key.toList, value.toList) :=
    Text.cutAt?_eq_some_iff.mpr ⟨hwritten, hequals⟩
  unfold assignment
  rw [hcut]
  cases hkey : key.toList with
  | nil => exact absurd (String.toList_eq_nil_iff.mp hkey) hne
  | cons c cs =>
    rw [hkey] at htidy
    dsimp only
    rw [htidy, ← hkey, String.ofList_toList, String.ofList_toList]

/-- The settings command with one assignment. -/
theorem ofName_settings {id : String} (hid : IsPlain id) (hplain : IsPlain key) (hne : key ≠ "")
    (hequals : '=' ∉ key.toList) (htidy : Text.strip key.toList = key.toList) (value : String) :
    Command.ofName "settings" [id, key ++ "=" ++ value] = .ok (.settings id [(key, .text value)]) := by
  have hassigned : IsPlain (key ++ "=" ++ value) := by
    cases hkey : key.toList with
    | nil => exact absurd (String.toList_eq_nil_iff.mp hkey) hne
    | cons c cs =>
      have hwritten : (key ++ "=" ++ value).toList = c :: (cs ++ '=' :: value.toList) := by simp [hkey]
      rw [IsPlain, hkey] at hplain
      rw [IsPlain, hwritten]
      exact hplain
  have hparse : parse [] true [id, key ++ "=" ++ value] =
      .ok { arguments := [id, key ++ "=" ++ value] } :=
    parse_of_plain (by simp [hid, hassigned])
  have hchanges : assignments [key ++ "=" ++ value] = .ok [(key, .text value)] := by
    unfold assignments
    rw [List.mapM_cons, List.mapM_nil, assignment_eq hne hequals htidy]
    rfl
  show Command.ofSettings [id, key ++ "=" ++ value] = _
  unfold Command.ofSettings
  rw [hparse]
  show (do return Command.settings id (← assignments [key ++ "=" ++ value]) : Except UsageError Command) = _
  rw [hchanges]
  rfl

end Concierge.Console
