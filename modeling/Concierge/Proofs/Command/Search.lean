import Concierge.Proofs.Command.Match

/-!
# Searching for commands

The search for the pattern of a command finds what the scanner finds, and erasing the pattern leaves
what the scanner leaves.
-/

namespace Concierge.Pattern

variable {p : Pattern}

/-! ## Behind a match -/

/-- A match that is not empty is the only one at its place. -/
theorem matchesAt_of_matchAt {place : Place} {m : Match} (h : p.matchAt false place = some m)
    (hne : m.stop ≠ place.offset) : p.matchesAt place = [m] := by
  simp only [matchesAt, h, if_neg hne]

/-- Where there is no match there are no matches. -/
theorem matchesAt_of_none {place : Place} (h : p.matchAt false place = none) :
    p.matchesAt place = [] := by
  simp only [matchesAt, h]

/-- The search passes over a stretch up to the offset where it resumes. -/
theorem matchesFrom_append {passed : List Char} {offset resume : Nat}
    (hresume : resume = offset + passed.length) (before : List Char) (rest : List Char) :
    ∃ behind, p.matchesFrom before offset resume (passed ++ rest) =
      p.matchesFrom behind resume resume rest := by
  induction passed generalizing before offset with
  | nil => exact ⟨before, by rw [hresume]; rfl⟩
  | cons c cs ih =>
    rw [List.length_cons] at hresume
    obtain ⟨behind, hbehind⟩ := @ih (offset + 1) (by omega) (c :: before)
    refine ⟨behind, ?_⟩
    rw [List.cons_append, matchesFrom, if_pos (by omega)]
    exact hbehind

/-- Erasing drops a stretch up to the offset where it resumes. -/
theorem keptFrom_append {passed : List Char} {offset resume : Nat}
    (hresume : resume = offset + passed.length) (before : List Char) (rest : List Char) :
    ∃ behind, p.keptFrom before offset resume (passed ++ rest) =
      p.keptFrom behind resume resume rest := by
  induction passed generalizing before offset with
  | nil => exact ⟨before, by rw [hresume]; rfl⟩
  | cons c cs ih =>
    rw [List.length_cons] at hresume
    obtain ⟨behind, hbehind⟩ := @ih (offset + 1) (by omega) (c :: before)
    refine ⟨behind, ?_⟩
    simp only [List.cons_append, keptFrom, if_pos (show offset < resume by omega), resumeAfter,
      List.getLast?_nil]
    exact hbehind

/-! ## The pattern of a command -/

variable {tag : String} (htag : ∀ x ∈ tag.toList, Text.IsTagChar x) {more : Nat}
include htag

/-- Where the scanner accepts a command, it is the only match. -/
theorem matchesAt_command {cs rest : List Char} {args : List (List Char)}
    (h : Command.scanHere tag.toList more cs = some (args, rest)) (before : List Char)
    (offset : Nat) : (command tag more).matchesAt ⟨before, cs, offset⟩ =
      [matchOf tag ⟨offset, offset + (cs.length - rest.length), args⟩] := by
  refine matchesAt_of_matchAt ((matchAt_command_iff htag).mpr ⟨args, rest, h, rfl⟩) ?_
  have hlt := Command.length_lt_of_scanHere h
  simp only [matchOf]
  omega

/-- Where the scanner accepts nothing, there is no match. -/
theorem matchesAt_command_of_none {cs : List Char} (h : Command.scanHere tag.toList more cs = none)
    (before : List Char) (offset : Nat) :
    (command tag more).matchesAt ⟨before, cs, offset⟩ = [] := by
  refine matchesAt_of_none (Option.eq_none_iff_forall_ne_some.mpr fun m hm => ?_)
  obtain ⟨args, rest, hsome, -⟩ := (matchAt_command_iff htag).mp hm
  cases h.symm.trans hsome

/-- The search for a command finds what the scanner finds. -/
theorem matchesFrom_command {offset resume : Nat} (hresume : resume ≤ offset)
    (before : List Char) (cs : List Char) :
    (command tag more).matchesFrom before offset resume cs =
      (Command.scan tag.toList more offset cs).map (matchOf tag) := by
  induction offset, cs using Command.scan.induct tag.toList more generalizing before resume with
  | case1 offset =>
    rw [matchesFrom, if_neg (Nat.not_lt.mpr hresume), matchesAt_command_of_none htag rfl,
      Command.scan]
    rfl
  | case2 offset c cs args rest h ih =>
    obtain ⟨passed, hpassed⟩ := Command.eq_append_of_scanHere h
    obtain ⟨rfl, rfl⟩ := List.cons.inj hpassed
    have hstop : offset + (('[' :: (passed ++ rest)).length - rest.length) =
        offset + 1 + passed.length := by
      rw [List.length_cons, List.length_append]
      omega
    obtain ⟨behind, hbehind⟩ :=
      matchesFrom_append (p := command tag more) hstop ('[' :: before) rest
    rw [matchesFrom, if_neg (Nat.not_lt.mpr hresume), matchesAt_command htag h,
      Command.scan_cons_of_some h, List.map_cons, ← ih (Nat.le_refl _) behind, ← hbehind]
    rfl
  | case3 offset c cs h ih =>
    rw [matchesFrom, if_neg (Nat.not_lt.mpr hresume), matchesAt_command_of_none htag h,
      Command.scan_cons_of_none h, ← ih (Nat.le_succ_of_le hresume) (c :: before)]
    rfl

/-- Erasing a command leaves what the scanner leaves. -/
theorem keptFrom_command {offset resume : Nat} (hresume : resume ≤ offset)
    (before : List Char) (cs : List Char) :
    (command tag more).keptFrom before offset resume cs =
      Command.unscanned tag.toList more cs := by
  induction offset, cs using Command.scan.induct tag.toList more generalizing before resume with
  | case1 offset => rw [keptFrom, Command.unscanned]
  | case2 offset c cs args rest h ih =>
    obtain ⟨passed, hpassed⟩ := Command.eq_append_of_scanHere h
    obtain ⟨rfl, rfl⟩ := List.cons.inj hpassed
    have hstop : offset + (('[' :: (passed ++ rest)).length - rest.length) =
        offset + 1 + passed.length := by
      rw [List.length_cons, List.length_append]
      omega
    obtain ⟨behind, hbehind⟩ := keptFrom_append (p := command tag more) hstop ('[' :: before) rest
    rw [Command.unscanned_cons_of_some h, ← ih (Nat.le_refl _) behind, ← hbehind]
    simp only [keptFrom, if_neg (Nat.not_lt.mpr hresume), matchesAt_command htag h]
    have hlt : offset < offset + (('[' :: (passed ++ rest)).length - rest.length) := by omega
    exact if_pos hlt
  | case3 offset c cs h ih =>
    rw [Command.unscanned_cons_of_none h, ← ih (Nat.le_succ_of_le hresume) (c :: before)]
    simp only [keptFrom, if_neg (Nat.not_lt.mpr hresume), matchesAt_command_of_none htag h]
    exact if_neg (Nat.not_lt.mpr hresume)

/-- The occurrences of a command are those that the scanner finds. -/
theorem findAll_command (text : List Char) : (command tag more).findAll text =
    (Command.scan tag.toList more 0 text).map (matchOf tag) :=
  matchesFrom_command htag (Nat.le_refl 0) [] text

/-- A text without the occurrences of a command is what the scanner leaves. -/
theorem erase_command (text : List Char) :
    (command tag more).erase text = Command.unscanned tag.toList more text :=
  keptFrom_command htag (Nat.le_refl 0) [] text

omit htag

/-- A stretch behind another one. -/
theorem slice_append (before middle rest : List Char) :
    slice (before ++ (middle ++ rest)) before.length (before.length + middle.length) = middle := by
  rw [slice, List.drop_left, Nat.add_sub_cancel_left, List.take_left]

/-- The texts of the groups of arguments are the arguments. -/
theorem map_slice_spansOf {text before rest : List Char} {args : List (List Char)}
    (h : text = before ++ (Command.argumentsText args ++ rest)) :
    (spansOf (before.length + 1) args).map (fun g => g.map fun s => slice text s.start s.stop) =
      args.map some := by
  induction args generalizing before with
  | nil => rfl
  | cons a as ih =>
    have hfirst : text = (before ++ [':']) ++ (a ++ (Command.argumentsText as ++ rest)) := by
      simp [h, Command.argumentsText]
    have hmore : text = (before ++ ':' :: a) ++ (Command.argumentsText as ++ rest) := by
      simp [h, Command.argumentsText]
    have hslice := slice_append (before ++ [':']) a (Command.argumentsText as ++ rest)
    have hslices := ih hmore
    rw [← hfirst, List.length_append, List.length_singleton] at hslice
    have hoffset : (before ++ ':' :: a).length = before.length + 1 + a.length := by
      rw [List.length_append, List.length_cons]
      omega
    rw [hoffset] at hslices
    rw [spansOf, List.map_cons, List.map_cons, Option.map_some, hslice, hslices]

/-- A command that the scanner finds lies where it is written, and the groups of its match have its
arguments as their texts. -/
theorem groupTexts_matchOf {text : List Char} {o : Command.Occurrence}
    (ho : o ∈ Command.scan tag.toList more 0 text) :
    (matchOf tag o).groupTexts text = o.arguments.map some := by
  obtain ⟨before, written, rest, hspells, -, htext, hstart, -⟩ := Command.mem_scan ho
  have hbehind : text = (before ++ '[' :: written) ++ (Command.argumentsText o.arguments ++ rest) := by
    simp [htext, Command.commandText]
  have htexts := map_slice_spansOf hbehind
  have hlength : o.start + tag.toList.length + 2 = (before ++ '[' :: written).length + 1 := by
    rw [List.length_append, List.length_cons, hstart, hspells.length_eq]
    omega
  rw [← htexts, ← hlength]
  rfl

end Concierge.Pattern
