import Concierge.Proofs.Audit.History

/-!
# Logs that clients share

Several clients of one store append entries to one log at one instant. An append reads the log and then
writes it, and the halves of different appends may come in any order. An entry is lost whenever a client
writes that has read the log before the last write of another one: the writes of all entries are kept
exactly if no client does.
-/

namespace Concierge.Audit

variable {ι : Type}

/-! ## The halves of an append -/

/-- One half of an append of a client. -/
inductive Move (ι : Type) where
  /-- The client reads the log. -/
  | read (client : ι)
  /-- The client writes what it has read with one entry more. -/
  | write (client : ι) (entry : Entry)

/-- A store, and the value that each client has read last from the log. -/
structure Shared (ι : Type) where
  store : Store
  seen : ι → Value := fun _ => .null

namespace Shared

variable [DecidableEq ι]

/-- One half of an append. -/
def step (log : Log) (now : Instant) (s : Shared ι) : Move ι → Shared ι
  | .read client =>
    { store := (s.store.get now log.key).2
      seen := fun c => if c = client then s.store.valueAt now log.key else s.seen c }
  | .write client entry =>
    match log.extended entry (s.seen client) with
    | .ok items => { s with store := (log.write now items s.store).2 }
    | .error _ => s

/-- Halves of appends, one after another. -/
def run (log : Log) (now : Instant) (moves : List (Move ι)) (s : Shared ι) : Shared ι :=
  moves.foldl (step log now) s

/-- The two halves of an append make up the append when nothing comes between them. -/
theorem store_read_write (log : Log) (now : Instant) (client : ι) (entry : Entry) (s : Shared ι) :
    (s.run log now [.read client, .write client entry]).store =
      (log.append now entry s.store).2 := by
  have hget : s.store.get now log.key =
      (s.store.valueAt now log.key, (s.store.get now log.key).2) := rfl
  simp only [run, List.foldl_cons, List.foldl_nil, step, if_pos]
  unfold Log.append
  rw [hget]
  dsimp only
  cases log.extended entry (s.store.valueAt now log.key) <;> rfl

end Shared

/-- The entries of the history with a move, the newest one first. An entry that cannot be written does not
come into it. -/
def Move.after (entries : List Entry) : Move ι → List Entry
  | read _ => entries
  | write _ entry => if entry.isShort then entry :: entries else entries

/-- The entries that moves write, the newest one first. -/
def written (moves : List (Move ι)) : List Entry := moves.foldl Move.after []

/-- Every client that writes is current: it has read the log since the last write. Some clients are
current at first. An entry that cannot be written counts for no write. -/
def Undisturbed : (ι → Prop) → List (Move ι) → Prop
  | _, [] => True
  | current, .read client :: rest => Undisturbed (fun c => c = client ∨ current c) rest
  | current, .write client entry :: rest =>
    if entry.isShort then current client ∧ Undisturbed (fun _ => False) rest else Undisturbed current rest

/-- Entries that are written stay written. -/
theorem suffix_after (moves : List (Move ι)) (entries : List Entry) :
    entries <:+ moves.foldl Move.after entries := by
  induction moves generalizing entries with
  | nil => exact List.suffix_rfl
  | cons m rest ih =>
    refine List.IsSuffix.trans ?_ (ih (m.after entries))
    cases m with
    | read client => exact List.suffix_rfl
    | write client entry =>
      rw [Move.after]
      split
      · exact List.suffix_cons entry entries
      · exact List.suffix_rfl

/-! ## What a store keeps of them -/

/-- A value is what a log stores for entries. -/
structure Log.Stores (log : Log) (entries : List Entry) (v : Value) : Prop where
  ofStored_eq : log.ofStored v = .ok (stored entries)
  isShort : ∀ e ∈ entries, e.isShort = true

/-- What is stored for entries that can be written can be written. -/
theorem isShort_stored {entries : List Entry} (h : ∀ e ∈ entries, e.isShort = true) :
    (Value.list (stored entries)).isShort = true := by
  rw [Value.isShort_list_iff, stored]
  intro item hitem
  obtain ⟨e, he, rfl⟩ := List.mem_map.mp (List.mem_reverse.mp hitem)
  exact h e he

/-- The log has all entries that were written. A client has read all of them if it is current, and
otherwise it has read some, and not all. -/
structure Shared.IsWhole (log : Log) (now : Instant) (total : List Entry) (current : ι → Prop)
    (s : Shared ι) : Prop where
  store : log.Stores total (s.store.valueAt now log.key)
  seen : ∀ c, ∃ entries, log.Stores entries (s.seen c) ∧ entries.Sublist total ∧
    (current c → entries = total) ∧ (¬current c → entries.length < total.length)

/-- The log has some of the entries that were written, and not all, and so has every client read. -/
structure Shared.IsPart (log : Log) (now : Instant) (total : List Entry) (s : Shared ι) : Prop where
  store : ∃ entries, log.Stores entries (s.store.valueAt now log.key) ∧ entries.Sublist total ∧
    entries.length < total.length
  seen : ∀ c, ∃ entries, log.Stores entries (s.seen c) ∧ entries.Sublist total ∧
    entries.length < total.length

namespace Shared

variable [DecidableEq ι] {log : Log} {now : Instant} {total entries : List Entry} {current : ι → Prop}
  {s : Shared ι}

/-- Reading the log leaves what is stored. -/
theorem valueAt_read (log : Log) (now : Instant) (client : ι) (s : Shared ι) :
    (s.step log now (.read client)).store.valueAt now log.key = s.store.valueAt now log.key :=
  Store.valueAt_congr (s.store.view_get now log.key) log.key

/-- A client writes what it has read with one entry more, if the capacity admits it. -/
theorem stores_write (hlifetime : 1 ≤ log.lifetime) (hlasts : now + log.lasts < Instant.calendarEnd)
    {client : ι} (hseen : log.Stores entries (s.seen client)) {entry : Entry}
    (hshort : entry.isShort = true) (hroom : (entry :: entries).length ≤ log.capacity) :
    log.Stores (entry :: entries) ((s.step log now (.write client entry)).store.valueAt now log.key) ∧
      (s.step log now (.write client entry)).seen = s.seen := by
  have hitems : stored entries ++ [.dict entry.toDict] = stored (entry :: entries) := by
    rw [stored, stored, List.map_cons, List.reverse_cons]
  have hnewest : log.newest (stored (entry :: entries)) = stored (entry :: entries) := by
    rw [Log.newest, stored, List.length_reverse, List.length_map, Nat.sub_eq_zero_of_le hroom,
      List.drop_zero]
  have hextended : log.extended entry (s.seen client) = .ok (stored (entry :: entries)) := by
    rw [Log.extended, hseen.ofStored_eq]
    exact congrArg Except.ok ((congrArg log.newest hitems).trans hnewest)
  have hall : ∀ e ∈ entry :: entries, e.isShort = true := List.forall_mem_cons.mpr ⟨hshort, hseen.isShort⟩
  have hexpiry := Budget.expiryFor_window hlifetime hlasts none
  obtain ⟨s', hwrite, ⟨row, hrow, hvalue, hexpiry'⟩, -⟩ :=
    Log.write_of_isShort (isShort_stored hall) ⟨_, hexpiry⟩ s.store
  have hlive : row.isLive now = true := by
    have hlength := Budget.lengthOf_eq hlifetime
    have hpos : 0 < log.lasts := by
      rw [Log.lasts]
      omega
    rw [Store.Row.isLive_some (Except.ok.inj (hexpiry'.symm.trans hexpiry))]
    exact decide_eq_true (Nat.lt_add_of_pos_right hpos)
  have hstep : s.step log now (.write client entry) = { s with store := s' } := by
    simp only [step, hextended, hwrite]
  rw [hstep]
  refine ⟨⟨?_, hall⟩, rfl⟩
  rw [Store.valueAt_of_find? hrow hlive, hvalue]
  rfl

/-- A client that cannot write its entry leaves what is stored, and what the clients have seen. -/
theorem step_of_long (now : Instant) {client : ι} (hseen : log.Stores entries (s.seen client)) {entry : Entry}
    (hlong : entry.isShort = false) :
    (s.step log now (.write client entry)).store.valueAt now log.key = s.store.valueAt now log.key ∧
      (s.step log now (.write client entry)).seen = s.seen := by
  have hextended : log.extended entry (s.seen client) =
      .ok (log.newest (stored entries ++ [.dict entry.toDict])) := by
    rw [Log.extended, hseen.ofStored_eq]
    rfl
  have hitems : ∀ item ∈ stored entries, item.isShort = true :=
    Value.isShort_list_iff.mp (isShort_stored hseen.isShort)
  obtain ⟨e, s', hwrite, hview⟩ :=
    log.write_of_long now ((log.isShort_newest hitems entry).trans hlong) s.store
  have hstep : s.step log now (.write client entry) = { s with store := s' } := by
    simp only [step, hextended, hwrite]
  rw [hstep]
  exact ⟨Store.valueAt_congr hview log.key, rfl⟩

/-! ## One half of an append -/

/-- Reading the log makes a client current. -/
theorem IsWhole.read (h : s.IsWhole log now total current) (client : ι) :
    (s.step log now (.read client)).IsWhole log now total (fun c => c = client ∨ current c) where
  store := by
    rw [valueAt_read]
    exact h.store
  seen c := by
    by_cases hc : c = client
    · refine ⟨total, ?_, .refl total, fun _ => rfl, fun hnot => absurd (.inl hc) hnot⟩
      simpa only [step, if_pos hc] using h.store
    · obtain ⟨entries, hstores, hsub, hall, hfew⟩ := h.seen c
      refine ⟨entries, ?_, hsub, fun hcurrent => hall (hcurrent.resolve_left hc),
        fun hnot => hfew fun hcurrent => hnot (.inr hcurrent)⟩
      simpa only [step, if_neg hc] using hstores

/-- A log that lacks entries does so after it has been read. -/
theorem IsPart.read (h : s.IsPart log now total) (client : ι) :
    (s.step log now (.read client)).IsPart log now total where
  store := by
    rw [valueAt_read]
    exact h.store
  seen c := by
    by_cases hc : c = client
    · simpa only [step, if_pos hc] using h.store
    · simpa only [step, if_neg hc] using h.seen c

/-- An entry that cannot be written is not added. -/
theorem IsWhole.write_of_long (h : s.IsWhole log now total current) {client : ι} {entry : Entry}
    (hlong : entry.isShort = false) :
    (s.step log now (.write client entry)).IsWhole log now total current := by
  obtain ⟨entries, hstores, -⟩ := h.seen client
  obtain ⟨hstore, hseen⟩ := step_of_long now hstores hlong
  exact ⟨hstore.symm ▸ h.store, hseen.symm ▸ h.seen⟩

/-- An entry that cannot be written makes no log complete. -/
theorem IsPart.write_of_long (h : s.IsPart log now total) {client : ι} {entry : Entry}
    (hlong : entry.isShort = false) :
    (s.step log now (.write client entry)).IsPart log now total := by
  obtain ⟨entries, hstores, -⟩ := h.seen client
  obtain ⟨hstore, hseen⟩ := step_of_long now hstores hlong
  exact ⟨hstore.symm ▸ h.store, hseen.symm ▸ h.seen⟩

variable (hlifetime : 1 ≤ log.lifetime) (hlasts : now + log.lasts < Instant.calendarEnd)
  {client : ι} {entry : Entry} (hshort : entry.isShort = true)
  (hroom : (entry :: total).length ≤ log.capacity)
include hlifetime hlasts hshort hroom

/-- A current client adds its entry to all others, and no client is current then. -/
theorem IsWhole.write (h : s.IsWhole log now total current) (hcurrent : current client) :
    (s.step log now (.write client entry)).IsWhole log now (entry :: total) fun _ => False := by
  obtain ⟨entries, hstores, -, hall, -⟩ := h.seen client
  obtain rfl := hall hcurrent
  obtain ⟨hstore, hsame⟩ := stores_write hlifetime hlasts hstores hshort hroom
  refine ⟨hstore, fun c => ?_⟩
  obtain ⟨seen, hseen, hsub, -, -⟩ := h.seen c
  rw [hsame]
  exact ⟨seen, hseen, hsub.cons entry, False.elim, fun _ => Nat.lt_succ_of_le hsub.length_le⟩

/-- A client that is not current replaces the entries that it has not read by its own. -/
theorem IsWhole.write_of_not (h : s.IsWhole log now total current) (hnot : ¬current client) :
    (s.step log now (.write client entry)).IsPart log now (entry :: total) := by
  obtain ⟨entries, hstores, hsub, -, hfew⟩ := h.seen client
  have hfits : (entry :: entries).length ≤ log.capacity :=
    Nat.le_trans (Nat.succ_le_succ hsub.length_le) hroom
  obtain ⟨hstore, hsame⟩ := stores_write hlifetime hlasts hstores hshort hfits
  refine ⟨⟨_, hstore, hsub.cons_cons entry, Nat.succ_lt_succ (hfew hnot)⟩, fun c => ?_⟩
  obtain ⟨seen, hseen, hsub', -, -⟩ := h.seen c
  rw [hsame]
  exact ⟨seen, hseen, hsub'.cons entry, Nat.lt_succ_of_le hsub'.length_le⟩

/-- A log that lacks entries does so after any write. -/
theorem IsPart.write (h : s.IsPart log now total) :
    (s.step log now (.write client entry)).IsPart log now (entry :: total) := by
  obtain ⟨entries, hstores, hsub, hfew⟩ := h.seen client
  have hfits : (entry :: entries).length ≤ log.capacity :=
    Nat.le_trans (Nat.succ_le_succ hsub.length_le) hroom
  obtain ⟨hstore, hsame⟩ := stores_write hlifetime hlasts hstores hshort hfits
  refine ⟨⟨_, hstore, hsub.cons_cons entry, Nat.succ_lt_succ hfew⟩, fun c => ?_⟩
  obtain ⟨seen, hseen, hsub', hfew'⟩ := h.seen c
  rw [hsame]
  exact ⟨seen, hseen, hsub'.cons entry, Nat.lt_succ_of_lt hfew'⟩

omit hshort hroom

/-! ## A whole run -/

/-- A log that lacks entries does so after any run. -/
theorem IsPart.run (h : s.IsPart log now total) {moves : List (Move ι)}
    (hcapacity : (moves.foldl Move.after total).length ≤ log.capacity) :
    (s.run log now moves).IsPart log now (moves.foldl Move.after total) := by
  induction moves generalizing total s with
  | nil => exact h
  | cons m rest ih =>
    cases m with
    | read client => exact ih (h.read client) hcapacity
    | write client entry =>
      rw [List.foldl_cons, Move.after] at hcapacity ⊢
      cases hshort : entry.isShort with
      | true =>
        rw [hshort, if_pos rfl] at hcapacity
        have hroom := Nat.le_trans (suffix_after rest (entry :: total)).length_le hcapacity
        exact ih (h.write hlifetime hlasts hshort hroom) hcapacity
      | false =>
        rw [hshort, if_neg Bool.false_ne_true] at hcapacity
        exact ih (h.write_of_long hshort) hcapacity

/-- A run keeps all entries if nothing disturbs it, and otherwise some are lost. -/
theorem IsWhole.run (h : s.IsWhole log now total current) {moves : List (Move ι)}
    (hcapacity : (moves.foldl Move.after total).length ≤ log.capacity) :
    (Undisturbed current moves ∧
      ∃ current', (s.run log now moves).IsWhole log now (moves.foldl Move.after total) current') ∨
    ¬Undisturbed current moves ∧
      (s.run log now moves).IsPart log now (moves.foldl Move.after total) := by
  induction moves generalizing total current s with
  | nil => exact .inl ⟨trivial, current, h⟩
  | cons m rest ih =>
    cases m with
    | read client => exact ih (h.read client) hcapacity
    | write client entry =>
      rw [List.foldl_cons, Move.after] at hcapacity ⊢
      rw [Undisturbed]
      cases hshort : entry.isShort with
      | false =>
        rw [hshort, if_neg Bool.false_ne_true] at hcapacity
        exact ih (h.write_of_long hshort) hcapacity
      | true =>
        rw [hshort, if_pos rfl] at hcapacity
        rw [if_pos rfl, if_pos rfl]
        have hroom := Nat.le_trans (suffix_after rest (entry :: total)).length_le hcapacity
        by_cases hcurrent : current client
        · rcases ih (h.write hlifetime hlasts hshort hroom hcurrent) hcapacity with
            ⟨hrest, hwhole⟩ | ⟨hrest, hpart⟩
          · exact .inl ⟨⟨hcurrent, hrest⟩, hwhole⟩
          · exact .inr ⟨fun hboth => hrest hboth.2, hpart⟩
        · exact .inr ⟨fun hboth => hcurrent hboth.1,
            (h.write_of_not hlifetime hlasts hshort hroom hcurrent).run hlifetime hlasts hcapacity⟩

end Shared

/-- Clients of one store append entries to an empty log of sufficient capacity at one instant. However
the halves of their appends come, the log shows some of the entries, in the order in which they were
written. It shows each of them once exactly if every client that writes has read the log after the last
write. -/
theorem Log.recent_of_moves [DecidableEq ι] {log : Log} {now : Instant} {s : Store}
    (hempty : log.ofStored (s.valueAt now log.key) = .ok []) (hlifetime : 1 ≤ log.lifetime)
    (hlasts : now + log.lasts < Instant.calendarEnd) (moves : List (Move ι))
    (hproper : ∀ e ∈ written moves, e.IsProper) (hcapacity : (written moves).length ≤ log.capacity) :
    ∃ shown, (log.recent now none (Shared.run log now moves { store := s }).store).1 = .ok shown ∧
      shown.Sublist (written moves) ∧
      (shown.Perm (written moves) ↔ Undisturbed (fun _ => True) moves) := by
  have hnew : Shared.IsWhole log now [] (fun _ : ι => True) { store := s } :=
    ⟨⟨hempty, List.forall_mem_nil _⟩, fun _ => ⟨[], ⟨rfl, List.forall_mem_nil _⟩, .refl [],
      fun _ => rfl, fun hnot => absurd trivial hnot⟩⟩
  rcases hnew.run hlifetime hlasts hcapacity with ⟨hundisturbed, current, hwhole⟩ | ⟨hdisturbed, hpart⟩
  · refine ⟨written moves, (recent_of_ofStored hproper hwhole.store.ofStored_eq).1, .refl _, ?_⟩
    exact ⟨fun _ => hundisturbed, fun _ => .refl _⟩
  · obtain ⟨shown, hstores, hsub, hfew⟩ := hpart.store
    refine ⟨shown, (recent_of_ofStored (fun e he => hproper e (hsub.subset he)) hstores.ofStored_eq).1, hsub, ?_⟩
    exact ⟨fun hperm => absurd hperm.length_eq (Nat.ne_of_lt hfew), fun h => absurd h hdisturbed⟩

/-- Two clients that append one after the other keep both entries. -/
theorem Log.recent_of_moves_in_turn :
    let moves : List (Move Bool) := [.read true, .write true (.sample "one"),
      .read false, .write false (.sample "two")]
    ∃ shown, (Log.recent {} 0 none (Shared.run {} 0 moves { store := {} }).store).1 = .ok shown ∧
      shown.Perm [.sample "two", .sample "one"] := by
  intro moves
  have hproper : ∀ e ∈ written moves, e.IsProper :=
    List.forall_mem_cons.mpr ⟨Entry.isProper_sample _,
      List.forall_mem_singleton.mpr (Entry.isProper_sample _)⟩
  have hundisturbed : Undisturbed (fun _ => True) moves := ⟨.inr trivial, .inl rfl, trivial⟩
  obtain ⟨shown, hrecent, -, hperm⟩ := @recent_of_moves Bool _ {} 0 {} rfl (by decide) (by decide)
    moves hproper (by decide)
  exact ⟨shown, hrecent, hperm.mpr hundisturbed⟩

/-- Two clients read the log before either of them writes. The one that writes last erases the entry of
the other. -/
theorem Log.last_writer_erases_first :
    let moves : List (Move Bool) := [.read true, .read false,
      .write true (.sample "one"), .write false (.sample "two")]
    (Log.recent {} 0 none (Shared.run {} 0 moves { store := {} }).store).1 =
        .ok [.sample "two"] ∧
      written moves = [.sample "two", .sample "one"] := ⟨rfl, rfl⟩

end Concierge.Audit
