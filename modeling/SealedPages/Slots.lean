/-
  SealedPages.Slots
  ─────────────────
  **NUMBERED SLOTS.**  A script keeps what it holds in slots with numbers.  The
  occupied slots are listed by ascending number, which is the order in which
  they are given up at the end.

  Main statements:
    * `get?_put`, `get?_erase` — putting and erasing show at one number alone;
    * `get?_set` — so does filling or emptying in one word;
    * `set_get?_self` — setting a slot to what it holds changes nothing;
    * `mem_values_iff` — what the slots hold is what can be found in them;
    * `values_perm`, `values_set_perm` — what the slots hold, by one slot and the
      others.
-/

namespace SealedPages

/-- The occupied slots, by ascending number. -/
structure Slots (α : Type) where
  entries : List (Nat × α)
  /-- Every number stands once, and before the greater ones. -/
  ascending : entries.Pairwise (fun a b => a.1 < b.1)

namespace Slots

variable {α : Type}

/-- No slot is occupied. -/
def empty : Slots α :=
  ⟨[], List.Pairwise.nil⟩

/-- What the slot `k` holds. -/
def get? (s : Slots α) (k : Nat) : Option α :=
  s.entries.lookup k

/-- Put an entry in its place, over an entry of the same number. -/
def insertEntry (k : Nat) (a : α) : List (Nat × α) → List (Nat × α)
  | [] => [(k, a)]
  | (j, b) :: rest =>
      if k < j then (k, a) :: (j, b) :: rest
      else if k = j then (k, a) :: rest
      else (j, b) :: insertEntry k a rest

theorem mem_insertEntry {k : Nat} {a : α} {e : Nat × α} {entries : List (Nat × α)}
    (h : e ∈ insertEntry k a entries) : e = (k, a) ∨ e ∈ entries := by
  induction entries with
  | nil => exact Or.inl (by simpa [insertEntry] using h)
  | cons d rest ih =>
      obtain ⟨j, b⟩ := d
      rw [insertEntry] at h
      split at h
      · simpa using h
      · split at h
        · rcases List.mem_cons.1 h with rfl | hr
          · exact Or.inl rfl
          · exact Or.inr (List.mem_cons_of_mem _ hr)
        · rcases List.mem_cons.1 h with rfl | hr
          · exact Or.inr List.mem_cons_self
          · exact (ih hr).imp_right (List.mem_cons_of_mem _)

/-- Putting an entry in its place keeps the order. -/
theorem pairwise_insertEntry (k : Nat) (a : α) {entries : List (Nat × α)}
    (h : entries.Pairwise (fun a b => a.1 < b.1)) :
    (insertEntry k a entries).Pairwise (fun a b => a.1 < b.1) := by
  induction entries with
  | nil => simp [insertEntry]
  | cons d rest ih =>
      obtain ⟨j, b⟩ := d
      obtain ⟨hj, hrest⟩ := List.pairwise_cons.1 h
      rw [insertEntry]
      split
      · rename_i hkj
        refine List.pairwise_cons.2 ⟨fun e he => ?_, h⟩
        rcases List.mem_cons.1 he with rfl | hr
        · exact hkj
        · exact Nat.lt_trans hkj (hj e hr)
      · split
        · rename_i hkj
          subst hkj
          exact List.pairwise_cons.2 ⟨hj, hrest⟩
        · rename_i hlt hne
          refine List.pairwise_cons.2 ⟨fun e he => ?_, ih hrest⟩
          rcases mem_insertEntry he with rfl | hr
          · show j < k
            omega
          · exact hj e hr

/-- Fill the slot `k`. -/
def put (s : Slots α) (k : Nat) (a : α) : Slots α :=
  ⟨insertEntry k a s.entries, pairwise_insertEntry k a s.ascending⟩

/-- Empty the slot `k`. -/
def erase (s : Slots α) (k : Nat) : Slots α :=
  ⟨s.entries.filter fun e => e.1 != k, s.ascending.filter _⟩

/-- Fill or empty the slot `k`. -/
def set (s : Slots α) (k : Nat) : Option α → Slots α
  | some a => s.put k a
  | none   => s.erase k

/-- What the slots hold, by ascending number. -/
def values (s : Slots α) : List α :=
  s.entries.map Prod.snd

theorem lookup_cons_eq_ite (j i : Nat) (b : α) (rest : List (Nat × α)) :
    ((i, b) :: rest).lookup j = if j = i then some b else rest.lookup j := by
  by_cases h : j = i
  · simp [h]
  · have hbeq : (j == i) = false := by simpa using h
    simp [List.lookup_cons, h, hbeq]

theorem lookup_insertEntry (k j : Nat) (a : α) (entries : List (Nat × α)) :
    (insertEntry k a entries).lookup j = if j = k then some a else entries.lookup j := by
  induction entries with
  | nil => simp [insertEntry, lookup_cons_eq_ite]
  | cons e rest ih =>
      obtain ⟨i, b⟩ := e
      rw [insertEntry]
      split
      · rw [lookup_cons_eq_ite]
      · split
        · rename_i hki
          subst hki
          by_cases h : j = k <;> simp [lookup_cons_eq_ite, h]
        · rename_i hki
          rw [lookup_cons_eq_ite, ih, lookup_cons_eq_ite]
          by_cases hj : j = i
          · have hne : ¬ i = k := fun e => hki e.symm
            simp [hj, hne]
          · simp [hj]

/-- **Filling a slot shows at its number alone.** -/
theorem get?_put (s : Slots α) (k j : Nat) (a : α) :
    (s.put k a).get? j = if j = k then some a else s.get? j :=
  lookup_insertEntry k j a s.entries

theorem lookup_filter_ne (k j : Nat) (entries : List (Nat × α)) :
    (entries.filter fun e => e.1 != k).lookup j = if j = k then none else entries.lookup j := by
  induction entries with
  | nil => simp
  | cons e rest ih =>
      obtain ⟨i, b⟩ := e
      by_cases hik : i = k
      · have hf : ((i, b).1 != k) = false := by simpa using hik
        rw [List.filter_cons_of_neg (by simp [hf]), ih, lookup_cons_eq_ite]
        by_cases hj : j = k <;> simp [hj, hik]
      · rw [List.filter_cons_of_pos (by simpa using hik), lookup_cons_eq_ite, ih, lookup_cons_eq_ite]
        by_cases hj : j = i
        · simp [hj, hik]
        · simp [hj]

/-- **Emptying a slot shows at its number alone.** -/
theorem get?_erase (s : Slots α) (k j : Nat) :
    (s.erase k).get? j = if j = k then none else s.get? j :=
  lookup_filter_ne k j s.entries

/-- In entries that ascend, looking a number up finds what stands beside it. -/
theorem lookup_eq_some_iff {k : Nat} {a : α} {entries : List (Nat × α)}
    (h : entries.Pairwise (fun a b => a.1 < b.1)) :
    entries.lookup k = some a ↔ (k, a) ∈ entries := by
  induction entries with
  | nil => simp
  | cons d rest ih =>
      obtain ⟨j, b⟩ := d
      obtain ⟨hj, hrest⟩ := List.pairwise_cons.1 h
      rw [lookup_cons_eq_ite]
      by_cases hk : k = j
      · subst hk
        rw [if_pos rfl]
        constructor
        · intro hb
          rw [Option.some.inj hb]
          exact List.mem_cons_self
        · intro hm
          rcases List.mem_cons.1 hm with he | hr
          · rw [(Prod.mk.inj he).2]
          · exact absurd (hj _ hr) (Nat.lt_irrefl k)
      · rw [if_neg hk, ih hrest]
        constructor
        · exact List.mem_cons_of_mem _
        · intro hm
          rcases List.mem_cons.1 hm with he | hr
          · exact absurd (Prod.mk.inj he).1 hk
          · exact hr

/-- **What the slots hold is what can be found in them.** -/
theorem mem_values_iff (s : Slots α) {a : α} :
    a ∈ s.values ↔ ∃ k, s.get? k = some a := by
  constructor
  · intro h
    obtain ⟨⟨k, b⟩, hm, rfl⟩ := List.mem_map.1 h
    exact ⟨k, (lookup_eq_some_iff s.ascending).2 hm⟩
  · rintro ⟨k, h⟩
    exact List.mem_map.2 ⟨(k, a), (lookup_eq_some_iff s.ascending).1 h, rfl⟩

theorem perm_lookup_filter (k : Nat) {entries : List (Nat × α)}
    (h : entries.Pairwise (fun a b => a.1 < b.1)) :
    (entries.map Prod.snd).Perm
      ((entries.lookup k).toList ++ (entries.filter fun e => e.1 != k).map Prod.snd) := by
  induction entries with
  | nil => exact List.Perm.refl _
  | cons d rest ih =>
      obtain ⟨j, b⟩ := d
      obtain ⟨hj, hrest⟩ := List.pairwise_cons.1 h
      rw [lookup_cons_eq_ite]
      by_cases hk : k = j
      · -- the number stands here, and nowhere behind
        subst hk
        have hall : rest.filter (fun e => e.1 != k) = rest :=
          List.filter_eq_self.2 fun e he => by
            have hlt := hj e he
            simpa using Nat.ne_of_gt hlt
        rw [if_pos rfl, List.filter_cons_of_neg (by simp), hall]
        exact List.Perm.refl _
      · rw [if_neg hk, List.filter_cons_of_pos (by simpa using fun e => hk e.symm)]
        exact ((ih hrest).cons b).trans List.perm_middle.symm

/-- **What the slots hold is what one of them holds, and what the others hold.** -/
theorem values_perm (s : Slots α) (k : Nat) :
    s.values.Perm ((s.get? k).toList ++ (s.erase k).values) :=
  perm_lookup_filter k s.ascending

theorem get?_set_self (s : Slots α) (k : Nat) (o : Option α) : (s.set k o).get? k = o := by
  cases o with
  | none =>
      show (s.erase k).get? k = none
      rw [get?_erase, if_pos rfl]
  | some a =>
      show (s.put k a).get? k = some a
      rw [get?_put, if_pos rfl]

/-- **Setting a slot shows at its number alone.** -/
theorem get?_set (s : Slots α) (k j : Nat) (o : Option α) :
    (s.set k o).get? j = if j = k then o else s.get? j := by
  cases o with
  | none => exact get?_erase s k j
  | some a => exact get?_put s k j a

/-- An entry that is there already is put in its own place. -/
theorem insertEntry_eq_self {k : Nat} {a : α} {entries : List (Nat × α)}
    (h : entries.Pairwise (fun a b => a.1 < b.1)) (hk : entries.lookup k = some a) :
    insertEntry k a entries = entries := by
  induction entries with
  | nil => simp at hk
  | cons d rest ih =>
      obtain ⟨j, b⟩ := d
      obtain ⟨hj, hrest⟩ := List.pairwise_cons.1 h
      rw [lookup_cons_eq_ite] at hk
      rw [insertEntry]
      by_cases hkj : k = j
      · rw [if_pos hkj] at hk
        rw [if_neg (by omega), if_pos hkj, hkj, Option.some.inj hk]
      · rw [if_neg hkj] at hk
        have hlt : j < k := hj _ ((lookup_eq_some_iff hrest).1 hk)
        rw [if_neg (by omega), if_neg hkj, ih hrest hk]

/-- **Setting a slot to what it holds changes nothing.** -/
theorem set_get?_self (s : Slots α) (k : Nat) : s.set k (s.get? k) = s := by
  obtain ⟨entries, hentries⟩ := s
  show Slots.set ⟨entries, hentries⟩ k (entries.lookup k) = _
  cases hk : entries.lookup k with
  | some a =>
      have hsame := insertEntry_eq_self hentries hk
      simp only [set, put, hsame]
  | none =>
      have hall : entries.filter (fun e => e.1 != k) = entries := by
        apply List.filter_eq_self.2
        intro e he
        have hne : e.1 ≠ k := by
          rintro rfl
          rw [(lookup_eq_some_iff hentries).2 he] at hk
          simp at hk
        simpa using hne
      simp only [set, erase, hall]

theorem filter_insertEntry (k : Nat) (a : α) (entries : List (Nat × α)) :
    (insertEntry k a entries).filter (fun e => e.1 != k) =
      entries.filter fun e => e.1 != k := by
  induction entries with
  | nil => simp [insertEntry]
  | cons d rest ih =>
      obtain ⟨j, b⟩ := d
      rw [insertEntry]
      split
      · rw [List.filter_cons_of_neg (by simp)]
      · split
        · rename_i hk
          subst hk
          rw [List.filter_cons_of_neg (by simp), List.filter_cons_of_neg (by simp)]
        · rename_i hk
          have hj : (j != k) = true := by simpa using fun e => hk e.symm
          rw [List.filter_cons_of_pos (by exact hj), List.filter_cons_of_pos (by exact hj), ih]

/-- Setting a slot does not matter to the others. -/
theorem values_erase_set (s : Slots α) (k : Nat) (o : Option α) :
    ((s.set k o).erase k).values = (s.erase k).values := by
  cases o with
  | none =>
      show List.map _ (List.filter _ (List.filter _ s.entries)) = List.map _ (List.filter _ s.entries)
      rw [List.filter_filter]
      simp
  | some a => exact congrArg (List.map Prod.snd) (filter_insertEntry k a s.entries)

/-- **After a slot is set**, it holds what it was set to, and the others what they held. -/
theorem values_set_perm (s : Slots α) (k : Nat) (o : Option α) :
    (s.set k o).values.Perm (o.toList ++ (s.erase k).values) := by
  have h := (s.set k o).values_perm k
  rwa [get?_set_self, values_erase_set] at h

/-- **Emptying a slot takes what it held out of what the slots hold**, and nothing else: what a
test on the values does not see was not changed. -/
theorem filter_values_erase (s : Slots α) {k : Nat} {a : α} {q : α → Bool}
    (hk : s.get? k = some a) (ha : q a = false) : (s.erase k).values.filter q = s.values.filter q := by
  have hentries : (s.entries.filter fun e => e.1 != k).filter (fun e => q e.2) =
      s.entries.filter fun e => q e.2 := by
    rw [List.filter_filter]
    refine List.filter_congr fun e he => ?_
    by_cases hj : e.1 = k
    · -- this is the entry of the slot, and it fails the test
      have hfound : s.get? e.1 = some e.2 := (lookup_eq_some_iff s.ascending).2 he
      rw [hj, hk] at hfound
      rw [← Option.some.inj hfound, ha]
      rfl
    · have hne : (e.1 != k) = true := by simpa using hj
      rw [hne, Bool.and_true]
  show ((s.entries.filter fun e => e.1 != k).map Prod.snd).filter q = (s.entries.map Prod.snd).filter q
  rw [List.filter_map, List.filter_map]
  exact congrArg (List.map Prod.snd) hentries

end Slots

end SealedPages
