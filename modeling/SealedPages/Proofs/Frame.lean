/-
  SealedPages.Proofs.Frame
  ────────────────────────
  **WHAT AN OPERATION LEAVES ALONE.**  An operation on a slot works on the region that the
  slot holds and on a region that it makes.  Every other region keeps its bytes, its
  protection and its marks, whichever calls fail on the way, and every other slot keeps
  its buffer.

  Main statements:
    * `Untouched.unreserved`, `Untouched.originates` — single steps leave alone what they
      do not name;
    * `BufferScript.act_frame`, `BufferScript.act_others` — and so does every step of a
      script of buffers.
-/
import SealedPages.Proofs.PairedSessions

namespace SealedPages

/-! ## §1. Regions that are left alone. -/

/-- **What a run left alone** that started on `m₀` and may work on the regions of `own`,
and on those that it makes. -/
structure Untouched (own : RegionId → Prop) (m₀ m : Machine) : Prop where
  made : m₀.memory.nextId ≤ m.memory.nextId
  regions : ∀ id < m₀.memory.nextId, ¬ own id → m.memory.find? id = m₀.memory.find? id
  faultless : m₀.faults = {} → m.faults = {}

namespace Untouched

variable {own : RegionId → Prop} {m₀ m : Machine} {j : RegionId}

theorem refl (own : RegionId → Prop) (m : Machine) : Untouched own m m :=
  ⟨Nat.le_refl _, fun _ _ _ => rfl, fun h => h⟩

/-- The record does not matter. -/
theorem of_eq {m' : Machine} (h : Untouched own m₀ m) (hm : m'.memory = m.memory)
    (hf : m'.faults = m.faults) : Untouched own m₀ m' where
  made := hm ▸ h.made
  regions := hm ▸ h.regions
  faultless := hf ▸ h.faultless

/-- Counting a call makes no fault. -/
theorem draw (h : Untouched own m₀ m) (t : Target) :
    Untouched own m₀ { m with faults := m.faults.tick t } where
  made := h.made
  regions := h.regions
  faultless := fun h₀ => by
    show m.faults.tick t = {}
    rw [h.faultless h₀]
    rfl

/-- A change of a region shows at its number alone. -/
theorem update (h : Untouched own m₀ m) (hj : own j ∨ m₀.memory.nextId ≤ j)
    (f : Region → Region) : Untouched own m₀ { m with memory := m.memory.update j f } where
  made := by
    rw [Memory.nextId_update]
    exact h.made
  regions := fun id hid hown => by
    have hne : id ≠ j := by
      rintro rfl
      rcases hj with hj | hj
      · exact hown hj
      · exact absurd hid (Nat.not_lt.2 hj)
    rw [Memory.find?_update, if_neg hne]
    exact h.regions id hid hown
  faultless := h.faultless

/-- A region that is made takes a number that was not given out. -/
theorem grow (h : Untouched own m₀ m) (r : Region) :
    Untouched own m₀ { m with memory := m.memory.grow r } where
  made := by
    rw [Memory.nextId_grow]
    exact Nat.le_succ_of_le h.made
  regions := fun id hid hown => by
    have hne : id ≠ m.memory.nextId := Nat.ne_of_lt (Nat.lt_of_lt_of_le hid h.made)
    rw [Memory.find?_grow_of_ne _ _ hne]
    exact h.regions id hid hown
  faultless := h.faultless

theorem keptOn (hj : own j ∨ m₀.memory.nextId ≤ j) : KeptOn (Untouched own m₀) j where
  draw t _ h := h.draw t
  record _ _ _ _ h := h.of_eq rfl rfl
  note _ _ _ h := h.of_eq rfl rfl
  update f _ h := h.update hj f

/-- **Single steps on an own region**, or on a new one, leave the others alone. -/
theorem unreserved (hj : own j ∨ m₀.memory.nextId ≤ j) :
    Unreserved (Diagonal (Untouched own m₀)) id Eq j :=
  (keptOn hj).unreserved (fun _ _ _ h => h.of_eq rfl rfl) (fun _ _ h => h.of_eq rfl rfl)

/-- **Making a region leaves all others alone.** -/
theorem originates (own : RegionId → Prop) (m₀ : Machine) :
    Originates (Diagonal (Untouched own m₀)) id :=
  KeptByMaking.originates
    { draw := fun t _ h => h.draw t
      record := fun _ _ _ h => h.of_eq rfl rfl
      note := fun _ _ h => h.of_eq rfl rfl
      fresh := fun _ h => keptOn (Or.inr h.made)
      grow := fun r _ h => h.grow r }

end Untouched

/-! ## §2. Steps of a script. -/

/-- Whether a buffer in a slot owns a region. -/
def owns (o : Option SealedBuffer) (id : RegionId) : Prop :=
  ∃ h ∈ heldBy o, h.region = id

namespace BufferScript

/-- **A creation leaves every region alone** that there was. -/
theorem create_untouched (kind : PlatformKind) (page size : UInt64) (m : Machine) :
    Untouched (owns none) m
      (StateT.run (SealedBuffer.create (kind.platform page) size).run m).2 :=
  (SealedBuffer.create_coupled ((Untouched.originates _ m).creating_of_kind kind page) size).preserves
    m (.refl _ m)

/-- **Letting go of a buffer leaves every other region alone.** -/
theorem letGo_untouched (kind : PlatformKind) (page : UInt64) (b : SealedBuffer) (m : Machine) :
    Untouched (owns (some b)) m ((b.letGo (kind.platform page)).run m).2 := by
  have hD : ∀ h, b.holding = some h → Disposing (Diagonal (Untouched (owns (some b)) m)) id
      (kind.platform page) (kind.platform page) h.region := fun h hh =>
    (Untouched.unreserved (Or.inl ⟨h, mem_heldBy_some.2 hh, rfl⟩)).disposing_of_kind kind page
  have h := SealedBuffer.letGo_coupled hD
  rw [b.rename_id] at h
  exact h.preserves m (.refl _ m)

/-- **A step on a slot leaves the other slots alone**, and all regions that the slot did not
hold before. -/
theorem act_frame (kind : PlatformKind) (s : Session) (k : Nat) {a : Action} (m : Machine)
    (ha : ∀ t places, a ≠ .fault t places) :
    (∀ k' ≠ k, ((act kind s k a).run m).1.2.2.slots.get? k' = s.slots.get? k') ∧
      Untouched (owns (s.slots.get? k)) m ((act kind s k a).run m).2 := by
  -- an operation is coupled with itself, in the same session and on the same machine
  have hoperation : a.Paired Eq a → _ := fun h =>
    act_coupled (R := Diagonal (Untouched (owns (s.slots.get? k)) m)) (ρ := id) likeness_eq kind h
      rfl (SealedBuffer.map_rename_id _).symm (Untouched.originates _ m)
      (fun h hh => Untouched.unreserved (Or.inl ⟨h, hh, rfl⟩)) m m ⟨rfl, .refl _ m⟩
  cases a with
  | create size =>
      obtain ⟨⟨_, _, hmoved⟩, _, hu⟩ := hoperation (.create size)
      exact ⟨fun _ hk => hmoved.get?_of_ne hk, hu⟩
  | use u =>
      obtain ⟨⟨_, _, hmoved⟩, _, hu⟩ := hoperation (.use (.same u))
      exact ⟨fun _ hk => hmoved.get?_of_ne hk, hu⟩
  | setPageSize value => exact ⟨fun _ _ => rfl, .refl _ m⟩
  | fault t places => exact absurd rfl (ha t places)
  | peek region first len => exact ⟨fun _ _ => rfl, .refl _ m⟩

/-- Scheduling a fault leaves everything else alone as well. -/
theorem act_others (kind : PlatformKind) (s : Session) (k : Nat) (a : Action) (m : Machine) :
    (∀ k' ≠ k, ((act kind s k a).run m).1.2.2.slots.get? k' = s.slots.get? k') ∧
      ∀ id < m.memory.nextId, ¬ owns (s.slots.get? k) id →
        ((act kind s k a).run m).2.memory.find? id = m.memory.find? id := by
  by_cases ha : ∀ t places, a ≠ .fault t places
  · obtain ⟨hslots, huntouched⟩ := act_frame kind s k m ha
    exact ⟨hslots, huntouched.regions⟩
  · -- a scheduled fault changes nothing yet
    simp only [ne_eq, not_forall, not_not] at ha
    obtain ⟨t, places, rfl⟩ := ha
    exact ⟨fun _ _ => rfl, fun _ _ _ => rfl⟩

end BufferScript

end SealedPages
