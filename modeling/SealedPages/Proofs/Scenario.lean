/-
  SealedPages.Proofs.Scenario
  ───────────────────────────
  **WHOLE RUNS.**  A scenario is a script of buffers, on one kind of platform, or a
  script of handles.  Both are played on a new machine, keep their buffers in slots,
  and give up at the end what they still hold.  Faults are steps of the script, so a
  statement about every scenario is about every schedule of faults, and about every
  state that steps can lead to.

  Main statements:
    * `custody` — after any steps the slots and the machine are in custody;
    * `custody_last`, `record_eq` — after the end nothing is held, and the transcript
      tells all that happened.
-/
import SealedPages.Proofs.Sessions

namespace SealedPages

/-! ## §1. Scenarios. -/

/-- A script of buffers, on a platform that reports pages of `page` bytes at first if
it is a custom one, or a script of handles. -/
inductive Scenario where
  | buffers (kind : BufferScript.PlatformKind) (page : UInt64) (steps : List BufferScript.Step)
  | handles (steps : List HandleScript.Step)

namespace Scenario

/-- The calls that are looked at. -/
def view : Scenario → View
  | buffers kind _ _ => kind.view
  | handles _        => .systemCalls

/-- The kind of platform that the buffers are on. -/
def kind : Scenario → BufferScript.PlatformKind
  | buffers kind _ _ => kind
  | handles _        => .system

/-- What is looked at are the calls of that kind. -/
theorem view_kind (σ : Scenario) : σ.kind.view = σ.view := by
  cases σ <;> rfl

/-- The buffers after the steps. -/
def slots : Scenario → Slots SealedBuffer
  | buffers kind page steps => (BufferScript.sceneAfter kind page steps).session.slots
  | handles steps           => (HandleScript.sceneAfter steps).session

/-- The machine after the steps. -/
def machine : Scenario → Machine
  | buffers kind page steps => (BufferScript.sceneAfter kind page steps).machine
  | handles steps           => (HandleScript.sceneAfter steps).machine

/-- The machine after everything was given up. -/
def last : Scenario → Machine
  | buffers kind page steps =>
      Script.lastMachine (BufferScript.perform kind) (BufferScript.giveUp kind) { page } steps
  | handles steps => Script.lastMachine HandleScript.perform HandleScript.giveUp .empty steps

/-- Everything that happens, from the first step to the end. -/
def trace : Scenario → List Moment
  | buffers kind page steps => (BufferScript.run kind page steps).trace
  | handles steps           => (HandleScript.run steps).trace

/-- All log lines, from the first step to the end. -/
def log : Scenario → List LogLine
  | buffers kind page steps => (BufferScript.run kind page steps).log
  | handles steps           => (HandleScript.run steps).log

/-- The regions that are reported as still live at the end. -/
def leaked : Scenario → List RegionId
  | buffers kind page steps => (BufferScript.run kind page steps).ending.leaked
  | handles steps           => (HandleScript.run steps).ending.leaked

/-- Whether the buffer in a slot holds a region. -/
def Holds (σ : Scenario) (slot : Nat) (h : Holding) : Prop :=
  ∃ b, σ.slots.get? slot = some b ∧ b.holding = some h

/-! ## §2. Custody in a scenario. -/

/-- **After any steps, every region is held by one of the slots, or loose.** -/
theorem custody (σ : Scenario) : Custody σ.view σ.slots.holdings σ.machine := by
  cases σ with
  | buffers kind page steps =>
      exact (Script.play_of_keeps (BufferScript.keeps_custody kind) steps ⟨{ page }, {}⟩
        (Custody.start _)).1
  | handles steps =>
      exact (Script.play_of_keeps HandleScript.keeps_custody steps ⟨.empty, {}⟩
        (Custody.start _)).1

/-- What is given up at the end. -/
theorem handover_last (σ : Scenario) : Handover σ.view σ.machine [] σ.last := by
  cases σ with
  | buffers kind page steps =>
      exact BufferScript.giveUp_handover kind (custody (.buffers kind page steps))
  | handles steps => exact HandleScript.giveUp_handover (custody (.handles steps))

/-- **After the end nothing is held.** -/
theorem custody_last (σ : Scenario) : Custody σ.view [] σ.last :=
  σ.handover_last.custody

/-- **The transcript tells all that happened** up to the last machine. -/
theorem record_eq (σ : Scenario) : σ.trace = σ.last.trace ∧ σ.log = σ.last.log := by
  -- no step and no ending takes anything back from the record
  have hgrows := σ.handover_last.grows
  cases σ with
  | buffers kind page steps =>
      exact Script.run_record (BufferScript.keeps_custody kind) (Custody.start _) hgrows
  | handles steps => exact Script.run_record HandleScript.keeps_custody (Custody.start _) hgrows

theorem trace_eq (σ : Scenario) : σ.trace = σ.last.trace :=
  σ.record_eq.1

theorem log_eq (σ : Scenario) : σ.log = σ.last.log :=
  σ.record_eq.2

/-- What has leaked is what is still live at the end. -/
theorem mem_leaked (σ : Scenario) (id : RegionId) :
    id ∈ σ.leaked ↔ ∃ r, σ.last.memory.find? id = some r ∧ r.live = true := by
  have hleaked : σ.leaked = σ.last.memory.liveIds := by
    cases σ <;> rfl
  rw [hleaked]
  exact Memory.mem_liveIds

/-! ## §3. Slots and what they hold. -/

variable {σ : Scenario} {k k' : Nat} {h h' : Holding}

theorem Holds.mem_holdings (hk : σ.Holds k h) : h ∈ σ.slots.holdings := by
  obtain ⟨b, hb, hh⟩ := hk
  exact Slots.mem_holdings hb hh

/-- What the slots hold is held by one of them. -/
theorem exists_holds (hmem : h ∈ σ.slots.holdings) : ∃ k, σ.Holds k h := by
  obtain ⟨b, hb, hh⟩ := List.mem_flatMap.1 hmem
  obtain ⟨k, hk⟩ := σ.slots.mem_values_iff.1 hb
  exact ⟨k, b, hk, by simpa using hh⟩

/-- **No two slots hold the same region.** -/
theorem Holds.slot_unique (hk : σ.Holds k h) (hk' : σ.Holds k' h') (he : h.region = h'.region) :
    k = k' := by
  by_contra hne
  obtain ⟨b, hb, hh⟩ := hk
  obtain ⟨b', hb', hh'⟩ := hk'
  -- one holding stands at the head, the other one among the rest
  have hd := (σ.custody.of_slot k).distinct
  have hrest : h' ∈ (σ.slots.erase k).holdings := by
    refine Slots.mem_holdings (k := k') ?_ hh'
    rw [Slots.get?_erase, if_neg fun e => hne e.symm]
    exact hb'
  have hhead : heldBy (σ.slots.get? k) = [h] := by
    rw [hb]
    show b.holding.toList = [h]
    rw [hh]
    rfl
  rw [hhead] at hd
  exact (List.nodup_cons.1 hd).1 (List.mem_map.2 ⟨h', hrest, he.symm⟩)

/-- What is known of the region that a slot holds. -/
theorem Holds.held (hk : σ.Holds k h) : (σ.machine.story h.region).Held σ.view h :=
  σ.custody.held h hk.mem_holdings

/-- A region that no slot holds is loose. -/
theorem loose_of_not_held {id : RegionId} (hid : ∀ k h, σ.Holds k h → h.region ≠ id) :
    (σ.machine.story id).Loose σ.view id := by
  apply σ.custody.loose
  intro hmem
  obtain ⟨h, hh, hregion⟩ := List.mem_map.1 hmem
  obtain ⟨k, hk⟩ := exists_holds hh
  exact hid k h hk hregion

end Scenario

end SealedPages
