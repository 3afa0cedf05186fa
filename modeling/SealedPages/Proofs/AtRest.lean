/-
  SealedPages.Proofs.AtRest
  ─────────────────────────
  **BETWEEN TWO STEPS, SECRETS ARE AT REST.**  After any steps of a scenario, and
  whichever calls have failed in them, every live region is closed, pinned, and
  either the region of one buffer or given up.

  A region is given up when its pages could not be opened to be wiped: the log says
  so, and the refused opening is the last call that names it.

  Main statements:
    * `live_regions_at_rest` — what is true of every live region and of every buffer.
-/
import SealedPages.Proofs.Scenario

namespace SealedPages

/-! ## §1. Regions that are given up. -/

/-- The call that opens all pages of a region. -/
def View.opening : View → RegionId → UInt64 → Verdict → Event
  | systemCalls, id, L, out  => .system (.mprotect (.front id L) .readWrite out)
  | serviceCalls, id, L, out => .service (.protect (.front id L) .readWrite out)

theorem protect_readWrite_eq (v : View) (id : RegionId) (L : UInt64) (out : Verdict) :
    (v.spelling id L).protect .readWrite out = {[v.opening id L out]} := by
  cases v <;> rfl

/-- The last call of a life that is given up is a refused opening. -/
theorem getLast?_of_mem_givenUp {v : View} {id : RegionId} {L page : UInt64} {word : List Event}
    (h : word ∈ (v.spelling id L).givenUp page) :
    word.getLast? = some (v.opening id L .refused) := by
  unfold Spelling.givenUp at h
  rw [protect_readWrite_eq] at h
  obtain ⟨front, _, last, rfl, rfl⟩ := h
  exact List.getLast?_concat

namespace Scenario

/-- **A region of `L` bytes that is given up**: the log says so once, the last call on it
is an opening that was refused, and no slot holds it. -/
structure GivenUp (σ : Scenario) (id : RegionId) (L : UInt64) : Prop where
  logged : abandonments id σ.machine.log = [L]
  refused : (σ.view.callsOn id σ.machine.trace).getLast? = some (σ.view.opening id L .refused)
  unheld : ∀ k h, σ.Holds k h → h.region ≠ id

/-! ## §2. Live regions. -/

/-- The protection of a region is the one that was last set. -/
theorem protection_eq {σ : Scenario} {id : RegionId} {r : Region}
    (hr : σ.machine.memory.find? id = some r) :
    protectionAfter id σ.machine.trace = r.protection := by
  rw [← Warden.protection_of_watch σ.custody.watched id]
  unfold Warden.protection
  rw [Memory.areas_of_find? hr]
  rfl

/-- **What is true after any steps.**  Every live region is closed and pinned, and it is
either the region of exactly one slot, as long as its buffer knows, or given up.  What
a slot holds is live, and no two slots hold the same region. -/
theorem live_regions_at_rest (σ : Scenario) :
    (∀ id r, σ.machine.memory.live? id = some r →
      (protectionAfter id σ.machine.trace = .noAccess ∧ r.protection = .noAccess) ∧
      (σ.view.Pinned (eventsOn id σ.machine.trace) ∧ r.pinned = true) ∧
      (((∃! k, ∃ h, σ.Holds k h ∧ h.region = id) ∧
          ∀ k h, σ.Holds k h → h.region = id → h.capacity.toNat = r.bytes.length) ∨
        ∃ L : UInt64, L.toNat = r.bytes.length ∧ σ.GivenUp id L)) ∧
    (∀ k h, σ.Holds k h → ∃ r, σ.machine.memory.live? h.region = some r) ∧
    ∀ k k' h h', σ.Holds k h → σ.Holds k' h' → h.region = h'.region → k = k' := by
  refine ⟨?_, ?_, ?_⟩
  · intro id r hlive
    obtain ⟨hr, hl⟩ := Option.filter_eq_some_iff.1 hlive
    rw [protection_eq hr]
    by_cases hheld : ∃ k h, σ.Holds k h ∧ h.region = id
    · -- a buffer holds the region
      obtain ⟨k, h, hk, rfl⟩ := hheld
      obtain ⟨r', hr', hrest⟩ := hk.held.region
      cases hr.symm.trans hr'
      refine ⟨⟨hrest.closed, hrest.closed⟩, ⟨hk.held.pinned, hrest.pinned⟩,
        Or.inl ⟨⟨k, ⟨h, hk, rfl⟩, ?_⟩, ?_⟩⟩
      · -- no other slot holds it, and its length is the one that was recorded
        intro k' hk'
        obtain ⟨h', hh', he⟩ := hk'
        exact hh'.slot_unique hk he
      · intro k' h' hk' he
        obtain ⟨r'', hr'', hrest'⟩ := hk'.held.region
        rw [he] at hr''
        cases hr.symm.trans hr''
        exact hrest'.length.symm
    · -- no buffer holds it, so it was handed back or given up
      have hunheld : ∀ k h, σ.Holds k h → h.region ≠ id := fun k h hk he => hheld ⟨k, h, hk, he⟩
      have hloose := loose_of_not_held hunheld
      have hregion : (σ.machine.story id).region = some r := hr
      generalize hs : σ.machine.story id = s at hloose hregion
      cases hloose with
      | unmade => cases hregion
      | released region freed =>
          -- a region that was handed back is not live
          cases hregion.symm.trans region
          rw [freed] at hl
          cases hl
      | givenUp region resting rounded calls abandoned =>
          cases hregion.symm.trans region
          subst hs
          exact ⟨⟨resting.closed, resting.closed⟩,
            ⟨.of_calls (givenUp_le_pinning calls), resting.pinned⟩,
            Or.inr ⟨_, resting.length.symm, abandoned, getLast?_of_mem_givenUp calls, hunheld⟩⟩
  · -- what a slot holds is live
    intro k h hk
    obtain ⟨r, hr, hrest⟩ := hk.held.region
    exact ⟨r, Option.filter_eq_some_iff.2 ⟨hr, hrest.live⟩⟩
  · intro k k' h h' hk hk' he
    exact hk.slot_unique hk' he

/-- Pages that do not open are given up, closed and pinned, and their slot holds nothing. -/
example :
    let σ := buffers .custom 8 [⟨0, .create 5⟩, ⟨0, .fault .protect [1]⟩, ⟨0, .use .destroy⟩]
    abandonments 1 σ.machine.log = [8] ∧ σ.slots.holdings = [] ∧
      σ.machine.memory.live? 1 = some ⟨8, Bytes.zeros 8, .noAccess, true, true⟩ :=
  ⟨rfl, rfl, rfl⟩

end Scenario

end SealedPages
