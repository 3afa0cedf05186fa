/-
  SealedPages.Proofs.Independence
  ───────────────────────────────
  **BUFFERS DO NOT INTERFERE.**  The buffers of a script share one machine: the table of
  regions and their numbers, the faults, and the page size that is reported.  Still, a step
  on one slot leaves the buffers of all other slots and their regions alone, whatever calls
  fail.  And without faults each slot is answered as if it were alone: take away the steps
  on all other slots, and nothing changes but the numbers of the regions.

  The second part compares a run with the same run of one slot alone.  Both make the regions
  of that slot in the same order, so a growing renaming leads from the numbers of the one
  to those of the other.  What the other slots make in between moves the numbers that are
  still to come.

  Main statements:
    * `BufferScript.Beside.remaining`, `BufferScript.Beside.dropped` — one step, which both
      runs take or only the full one;
    * `BufferScript.play_beside` — a whole run;
    * `BufferScript.slots_independent` — frame and projection.
-/
import SealedPages.Proofs.Deposits
import SealedPages.Proofs.Twins
import Mathlib.Order.Monotone.Basic

namespace SealedPages

/-! ## §1. Renamings that are continued. -/

/-- Go on with a renaming from the number `c` on, which becomes `n`. -/
def retail (ρ : RegionId → RegionId) (c n : RegionId) : RegionId → RegionId :=
  fun id => if id < c then ρ id else n + (id - c)

section Retail

variable {ρ : RegionId → RegionId} {c n : RegionId}

theorem retail_of_lt {id : RegionId} (h : id < c) : retail ρ c n id = ρ id :=
  if_pos h

theorem retail_add (i : Nat) : retail ρ c n (c + i) = n + i := by
  unfold retail
  rw [if_neg (Nat.not_lt.2 (Nat.le_add_right c i)), Nat.add_sub_cancel_left]

/-- **A renaming that is continued further on is still in order.** -/
theorem strictMono_retail (hρ : StrictMono ρ) (h : ρ c ≤ n) : StrictMono (retail ρ c n) := by
  intro a b hab
  by_cases hb : b < c
  · rw [retail_of_lt (Nat.lt_trans hab hb), retail_of_lt hb]
    exact hρ hab
  · obtain ⟨j, rfl⟩ := Nat.exists_eq_add_of_le (Nat.le_of_not_lt hb)
    rw [retail_add]
    by_cases ha : a < c
    · rw [retail_of_lt ha]
      exact Nat.lt_of_lt_of_le (hρ ha) (Nat.le_trans h (Nat.le_add_right n j))
    · obtain ⟨i, rfl⟩ := Nat.exists_eq_add_of_le (Nat.le_of_not_lt ha)
      rw [retail_add]
      exact Nat.add_lt_add_left (Nat.lt_of_add_lt_add_left hab) n

end Retail

/-! ## §2. The steps that remain. -/

namespace BufferScript

/-- Whether a step remains where the slot `k` is left alone: steps on the slot do, and those
that set the page size, and looks at memory do not. -/
def Step.remains (k : Nat) (x : Step) : Bool :=
  match x.action with
  | .setPageSize _ => true
  | .peek .. => false
  | _ => x.slot == k

/-- The steps that remain. -/
def remaining (k : Nat) (steps : List Step) : List Step :=
  steps.filter (·.remains k)

/-- Among the answers to some steps, those to the remaining steps on the slot `k`. -/
def answersOn (k : Nat) (steps : List Step) (answers : List (Report Answer)) :
    List (Report Answer) :=
  ((steps.zip answers).filter fun x => x.1.slot == k && x.1.remains k).map (·.2)

/-- A step that no fault is scheduled by. -/
def Step.Faultless (x : Step) : Prop :=
  ∀ target places, x.action ≠ .fault target places

/-- **Two reports that tell a slot the same**, up to the numbers of regions in the events. -/
structure Renamed (ρ : RegionId → RegionId) (r r' : Report Answer) : Prop where
  reply : r'.reply = r.reply
  events : r'.trace.map (·.event) = r.trace.map (·.event.rename ρ)
  log : r'.log.map LogLine.text = r.log.map LogLine.text

theorem answersOn_cons (k : Nat) (x : Step) (steps : List Step) (r : Report Answer)
    (answers : List (Report Answer)) :
    answersOn k (x :: steps) (r :: answers) =
      if x.slot == k && x.remains k then r :: answersOn k steps answers
      else answersOn k steps answers := by
  unfold answersOn
  rw [List.zip_cons_cons, List.filter_cons]
  split <;> rfl

/-- Answers that show the same bytes are the same. -/
theorem Answer.Paired.eq {a a' : Answer} (h : Answer.Paired Eq a a') : a' = a := by
  obtain ⟨reply, out, status⟩ := a
  obtain ⟨reply', out', status'⟩ := a'
  have hreply : reply' = reply := h.reply.eq
  have hout : out' = out := h.out.eq
  have hstatus : status' = status := h.status
  rw [hreply, hout, hstatus]

/-! ## §3. A run beside the same run of one slot. -/

variable {kind : PlatformKind} {k : Nat} {ρ : RegionId → RegionId}
  {alone full : Script.Scene Session} {x : Step}

/-- **The full run beside the run of the slot `k` alone.**  The slot holds the same in both,
and no other slot holds a region that the slot `k` has made. -/
structure Beside (kind : PlatformKind) (k : Nat) (ρ : RegionId → RegionId)
    (alone full : Script.Scene Session) : Prop where
  twin : Twin Eq ρ alone.machine full.machine alone.machine full.machine
  ordered : StrictMono ρ
  page : full.session.page = alone.session.page
  slot : full.session.slots.get? k = (alone.session.slots.get? k).map (·.rename ρ)
  faultless : alone.machine.faults = {}
  custody : Custody kind.view alone.session.slots.holdings alone.machine
  custodyFull : Custody kind.view full.session.slots.holdings full.machine
  apart : ∀ id < alone.machine.memory.nextId, ∀ k' ≠ k,
    ¬ owns (full.session.slots.get? k') (ρ id)

/-- A scene after one more step. -/
def after (kind : PlatformKind) (scene : Script.Scene Session) (x : Step) : Script.Scene Session :=
  (Script.playStep (perform kind) scene x).2

/-- The report of one more step. -/
def told (kind : PlatformKind) (scene : Script.Scene Session) (x : Step) : Report Answer :=
  (Script.playStep (perform kind) scene x).1

/-- What is known of the scene after a step that schedules no fault. -/
theorem after_frame (kind : PlatformKind) (scene : Script.Scene Session) (hx : x.Faultless) :
    (∀ k' ≠ x.slot, (after kind scene x).session.slots.get? k' = scene.session.slots.get? k') ∧
      Untouched (owns (scene.session.slots.get? x.slot)) scene.machine (after kind scene x).machine :=
  act_frame kind scene.session x.slot scene.machine hx

theorem after_custody (c : Custody kind.view alone.session.slots.holdings alone.machine) (x : Step) :
    Custody kind.view (after kind alone x).session.slots.holdings (after kind alone x).machine :=
  (keeps_custody kind).run c x

/-- Slots own regions that were made. -/
theorem lt_nextId_of_owns {scene : Script.Scene Session}
    (c : Custody kind.view scene.session.slots.holdings scene.machine) {k' : Nat} {id : RegionId}
    (h : owns (scene.session.slots.get? k') id) : id < scene.machine.memory.nextId := by
  obtain ⟨g, hg, rfl⟩ := h
  exact lt_nextId_of_mem_heldBy c hg

namespace Beside

/-- A number that was given out comes before those to come. -/
theorem map_lt (h : Beside kind k ρ alone full) {id : RegionId}
    (hid : id < alone.machine.memory.nextId) : ρ id < full.machine.memory.nextId := by
  rw [← h.twin.map_nextId]
  exact h.ordered hid

/-- **A step on the slot `k`** is taken by both runs. -/
theorem operation (h : Beside kind k ρ alone full) {a : Action} (ha : a.Paired Eq a) :
    Beside kind k ρ (after kind alone ⟨k, a⟩) (after kind full ⟨k, a⟩) ∧
      Report.Paired ρ (Answer.Paired Eq) (told kind alone ⟨k, a⟩) (told kind full ⟨k, a⟩) := by
  have hfault : Step.Faultless ⟨k, a⟩ := by
    cases ha <;> simp [Step.Faultless]
  have hc := after_custody h.custody ⟨k, a⟩
  have hc' := after_custody h.custodyFull ⟨k, a⟩
  obtain ⟨hreport, hmoved, htwin⟩ := Script.playStep_paired (T := Session.Moved ρ k _ _) h.twin
    (perform_coupled likeness_eq kind ha h.page h.slot) hc.clean hc'.clean
  refine ⟨⟨htwin.rebase, h.ordered, ?_, hmoved.slot h.slot, ?_, hc, hc', ?_⟩, hreport⟩
  · exact hmoved.page_eq'.trans (h.page.trans hmoved.page_eq.symm)
  · exact (after_frame kind alone hfault).2.faultless h.faultless
  · intro id _ k' hk' howns
    -- the other slots hold what they held before, so the region is an old one
    have hsame := hmoved.get?_of_ne' hk'
    rw [show (after kind full ⟨k, a⟩).session.slots.get? k' = full.session.slots.get? k' from hsame]
      at howns
    have hlt := lt_nextId_of_owns h.custodyFull howns
    rw [← h.twin.map_nextId] at hlt
    exact h.apart id (h.ordered.lt_iff_lt.1 hlt) k' hk' howns

/-- **A step that sets the page size** changes nothing else. -/
theorem setPageSize (h : Beside kind k ρ alone full) (slot : Nat) (value : UInt64) :
    Beside kind k ρ (after kind alone ⟨slot, .setPageSize value⟩)
        (after kind full ⟨slot, .setPageSize value⟩) ∧
      (slot = k → Report.Paired ρ (Answer.Paired Eq) (told kind alone ⟨slot, .setPageSize value⟩)
        (told kind full ⟨slot, .setPageSize value⟩)) := by
  refine ⟨⟨h.twin, h.ordered, rfl, h.slot, h.faultless, h.custody, h.custodyFull, h.apart⟩, ?_⟩
  intro hslot
  have hstatus : (full.session.slots.get? slot).map (·.status) =
      (alone.session.slots.get? slot).map (·.status) := by
    rw [hslot, h.slot, Option.map_map]
    exact Option.map_congr fun b _ => b.status_rename ρ
  refine ⟨⟨.same _, Or.inl rfl, hstatus⟩, ?_, ?_⟩
  · show (full.machine.trace.drop _).map _ = (alone.machine.trace.drop _).map _
    rw [List.drop_length, List.drop_length]
    rfl
  · show full.machine.log.drop _ = (alone.machine.log.drop _).map _
    rw [List.drop_length, List.drop_length]
    rfl

/-- What a step on another slot leaves is still apart from the regions of the slot `k`. -/
theorem apart_after (h : Beside kind k ρ alone full) {slot : Nat} {a : Action} (hslot : slot ≠ k)
    (hx : Step.Faultless ⟨slot, a⟩) {id : RegionId} (hid : id < alone.machine.memory.nextId) {k' : Nat}
    (hk' : k' ≠ k) : ¬ owns ((after kind full ⟨slot, a⟩).session.slots.get? k') (ρ id) := by
  intro howns
  by_cases hsame : k' = slot
  · subst hsame
    obtain ⟨g, hg, hregion⟩ := howns
    -- what the slot holds now it held before, or it is new
    rcases (act_contents h.custodyFull k' a g hg).held_or_new with hbefore | hnew
    · exact h.apart id hid k' hk' ⟨g, hbefore, hregion⟩
    · have hlt := h.map_lt hid
      rw [← hregion, hnew] at hlt
      exact Nat.lt_irrefl _ hlt
  · rw [(after_frame kind full hx).1 k' hsame] at howns
    exact h.apart id hid k' hk' howns

/-- **A step on another slot** is taken by the full run only. -/
theorem elsewhere (h : Beside kind k ρ alone full) {slot : Nat} {a : Action} (hslot : slot ≠ k)
    (ha : a.Paired Eq a) :
    ∃ ρ', Beside kind k ρ' alone (after kind full ⟨slot, a⟩) ∧
      ∀ id < alone.machine.memory.nextId, ρ' id = ρ id := by
  have hx : Step.Faultless ⟨slot, a⟩ := by
    cases ha <;> simp [Step.Faultless]
  obtain ⟨hslots, huntouched⟩ := after_frame kind full hx
  have hnext : ρ alone.machine.memory.nextId ≤ (after kind full ⟨slot, a⟩).machine.memory.nextId := by
    rw [h.twin.map_nextId]
    exact huntouched.made
  have hsame : ∀ id < alone.machine.memory.nextId,
      retail ρ alone.machine.memory.nextId (after kind full ⟨slot, a⟩).machine.memory.nextId id =
        ρ id := fun _ => retail_of_lt
  have hordered := strictMono_retail h.ordered hnext
  refine ⟨_, ⟨⟨?_, fun id => ?_, fun i => retail_add i, hordered.injective, ⟨[], [], by simp⟩,
    ⟨[], by simp⟩⟩, hordered, ?_, ?_, h.faultless, h.custody, after_custody h.custodyFull _, ?_⟩, hsame⟩
  · rw [h.faultless]
    exact huntouched.faultless (h.twin.faults.trans h.faultless)
  · by_cases hid : id < alone.machine.memory.nextId
    · -- a region that the slot has made is left alone by the step
      rw [hsame id hid, huntouched.regions _ (h.map_lt hid) (h.apart id hid slot hslot)]
      exact h.twin.regions id
    · obtain ⟨i, rfl⟩ := Nat.exists_eq_add_of_le (Nat.le_of_not_lt hid)
      rw [retail_add, Memory.find?_of_nextId_le (Nat.le_add_right _ i),
        Memory.find?_of_nextId_le (Nat.le_add_right _ i)]
      exact .none
  · have hslotSame := (SealedBuffer.map_rename_id (full.session.slots.get? slot)).symm
    have hmoved := (perform_coupled likeness_eq kind ha rfl hslotSame _ _
      (.refl likeness_eq full.machine)).1.2
    exact hmoved.page_eq.trans h.page
  · rw [hslots k hslot.symm, h.slot]
    refine Option.map_congr fun b hb => SealedBuffer.rename_congr fun g hg => ?_
    have howns : owns (alone.session.slots.get? k) g.region :=
      ⟨g, by rw [hb]; exact mem_heldBy_some.2 hg, rfl⟩
    have hlt := lt_nextId_of_owns h.custody howns
    exact (hsame _ hlt).symm
  · intro id hid k' hk'
    rw [hsame id hid]
    exact h.apart_after hslot hx hid hk'

/-- **A step that remains** is taken by both runs. -/
theorem remaining (h : Beside kind k ρ alone full) (hx : x.Faultless) (hr : x.remains k = true) :
    Beside kind k ρ (after kind alone x) (after kind full x) ∧
      (x.slot = k → Report.Paired ρ (Answer.Paired Eq) (told kind alone x) (told kind full x)) := by
  obtain ⟨slot, action⟩ := x
  have hoperation (ha : action.Paired Eq action) (hslot : slot = k) :
      Beside kind k ρ (after kind alone ⟨slot, action⟩) (after kind full ⟨slot, action⟩) ∧
        (slot = k → Report.Paired ρ (Answer.Paired Eq) (told kind alone ⟨slot, action⟩)
          (told kind full ⟨slot, action⟩)) := by
    subst hslot
    obtain ⟨hbeside, hreport⟩ := h.operation ha
    exact ⟨hbeside, fun _ => hreport⟩
  cases action with
  | create size => exact hoperation (.create size) (eq_of_beq hr)
  | use u => exact hoperation (.use (.same u)) (eq_of_beq hr)
  | setPageSize value => exact h.setPageSize slot value
  | fault target places => exact absurd rfl (hx target places)
  | peek region first len => cases hr

/-- **Any other step** is taken by the full run only. -/
theorem dropped (h : Beside kind k ρ alone full) (hx : x.Faultless) (hr : x.remains k = false) :
    ∃ ρ', Beside kind k ρ' alone (after kind full x) ∧
      ∀ id < alone.machine.memory.nextId, ρ' id = ρ id := by
  obtain ⟨slot, action⟩ := x
  cases action with
  | create size => exact h.elsewhere (ne_of_beq_false hr) (.create size)
  | use u => exact h.elsewhere (ne_of_beq_false hr) (.use (.same u))
  | setPageSize value => cases hr
  | fault target places => exact absurd rfl (hx target places)
  | peek region first len => exact ⟨ρ, h, fun _ _ => rfl⟩

end Beside

/-! ## §4. Whole runs. -/

/-- The events of a step name regions that are made when it ends. -/
theorem lt_nextId_of_told (c : Custody kind.view alone.session.slots.holdings alone.machine)
    {y : Moment} (hy : y ∈ (told kind alone x).trace) {id : RegionId}
    (hid : y.event.region? = some id) : id < (after kind alone x).machine.memory.nextId := by
  obtain ⟨r, hr⟩ := (after_custody c x).exists_region_of_event (List.mem_of_mem_drop hy) hid
  exact Memory.lt_nextId_of_find? hr

/-- Reports tell the same under a renaming that is continued. -/
theorem renamed_of_paired {ρ' : RegionId → RegionId} {r r' : Report Answer}
    (h : Report.Paired ρ (Answer.Paired Eq) r r')
    (hsame : ∀ y ∈ r.trace, ∀ id, y.event.region? = some id → ρ' id = ρ id) : Renamed ρ' r r' where
  reply := h.reply.eq
  events := by
    rw [h.events]
    exact List.map_congr_left fun y hy => Event.rename_congr fun id hid => (hsame y hy id hid).symm
  log := by
    rw [h.log, List.map_map]
    exact List.map_congr_left fun l _ => l.text_rename ρ

/-- The answers to a slot, after one more step has been told. -/
theorem answersOn_play (kind : PlatformKind) (k : Nat) (scene : Script.Scene Session) (x : Step)
    (rest : List Step) :
    answersOn k (x :: rest) (Script.play (perform kind) scene (x :: rest)).1 =
      if x.slot == k && x.remains k then told kind scene x ::
        answersOn k rest (Script.play (perform kind) (after kind scene x) rest).1
      else answersOn k rest (Script.play (perform kind) (after kind scene x) rest).1 :=
  answersOn_cons k x rest _ _

/-- **Beside the full run**, the slot `k` is told the same in the run of its remaining steps. -/
theorem play_beside (kind : PlatformKind) (k : Nat) (steps : List Step) :
    ∀ {ρ alone full}, Beside kind k ρ alone full → (∀ x ∈ steps, x.Faultless) →
      ∃ ρ', StrictMono ρ' ∧ (∀ id < alone.machine.memory.nextId, ρ' id = ρ id) ∧
        List.Forall₂ (Renamed ρ')
          (answersOn k (remaining k steps)
            (Script.play (perform kind) alone (remaining k steps)).1)
          (answersOn k steps (Script.play (perform kind) full steps).1) := by
  induction steps with
  | nil =>
      intro ρ alone full h _
      exact ⟨ρ, h.ordered, fun _ _ => rfl, .nil⟩
  | cons x rest ih =>
      intro ρ alone full h hfaultless
      have hx := hfaultless x List.mem_cons_self
      have hrest : ∀ y ∈ rest, y.Faultless := fun y hy => hfaultless y (List.mem_cons_of_mem x hy)
      rw [answersOn_play]
      cases hr : x.remains k with
      | false =>
          -- the run of the slot alone does not take the step
          obtain ⟨ρ₁, h₁, hsame⟩ := h.dropped hx hr
          obtain ⟨ρ', hordered, hsame', hanswers⟩ := ih h₁ hrest
          refine ⟨ρ', hordered, fun id hid => (hsame' id hid).trans (hsame id hid), ?_⟩
          have hskip : remaining k (x :: rest) = remaining k rest :=
            List.filter_cons_of_neg (by rw [hr]; exact Bool.false_ne_true)
          rw [Bool.and_false, if_neg Bool.false_ne_true, hskip]
          exact hanswers
      | true =>
          obtain ⟨h₁, hreport⟩ := h.remaining hx hr
          obtain ⟨ρ', hordered, hsame, hanswers⟩ := ih h₁ hrest
          have hmade := (after_frame kind alone hx).2.made
          refine ⟨ρ', hordered, fun id hid => hsame id (Nat.lt_of_lt_of_le hid hmade), ?_⟩
          have htake : remaining k (x :: rest) = x :: remaining k rest :=
            List.filter_cons_of_pos hr
          rw [htake, answersOn_play, hr, Bool.and_true]
          by_cases hslot : x.slot = k
          · -- the step is on the slot itself, and its events name regions made by now
            rw [if_pos (beq_iff_eq.2 hslot), if_pos (beq_iff_eq.2 hslot)]
            refine .cons (renamed_of_paired (hreport hslot) fun y hy id hid => ?_) hanswers
            exact hsame id (lt_nextId_of_told h.custody hy hid)
          · rw [if_neg (by simp [hslot]), if_neg (by simp [hslot])]
            exact hanswers

/-- Before the first step both runs are the same. -/
theorem beside_start (kind : PlatformKind) (page : UInt64) (k : Nat) :
    Beside kind k id ⟨{ page }, {}⟩ ⟨{ page }, {}⟩ where
  twin := .refl likeness_eq _
  ordered := strictMono_id
  page := rfl
  slot := rfl
  faultless := rfl
  custody := .start _
  custodyFull := .start _
  apart _ _ _ _ howns := by
    obtain ⟨h, hh, _⟩ := howns
    cases hh

/-- **Slots are independent.**  Frame: a step on one slot, whatever calls fail in it, leaves
the buffers of all other slots as they were, and every region that the slot did not hold
before.  Projection: where no faults are scheduled, take away all looks at memory and
all steps on other slots except those that set the page size; then every step on the
slot that remains has the same answer and the same log, and the same events up to a
renaming of regions that keeps their order. -/
theorem slots_independent :
    (∀ kind page steps (x : Step),
      (∀ k ≠ x.slot, (Scenario.buffers kind page (steps ++ [x])).slots.get? k =
        (Scenario.buffers kind page steps).slots.get? k) ∧
      ∀ id r, (Scenario.buffers kind page steps).machine.memory.find? id = some r →
        (∀ h, (Scenario.buffers kind page steps).Holds x.slot h → h.region ≠ id) →
        (Scenario.buffers kind page (steps ++ [x])).machine.memory.find? id = some r) ∧
    ∀ kind page steps k, (∀ x ∈ steps, x.Faultless) → ∃ ρ, StrictMono ρ ∧
      List.Forall₂ (Renamed ρ)
        (answersOn k (remaining k steps) (run kind page (remaining k steps)).answers)
        (answersOn k steps (run kind page steps).answers) := by
  constructor
  · intro kind page steps x
    obtain ⟨hslots, hregions⟩ := act_others kind (sceneAfter kind page steps).session x.slot
      x.action (sceneAfter kind page steps).machine
    have hafter := sceneAfter_snoc kind page steps x
    refine ⟨fun k hk => ?_, fun id r hr hfree => ?_⟩
    · show (sceneAfter kind page (steps ++ [x])).session.slots.get? k = _
      rw [hafter]
      exact hslots k hk
    · show (sceneAfter kind page (steps ++ [x])).machine.memory.find? id = _
      rw [hafter]
      refine (hregions id (Memory.lt_nextId_of_find? hr) fun howns => ?_).trans hr
      obtain ⟨h, hh, hregion⟩ := howns
      exact hfree h (Scenario.mem_heldBy_iff.1 hh) hregion
  · intro kind page steps k hfaultless
    obtain ⟨ρ, hordered, _, hanswers⟩ := play_beside kind k steps (beside_start kind page k)
      hfaultless
    exact ⟨ρ, hordered, hanswers⟩

/-- Two buffers are made and written to, in turn. -/
def twoBuffersInTurn : List Step :=
  [⟨0, .create 2⟩, ⟨1, .create 3⟩, ⟨0, .use (.write [1, 2])⟩, ⟨1, .use (.write [3, 4, 5])⟩]

/-- The second buffer is answered as if it were alone, where it holds the first region and not
the second; and its destruction leaves the first buffer and its region as they were. -/
theorem second_of_two_buffers :
    let before := Scenario.buffers .custom 8 twoBuffersInTurn
    let after := Scenario.buffers .custom 8 (twoBuffersInTurn ++ [⟨1, .use .destroy⟩])
    (after.slots.get? 0 = before.slots.get? 0 ∧
      ∃ r, before.machine.memory.find? 1 = some r ∧ after.machine.memory.find? 1 = some r) ∧
    (∀ x ∈ twoBuffersInTurn, x.Faultless) ∧
    (∃ ρ, StrictMono ρ ∧ List.Forall₂ (Renamed ρ)
      (answersOn 1 (remaining 1 twoBuffersInTurn)
        (run .custom 8 (remaining 1 twoBuffersInTurn)).answers)
      (answersOn 1 twoBuffersInTurn (run .custom 8 twoBuffersInTurn).answers)) ∧
    (answersOn 1 (remaining 1 twoBuffersInTurn)
      (run .custom 8 (remaining 1 twoBuffersInTurn)).answers).length = 2 := by
  intro before after
  obtain ⟨hslots, hregions⟩ := slots_independent.1 .custom 8 twoBuffersInTurn ⟨1, .use .destroy⟩
  have hmade : (before.machine.memory.find? 1).isSome = true := by decide
  obtain ⟨r, hr⟩ := Option.isSome_iff_exists.1 hmade
  have hapart : ∀ h ∈ heldBy (before.slots.get? 1), h.region ≠ 1 := by decide
  have hkept : after.machine.memory.find? 1 = some r :=
    hregions 1 r hr fun h hh => hapart h (Scenario.mem_heldBy_iff.2 hh)
  have hfaultless : ∀ x ∈ twoBuffersInTurn, x.Faultless := by
    intro x hx target places hfault
    simp only [twoBuffersInTurn, List.mem_cons, List.not_mem_nil, or_false] at hx
    rcases hx with rfl | rfl | rfl | rfl <;> cases hfault
  refine ⟨⟨hslots 0 (by decide), r, hr, hkept⟩, hfaultless, ?_, by decide⟩
  exact slots_independent.2 .custom 8 twoBuffersInTurn 1 hfaultless

end BufferScript

end SealedPages
