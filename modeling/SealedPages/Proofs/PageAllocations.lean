/-
  SealedPages.Proofs.PageAllocations
  ──────────────────────────────────
  **WHAT ASKING FOR PAGES COMES TO.**  An allocation first checks that its length is a positive
  whole number of pages, and traps where it is not: the length is looked at before the page
  size, and a page size of zero before the remainder.  Only then is the operating system called,
  once.  It refuses where a fault was scheduled, where it cannot align to pages of this size, or
  where the length is too large.  Else it makes a region, under a new number, and every other
  region stays as it was.

  A page size can pass the check and be refused as an alignment: pages of three bytes hold six
  bytes evenly.

  Main statements:
    * `Pages.checkWholePages_eq`, `Machine.refuses_iff` — the check, and the refusals;
    * `Pages.alloc_allocation` — an allocation, on any machine;
    * `Pages.alloc_of_roundUp` — what is rounded up does not trap;
    * `PageScript.allocations_end` — an allocation after any steps, by either way to the pages.
-/
import SealedPages.Proofs.PageSessions
import Mathlib.Algebra.Group.Nat.Defs

namespace SealedPages

variable {len page : UInt64} {m m' : Machine}

/-! ## §1. The check, and the refusals. -/

/-- **The check of a length**, in the order in which it looks. -/
theorem Pages.checkWholePages_eq (len page : UInt64) :
    checkWholePages len page =
      if len = 0 then .error .partialPages
      else if page = 0 then .error .remainderByZero
      else if page.toNat ∣ len.toNat then .ok ()
      else .error .partialPages := by
  by_cases hlen : len = 0
  · rw [if_pos hlen, hlen, checkWholePages_zero]
  · rw [if_neg hlen]
    by_cases hpage : page = 0
    · rw [if_pos hpage, hpage]
      simp [checkWholePages, hlen, checkedRem, bind, Except.bind]
    · rw [if_neg hpage]
      by_cases hdvd : page.toNat ∣ len.toNat
      · rw [if_pos hdvd, checkWholePages_of_dvd hlen hpage (mod_eq_zero_iff_dvd.2 hdvd)]
      · have hrest : len % page ≠ 0 := fun h => hdvd (mod_eq_zero_iff_dvd.1 h)
        rw [if_neg hdvd]
        simp [checkWholePages, hlen, checkedRem_of_ne_zero hpage, hrest, bind, Except.bind]
        rfl

/-- What the operating system can be asked for. -/
theorem Kernel.acceptsRequest_iff :
    acceptsRequest page len = true ↔
      (∃ k, page.toNat = 2 ^ k) ∧ 8 ∣ page.toNat ∧ len.toNat ≤ 1048576 := by
  have hword : page % wordSize = 0 ↔ 8 ∣ page.toNat := mod_eq_zero_iff_dvd
  have hsize : len ≤ largestAllocation ↔ len.toNat ≤ 1048576 := UInt64.le_iff_toNat_le
  simp only [acceptsRequest, acceptsAlignment, Bool.and_eq_true, beq_iff_eq, decide_eq_true_eq,
    isPowerOfTwo_iff, Nat.one_shiftLeft, hword, hsize]
  rw [and_comm (a := 8 ∣ page.toNat), and_assoc]

/-- **Why a request for `len` bytes at a multiple of `page` is refused.** -/
def Machine.Refuses (m : Machine) (page len : UInt64) : Prop :=
  m.faults.fires .posixMemalign = true ∨ (¬ ∃ k, page.toNat = 2 ^ k) ∨ ¬ 8 ∣ page.toNat ∨
    1048576 < len.toNat

theorem Machine.refuses_iff :
    m.Refuses page len ↔
      ¬ (!m.faults.fires .posixMemalign && Kernel.acceptsRequest page len) = true := by
  rw [Bool.and_eq_true, Kernel.acceptsRequest_iff, Bool.not_eq_true', Machine.Refuses,
    ← Bool.not_eq_true, ← Nat.not_le]
  simp only [Classical.not_and_iff_not_or_not, Classical.not_not]

/-! ## §2. What an allocation comes to. -/

/-- **An allocation of `len` bytes in pages of `page` bytes**: the calls that it makes of the
operating system, its result, and the machine after it. -/
inductive Allocation (len page : UInt64) (m : Machine) :
    List SystemCall → Except (Failure MemoryError) RegionId → Machine → Prop
  /-- A length of zero traps, whatever the page size. -/
  | empty (hlen : len = 0) : Allocation len page m [] (.error (.trapped .partialPages)) m
  /-- A page size of zero has no remainder. -/
  | pageless (hlen : len ≠ 0) (hpage : page = 0) :
      Allocation len page m [] (.error (.trapped .remainderByZero)) m
  /-- A length that is no whole number of pages traps. -/
  | uneven (hlen : len ≠ 0) (hpage : page ≠ 0) (hrest : ¬ page.toNat ∣ len.toNat) :
      Allocation len page m [] (.error (.trapped .partialPages)) m
  /-- Whole pages are asked for once; nothing but a call number is gone if they are refused. -/
  | refused (hlen : len ≠ 0) (hpage : page ≠ 0) (hwhole : page.toNat ∣ len.toNat)
      (hrefuses : m.Refuses page len) {m' : Machine} (hmemory : m'.memory = m.memory)
      (hfaults : m'.faults = m.faults.tick .posixMemalign) :
      Allocation len page m [.posixMemalign page len none] (.error (.refused .refused)) m'
  /-- The region that is made has a new number, is live and no other region is touched. -/
  | made (hlen : len ≠ 0) (hpage : page ≠ 0) (hwhole : page.toNat ∣ len.toNat)
      (hgrants : ¬ m.Refuses page len) {id : RegionId} {r : Region} {m' : Machine}
      (hnew : m.memory.find? id = none) (hmade : m'.memory.find? id = some r)
      (hlive : r.live = true) (hsize : r.bytes.length = len.toNat) (halign : r.align = page)
      (hothers : ∀ other, other ≠ id → m'.memory.find? other = m.memory.find? other)
      (hfaults : m'.faults = m.faults.tick .posixMemalign) :
      Allocation len page m [.posixMemalign page len (some id)] (.ok id) m'

/-- **Whole pages are asked for once.** -/
theorem Pages.alloc_of_whole (hlen : len ≠ 0) (hpage : page ≠ 0)
    (hwhole : page.toNat ∣ len.toNat) (m : Machine) :
    ∃ calls result m', StateT.run (alloc len page).run m = (result, m') ∧
      Allocation len page m calls result m' ∧ m.Calls calls [] m' := by
  have hcheck : checkWholePages len page = .ok () :=
    checkWholePages_of_dvd hlen hpage (mod_eq_zero_iff_dvd.2 hwhole)
  have hrun := run_alloc_of_wholePages hcheck m
  rw [Kernel.run_posixMemalign] at hrun
  by_cases haccepts : (!m.faults.fires .posixMemalign && Kernel.acceptsRequest page len) = true
  · have hgrants : ¬ m.Refuses page len := fun h => Machine.refuses_iff.1 h haccepts
    rw [if_pos haccepts] at hrun
    exact ⟨_, _, _, hrun,
      .made hlen hpage hwhole hgrants (Memory.find?_nextId _) (Memory.find?_grow_self _ _) rfl
        (Region.length_fresh page len.toNat) rfl
        (fun _ hother => Memory.find?_grow_of_ne _ _ hother) rfl,
      ⟨⟨_, rfl, rfl⟩, (List.append_nil _).symm⟩⟩
  · rw [if_neg haccepts] at hrun
    exact ⟨_, _, _, hrun, .refused hlen hpage hwhole (Machine.refuses_iff.2 haccepts) rfl rfl,
      ⟨⟨_, rfl, rfl⟩, (List.append_nil _).symm⟩⟩

/-- **An allocation, on any machine.** -/
theorem Pages.alloc_allocation (len page : UInt64) (m : Machine) :
    ∃ calls result m', StateT.run (alloc len page).run m = (result, m') ∧
      Allocation len page m calls result m' ∧ m.Calls calls [] m' := by
  have hcheck := checkWholePages_eq len page
  by_cases hlen : len = 0
  · rw [if_pos hlen] at hcheck
    exact ⟨_, _, _, run_alloc_of_trap hcheck m, .empty hlen, .refl m⟩
  by_cases hpage : page = 0
  · rw [if_neg hlen, if_pos hpage] at hcheck
    exact ⟨_, _, _, run_alloc_of_trap hcheck m, .pageless hlen hpage, .refl m⟩
  by_cases hwhole : page.toNat ∣ len.toNat
  · exact alloc_of_whole hlen hpage hwhole m
  · rw [if_neg hlen, if_neg hpage, if_neg hwhole] at hcheck
    exact ⟨_, _, _, run_alloc_of_trap hcheck m, .uneven hlen hpage hwhole, .refl m⟩

/-- **What is rounded up to whole pages does not trap** when it is allocated. -/
theorem Pages.alloc_of_roundUp {n : UInt64} (hn : n ≠ 0) (h : roundUp n page = .ok (some len))
    (m : Machine) (t : Trap) : (StateT.run (alloc len page).run m).1 ≠ .error (.trapped t) := by
  rw [run_alloc_of_wholePages (checkWholePages_of_roundUp hn h)]
  rcases (Kernel.posixMemalign page len).run m with ⟨_ | id, m'⟩
  · intro hsame
    cases hsame
  · intro hsame
    cases hsame

/-! ## §3. The step of a script. -/

namespace PageScript

/-- The reply to an allocation.  A new region lies at a multiple of the page size. -/
def Reply.ofAllocation (len : UInt64) : Except (Failure MemoryError) RegionId → Reply
  | .ok id   => made id len true
  | .error f => failed f

theorem Api.alloc_eq (api : Api) (len page : UInt64) :
    api.alloc len page = Pages.alloc len (api.allocationPage page) := by
  cases api <;> rfl

/-- A region that was just made is found to lie at a multiple of the page size. -/
theorem act_alloc {api : Api} {calls : List SystemCall}
    {result : Except (Failure MemoryError) RegionId}
    (hrun : StateT.run (Pages.alloc len (api.allocationPage page)).run m = (result, m'))
    (h : Allocation len (api.allocationPage page) m calls result m') :
    (act api (.alloc len page)).run m = (Reply.ofAllocation len result, m') := by
  show (alloc api len page).run m = _
  unfold alloc
  rw [Api.alloc_eq, run_bind_of_eq hrun]
  cases h with
  | made _ hpage _ _ _ hmade _ _ halign _ _ =>
      have haligned : (api.allocationPage page % api.allocationPage page == 0) = true :=
        beq_iff_eq.2 (UInt64.mod_self ..)
      simp only [run_bind, run_get, hmade, halign, haligned]
      rfl
  | empty => rfl
  | pageless => rfl
  | uneven => rfl
  | refused => rfl

/-- **How allocations end**, after any steps and by either way to the pages: as an `Allocation`
in pages of the size that the way goes by, with nothing logged.  A length that was rounded up
to whole pages never traps. -/
theorem allocations_end (api : Api) (steps : List Step) (len page : UInt64) :
    (∃ calls result m',
      Allocation len (api.allocationPage page) (machineAfter api steps) calls result m' ∧
      GoesOn api steps (.alloc len page) (.ofAllocation len result) calls [] m') ∧
    (Trap.partialPages.message = "assertion failed: alloc_len != 0 && alloc_len % page_size == 0" ∧
      Trap.remainderByZero.message =
        "attempt to calculate the remainder with a divisor of zero" ∧
      MemoryError.refused.message = "Memory error") ∧
    ∀ n p l : UInt64, n ≠ 0 → roundUp n p = .ok (some l) → ∀ t,
      (StateT.run (Pages.alloc l p).run (machineAfter api steps)).1 ≠ .error (.trapped t) := by
  obtain ⟨calls, result, m', hrun, hallocation, hcalls⟩ :=
    Pages.alloc_allocation len (api.allocationPage page) (machineAfter api steps)
  refine ⟨⟨calls, result, m', hallocation, .of_run (act_alloc hrun hallocation) hcalls⟩,
    ⟨rfl, rfl, rfl⟩, ?_⟩
  intro n p l hn hround
  exact Pages.alloc_of_roundUp hn hround _

/-- Five thousand bytes are two pages, and two pages do not trap. -/
theorem two_pages_never_trap :
    (5000 : UInt64) ≠ 0 ∧ roundUp 5000 4096 = .ok (some 8192) ∧ ∀ t,
      (StateT.run (Pages.alloc 8192 4096).run
        (machineAfter .functions [.fault .posixMemalign [1]])).1 ≠ .error (.trapped t) :=
  have hlen : (5000 : UInt64) ≠ 0 := by decide
  have hround : roundUp 5000 4096 = .ok (some 8192) := rfl
  ⟨hlen, hround, (allocations_end .functions [.fault .posixMemalign [1]] 8192 4096).2.2
    5000 4096 8192 hlen hround⟩

end PageScript

end SealedPages
