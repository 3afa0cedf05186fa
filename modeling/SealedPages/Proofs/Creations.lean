/-
  SealedPages.Proofs.Creations
  ────────────────────────────
  **A CREATION MAKES A BUFFER, OR NOTHING.**  A creation ends in one of six ways.  Which one is
  decided by the size, by the rounding, and by the first call that is refused; and each way
  has its own calls, told here from the first to the last.  Only one way makes a buffer.  In
  all others the live regions are what they were, and so is everything that is known of the
  regions that were made before.

  Main statements:
    * `Creation.invalidSize_iff`, `Creation.refused_iff` — which error is given, and when;
    * `create_creation` — a creation, from any machine in custody;
    * `Scenario.creation_all_or_nothing` — a creation after any steps.
-/
import SealedPages.Proofs.Multiples
import SealedPages.Proofs.Scenario
import SealedPages.Proofs.ShownCalls
import SealedPages.Proofs.StepRuns

namespace SealedPages

open Computability

variable {v : View} {page size L : UInt64} {m m₁ m' : Machine}

/-! ## §1. Calls that are refused. -/

/-- The error that a creation gives where a call is refused.  Advice and unpinning are best
effort: they give none. -/
def Event.refusal? : Event → Option BufferError
  | .system (.posixMemalign _ _ none) => some .allocationFailed
  | .service (.allocate _ none)       => some .allocationFailed
  | .system (.mlock _ .refused)       => some .lockFailed
  | .service (.lock _ .refused)       => some .lockFailed
  | .system (.mprotect _ _ .refused)  => some .protectFailed
  | .service (.protect _ _ .refused)  => some .protectFailed
  | _ => none

/-- Words in which calls are refused that give the errors `es`, in this order. -/
def refusing (es : List BufferError) : Language Event :=
  {word | word.filterMap Event.refusal? = es}

theorem mul_le_refusing {l l' : Language Event} {es es' : List BufferError} (h : l ≤ refusing es)
    (h' : l' ≤ refusing es') : l * l' ≤ refusing (es ++ es') := by
  rintro _ ⟨a, ha, b, hb, rfl⟩
  show (a ++ b).filterMap Event.refusal? = _
  rw [List.filterMap_append, h ha, h' hb]

/-- A single call. -/
theorem singleton_le_refusing {e : Event} {es : List BufferError} (h : e.refusal?.toList = es) :
    ({[e]} : Language Event) ≤ refusing es := by
  rintro _ rfl
  show [e].filterMap Event.refusal? = es
  rw [← h, List.filterMap_cons]
  cases e.refusal? <;> rfl

section Spelled

variable (v) (j : RegionId) (L)

theorem wipe_le_refusing : (v.spelling j L).wipe ≤ refusing [] := by
  cases v with
  | systemCalls =>
      rintro _ rfl
      rfl
  | serviceCalls => exact singleton_le_refusing rfl

/-- The advice that follows a lock counts for nothing. -/
theorem lock_le_refusing (out : Verdict) :
    (v.spelling j L).lock out ≤ refusing (match out with
      | .granted => []
      | .refused => [.lockFailed]) := by
  cases v with
  | serviceCalls => cases out <;> exact singleton_le_refusing rfl
  | systemCalls =>
      cases out with
      | refused => exact singleton_le_refusing rfl
      | granted =>
          refine @mul_le_refusing _ _ [] [] (singleton_le_refusing rfl) ?_
          rintro _ ⟨out, rfl⟩
          rfl

theorem protect_le_refusing (mode : Protection) (out : Verdict) :
    (v.spelling j L).protect mode out ≤ refusing (match out with
      | .granted => []
      | .refused => [.protectFailed]) := by
  cases v <;> cases out <;> exact singleton_le_refusing rfl

theorem unlock_le_refusing : (v.spelling j L).unlock ≤ refusing [] := by
  cases v with
  | systemCalls =>
      refine @mul_le_refusing _ _ [] [] ?_ ?_
      · rintro _ ⟨out, rfl⟩
        rfl
      · rintro _ ⟨out, rfl⟩
        rfl
  | serviceCalls =>
      rintro _ ⟨out, rfl⟩
      rfl

theorem release_le_refusing : (v.spelling j L).release ≤ refusing [] := by
  cases v <;>
  · rintro _ ⟨k, rfl⟩
    rfl

end Spelled

/-! ## §2. How a creation ends. -/

/-- **How a creation of `size` bytes on pages of `page` bytes ends**: its calls, its result, and
the machine that it leaves.  A region that it makes has the number `m.memory.nextId`. -/
inductive Creation (v : View) (page size : UInt64) (m : Machine) :
    List Event → Except (Failure BufferError) SealedBuffer → Machine → Prop
  /-- No byte is asked for.  Not even the size of a page is looked at. -/
  | empty (hsize : size = 0) : Creation v page size m [] (.error (.refused .invalidSize)) m
  /-- No whole number of pages that holds the size fits into 64 bits. -/
  | tooLarge {m' : Machine} (hsize : size ≠ 0)
      (hlarge : ∀ n ∈ wholePages size.toNat page.toNat, UInt64.size ≤ n)
      (hmemory : m'.memory = m.memory) :
      Creation v page size m (v.inquiry page) (.error (.refused .invalidSize)) m'
  /-- The least whole number of pages is asked for, and refused. -/
  | unallocated {L : UInt64} {m' : Machine} (hsize : size ≠ 0)
      (hleast : IsLeast (wholePages size.toNat page.toNat) L.toNat)
      (hmemory : m'.memory = m.memory) :
      Creation v page size m (v.inquiry page ++ [v.request page L none])
        (.error (.refused .allocationFailed)) m'
  /-- The pages are not pinned, and handed back. -/
  | unpinned {L : UInt64} {calls : List Event} {r : Region} {m' : Machine} (hsize : size ≠ 0)
      (hleast : IsLeast (wholePages size.toNat page.toNat) L.toNat)
      (hcalls : calls ∈ (v.spelling m.memory.nextId L).wipe *
        (v.spelling m.memory.nextId L).lock .refused *
        (v.spelling m.memory.nextId L).release)
      (hfound : m'.memory.find? m.memory.nextId = some r) (hfreed : r.live = false)
      (hzero : r.IsZero) :
      Creation v page size m
        (v.inquiry page ++ v.request page L (some m.memory.nextId) :: calls)
        (.error (.refused .lockFailed)) m'
  /-- The pages are not closed.  They are unpinned first, and then handed back. -/
  | unsealed {L : UInt64} {calls : List Event} {r : Region} {m' : Machine} (hsize : size ≠ 0)
      (hleast : IsLeast (wholePages size.toNat page.toNat) L.toNat)
      (hcalls : calls ∈ (v.spelling m.memory.nextId L).wipe *
        ((v.spelling m.memory.nextId L).lock .granted *
          (v.spelling m.memory.nextId L).protect .noAccess .refused *
          (v.spelling m.memory.nextId L).unlock) *
        (v.spelling m.memory.nextId L).release)
      (hfound : m'.memory.find? m.memory.nextId = some r) (hfreed : r.live = false)
      (hzero : r.IsZero) :
      Creation v page size m
        (v.inquiry page ++ v.request page L (some m.memory.nextId) :: calls)
        (.error (.refused .protectFailed)) m'
  /-- A buffer is made, on pages that are zero, pinned and closed. -/
  | made {L : UInt64} {calls : List Event} {r : Region} {m' : Machine} (hsize : size ≠ 0)
      (hleast : IsLeast (wholePages size.toNat page.toNat) L.toNat)
      (hcalls : calls ∈ (v.spelling m.memory.nextId L).wipe *
        ((v.spelling m.memory.nextId L).lock .granted *
          (v.spelling m.memory.nextId L).protect .noAccess .granted))
      (hfound : m'.memory.find? m.memory.nextId = some r) (hrest : r.Resting L)
      (hzero : r.IsZero) :
      Creation v page size m
        (v.inquiry page ++ v.request page L (some m.memory.nextId) :: calls)
        (.ok ⟨some ⟨m.memory.nextId, size, L, page, .noAccess⟩⟩) m'

namespace Creation

variable {calls : List Event} {result : Except (Failure BufferError) SealedBuffer}

/-- A least multiple that fits is a multiple that fits. -/
theorem not_large {L : UInt64} (hleast : IsLeast (wholePages size.toNat page.toNat) L.toNat) :
    ¬ ∀ n ∈ wholePages size.toNat page.toNat, UInt64.size ≤ n :=
  fun hlarge => absurd L.toNat_lt (Nat.not_lt.2 (hlarge _ hleast.1))

/-- **The size is invalid** where it is zero or too large for a whole number of pages. -/
theorem invalidSize_iff (c : Creation v page size m calls result m') :
    result = .error (.refused .invalidSize) ↔
      size = 0 ∨ ∀ n ∈ wholePages size.toNat page.toNat, UInt64.size ≤ n := by
  cases c with
  | empty hsize => simp [hsize]
  | tooLarge hsize hlarge hmemory => exact iff_of_true rfl (Or.inr hlarge)
  | unallocated hsize hleast => simp [hsize, not_large hleast]
  | unpinned hsize hleast => simp [hsize, not_large hleast]
  | unsealed hsize hleast => simp [hsize, not_large hleast]
  | made hsize hleast => simp [hsize, not_large hleast]

/-- Asking for the size of a page is not refused, and pages that are made were not refused. -/
theorem refusals_append (v : View) (page L : UInt64) (j : RegionId) (calls : List Event) :
    (v.inquiry page ++ v.request page L (some j) :: calls).filterMap Event.refusal? =
      calls.filterMap Event.refusal? := by
  cases v <;> rfl

/-- **Any other error names the one call that was refused.** -/
theorem refused_iff (c : Creation v page size m calls result m') {e : BufferError}
    (he : e ≠ .invalidSize) :
    result = .error (.refused e) ↔ calls.filterMap Event.refusal? = [e] := by
  cases c with
  | empty hsize => simp [he.symm]
  | tooLarge hsize hlarge hmemory =>
      have hnone : (v.inquiry page).filterMap Event.refusal? = [] := by
        cases v <;> rfl
      simp [hnone, he.symm]
  | @unallocated L _ hsize hleast hmemory =>
      have hone : (v.inquiry page ++ [v.request page L none]).filterMap Event.refusal? =
          [.allocationFailed] := by
        cases v <;> rfl
      simp [hone]
  | unpinned hsize hleast hcalls hfound hfreed hzero =>
      have hone : _ ∈ refusing ([] ++ [.lockFailed] ++ []) :=
        mul_le_refusing (mul_le_refusing (wipe_le_refusing v _ _) (lock_le_refusing v _ _ .refused))
          (release_le_refusing v _ _) hcalls
      rw [refusals_append, show _ = _ from hone]
      simp
  | unsealed hsize hleast hcalls hfound hfreed hzero =>
      have hone : _ ∈ refusing ([] ++ ([] ++ [.protectFailed] ++ []) ++ []) :=
        mul_le_refusing (mul_le_refusing (wipe_le_refusing v _ _)
          (mul_le_refusing (mul_le_refusing (lock_le_refusing v _ _ .granted)
            (protect_le_refusing v _ _ _ .refused)) (unlock_le_refusing v _ _)))
          (release_le_refusing v _ _) hcalls
      rw [refusals_append, show _ = _ from hone]
      simp
  | made hsize hleast hcalls hfound hrest hzero =>
      have hnone : _ ∈ refusing ([] ++ ([] ++ [])) :=
        mul_le_refusing (wipe_le_refusing v _ _) (mul_le_refusing (lock_le_refusing v _ _ .granted)
          (protect_le_refusing v _ _ _ .granted)) hcalls
      rw [refusals_append, show _ = _ from hnone]
      simp

/-- **A creation that fails changes no live region**: the region that it made is not live, if it
made one. -/
theorem live_eq (c : Creation v page size m calls result m') {f : Failure BufferError}
    (hf : result = .error f)
    (hothers : ∀ id ≠ m.memory.nextId, m'.memory.find? id = m.memory.find? id) :
    m'.memory.live? = m.memory.live? := by
  have hfreed : ∀ {r : Region}, m'.memory.find? m.memory.nextId = some r → r.live = false →
      m'.memory.live? = m.memory.live? := by
    intro r hfound hfreed
    funext id
    unfold Memory.live?
    by_cases hid : id = m.memory.nextId
    · rw [hid, hfound, m.memory.find?_nextId]
      simp [hfreed]
    · rw [hothers id hid]
  cases c with
  | empty => rfl
  | tooLarge _ _ hmemory => rw [hmemory]
  | unallocated _ _ hmemory => rw [hmemory]
  | unpinned _ _ _ hfound hdead _ => exact hfreed hfound hdead
  | unsealed _ _ _ hfound hdead _ => exact hfreed hfound hdead
  | made => cases hf

end Creation

/-! ## §3. Every creation ends in one of these ways. -/

variable {hs : List Holding}

/-- What a creation comes to where the size fits into whole pages. -/
theorem create_creation_of_roundUp (kind : BufferScript.PlatformKind) (page : UInt64)
    (hsize : size ≠ 0) (hpage : isPowerOfTwo (kind.pageSize page) = true)
    (hround : roundUp size (kind.pageSize page) = .ok (some L)) (c : Custody kind.view hs m) :
    ∃ result new m', StateT.run (SealedBuffer.create (kind.platform page) size).run m = (result, m') ∧
      m'.trace = m.trace ++ new ∧
      Creation kind.view (kind.pageSize page) size m (kind.view.calls new) result m' ∧
      ∀ id ≠ m.memory.nextId, m'.story id = m.story id := by
  have hleast := (roundUp_eq_some_iff hpage).1 hround
  have hp := BufferScript.serves_pageSize kind page
  obtain ⟨m₁, hask, hidle⟩ := hp.pageSize m
  have hinquiry := BufferScript.pageSize_spelt kind page m
  have hrequest := BufferScript.allocate_spelt kind page m₁
    (Pages.checkWholePages_of_roundUp hsize hround)
  have hcases := SealedBuffer.obtain_cases hp ⟨hsize, hround⟩
    (Handover.idle c hidle).custody.eventsOn_nextId.1
  rw [hask] at hinquiry
  rw [hidle.memory] at hcases
  rcases hcases with
    ⟨m₂, halloc, hobtain, hidle₂⟩ | ⟨m₂, halloc, hobtain, hfound, hwiped, a₁⟩
  · -- no region is made
    rw [halloc] at hrequest
    obtain ⟨new, hnew, _, rfl, _, rfl, hword⟩ := hinquiry.trans hrequest
    have hidle' := (hidle.trans hidle₂).trans (Idle.note (.allocationRefused L) fun _ => rfl)
    refine ⟨_, new, _, SealedBuffer.run_create_of_unprepared hsize hask hround
      (SealedBuffer.run_prepare_of_unobtained hobtain), hnew, ?_, fun id _ => hidle'.story_eq id⟩
    rw [← hword]
    exact .unallocated hsize hleast hidle'.memory
  · rw [halloc] at hrequest
    -- from here on, all that is recorded names the new region
    have habout := furnish_about kind page m.memory.nextId L m₂
    have hprepare := SealedBuffer.run_prepare hobtain
    rcases SealedBuffer.furnish_stretch hp hfound hwiped with
      ⟨m₃, r, hrun, hfound₃, hrest, hz, a₂⟩ | ⟨pin, m₃, r, hrun, hfound₃, hfreed, hz, a₂⟩
    · rw [hrun] at habout
      obtain ⟨new, hnew, _, rfl, _, ⟨_, rfl, calls, hcalls, rfl⟩, hword⟩ :=
        hinquiry.trans (hrequest.trans (a₂.spelt habout))
      refine ⟨_, new, _, SealedBuffer.run_create_of_prepared hsize hask hround
        (hprepare.trans (run_bind_of_ok hrun)), hnew, ?_, fun id hid => ?_⟩
      · rw [← hword]
        exact .made hsize hleast hcalls hfound₃ hrest hz
      · have hnoted := Idle.note (m := m₃) (.created m.memory.nextId size L) fun _ => rfl
        rw [hnoted.story_eq, (a₁.trans a₂).story_of_ne hid, hidle.story_eq]
    · rw [hrun] at habout
      obtain ⟨new, hnew, _, rfl, _, ⟨_, rfl, calls, hcalls, rfl⟩, hword⟩ :=
        hinquiry.trans (hrequest.trans (a₂.spelt habout))
      refine ⟨_, new, _, SealedBuffer.run_create_of_unprepared hsize hask hround
        (hprepare.trans (run_bind_of_error hrun)), hnew, ?_, fun id hid => ?_⟩
      · rw [← hword]
        cases pin with
        | refused => exact .unpinned hsize hleast hcalls hfound₃ hfreed hz
        | granted => exact .unsealed hsize hleast hcalls hfound₃ hfreed hz
      · rw [(a₁.trans a₂).story_of_ne hid, hidle.story_eq]

/-- **A creation from a machine in custody.** -/
theorem create_creation (kind : BufferScript.PlatformKind) (page size : UInt64)
    (hpage : isPowerOfTwo (kind.pageSize page) = true) (c : Custody kind.view hs m) :
    ∃ result new m', StateT.run (SealedBuffer.create (kind.platform page) size).run m = (result, m') ∧
      m'.trace = m.trace ++ new ∧
      Creation kind.view (kind.pageSize page) size m (kind.view.calls new) result m' ∧
      ∀ id ≠ m.memory.nextId, m'.story id = m.story id := by
  by_cases hsize : size = 0
  · subst hsize
    rw [SealedBuffer.create_zero]
    exact ⟨_, [], m, rfl, (List.append_nil _).symm, .empty rfl, fun _ _ => rfl⟩
  cases hround : roundUp size (kind.pageSize page) with
  | error t =>
      have htrap := (roundUp_eq_error_iff.1 hround).1
      rw [hpage] at htrap
      cases htrap
  | ok capacity? =>
      cases capacity? with
      | none =>
          obtain ⟨m₁, hask, hidle⟩ := (BufferScript.serves_pageSize kind page).pageSize m
          have hinquiry := BufferScript.pageSize_spelt kind page m
          rw [hask] at hinquiry
          obtain ⟨new, hnew, hword⟩ := hinquiry
          refine ⟨_, new, m₁, SealedBuffer.run_create_of_none hsize hask hround, hnew, ?_,
            fun id _ => hidle.story_eq id⟩
          rw [show kind.view.calls new = _ from hword]
          exact .tooLarge hsize ((roundUp_eq_none_iff hpage).1 hround) hidle.memory
      | some L => exact create_creation_of_roundUp kind page hsize hpage hround c

/-! ## §4. After any steps. -/

namespace Scenario

/-- **A creation makes a buffer, or nothing.**  After any steps, a creation of any size on pages
whose size is a power of two ends in one of the ways of `Creation`.  The error is that of an
invalid size exactly where the size is zero or no whole number of pages that holds it fits into
64 bits; any other error is given exactly where one call is refused, and that call tells which.
No region that was made before has anything happen to it.  If the creation fails, the live
regions are what they were, and whoever asked for the buffer keeps all buffers as they were, the
one in the slot that it was for included. -/
theorem creation_all_or_nothing (σ : Scenario) (page size : UInt64)
    (hpage : isPowerOfTwo (σ.kind.pageSize page) = true) :
    ∃ result new m',
      StateT.run (SealedBuffer.create (σ.kind.platform page) size).run σ.machine = (result, m') ∧
      m'.trace = σ.machine.trace ++ new ∧
      Creation σ.view (σ.kind.pageSize page) size σ.machine (σ.view.calls new) result m' ∧
      (result = .error (.refused .invalidSize) ↔
        size = 0 ∨ ∀ n ∈ wholePages size.toNat (σ.kind.pageSize page).toNat, UInt64.size ≤ n) ∧
      (∀ e ≠ .invalidSize, result = .error (.refused e) ↔
        (σ.view.calls new).filterMap Event.refusal? = [e]) ∧
      (∀ id ≠ σ.machine.memory.nextId, m'.story id = σ.machine.story id) ∧
      ∀ f, result = .error f →
        m'.memory.live? = σ.machine.memory.live? ∧
        ∀ (s : BufferScript.Session) (slot : Nat),
          (BufferScript.create (σ.kind.platform page) s slot size).run σ.machine =
            ((.failed f, s), m') := by
  have c := σ.custody
  rw [← σ.view_kind] at c ⊢
  obtain ⟨result, new, m', hrun, hnew, hcreation, hothers⟩ :=
    create_creation σ.kind page size hpage c
  refine ⟨result, new, m', hrun, hnew, hcreation, hcreation.invalidSize_iff,
    fun e he => hcreation.refused_iff he, hothers, ?_⟩
  rintro f rfl
  refine ⟨hcreation.live_eq rfl fun id hid => congrArg Story.region (hothers id hid), ?_⟩
  exact fun s slot => BufferScript.run_create_of_error s slot hrun

/-- A buffer on one page, after which pages do not close. -/
def pagesStayOpen : Scenario :=
  buffers .custom 8 [⟨0, .create 5⟩, ⟨0, .fault .protect [1]⟩]

/-- No second buffer is made there, and the first one is as live as before. -/
theorem creation_where_pages_stay_open :
    isPowerOfTwo (pagesStayOpen.kind.pageSize 8) = true ∧
      ∃ m', StateT.run (SealedBuffer.create (pagesStayOpen.kind.platform 8) 20).run
          pagesStayOpen.machine = (.error (.refused .protectFailed), m') ∧
        m'.memory.live? = pagesStayOpen.machine.memory.live? ∧
        m'.memory.liveIds = [1] := by
  refine ⟨rfl, ?_⟩
  obtain ⟨result, new, m', hrun, -, -, -, -, -, hfailed⟩ :=
    creation_all_or_nothing pagesStayOpen 8 20 rfl
  have hresult : result = .error (.refused .protectFailed) := (Prod.mk.inj hrun).1.symm
  subst hresult
  refine ⟨m', hrun, (hfailed _ rfl).1, ?_⟩
  rw [← (Prod.mk.inj hrun).2]
  rfl

end Scenario

end SealedPages
