/-
  SealedPages.Pages
  ─────────────────
  **WHOLE PAGES.**  The page functions stand on the calls of the operating
  system: allocating whole pages, pinning them and keeping them out of core
  dumps, and closing and opening them.

  The advice on core dumps is best effort.  Its refusal is logged and changes no
  result: pinning and unpinning are decided by `mlock` and `munlock` alone.
-/
import SealedPages.Kernel

namespace SealedPages

namespace Pages

/-! ## §1. Allocation. -/

/-- Check that a length is a positive whole number of pages. -/
def checkWholePages (len page : UInt64) : Except Trap Unit := do
  if len = 0 then
    throw .partialPages
  else
    let rest ← checkedRem len page
    if rest = 0 then pure () else throw .partialPages

/-- Allocate exactly `len` bytes at a multiple of `page`; the length must be a
positive whole number of pages. -/
def alloc (len page : UInt64) : TryM MemoryError RegionId := do
  checked (checkWholePages len page)
  match ← (Kernel.posixMemalign page len : TryM MemoryError (Option RegionId)) with
  | some id => pure id
  | none    => refuse .refused

/-- Hand pages back. -/
def dealloc (id : RegionId) : MachineM Unit :=
  Kernel.free id

/-! ## §2. Pinning. -/

/-- Give advice on core dumps; a refusal is only logged. -/
def advise (s : Span) (a : Advice) : MachineM Unit := do
  match ← Kernel.madvise s a with
  | .granted => pure ()
  | .refused => Machine.note (.adviceRefused s a)

/-- Pin pages in physical memory, and once they are pinned, ask for them to be left
out of core dumps. -/
def lock (s : Span) : MachineM Verdict := do
  match ← Kernel.mlock s with
  | .granted => advise s .dontDump; return .granted
  | .refused => return .refused

/-- Take the wish about core dumps back, then unpin the pages. -/
def unlock (s : Span) : MachineM Verdict := do
  advise s .doDump
  Kernel.munlock s

/-! ## §3. Protection and wiping. -/

/-- Set the protection of pages: a single call, never made twice. -/
def protect (s : Span) (mode : Protection) : MachineM Verdict :=
  Kernel.mprotect s mode

/-- Overwrite pages with zeros. -/
def wipe (s : Span) : MachineM Unit :=
  Kernel.wipe s

/-! ## §4. Whole pages never trap. -/

theorem checkWholePages_zero (page : UInt64) :
    checkWholePages 0 page = .error .partialPages :=
  rfl

theorem checkWholePages_of_dvd {len page : UInt64} (hlen : len ≠ 0) (hpage : page ≠ 0)
    (h : len % page = 0) : checkWholePages len page = .ok () := by
  simp [checkWholePages, hlen, checkedRem_of_ne_zero hpage, h, bind, Except.bind]
  rfl

/-- **What is rounded up is a positive whole number of pages.** -/
theorem checkWholePages_of_roundUp {len page total : UInt64} (hlen : len ≠ 0)
    (h : roundUp len page = .ok (some total)) : checkWholePages total page = .ok () := by
  obtain ⟨hp, htotal⟩ := roundUp_eq_some h
  have hpos : 0 < len.toNat := Nat.pos_of_ne_zero fun e => hlen (UInt64.toNat_inj.1 e)
  refine checkWholePages_of_dvd ?_ (ne_zero_of_isPowerOfTwo hp) (UInt64.toNat_inj.1 ?_)
  · rintro rfl
    have hzero : (0 : UInt64).toNat = 0 := rfl
    omega
  · rw [UInt64.toNat_mod, htotal]
    exact Nat.mod_eq_zero_of_dvd (dvd_add_padding _ (pos_of_isPowerOfTwo hp))

/-- Pages that are no whole number are not asked for. -/
theorem run_alloc_of_trap {L page : UInt64} {t : Trap} (h : checkWholePages L page = .error t)
    (m : Machine) : StateT.run (alloc L page).run m = (.error (.trapped t), m) := by
  unfold alloc
  rw [h]
  exact run_bind_of_error rfl

/-- Whole pages are what the operating system gives for them. -/
theorem run_alloc_of_wholePages {L page : UInt64} (hL : checkWholePages L page = .ok ())
    (m : Machine) :
    StateT.run (alloc L page).run m =
      match (Kernel.posixMemalign page L).run m with
      | (some j, m') => (.ok j, m')
      | (none, m')   => (.error (.refused .refused), m') := by
  have hchecked : StateT.run (checked (checkWholePages L page) : TryM MemoryError Unit).run m =
      (.ok (), m) := by
    rw [hL]
    rfl
  unfold alloc
  rw [run_bind_of_ok hchecked, run_lift_bind]
  rcases (Kernel.posixMemalign page L).run m with ⟨_ | j, m'⟩
  · rfl
  · rfl

end Pages

end SealedPages
