/-
  SealedPages.Kernel
  ──────────────────
  **THE OPERATING SYSTEM.**  Six calls, each a step of the machine.  A call
  first uses up one call number of its target; it is refused if a fault was
  scheduled for that number, or on grounds of its own:

    * `posixMemalign` — the alignment is no multiple of the word size or no
      power of two, or the length is above the largest allocation;
    * `madvise`, `mprotect` — the address is no multiple of the region's
      alignment;
    * `mlock`, `munlock` — never; `free` cannot be refused at all.

  The event is recorded with the memory that the call met, then the call takes
  effect.
-/
import SealedPages.Machine
import SealedPages.Rounding

namespace SealedPages

namespace Kernel

open Machine

/-! ## §1. Parameters. -/

/-- The size of a page.  It never changes, and pages of this size can always be aligned. -/
def pageSize : UInt64 := 4096

/-- An alignment is a multiple of the size of a word. -/
def wordSize : UInt64 := 8

/-- No single allocation is larger than this. -/
def largestAllocation : UInt64 := 1048576

/-- Whether an alignment can be asked for. -/
def acceptsAlignment (align : UInt64) : Bool :=
  align % wordSize == 0 && isPowerOfTwo align

/-! ## §2. Making and freeing regions. -/

/-- Whether a region can be asked for at all. -/
def acceptsRequest (align len : UInt64) : Bool :=
  acceptsAlignment align && decide (len ≤ largestAllocation)

/-- Ask for a region of `len` bytes whose address is a multiple of `align`. -/
def posixMemalign (align len : UInt64) : MachineM (Option RegionId) := do
  let faulted ← draw .posixMemalign
  if !faulted && acceptsRequest align len then do
    let id := (← get).memory.nextId
    record (.system (.posixMemalign align len (some id)))
    remember fun m => m.grow (.fresh align len.toNat)
    return some id
  else do
    record (.system (.posixMemalign align len none))
    return none

/-- Hand a region back. -/
def free (id : RegionId) : MachineM Unit := do
  record (.system (.free id ((← get).memory.nonzero id)))
  remember fun m => m.retire id

theorem run_posixMemalign (align len : UInt64) (m : Machine) :
    (posixMemalign align len).run m =
      if !m.faults.fires .posixMemalign && acceptsRequest align len then
        (some m.memory.nextId,
          { m with
            memory := m.memory.grow (.fresh align len.toNat)
            faults := m.faults.tick .posixMemalign
            trace := m.trace ++
              [⟨m.memory, .system (.posixMemalign align len (some m.memory.nextId))⟩] })
      else
        (none,
          { m with
            faults := m.faults.tick .posixMemalign
            trace := m.trace ++ [⟨m.memory, .system (.posixMemalign align len none)⟩] }) := by
  rw [posixMemalign, run_bind, run_draw]
  split <;> rfl

theorem run_free (id : RegionId) (m : Machine) :
    (free id).run m =
      ((), { m with
        memory := m.memory.retire id
        trace := m.trace ++ [⟨m.memory, .system (.free id (m.memory.nonzero id))⟩] }) :=
  rfl

/-! ## §3. Pinning, advice and protection. -/

/-- A change of the memory that only a granted call makes. -/
def whenGranted (change : Memory → Memory) : Verdict → Memory → Memory
  | .granted, m => change m
  | .refused, m => m

/-- The verdict on the next call of a target: refused where a fault fires, or where
the call is not sound. -/
def verdictOn (fs : Faults) (t : Target) (sound : Bool) : Verdict :=
  if !fs.fires t && sound then .granted else .refused

/-- Make a call that can be refused: it uses up a number, is judged and recorded, and
then takes effect. -/
def attempt (t : Target) (sound : Memory → Bool) (event : Verdict → SystemCall)
    (effect : Verdict → Memory → Memory) : MachineM Verdict := do
  let m ← get
  let v := verdictOn m.faults t (sound m.memory)
  let _ ← draw t
  record (.system (event v))
  remember (effect v)
  return v

/-- Whether the address of a part is a multiple of its region's alignment. -/
def isAligned (s : Span) (m : Memory) : Bool :=
  match m.find? s.region with
  | some r => r.alignedAt s.off
  | none   => false

theorem isAligned_of_find? {s : Span} {m : Memory} {r : Region} (h : m.find? s.region = some r) :
    isAligned s m = r.alignedAt s.off := by
  unfold isAligned
  rw [h]

theorem isAligned_of_find?_none {s : Span} {m : Memory} (h : m.find? s.region = none) :
    isAligned s m = false := by
  unfold isAligned
  rw [h]

/-- Pin pages in physical memory. -/
def mlock (s : Span) : MachineM Verdict :=
  attempt .mlock (fun _ => true) (.mlock s) (whenGranted fun m => m.setPinned s.region true)

/-- Let pages leave physical memory again.  From the attempt on they do not count
as pinned. -/
def munlock (s : Span) : MachineM Verdict :=
  attempt .munlock (fun _ => true) (.munlock s) fun _ m => m.setPinned s.region false

/-- Advise on what a core dump holds. -/
def madvise (s : Span) (a : Advice) : MachineM Verdict :=
  attempt .madvise (isAligned s) (.madvise s a) fun _ m => m

/-- Set the protection of a region. -/
def mprotect (s : Span) (mode : Protection) : MachineM Verdict :=
  attempt .mprotect (isAligned s) (.mprotect s mode)
    (whenGranted fun m => m.setProtection s.region mode)

theorem run_attempt (t : Target) (sound : Memory → Bool) (event : Verdict → SystemCall)
    (effect : Verdict → Memory → Memory) (m : Machine) :
    (attempt t sound event effect).run m =
      (verdictOn m.faults t (sound m.memory),
        { m with
          memory := effect (verdictOn m.faults t (sound m.memory)) m.memory
          faults := m.faults.tick t
          trace := m.trace ++
            [⟨m.memory, .system (event (verdictOn m.faults t (sound m.memory)))⟩] }) :=
  rfl

/-! ## §4. Touching bytes. -/

/-- Overwrite a part of a region with zeros. -/
def wipe (s : Span) : MachineM Unit := do
  record (.touch (.wipe s))
  remember fun m => m.wipe s

/-- Copy data into a part of a region. -/
def copyIn (s : Span) (data : Bytes) : MachineM Unit := do
  record (.touch (.copyIn s))
  remember fun m => m.write s data

/-- Copy a part of a region out. -/
def copyOut (s : Span) : MachineM Bytes := do
  record (.touch (.copyOut s))
  return (← get).memory.read s

theorem run_wipe (s : Span) (m : Machine) :
    (wipe s).run m =
      ((), { m with
        memory := m.memory.wipe s
        trace := m.trace ++ [⟨m.memory, .touch (.wipe s)⟩] }) :=
  rfl

theorem run_copyIn (s : Span) (data : Bytes) (m : Machine) :
    (copyIn s data).run m =
      ((), { m with
        memory := m.memory.write s data
        trace := m.trace ++ [⟨m.memory, .touch (.copyIn s)⟩] }) :=
  rfl

theorem run_copyOut (s : Span) (m : Machine) :
    (copyOut s).run m =
      (m.memory.read s, { m with trace := m.trace ++ [⟨m.memory, .touch (.copyOut s)⟩] }) :=
  rfl

end Kernel

end SealedPages
