/-
  SealedPages.Platform
  ────────────────────
  **THE SERVICES A BUFFER IS BUILT ON.**  A `Platform` is the page size and six
  services on pages.  A buffer knows nothing else of the machine, apart
  from the copies in and out of its own pages.

  Two platforms are given:

    * `Platform.system` — pages of 4096 bytes; each service is the page
      function of its name;
    * `Platform.custom` — pages of any reported size; each service is recorded
      as an event and can be made to fail of its own, and does else what the
      page function does.
-/
import SealedPages.Pages

namespace SealedPages

/-! ## §1. The interface. -/

/-- What a buffer asks of the machine. -/
structure Platform where
  /-- The size of a page. -/
  pageSize : MachineM UInt64
  /-- A new region of whole pages. -/
  allocate : (len : UInt64) → TryM MemoryError RegionId
  /-- Hand pages back. -/
  release : Span → MachineM Unit
  /-- Pin pages in physical memory. -/
  lock : Span → MachineM Verdict
  /-- Undo an earlier `lock`. -/
  unlock : Span → MachineM Verdict
  /-- Set the protection of pages. -/
  protect : Span → Protection → MachineM Verdict
  /-- Overwrite pages with zeros. -/
  wipe : Span → MachineM Unit

namespace Platform

/-! ## §2. The operating system's own pages. -/

/-- The platform of the operating system. -/
def system : Platform where
  pageSize := pure Kernel.pageSize
  allocate len := Pages.alloc len Kernel.pageSize
  release s := Pages.dealloc s.region
  lock := Pages.lock
  unlock := Pages.unlock
  protect := Pages.protect
  wipe := Pages.wipe

/-! ## §3. A platform that reports its services. -/

/-- Call a service that can be refused: a scheduled fault refuses it before it does
anything.  The event carries the verdict and the memory that the service met. -/
def served (t : Target) (event : Verdict → ServiceCall) (service : MachineM Verdict) :
    MachineM Verdict := do
  let met := (← get).memory
  let verdict ← if ← Machine.draw t then pure .refused else service
  Machine.recordAt met (.service (event verdict))
  return verdict

/-- Allocate as a service, under pages of `page` bytes. -/
def servedAlloc (len page : UInt64) : TryM MemoryError RegionId := ExceptT.mk do
  let met := (← get).memory
  let made ← if ← Machine.draw .allocate then pure (.error (.refused .refused))
    else (Pages.alloc len page).run
  match made with
  | .ok id => Machine.recordAt met (.service (.allocate len (some id)))
  | .error (.refused _) => Machine.recordAt met (.service (.allocate len none))
  | .error (.trapped _) => pure ()
  return made

theorem run_served (t : Target) (event : Verdict → ServiceCall) (service : MachineM Verdict)
    (m : Machine) :
    (served t event service).run m =
      let done := if m.faults.fires t then (.refused, { m with faults := m.faults.tick t })
        else service.run { m with faults := m.faults.tick t }
      (done.1, { done.2 with trace := done.2.trace ++ [⟨m.memory, .service (event done.1)⟩] }) := by
  unfold served
  rw [run_bind, run_get, run_bind, Machine.run_draw]
  cases h : m.faults.fires t <;> rfl

theorem run_servedAlloc (len page : UInt64) (m : Machine) :
    StateT.run (servedAlloc len page).run m =
      let made : Except (Failure MemoryError) RegionId × Machine :=
        if m.faults.fires .allocate then
          (.error (.refused .refused), { m with faults := m.faults.tick .allocate })
        else StateT.run (Pages.alloc len page).run { m with faults := m.faults.tick .allocate }
      match made with
      | (.ok id, m') =>
          (.ok id, { m' with trace := m'.trace ++ [⟨m.memory, .service (.allocate len (some id))⟩] })
      | (.error (.refused e), m') =>
          (.error (.refused e),
            { m' with trace := m'.trace ++ [⟨m.memory, .service (.allocate len none)⟩] })
      | (.error (.trapped e), m') => (.error (.trapped e), m') := by
  unfold servedAlloc
  show StateT.run (get >>= _) m = _
  rw [run_bind, run_get, run_bind, Machine.run_draw]
  cases m.faults.fires .allocate with
  | true => rfl
  | false =>
      show StateT.run ((Pages.alloc len page).run >>= _) { m with faults := m.faults.tick .allocate } = _
      rw [run_bind]
      rcases StateT.run (Pages.alloc len page).run { m with faults := m.faults.tick .allocate }
        with ⟨made, m'⟩
      rcases made with (e | e) | id <;> rfl

/-- A platform that reports pages of `page` bytes and records every service. -/
def custom (page : UInt64) : Platform where
  pageSize := do
    Machine.record (.service (.pageSize page))
    return page
  allocate len := servedAlloc len page
  release s := do
    Machine.record (.service (.release s ((← get).memory.nonzero s.region)))
    Pages.dealloc s.region
  lock s := served .lock (.lock s) (Pages.lock s)
  unlock s := served .unlock (.unlock s) (Pages.unlock s)
  protect s mode := served .protect (.protect s mode) (Pages.protect s mode)
  wipe s := do
    Machine.record (.service (.wipe s))
    Pages.wipe s

end Platform

end SealedPages
