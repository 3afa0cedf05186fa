/-
  SealedPages.Script.Pages
  ────────────────────────
  **SCRIPTS OF PAGES.**  The steps call the page functions, or the services of
  the operating system's platform, on regions or parts of them.  Filling and
  dumping a part is the caller's own doing: it looks at no protection and leaves
  no event.
-/
import SealedPages.Script.Basic
import SealedPages.Platform

namespace SealedPages

namespace PageScript

/-! ## §1. Steps. -/

/-- A part of a region; without a length it reaches to the end of the region. -/
structure Part where
  region : RegionId
  off : UInt64
  len? : Option UInt64

/-- What a step does. -/
inductive Step where
  | pageSize
  /-- Allocate pages; only the page functions take a page size. -/
  | alloc (len page : UInt64)
  | lock (part : Part)
  | unlock (part : Part)
  | protect (part : Part) (mode : Protection)
  | wipe (part : Part)
  | dealloc (region : RegionId)
  | fill (part : Part) (value : UInt8)
  | dump (part : Part)
  /-- Make coming calls fail. -/
  | fault (target : Target) (places : List Nat)

/-- What a step replies. -/
inductive Reply where
  | done
  | size (value : UInt64)
  /-- A region was made; `aligned` tells whether its address is a multiple of the
  page size. -/
  | made (region : RegionId) (len : UInt64) (aligned : Bool)
  | bytes (content : Bytes)
  | failed (failure : Failure MemoryError)
  /-- No live region has this number. -/
  | noRegion
  /-- There is nothing to say. -/
  | silent

/-! ## §2. Two ways to the pages. -/

/-- The page functions, or the services of the operating system's platform. -/
inductive Api where
  | functions
  | services
  deriving DecidableEq

namespace Api

def pageSize : Api → MachineM UInt64
  | functions => pure Kernel.pageSize
  | services  => Platform.system.pageSize

/-- The page size that an allocation goes by. -/
def allocationPage (page : UInt64) : Api → UInt64
  | functions => page
  | services  => Kernel.pageSize

def alloc (len page : UInt64) : Api → TryM MemoryError RegionId
  | functions => Pages.alloc len page
  | services  => Platform.system.allocate len

def dealloc (s : Span) : Api → MachineM Unit
  | functions => Pages.dealloc s.region
  | services  => Platform.system.release s

def lock (s : Span) : Api → MachineM Verdict
  | functions => Pages.lock s
  | services  => Platform.system.lock s

def unlock (s : Span) : Api → MachineM Verdict
  | functions => Pages.unlock s
  | services  => Platform.system.unlock s

def protect (s : Span) (mode : Protection) : Api → MachineM Verdict
  | functions => Pages.protect s mode
  | services  => Platform.system.protect s mode

def wipe (s : Span) : Api → MachineM Unit
  | functions => Pages.wipe s
  | services  => Platform.system.wipe s

end Api

/-! ## §3. Playing a step. -/

/-- The span of a part, if its region is live. -/
def Part.span? (part : Part) (m : Memory) : Option Span :=
  (m.live? part.region).map fun r =>
    ⟨part.region, part.off, part.len?.getD (r.bytes.length.toUInt64 - part.off)⟩

/-- A whole region. -/
def Part.whole (region : RegionId) : Part :=
  ⟨region, 0, none⟩

/-- Do something with a part of a live region. -/
def withPart (part : Part) (body : Span → MachineM Reply) : MachineM Reply := do
  match part.span? (← get).memory with
  | some s => body s
  | none   => return .noRegion

/-- The reply to a verdict. -/
def Reply.ofVerdict : Verdict → Reply
  | .granted => done
  | .refused => failed (.refused .refused)

/-- Allocate, and look at the address of the new region. -/
def alloc (api : Api) (len page : UInt64) : MachineM Reply := do
  match ← (api.alloc len page).run with
  | .ok id =>
      let aligned := match (← get).memory.find? id with
        | some r => r.align % api.allocationPage page == 0
        | none   => false
      return .made id len aligned
  | .error f => return .failed f

/-- Do what a step says. -/
def act (api : Api) : Step → MachineM Reply
  | .pageSize => return .size (← api.pageSize)
  | .alloc len page => alloc api len page
  | .lock part => withPart part fun s => return .ofVerdict (← api.lock s)
  | .unlock part => withPart part fun s => return .ofVerdict (← api.unlock s)
  | .protect part mode => withPart part fun s => return .ofVerdict (← api.protect s mode)
  | .wipe part => withPart part fun s => do
      api.wipe s
      return .done
  | .dealloc region => withPart (.whole region) fun s => do
      api.dealloc s
      return .done
  | .fill part value => withPart part fun s => do
      Machine.remember fun m => m.fill s value
      return .silent
  | .dump part => withPart part fun s => return .bytes ((← get).memory.read s)
  | .fault target places => do
      Machine.schedule target places
      return .silent

/-- Play a step; a script of pages holds nothing between its steps. -/
def perform (api : Api) (_ : Unit) (step : Step) : MachineM (Reply × Unit) := do
  return (← act api step, ())

/-- The machine after the steps of a script. -/
def machineAfter (api : Api) (steps : List Step) : Machine :=
  (Script.play (perform api) ⟨(), {}⟩ steps).2.machine

/-- Run a script. -/
def run (api : Api) (steps : List Step) : Script.Transcript Reply :=
  Script.run (perform api) (fun _ => pure ()) () steps

end PageScript

end SealedPages
