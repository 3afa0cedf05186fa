/-
  SealedPages.Script.Buffers
  ──────────────────────────
  **SCRIPTS OF BUFFERS.**  The steps create, use and give up buffers that stand
  in numbered slots.  All buffers of a script are on one kind of platform.  The
  page size that a custom platform reports can change between steps.

  A buffer that takes the place of another one is put into the slot first; then
  the other one is let go of.  A creation that fails leaves the slot as it was.
-/
import SealedPages.Script.Basic
import SealedPages.Buffer.Access
import SealedPages.Slots

namespace SealedPages

namespace BufferScript

/-! ## §1. Steps. -/

/-- A use of the buffer in a slot. -/
inductive Use where
  | write (data : Bytes)
  /-- Read over `len` bytes that all have the value `fill`. -/
  | readInto (len : Nat) (fill : UInt8)
  /-- Read `len` bytes. -/
  | read (len : Nat)
  | destroy
  /-- Let go of the buffer and empty the slot. -/
  | letGo
  /-- Do nothing but show the status of the buffer. -/
  | info
  /-- Describe the buffer, on one line or with a line for each field. -/
  | describe (long : Bool)

/-- What a step does. -/
inductive Action where
  /-- Create a buffer of `size` bytes in the slot. -/
  | create (size : UInt64)
  /-- Use the buffer in the slot. -/
  | use (use : Use)
  /-- From now on, let the platform report pages of this size. -/
  | setPageSize (value : UInt64)
  /-- Make coming calls fail. -/
  | fault (target : Target) (places : List Nat)
  /-- Look at raw memory. -/
  | peek (region : RegionId) (first len : Nat)

/-- An action on a slot. -/
structure Step where
  slot : Nat
  action : Action

/-- What a step replies. -/
inductive Reply where
  | done
  | bytes (content : Bytes)
  | text (content : String)
  | failed (failure : Failure BufferError)
  /-- The slot holds no buffer. -/
  | vacant
  /-- There is nothing to say. -/
  | silent
  | sight (seen : Memory.Sight)

/-- The reply of a step, the caller's bytes after a read, and the status of the
buffer in the slot. -/
structure Answer where
  reply : Reply
  out : Option Bytes
  status : Option SealedBuffer.Status

/-! ## §2. Platforms. -/

/-- The kind of platform that a script runs on. -/
inductive PlatformKind where
  | system
  | custom
  deriving DecidableEq

/-- The platform of a kind, where a custom one reports pages of `page` bytes. -/
def PlatformKind.platform (page : UInt64) : PlatformKind → Platform
  | system => .system
  | custom => .custom page

/-- The events that a kind of platform shows. -/
def PlatformKind.view : PlatformKind → View
  | system => .systemCalls
  | custom => .serviceCalls

/-! ## §3. Playing a step. -/

/-- What a script holds: its buffers, and the page size that is reported. -/
structure Session where
  slots : Slots SealedBuffer := .empty
  page : UInt64 := Kernel.pageSize

/-- The reply to a result without a value. -/
def Reply.ofResult : Except BufferError Unit → Reply
  | .ok _    => done
  | .error e => failed (.refused e)

/-- The reply to a result with bytes. -/
def Reply.ofBytes : Except BufferError Bytes → Reply
  | .ok content => bytes content
  | .error e    => failed (.refused e)

/-- Create a buffer in a slot. -/
def create (p : Platform) (s : Session) (slot : Nat) (size : UInt64) : MachineM (Reply × Session) := do
  match ← (SealedBuffer.create p size).run with
  | .ok b =>
      match s.slots.get? slot with
      | some old => SealedBuffer.letGo p old
      | none     => pure ()
      return (.done, { s with slots := s.slots.put slot b })
  | .error f => return (.failed f, s)

/-- Use a buffer: the reply, the caller's bytes after a read, and the buffer
afterwards, or nothing where its slot is emptied. -/
def use (p : Platform) (b : SealedBuffer) :
    Use → MachineM (Reply × Option Bytes × Option SealedBuffer)
  | .write data => do
      let outcome ← b.write p data
      return (.ofResult outcome.result, none, some outcome.buffer)
  | .readInto len fill => do
      let (out, outcome) ← b.readInto p (List.replicate len fill)
      return (.ofResult outcome.result, some out, some outcome.buffer)
  | .read len => do
      let outcome ← b.read p len
      return (.ofBytes outcome.result, none, some outcome.buffer)
  | .destroy => do
      let b' ← b.destroy p
      return (.done, none, some b')
  | .letGo => do
      b.letGo p
      return (.done, none, none)
  | .info => return (.silent, none, some b)
  | .describe long =>
      return (.text (if long then b.longDescription else b.description), none, some b)

/-- The reply where there is no buffer to use. -/
def Use.replyVacant : Use → Reply
  | letGo => .done
  | info  => .silent
  | _     => .vacant

/-- Use the buffer in a slot, if there is one. -/
def useSlot (p : Platform) (s : Session) (slot : Nat) (u : Use) :
    MachineM (Reply × Option Bytes × Session) := do
  match s.slots.get? slot with
  | none => return (u.replyVacant, none, s)
  | some b =>
      let (reply, out, held) ← use p b u
      return (reply, out, { s with slots := s.slots.set slot held })

/-- Do what a step says. -/
def act (kind : PlatformKind) (s : Session) (slot : Nat) :
    Action → MachineM (Reply × Option Bytes × Session)
  | .create size => do
      let (reply, s') ← create (kind.platform s.page) s slot size
      return (reply, none, s')
  | .use u => useSlot (kind.platform s.page) s slot u
  | .setPageSize value => return (.silent, none, { s with page := value })
  | .fault target places => do
      Machine.schedule target places
      return (.silent, none, s)
  | .peek region first len =>
      return (.sight ((← get).memory.peek region first len), none, s)

/-- Play a step, and show the slot afterwards. -/
def perform (kind : PlatformKind) (s : Session) (step : Step) : MachineM (Answer × Session) := do
  let (reply, out, s') ← act kind s step.slot step.action
  return (⟨reply, out, (s'.slots.get? step.slot).map (·.status)⟩, s')

/-- Let go of buffers, one after the other. -/
def letGoAll (p : Platform) : List SealedBuffer → MachineM Unit
  | []        => pure ()
  | b :: rest => do
      b.letGo p
      letGoAll p rest

/-- Let go of what the slots hold, by ascending number. -/
def giveUp (kind : PlatformKind) (s : Session) : MachineM Unit :=
  letGoAll (kind.platform s.page) s.slots.values

/-- What a script holds after its steps, and the machine it is on. -/
def sceneAfter (kind : PlatformKind) (page : UInt64) (steps : List Step) : Script.Scene Session :=
  (Script.play (perform kind) ⟨{ page }, {}⟩ steps).2

/-- Run a script; a custom platform reports pages of `page` bytes at first. -/
def run (kind : PlatformKind) (page : UInt64) (steps : List Step) : Script.Transcript Answer :=
  Script.run (perform kind) (giveUp kind) { page } steps

end BufferScript

end SealedPages
