/-
  SealedPages.Script.Handles
  ──────────────────────────
  **SCRIPTS OF HANDLES.**  The steps call the C interface on numbered variables.
  A variable that was never set holds NULL; a step may also pass NULL instead of
  a variable.
-/
import SealedPages.Script.Basic
import SealedPages.Handle
import SealedPages.Slots

namespace SealedPages

namespace HandleScript

/-! ## §1. Steps. -/

/-- What is passed as a handle: a variable, or NULL itself. -/
abbrev Passed := Option Nat

/-- A call of the C interface, or a look at what is below it. -/
inductive Step where
  /-- Put a new handle into a variable, then destroy the one that was there. -/
  | create (slot : Nat) (size : UInt64)
  /-- Store the first `len` bytes of `data`; `none` is a NULL pointer. -/
  | store (handle : Passed) (data : Option Bytes) (len : UInt64)
  /-- Retrieve `len` bytes over an output of `room` bytes that all have the value
  `fill`; without `room` the output is a NULL pointer. -/
  | retrieve (handle : Passed) (len : UInt64) (room : Option Nat) (fill : UInt8)
  | getSize (handle : Passed)
  | destroy (handle : Passed)
  /-- Pass the address of a variable, or a NULL address. -/
  | clear (address : Passed)
  | version
  | codeText (code : Int32)
  /-- Make coming calls fail. -/
  | fault (target : Target) (places : List Nat)
  /-- Look at raw memory. -/
  | peek (region : RegionId) (first len : Nat)

/-- What a step replies. -/
inductive Reply where
  /-- Whether a variable holds a handle or NULL. -/
  | handle (present : Bool)
  | code (value : Int32)
  | size (value : UInt64)
  | text (content : String)
  | trapped (trap : Trap)
  /-- There is nothing to say. -/
  | silent
  | sight (seen : Memory.Sight)

/-- The reply of a step, and the caller's bytes after a retrieval. -/
structure Answer where
  reply : Reply
  out : Option Bytes

/-! ## §2. Variables. -/

/-- The variables that hold a handle other than NULL. -/
abbrev Variables := Slots SealedBuffer

/-- The handle that is passed. -/
def lookUp (vars : Variables) (passed : Passed) : Handle :=
  passed.bind vars.get?

/-- Set the variable that was passed; NULL is no variable and keeps nothing. -/
def assign (vars : Variables) (passed : Passed) (handle : Handle) : Variables :=
  match passed with
  | some k => vars.set k handle
  | none   => vars

/-! ## §3. Playing a step. -/

/-- Create a buffer and put its handle into a variable. -/
def create (vars : Variables) (slot : Nat) (size : UInt64) : MachineM (Reply × Variables) := do
  match ← Handle.create size with
  | .ok made =>
      Handle.destroy (vars.get? slot)
      return (.handle made.isSome, vars.set slot made)
  | .error t => return (.trapped t, vars)

/-- Do what a step says: the reply, the caller's bytes after a retrieval, and the
variables. -/
def act (vars : Variables) : Step → MachineM (Reply × Option Bytes × Variables)
  | .create slot size => do
      let (reply, after) ← create vars slot size
      return (reply, none, after)
  | .store passed data len => do
      let (code, after) ← Handle.store (lookUp vars passed) data len
      return (.code code, none, assign vars passed after)
  | .retrieve passed len room fill => do
      let out := room.map (List.replicate · fill)
      let (code, out', after) ← Handle.retrieve (lookUp vars passed) out len
      return (.code code, some (out'.getD []), assign vars passed after)
  | .getSize passed => return (.size (Handle.getSize (lookUp vars passed)), none, vars)
  | .destroy passed => do
      Handle.destroy (lookUp vars passed)
      return (.silent, none, assign vars passed none)
  | .clear (some slot) => do
      let after ← Handle.clear (vars.get? slot)
      return (.handle after.isSome, none, vars.set slot after)
  | .clear none => return (.silent, none, vars)
  | .version => return (.text SealedPages.version, none, vars)
  | .codeText code => return (.text (Handle.codeText code), none, vars)
  | .fault target places => do
      Machine.schedule target places
      return (.silent, none, vars)
  | .peek region first len =>
      return (.sight ((← get).memory.peek region first len), none, vars)

/-- Play a step. -/
def perform (vars : Variables) (step : Step) : MachineM (Answer × Variables) := do
  let (reply, out, after) ← act vars step
  return (⟨reply, out⟩, after)

/-- Destroy handles, one after the other. -/
def destroyAll : List SealedBuffer → MachineM Unit
  | []        => pure ()
  | b :: rest => do
      Handle.destroy (some b)
      destroyAll rest

/-- Destroy what the variables hold, by ascending number. -/
def giveUp (vars : Variables) : MachineM Unit :=
  destroyAll vars.values

/-- What a script holds after its steps, and the machine it is on. -/
def sceneAfter (steps : List Step) : Script.Scene Variables :=
  (Script.play perform ⟨.empty, {}⟩ steps).2

/-- Run a script. -/
def run (steps : List Step) : Script.Transcript Answer :=
  Script.run perform giveUp .empty steps

end HandleScript

end SealedPages
