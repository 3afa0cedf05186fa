/-
  SealedPages.Buffer.Access
  ─────────────────────────
  **READING, WRITING AND DESTROYING A BUFFER.**  At rest the pages are closed.
  An access opens them, copies, and closes them again:

    * pages that do not open leave everything as it was;
    * pages that do not close again are destroyed on the spot, and so is the
      copy that a read has made.

  A buffer is destroyed by opening its pages (unless they are open already),
  wiping, unpinning and releasing them.  Pages that do not open for that are
  abandoned: they stay closed and pinned for good.
-/
import SealedPages.Buffer.Create

namespace SealedPages

namespace SealedBuffer

/-! ## §1. Destroying. -/

/-- Open the pages of a buffer to wipe them, unless its record says they are
open. -/
def openForWipe (p : Platform) (h : Holding) : MachineM Verdict :=
  match h.mode with
  | .readWrite => pure .granted
  | .noAccess  => p.protect h.pages .readWrite

/-- Wipe, unpin and release what a buffer held. -/
def dispose (p : Platform) (h : Holding) : MachineM Unit := do
  match ← openForWipe p h with
  | .granted =>
      p.wipe h.pages
      unpin p h.pages
      p.release h.pages
      Machine.note (.destroyed h.region)
  | .refused =>
      Machine.note (.abandoned h.region h.capacity)

/-- Destroy a buffer.  Nothing happens to one that is destroyed already. -/
def destroy (p : Platform) (b : SealedBuffer) : MachineM SealedBuffer := do
  match b.holding with
  | some h => dispose p h; return destroyed
  | none   => return b

/-- Let go of a buffer for good, which destroys it. -/
def letGo (p : Platform) (b : SealedBuffer) : MachineM Unit := do
  let _ ← destroy p b

/-! ## §2. An access. -/

/-- How an access to the pages of a buffer ended. -/
inductive Access (α : Type) where
  /-- The pages did not open; nothing was done. -/
  | closed
  /-- The pages opened and closed again. -/
  | finished (value : α)
  /-- The pages did not close again, and the buffer is destroyed. -/
  | broken
  deriving DecidableEq

/-- The result that an access gives to the caller. -/
def Access.result {α : Type} : Access α → Except BufferError α
  | closed         => .error .protectFailed
  | finished value => .ok value
  | broken         => .error .protectFailed

/-- Open the pages, run `body` on them, close them. -/
def access {α : Type} (p : Platform) (h : Holding) (body : MachineM α) :
    MachineM (Access α × SealedBuffer) := do
  match ← p.protect h.pages .readWrite with
  | .refused =>
      Machine.note (.grantRefused h.region)
      return (.closed, ⟨some h⟩)
  | .granted =>
      let value ← body
      match ← p.protect h.pages .noAccess with
      | .granted => return (.finished value, ⟨some { h with mode := .noAccess }⟩)
      | .refused =>
          Machine.note (.revokeRefused h.region)
          dispose p { h with mode := .readWrite }
          return (.broken, destroyed)

/-! ## §3. Writing and reading. -/

/-- The result of an operation, and the buffer after it. -/
structure Outcome (α : Type) where
  result : Except BufferError α
  buffer : SealedBuffer

/-- What the buffer holds, if `count` bytes of it can be asked for. -/
def holdingFor (b : SealedBuffer) (count : Nat) : Except BufferError Holding :=
  match b.holding with
  | none => .error .nullPointer
  | some h =>
      if count = 0 ∨ h.len.toNat < count then .error .invalidSize else .ok h

/-- Copy data into the start of the buffer.  What lies beyond the data stays. -/
def write (p : Platform) (b : SealedBuffer) (data : Bytes) : MachineM (Outcome Unit) := do
  match b.holdingFor data.length with
  | .error e => return ⟨.error e, b⟩
  | .ok h =>
      let (a, b') ← access p h (Kernel.copyIn (h.front data.length) data)
      return ⟨a.result, b'⟩

/-- What the caller's bytes are after a read: the copy, or zeros where the copy had
to be taken back, or what they were before. -/
def Access.fillOut (before : Bytes) : Access Bytes → Bytes
  | closed        => before
  | finished copy => copy
  | broken        => Bytes.zeros before.length

/-- Copy the start of the buffer over the bytes of the caller; these come back with
the outcome. -/
def readInto (p : Platform) (b : SealedBuffer) (out : Bytes) : MachineM (Bytes × Outcome Unit) := do
  match b.holdingFor out.length with
  | .error e => return (out, ⟨.error e, b⟩)
  | .ok h =>
      let (a, b') ← access p h (Kernel.copyOut (h.front out.length))
      return (a.fillOut out, ⟨a.result.map fun _ => (), b'⟩)

/-- The first `count` bytes of the buffer, in bytes that are set aside by `build`.  A
count that is refused is refused before anything is set aside for it, so that never more is
set aside than the buffer has. -/
def readSettingAside (build : Nat → MachineM Bytes) (p : Platform) (b : SealedBuffer)
    (count : Nat) : MachineM (Outcome Bytes) := do
  match b.holdingFor count with
  | .error e => return ⟨.error e, b⟩
  | .ok _ =>
      let fresh ← build count
      let (copy, outcome) ← readInto p b fresh
      return ⟨outcome.result.map fun _ => copy, outcome.buffer⟩

/-- The first `count` bytes of the buffer, in zeros that are set aside. -/
def read (p : Platform) (b : SealedBuffer) (count : Nat) : MachineM (Outcome Bytes) :=
  readSettingAside (fun n => pure (Bytes.zeros n)) p b count

/-- A read of new bytes looks at the buffer, and then reads over zeros. -/
theorem read_eq (p : Platform) (b : SealedBuffer) (count : Nat) :
    read p b count =
      match b.holdingFor count with
      | .error e => return ⟨.error e, b⟩
      | .ok _ => do
          let (copy, outcome) ← readInto p b (Bytes.zeros count)
          return ⟨outcome.result.map fun _ => copy, outcome.buffer⟩ := by
  unfold read readSettingAside
  cases b.holdingFor count with
  | error e => rfl
  | ok h => rfl

end SealedBuffer

end SealedPages
