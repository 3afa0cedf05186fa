/-
  SealedPages.Handle
  ──────────────────
  **THE C INTERFACE.**  A handle is NULL or stands for a buffer on the pages of
  the operating system.  Every function takes a NULL handle and reports it;
  results are codes.

  NULL pointers are looked at first, a length of zero second; only then is the
  buffer asked.  The interface has a table of its own for the texts of the
  codes.

  Main statement:
    * `codeText_eq_describeCode` — that table says what the buffer's errors say.
-/
import SealedPages.Buffer.Access
import SealedPages.Version

namespace SealedPages

/-- NULL, or a buffer. -/
abbrev Handle := Option SealedBuffer

namespace Handle

/-- The platform under every handle. -/
def platform : Platform := .system

/-! ## §1. Codes and their texts. -/

/-- The codes, as the interface names them. -/
def codes : List Int32 :=
  [successCode, BufferError.nullPointer.code, BufferError.allocationFailed.code,
    BufferError.lockFailed.code, BufferError.protectFailed.code, BufferError.invalidSize.code]

/-- The texts of the errors, as the interface words them. -/
def errorText : BufferError → String
  | .nullPointer      => "NULL pointer provided"
  | .allocationFailed => "Memory allocation failed"
  | .lockFailed       => "Failed to lock memory in RAM"
  | .protectFailed    => "Failed to set memory protection"
  | .invalidSize      => "Invalid size parameter"

/-- The text of a code: that of an error, of success, or of no code at all. -/
def codeText (c : Int32) : String :=
  match BufferError.ofCode? c with
  | some e => errorText e
  | none   => if c = successCode then "Success" else "Unknown error"

/-- The code of a result. -/
def resultCode {α : Type} : Except BufferError α → Int32
  | .ok _    => successCode
  | .error e => e.code

/-! ## §2. Creating and destroying. -/

/-- A handle to a new buffer of `size` bytes, or NULL where none could be made. -/
def create (size : UInt64) : MachineM (Except Trap Handle) := do
  match ← (SealedBuffer.create platform size).run with
  | .ok b => return .ok (some b)
  | .error (.refused e) =>
      Machine.note (.handleRefused size e)
      return .ok none
  | .error (.trapped t) => return .error t

/-- Destroy what a handle stands for. -/
def destroy : Handle → MachineM Unit
  | some b => SealedBuffer.letGo platform b
  | none   => pure ()

/-- Destroy what the handle in a variable stands for; the variable holds NULL
afterwards. -/
def clear (handle : Handle) : MachineM Handle := do
  destroy handle
  return none

/-! ## §3. Access. -/

/-- The size of the buffer, or 0 for NULL. -/
def getSize : Handle → UInt64
  | some b => b.len
  | none   => 0

/-- Copy the first `len` bytes of `data` into the buffer; `none` is a NULL pointer. -/
def store (handle : Handle) (data : Option Bytes) (len : UInt64) : MachineM (Int32 × Handle) := do
  match handle, data with
  | some b, some bytes =>
      if len = 0 then
        return (BufferError.invalidSize.code, handle)
      else
        let outcome ← b.write platform (bytes.take len.toNat)
        return (resultCode outcome.result, some outcome.buffer)
  | _, _ => return (BufferError.nullPointer.code, handle)

/-- Copy the start of the buffer over the first `len` bytes of `out`; `none` is a NULL
pointer.  The whole of `out` comes back. -/
def retrieve (handle : Handle) (out : Option Bytes) (len : UInt64) :
    MachineM (Int32 × Option Bytes × Handle) := do
  match handle, out with
  | some b, some bytes =>
      if len = 0 then
        return (BufferError.invalidSize.code, out, handle)
      else
        let (front, outcome) ← b.readInto platform (bytes.take len.toNat)
        return (resultCode outcome.result, some (front ++ bytes.drop len.toNat), some outcome.buffer)
  | _, _ => return (BufferError.nullPointer.code, out, handle)

/-! ## §4. What is answered at once, and what the buffer is asked. -/

variable {handle : Handle} {b : SealedBuffer} {data : Option Bytes} {bytes : Bytes} {len : UInt64}
  {m m' : Machine}

/-- **A NULL is reported before the length is looked at.** -/
theorem store_of_null (h : handle = none ∨ data = none) :
    store handle data len = pure (BufferError.nullPointer.code, handle) := by
  rcases h with rfl | rfl
  · rfl
  · cases handle <;> rfl

/-- **A length of zero is reported before the buffer is asked**, whatever the buffer is. -/
theorem store_zero :
    store (some b) (some bytes) 0 = pure (BufferError.invalidSize.code, some b) :=
  rfl

theorem run_store (hlen : len ≠ 0) {o : SealedBuffer.Outcome Unit}
    (h : (b.write .system (bytes.take len.toNat)).run m = (o, m')) :
    (store (some b) (some bytes) len).run m = ((resultCode o.result, some o.buffer), m') := by
  have hstore : store (some b) (some bytes) len =
      b.write platform (bytes.take len.toNat) >>= fun outcome =>
        pure (resultCode outcome.result, some outcome.buffer) := if_neg hlen
  rw [hstore]
  exact run_bind_of_eq h

theorem retrieve_of_null (h : handle = none ∨ data = none) :
    retrieve handle data len = pure (BufferError.nullPointer.code, data, handle) := by
  rcases h with rfl | rfl
  · rfl
  · cases handle <;> rfl

theorem retrieve_zero :
    retrieve (some b) (some bytes) 0 = pure (BufferError.invalidSize.code, some bytes, some b) :=
  rfl

theorem run_retrieve (hlen : len ≠ 0) {front : Bytes} {o : SealedBuffer.Outcome Unit}
    (h : (b.readInto .system (bytes.take len.toNat)).run m = ((front, o), m')) :
    (retrieve (some b) (some bytes) len).run m =
      ((resultCode o.result, some (front ++ bytes.drop len.toNat), some o.buffer), m') := by
  have hretrieve : retrieve (some b) (some bytes) len =
      b.readInto platform (bytes.take len.toNat) >>= fun x =>
        pure (resultCode x.2.result, some (x.1 ++ bytes.drop len.toNat), some x.2.buffer) :=
    if_neg hlen
  rw [hretrieve]
  exact run_bind_of_eq h

/-! ## §5. The two tables of texts. -/

theorem errorText_eq_message (e : BufferError) : errorText e = e.message := by
  cases e <;> rfl

/-- **The table of the interface says what the errors of a buffer say.** -/
theorem codeText_eq_describeCode (c : Int32) : codeText c = describeCode c := by
  by_cases h : c = successCode
  · subst h
    rfl
  · rw [codeText, describeCode, if_neg h, if_neg h]
    cases BufferError.ofCode? c with
    | none => rfl
    | some e => exact errorText_eq_message e

end Handle

end SealedPages
