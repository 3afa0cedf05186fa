/-
  SealedPages.Error
  ─────────────────
  **WHY A CALL DID NOT SUCCEED.**  Three kinds of cause are kept apart:

    * `BufferError` — a refusal that a sealed buffer reports to its caller.
      Each one has a fixed negative code, shared with the C interface.
    * `MemoryError` — a page service was refused.  It carries no detail: the
      caller knows which service it asked for.
    * `Trap`        — a checked assumption of the arithmetic does not hold.
      A trap is no answer of the operation; it stops the step.

  `Failure ε` is either of the last two for an operation that reports `ε`.

  Main statements:
    * `BufferError.code_injective`   — no two refusals share a code;
    * `BufferError.ofCode?_eq_some_iff` — looking a code up finds exactly the
      refusal that has it;
    * `BufferError.code_ne_success`  — no refusal has the code of success.
-/

namespace SealedPages

/-! ## §1. Refusals of a sealed buffer. -/

/-- What a sealed buffer, or the creation of one, refuses with. -/
inductive BufferError where
  /-- A handle or a data pointer was missing, or the buffer is destroyed. -/
  | nullPointer
  /-- The operating system gave no pages. -/
  | allocationFailed
  /-- The pages could not be pinned in physical memory. -/
  | lockFailed
  /-- The protection of the pages could not be changed. -/
  | protectFailed
  /-- A size or length is zero or too large. -/
  | invalidSize
  deriving DecidableEq

/-- The code that reports success. -/
def successCode : Int32 := 0

namespace BufferError

/-- Every refusal, in the order of the codes from -1 downwards. -/
def all : List BufferError :=
  [nullPointer, allocationFailed, lockFailed, protectFailed, invalidSize]

/-- The numeric code of a refusal. -/
def code : BufferError → Int32
  | nullPointer      => -1
  | allocationFailed => -2
  | lockFailed       => -3
  | protectFailed    => -4
  | invalidSize      => -5

/-- The refusal with a given code; success and unknown codes have none. -/
def ofCode? (c : Int32) : Option BufferError :=
  match c.toInt with
  | -1 => some nullPointer
  | -2 => some allocationFailed
  | -3 => some lockFailed
  | -4 => some protectFailed
  | -5 => some invalidSize
  | _  => none

/-- The description of a refusal. -/
def message : BufferError → String
  | nullPointer      => "NULL pointer provided"
  | allocationFailed => "Memory allocation failed"
  | lockFailed       => "Failed to lock memory in RAM"
  | protectFailed    => "Failed to set memory protection"
  | invalidSize      => "Invalid size parameter"

/-- A refusal as it is printed in a text.  The printed texts are a table of their own. -/
def printed : BufferError → String
  | nullPointer      => "NULL pointer provided"
  | invalidSize      => "Invalid size parameter"
  | allocationFailed => "Memory allocation failed"
  | lockFailed       => "Failed to lock memory in RAM"
  | protectFailed    => "Failed to set memory protection"

instance : ToString BufferError := ⟨printed⟩

theorem code_injective {a b : BufferError} (h : a.code = b.code) : a = b := by
  revert h
  cases a <;> cases b <;> decide

theorem code_ne_success (e : BufferError) : e.code ≠ successCode := by
  cases e <;> decide

theorem ofCode?_code (e : BufferError) : ofCode? e.code = some e := by
  cases e <;> rfl

/-- Each line of the table names the refusal whose code it is for. -/
theorem code_of_ofCode? {c : Int32} {e : BufferError} (h : ofCode? c = some e) : e.code = c := by
  unfold ofCode? at h
  apply Int32.toInt_inj.1
  split at h
  case h_6 => cases h
  all_goals
    rename_i hc
    cases h
    exact hc.symm

/-- **Looking up a code finds exactly the refusal that has it.** -/
theorem ofCode?_eq_some_iff {c : Int32} {e : BufferError} :
    ofCode? c = some e ↔ e.code = c := by
  constructor
  · exact code_of_ofCode?
  · rintro rfl
    exact ofCode?_code e

/-- A refusal is printed as its description. -/
theorem printed_eq_message (e : BufferError) : e.printed = e.message := by
  cases e <;> rfl

theorem message_ne_empty (e : BufferError) : e.message ≠ "" := by
  cases e <;> decide

end BufferError

/-- The text of a result code: success, a refusal, or neither. -/
def describeCode (c : Int32) : String :=
  if c = successCode then "Success"
  else
    match BufferError.ofCode? c with
    | some e => e.message
    | none   => "Unknown error"

/-! ## §2. Refused page services. -/

/-- A page service was refused. -/
inductive MemoryError where
  | refused
  deriving DecidableEq

/-- The description of a refused page service. -/
def MemoryError.message : MemoryError → String
  | refused => "Memory error"

instance : ToString MemoryError := ⟨MemoryError.message⟩

/-! ## §3. Traps. -/

/-- A checked assumption that does not hold. -/
inductive Trap where
  /-- Rounding was asked for a page size that is no power of two. -/
  | pageSizeNotPowerOfTwo
  /-- A length to allocate is zero or no whole number of pages. -/
  | partialPages
  /-- A remainder by zero. -/
  | remainderByZero
  /-- A difference below zero. -/
  | negativeDifference
  deriving DecidableEq

/-- What the trap says about the assumption. -/
def Trap.message : Trap → String
  | pageSizeNotPowerOfTwo => "assertion failed: page_size.is_power_of_two()"
  | partialPages          => "assertion failed: alloc_len != 0 && alloc_len % page_size == 0"
  | remainderByZero       => "attempt to calculate the remainder with a divisor of zero"
  | negativeDifference    => "attempt to subtract with overflow"

/-! ## §4. Either of them. -/

/-- An operation that reports `ε` did not succeed: it refused, or it trapped. -/
inductive Failure (ε : Type) where
  | refused (error : ε)
  | trapped (trap : Trap)
  deriving DecidableEq

end SealedPages
