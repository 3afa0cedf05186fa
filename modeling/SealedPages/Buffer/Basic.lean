/-
  SealedPages.Buffer.Basic
  ────────────────────────
  **THE SEALED BUFFER.**  A buffer holds a secret of a fixed size in whole pages
  of its own.  While it is not destroyed it holds a region, together with what
  was decided when it was made: the size asked for, the size of the region, and
  the size of a page.  It also keeps the protection that it last set, which
  `dispose` trusts.  A destroyed buffer holds nothing.

  Main statement:
    * `isDestroyed_iff` — a buffer reports itself destroyed exactly when it
      holds nothing.
-/
import SealedPages.Platform

namespace SealedPages

/-! ## §1. What a buffer holds. -/

/-- The region of a buffer, and what is known about it.  A buffer is made only once its pages
are pinned, so it does not keep whether they are: they are unpinned whenever it is destroyed. -/
structure Holding where
  region : RegionId
  /-- The bytes asked for. -/
  len : UInt64
  /-- The bytes of the region: `len` rounded up to whole pages. -/
  capacity : UInt64
  /-- The size of a page when the buffer was made. -/
  pageSize : UInt64
  /-- The protection that the buffer last set. -/
  mode : Protection
  deriving DecidableEq

/-- All the pages of a buffer. -/
def Holding.pages (h : Holding) : Span :=
  .front h.region h.capacity

/-- The first `count` bytes of the pages of a buffer. -/
def Holding.front (h : Holding) (count : Nat) : Span :=
  .front h.region count.toUInt64

/-- A buffer for a secret; it holds nothing once it is destroyed. -/
structure SealedBuffer where
  holding : Option Holding
  deriving DecidableEq

namespace SealedBuffer

/-- The buffer that holds nothing. -/
def destroyed : SealedBuffer :=
  ⟨none⟩

/-- The bytes asked for, or 0 once the buffer is destroyed. -/
def len (b : SealedBuffer) : UInt64 :=
  match b.holding with
  | some h => h.len
  | none   => 0

/-- The bytes of the region, or 0 once the buffer is destroyed. -/
def capacity (b : SealedBuffer) : UInt64 :=
  match b.holding with
  | some h => h.capacity
  | none   => 0

/-- The size of a page when the buffer was made, or 0 once it is destroyed. -/
def pageSize (b : SealedBuffer) : UInt64 :=
  match b.holding with
  | some h => h.pageSize
  | none   => 0

/-- Whether the buffer holds no bytes. -/
def isEmpty (b : SealedBuffer) : Bool :=
  b.len == 0

/-- Whether the buffer is destroyed. -/
def isDestroyed (b : SealedBuffer) : Bool :=
  b.holding.isNone

theorem isDestroyed_iff {b : SealedBuffer} : b.isDestroyed = true ↔ b = destroyed := by
  cases b with
  | mk holding => cases holding <;> simp [isDestroyed, destroyed]

/-! ## §2. What a buffer shows of itself. -/

/-- What can be asked of a buffer without touching its pages. -/
structure Status where
  len : UInt64
  capacity : UInt64
  pageSize : UInt64
  empty : Bool
  destroyed : Bool
  deriving DecidableEq

/-- The status of a buffer. -/
def status (b : SealedBuffer) : Status where
  len := b.len
  capacity := b.capacity
  pageSize := b.pageSize
  empty := b.isEmpty
  destroyed := b.isDestroyed

/-- The fields that a description names, each with its value. -/
def describedFields (b : SealedBuffer) : List (String × String) :=
  [("len", toString b.len), ("capacity", toString b.capacity),
    ("destroyed", if b.isDestroyed then "true" else "false")]

/-- A description on one line.  It names sizes and never contents. -/
def description (b : SealedBuffer) : String :=
  let fields := b.describedFields.map fun (name, value) => s!"{name}: {value}, "
  s!"SecureBuffer \x7b {String.join fields}.. \x7d"

/-- A description with a line for each field. -/
def longDescription (b : SealedBuffer) : String :=
  let fields := b.describedFields.map fun (name, value) => s!"    {name}: {value},\n"
  s!"SecureBuffer \x7b\n{String.join fields}    ..\n\x7d"

end SealedBuffer

end SealedPages
