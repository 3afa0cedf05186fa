/-
  SealedPages.Memory
  ──────────────────
  **REGIONS OF PAGES.**  The operating system hands out regions, numbered from
  1 in the order in which they are made; a number is never used again.  A region
  has an alignment (its address is a multiple of it), bytes, a protection, and
  two marks: whether it is pinned in physical memory and whether it is live,
  that is, not yet freed.

  A `Span` is a part of a region.  Reading and writing here looks at no
  protection: it is what the memory holds, not what a program may touch.

  Main statements:
    * `find?_grow_self`, `find?_grow_of_ne` — a new region is found under the
      new number, and every other number still finds what it found;
    * `find?_update` — a change to one region shows at its number alone.
-/
import SealedPages.Bytes

namespace SealedPages

/-! ## §1. Protection. -/

/-- The access that pages allow, in ascending order. -/
inductive Protection where
  /-- Neither reading nor writing. -/
  | noAccess
  /-- Reading and writing. -/
  | readWrite
  deriving DecidableEq, Ord

/-- Pages are inaccessible unless something else is asked for. -/
instance : Inhabited Protection := ⟨.noAccess⟩

/-! ## §2. Regions and parts of them. -/

/-- The number of a region, from 1 on. -/
abbrev RegionId := Nat

/-- A run of pages from the operating system. -/
structure Region where
  /-- The address is a multiple of this. -/
  align : UInt64
  bytes : Bytes
  protection : Protection := .readWrite
  /-- Locked in physical memory, with no attempt to unlock it since. -/
  pinned : Bool := false
  /-- Not yet freed. -/
  live : Bool := true

namespace Region

/-- What fresh pages hold. -/
def staleByte : UInt8 := 0xa5

/-- A new region of `len` bytes. -/
def fresh (align : UInt64) (len : Nat) : Region :=
  { align := align, bytes := List.replicate len staleByte }

/-- Whether the address `off` bytes into the region is a multiple of the region's
alignment. -/
def alignedAt (r : Region) (off : UInt64) : Bool :=
  off % r.align == 0

@[simp] theorem length_fresh (align : UInt64) (len : Nat) :
    (fresh align len).bytes.length = len := by
  simp [fresh]

end Region

/-- The `len` bytes of a region from `off` on. -/
structure Span where
  region : RegionId
  off : UInt64
  len : UInt64
  deriving DecidableEq

/-- The first `len` bytes of a region. -/
def Span.front (region : RegionId) (len : UInt64) : Span :=
  ⟨region, 0, len⟩

/-! ## §3. All regions ever made. -/

/-- Every region that was ever made, the first one first. -/
structure Memory where
  regions : List Region := []

namespace Memory

/-- The region of a number, live or not. -/
def find? (m : Memory) : RegionId → Option Region
  | 0     => none
  | n + 1 => m.regions[n]?

/-- The region of a number, if it is live. -/
def live? (m : Memory) (id : RegionId) : Option Region :=
  (m.find? id).filter (·.live)

/-- The number of the region that is made next. -/
def nextId (m : Memory) : RegionId :=
  m.regions.length + 1

/-- Add a region, under the next number. -/
def grow (m : Memory) (r : Region) : Memory :=
  ⟨m.regions ++ [r]⟩

/-- Change the region of a number. -/
def update (m : Memory) (id : RegionId) (f : Region → Region) : Memory :=
  match id with
  | 0     => m
  | n + 1 => ⟨m.regions.modify n f⟩

/-- The numbers of the live regions, ascending. -/
def liveIds (m : Memory) : List RegionId :=
  (List.range' 1 m.regions.length).filter fun id => (m.live? id).isSome

/-- Memories with the same regions under the same numbers are the same. -/
theorem ext_find? {m m' : Memory} (h : ∀ id, m.find? id = m'.find? id) : m = m' := by
  have hregions : m.regions = m'.regions := List.ext_getElem? fun n => h (n + 1)
  cases m
  cases m'
  exact congrArg Memory.mk hregions

theorem find?_grow_self (m : Memory) (r : Region) :
    (m.grow r).find? m.nextId = some r := by
  simp [find?, grow, nextId]

/-- A new region takes one number. -/
theorem nextId_grow (m : Memory) (r : Region) : (m.grow r).nextId = m.nextId + 1 := by
  simp [nextId, grow]

/-- A change of a region takes none. -/
theorem nextId_update (m : Memory) (id : RegionId) (f : Region → Region) :
    (m.update id f).nextId = m.nextId := by
  cases id with
  | zero => rfl
  | succ n => simp [nextId, update]

/-- The next number finds nothing yet. -/
theorem find?_nextId (m : Memory) : m.find? m.nextId = none := by
  show m.regions[m.regions.length]? = none
  exact List.getElem?_eq_none (Nat.le_refl _)

/-- And so do the numbers after it. -/
theorem find?_of_nextId_le {m : Memory} {id : RegionId} (h : m.nextId ≤ id) : m.find? id = none := by
  cases id with
  | zero => rfl
  | succ n => exact List.getElem?_eq_none (Nat.le_of_succ_le_succ h)

/-- What is found has a number that was given out. -/
theorem lt_nextId_of_find? {m : Memory} {id : RegionId} {r : Region} (h : m.find? id = some r) :
    id < m.nextId := by
  cases id with
  | zero => cases h
  | succ n =>
      obtain ⟨hn, _⟩ := List.getElem?_eq_some_iff.1 h
      exact Nat.succ_lt_succ hn

/-- A new region shows at its number alone. -/
theorem find?_grow_of_ne (m : Memory) (r : Region) {id : RegionId} (h : id ≠ m.nextId) :
    (m.grow r).find? id = m.find? id := by
  cases id with
  | zero => rfl
  | succ k =>
      have hk : k ≠ m.regions.length := fun e => h (by rw [e]; rfl)
      show (m.regions ++ [r])[k]? = m.regions[k]?
      by_cases hlt : k < m.regions.length
      · exact List.getElem?_append_left hlt
      · -- past the new region there is nothing
        rw [List.getElem?_eq_none (by simp; omega), List.getElem?_eq_none (by omega)]

/-- **A change to one region shows at its number alone.** -/
theorem find?_update (m : Memory) (id other : RegionId) (f : Region → Region) :
    (m.update id f).find? other =
      if other = id then (m.find? other).map f else m.find? other := by
  cases id with
  | zero =>
      cases other with
      | zero => rfl
      | succ k => simp [update]
  | succ n =>
      cases other with
      | zero => simp [find?]
      | succ k =>
          by_cases h : k = n
          · subst h
            simp [update, find?]
          · have h' : ¬ n = k := fun e => h e.symm
            simp [update, find?, h, h']

/-- The live regions are found under their numbers. -/
theorem mem_liveIds {m : Memory} {id : RegionId} :
    id ∈ m.liveIds ↔ ∃ r, m.find? id = some r ∧ r.live = true := by
  have hlive : (m.live? id).isSome = true ↔ ∃ r, m.find? id = some r ∧ r.live = true := by
    rw [Option.isSome_iff_exists]
    exact exists_congr fun r => Option.filter_eq_some_iff
  unfold liveIds
  rw [List.mem_filter, hlive, List.mem_range'_1]
  constructor
  · intro h
    exact h.2
  · intro h
    obtain ⟨r, hr, hl⟩ := h
    have hlt : id < 1 + m.regions.length := Nat.add_comm .. ▸ lt_nextId_of_find? hr
    refine ⟨⟨Nat.pos_of_ne_zero ?_, hlt⟩, r, hr, hl⟩
    rintro rfl
    cases hr

/-! ## §4. Marks of a region. -/

/-- Mark a region as pinned, or as no longer pinned. -/
def setPinned (m : Memory) (id : RegionId) (pinned : Bool) : Memory :=
  m.update id fun r => { r with pinned }

/-- Set the protection of a region. -/
def setProtection (m : Memory) (id : RegionId) (protection : Protection) : Memory :=
  m.update id fun r => { r with protection }

/-- Mark a region as freed. -/
def retire (m : Memory) (id : RegionId) : Memory :=
  m.update id fun r => { r with live := false }

/-! ## §5. Bytes of a region. -/

/-- The bytes of a part of a region. -/
def read (m : Memory) (s : Span) : Bytes :=
  match m.find? s.region with
  | some r => Bytes.slice r.bytes s.off.toNat s.len.toNat
  | none   => []

theorem read_of_find? {m : Memory} {s : Span} {r : Region} (h : m.find? s.region = some r) :
    m.read s = Bytes.slice r.bytes s.off.toNat s.len.toNat := by
  unfold read
  rw [h]

/-- Nothing is read of a region that was not made. -/
theorem read_of_find?_none {m : Memory} {s : Span} (h : m.find? s.region = none) :
    m.read s = [] := by
  unfold read
  rw [h]

/-- No more is read than was asked for. -/
theorem length_read_le (m : Memory) (s : Span) : (m.read s).length ≤ s.len.toNat := by
  unfold read
  split
  · exact List.length_take_le _ _
  · exact Nat.zero_le _

/-- The bytes of a whole region. -/
def bytes? (m : Memory) (id : RegionId) : Option Bytes :=
  (m.find? id).map (·.bytes)

theorem bytes?_of_find? {m : Memory} {id : RegionId} {r : Region} (h : m.find? id = some r) :
    m.bytes? id = some r.bytes := by
  unfold bytes?
  rw [h]
  rfl

/-- A change that is not about bytes. -/
theorem bytes?_update_of_bytes_eq (m : Memory) (id : RegionId) {f : Region → Region}
    (h : ∀ r, (f r).bytes = r.bytes) : (m.update id f).bytes? = m.bytes? := by
  funext other
  unfold bytes?
  rw [find?_update]
  split
  · rw [Option.map_map]
    exact Option.map_congr fun r _ => h r
  · rfl

/-- Overwrite a part of a region, from `s.off` on, with `data`. -/
def write (m : Memory) (s : Span) (data : Bytes) : Memory :=
  m.update s.region fun r => { r with bytes := Bytes.patch r.bytes s.off.toNat data }

/-- Overwrite a part of a region with one value. -/
def fill (m : Memory) (s : Span) (value : UInt8) : Memory :=
  m.update s.region fun r => { r with bytes := Bytes.fill r.bytes s.off.toNat s.len.toNat value }

/-- Overwrite a part of a region with zeros. -/
def wipe (m : Memory) (s : Span) : Memory :=
  m.update s.region fun r => { r with bytes := Bytes.wipe r.bytes s.off.toNat s.len.toNat }

/-- The bytes other than zero in a whole region. -/
def nonzero (m : Memory) (id : RegionId) : Nat :=
  match m.find? id with
  | some r => Bytes.nonzero r.bytes
  | none   => 0

/-! ## §6. Looking from outside. -/

/-- What a look at raw memory shows. -/
inductive Sight where
  | bytes (content : Bytes)
  /-- There never was a region of this number. -/
  | unknown
  /-- The region is freed. -/
  | released
  /-- The part reaches past the end of the region. -/
  | outOfRange
  deriving DecidableEq

/-- Look at `len` bytes of a region from `first` on, whatever its protection. -/
def peek (m : Memory) (id : RegionId) (first len : Nat) : Sight :=
  match m.find? id with
  | none   => .unknown
  | some r =>
      if r.live = false then .released
      else if first + len ≤ r.bytes.length then .bytes (Bytes.slice r.bytes first len)
      else .outOfRange

/-- What a look at a region shows that was made. -/
theorem peek_of_find? {m : Memory} {id : RegionId} {r : Region} (h : m.find? id = some r)
    (first len : Nat) :
    m.peek id first len =
      if r.live = false then .released
      else if first + len ≤ r.bytes.length then .bytes (Bytes.slice r.bytes first len)
      else .outOfRange := by
  unfold peek
  rw [h]

end Memory

end SealedPages
