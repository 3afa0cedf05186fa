/-
  SealedPages.Buffer.Create
  ─────────────────────────
  **MAKING A BUFFER.**  Whole pages are allocated, wiped, pinned and closed, in
  this order.  A step that fails takes the earlier ones back, the last one
  first: pages that were pinned are unpinned, pages that were allocated are
  handed back.  So a failed creation leaves no region behind.
-/
import SealedPages.Buffer.Basic

namespace SealedPages

namespace SealedBuffer

/-! ## §1. Steps of the creation. -/

/-- Allocate the pages of a buffer. -/
def obtain (p : Platform) (capacity : UInt64) : TryM BufferError RegionId := ExceptT.mk do
  match ← (p.allocate capacity).run with
  | .ok region => return .ok region
  | .error (.refused _) =>
      Machine.note (.allocationRefused capacity)
      return .error (.refused .allocationFailed)
  | .error (.trapped t) => return .error (.trapped t)

/-- Unpin the pages of a buffer; a refusal is only logged. -/
def unpin (p : Platform) (pages : Span) : MachineM Unit := do
  match ← p.unlock pages with
  | .granted => pure ()
  | .refused => Machine.note (.unlockRefused pages.region)

/-- Pin fresh pages and close them. -/
def enclose (p : Platform) (pages : Span) : TryM BufferError Unit := do
  demand (p.lock pages) (.lockRefused pages.region pages.len) .lockFailed
  undoing (unpin p pages)
    (demand (p.protect pages .noAccess) (.sealRefused pages.region) .protectFailed)

/-- Make pages ready for a secret: zero, pinned and closed. -/
def prepare (p : Platform) (capacity : UInt64) : TryM BufferError RegionId := do
  let region ← obtain p capacity
  let pages := Span.front region capacity
  undoing (p.release pages) do
    p.wipe pages
    enclose p pages
  return region

/-! ## §2. The creation. -/

/-- A buffer for `size` bytes.  A size of zero is refused before anything is asked
of the platform. -/
def create (p : Platform) (size : UInt64) : TryM BufferError SealedBuffer := do
  if size = 0 then
    refuse .invalidSize
  else
    let page ← p.pageSize
    match ← checked (roundUp size page) with
    | none => refuse .invalidSize
    | some capacity =>
        let region ← prepare p capacity
        Machine.note (.created region size capacity)
        return ⟨some { region, len := size, capacity, pageSize := page, mode := .noAccess }⟩

/-! ## §3. Running the creation. -/

/-- Pages are obtained where they are allocated; a refusal is logged. -/
theorem run_obtain (p : Platform) (L : UInt64) (m : Machine) :
    StateT.run (obtain p L).run m =
      match StateT.run (p.allocate L).run m with
      | (.ok j, m') => (.ok j, m')
      | (.error (.refused _), m') =>
          (.error (.refused .allocationFailed), { m' with log := m'.log ++ [.allocationRefused L] })
      | (.error (.trapped t), m') => (.error (.trapped t), m') := by
  show StateT.run ((p.allocate L).run >>= _) m = _
  rw [run_bind]
  rcases StateT.run (p.allocate L).run m with ⟨(e | e) | j, m'⟩
  · rfl
  · rfl
  · rfl

/-- A size of zero is refused at once. -/
theorem create_zero (p : Platform) : create p 0 = refuse .invalidSize :=
  if_pos rfl

section Rounding

variable {p : Platform} {size page L : UInt64} {m m₁ m₂ : Machine}

/-- Any other size is rounded up, once the platform has reported the size of a page. -/
theorem run_create (hsize : size ≠ 0) (hpage : p.pageSize.run m = (page, m₁)) :
    StateT.run (create p size).run m =
      StateT.run (checked (roundUp size page) >>= fun capacity? =>
        match capacity? with
        | none => refuse .invalidSize
        | some capacity => do
            let region ← prepare p capacity
            Machine.note (.created region size capacity)
            return ⟨some { region, len := size, capacity, pageSize := page, mode := .noAccess }⟩ :
          TryM BufferError SealedBuffer).run m₁ := by
  unfold create
  rw [if_neg hsize, run_lift_bind, hpage]

/-- The creation traps where the rounding does. -/
theorem run_create_of_trap (hsize : size ≠ 0) (hpage : p.pageSize.run m = (page, m₁)) {t : Trap}
    (hround : roundUp size page = .error t) :
    StateT.run (create p size).run m = (.error (.trapped t), m₁) := by
  rw [run_create hsize hpage, hround]
  exact run_bind_of_error rfl

/-- A size without a whole number of pages is refused. -/
theorem run_create_of_none (hsize : size ≠ 0) (hpage : p.pageSize.run m = (page, m₁))
    (hround : roundUp size page = .ok none) :
    StateT.run (create p size).run m = (.error (.refused .invalidSize), m₁) := by
  rw [run_create hsize hpage, hround]
  exact run_bind_of_ok rfl

/-- Where no pages are made ready, there is no buffer. -/
theorem run_create_of_unprepared (hsize : size ≠ 0) (hpage : p.pageSize.run m = (page, m₁))
    (hround : roundUp size page = .ok (some L)) {f : Failure BufferError}
    (hprepare : StateT.run (prepare p L).run m₁ = (.error f, m₂)) :
    StateT.run (create p size).run m = (.error f, m₂) := by
  rw [run_create hsize hpage, hround]
  refine (run_bind_of_ok (a := some L) rfl).trans ?_
  exact run_bind_of_error hprepare

/-- Where pages are made ready, the buffer holds them. -/
theorem run_create_of_prepared (hsize : size ≠ 0) (hpage : p.pageSize.run m = (page, m₁))
    (hround : roundUp size page = .ok (some L)) {j : RegionId}
    (hprepare : StateT.run (prepare p L).run m₁ = (.ok j, m₂)) :
    StateT.run (create p size).run m =
      (.ok ⟨some ⟨j, size, L, page, .noAccess⟩⟩,
        { m₂ with log := m₂.log ++ [.created j size L] }) := by
  rw [run_create hsize hpage, hround]
  refine (run_bind_of_ok (a := some L) rfl).trans ?_
  exact run_bind_of_ok hprepare

end Rounding

end SealedBuffer

end SealedPages
