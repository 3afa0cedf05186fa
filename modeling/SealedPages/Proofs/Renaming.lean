/-
  SealedPages.Proofs.Renaming
  ───────────────────────────
  **OTHER NUMBERS FOR THE REGIONS.**  Regions are numbered in the order in which they are
  made, so the same operation meets other numbers in another run.  Here events, log lines
  and buffers are written with the numbers of another run: `ρ id` stands for `id`.

  Main statements:
    * `Event.rename_congr` — only the number that an event names matters;
    * `LogLine.text_rename`, `SealedBuffer.status_rename` — no number is shown by a log
      line or by a buffer.
-/
import SealedPages.Buffer.Access
import SealedPages.Proofs.Lifecycle

namespace SealedPages

variable {ρ ρ' : RegionId → RegionId}

/-! ## §1. Events. -/

/-- The same part of a region with another number. -/
def Span.rename (ρ : RegionId → RegionId) (s : Span) : Span :=
  { s with region := ρ s.region }

def SystemCall.rename (ρ : RegionId → RegionId) : SystemCall → SystemCall
  | posixMemalign align len made => posixMemalign align len (made.map ρ)
  | mlock s out         => mlock (s.rename ρ) out
  | munlock s out       => munlock (s.rename ρ) out
  | madvise s a out     => madvise (s.rename ρ) a out
  | mprotect s mode out => mprotect (s.rename ρ) mode out
  | free id k           => free (ρ id) k

def ServiceCall.rename (ρ : RegionId → RegionId) : ServiceCall → ServiceCall
  | pageSize value     => pageSize value
  | allocate len made  => allocate len (made.map ρ)
  | release s k        => release (s.rename ρ) k
  | lock s out         => lock (s.rename ρ) out
  | unlock s out       => unlock (s.rename ρ) out
  | protect s mode out => protect (s.rename ρ) mode out
  | wipe s             => wipe (s.rename ρ)

def Touch.rename (ρ : RegionId → RegionId) : Touch → Touch
  | copyIn s  => copyIn (s.rename ρ)
  | copyOut s => copyOut (s.rename ρ)
  | wipe s    => wipe (s.rename ρ)

/-- The same event, with other numbers for the regions. -/
def Event.rename (ρ : RegionId → RegionId) : Event → Event
  | system c  => system (c.rename ρ)
  | service c => service (c.rename ρ)
  | touch t   => touch (t.rename ρ)

/-- **Only the number that an event names matters.** -/
theorem Event.rename_congr {e : Event} (h : ∀ id, e.region? = some id → ρ id = ρ' id) :
    e.rename ρ = e.rename ρ' := by
  rcases e with c | c | t
  · cases c with
    | posixMemalign align len made =>
        -- a call that makes a region may have made none
        have hmade : made.map ρ = made.map ρ' := Option.map_congr h
        simp only [rename, SystemCall.rename, hmade]
    | _ => simp only [rename, SystemCall.rename, Span.rename, h _ rfl]
  · cases c with
    | pageSize value => rfl
    | allocate len made =>
        have hmade : made.map ρ = made.map ρ' := Option.map_congr h
        simp only [rename, ServiceCall.rename, hmade]
    | _ => simp only [rename, ServiceCall.rename, Span.rename, h _ rfl]
  · have hspan : ρ t.span.region = ρ' t.span.region := h _ rfl
    cases t <;> simp_all only [rename, Touch.rename, Span.rename, Touch.span]

theorem Event.rename_id (e : Event) : e.rename id = e := by
  rcases e with c | c | t
  · cases c <;> simp [rename, SystemCall.rename, Span.rename]
  · cases c <;> simp [rename, ServiceCall.rename, Span.rename]
  · cases t <;> rfl

/-- An event that names no region is the same under all numbers. -/
theorem Event.rename_of_region? {e : Event} (h : e.region? = none) : e.rename ρ = e := by
  have hsame : e.rename ρ = e.rename id := Event.rename_congr fun id hid => by
    cases h.symm.trans hid
  rw [hsame, rename_id]

/-! ## §2. Log lines. -/

namespace LogLine

/-- The region that a line is about. -/
def region? : LogLine → Option RegionId
  | created id _ _      => some id
  | allocationRefused _ => none
  | lockRefused id _    => some id
  | unlockRefused id    => some id
  | sealRefused id      => some id
  | grantRefused id     => some id
  | revokeRefused id    => some id
  | abandoned id _      => some id
  | destroyed id        => some id
  | adviceRefused s _   => some s.region
  | handleRefused _ _   => none

/-- The same line, with other numbers for the regions. -/
def rename (ρ : RegionId → RegionId) : LogLine → LogLine
  | created id size capacity   => created (ρ id) size capacity
  | allocationRefused capacity => allocationRefused capacity
  | lockRefused id capacity    => lockRefused (ρ id) capacity
  | unlockRefused id           => unlockRefused (ρ id)
  | sealRefused id             => sealRefused (ρ id)
  | grantRefused id            => grantRefused (ρ id)
  | revokeRefused id           => revokeRefused (ρ id)
  | abandoned id capacity      => abandoned (ρ id) capacity
  | destroyed id               => destroyed (ρ id)
  | adviceRefused s a          => adviceRefused (s.rename ρ) a
  | handleRefused size e       => handleRefused size e

/-- **A line shows no number.** -/
theorem text_rename (ρ : RegionId → RegionId) (l : LogLine) : (l.rename ρ).text = l.text := by
  cases l <;> rfl

theorem rename_id (l : LogLine) : l.rename id = l := by
  cases l <;> rfl

/-- A line that is about no region is the same under all numbers. -/
theorem rename_of_region? {l : LogLine} (h : l.region? = none) : l.rename ρ = l := by
  cases l with
  | allocationRefused capacity => rfl
  | handleRefused size e => rfl
  | _ => cases h

end LogLine

/-! ## §3. Buffers. -/

/-- What a buffer holds, under another number. -/
def Holding.rename (ρ : RegionId → RegionId) (h : Holding) : Holding :=
  { h with region := ρ h.region }

namespace SealedBuffer

/-- A buffer that holds its region under another number. -/
def rename (ρ : RegionId → RegionId) (b : SealedBuffer) : SealedBuffer :=
  ⟨b.holding.map (·.rename ρ)⟩

theorem rename_id (b : SealedBuffer) : b.rename id = b := by
  rcases b with ⟨_ | h⟩ <;> rfl

/-- **Only the number of its region matters.** -/
theorem rename_congr {b : SealedBuffer} (h : ∀ g, b.holding = some g → ρ g.region = ρ' g.region) :
    b.rename ρ = b.rename ρ' := by
  rcases b with ⟨_ | g⟩
  · rfl
  · unfold rename Holding.rename
    simp only [Option.map_some, h g rfl]

theorem map_rename_id (o : Option SealedBuffer) : o.map (·.rename id) = o := by
  cases o with
  | none => rfl
  | some b => exact congrArg some b.rename_id

/-- **The number of its region is nothing that a buffer shows.** -/
theorem status_rename (ρ : RegionId → RegionId) (b : SealedBuffer) :
    (b.rename ρ).status = b.status := by
  rcases b with ⟨_ | h⟩ <;> rfl

theorem description_rename (ρ : RegionId → RegionId) (b : SealedBuffer) :
    (b.rename ρ).description = b.description := by
  rcases b with ⟨_ | h⟩ <;> rfl

theorem longDescription_rename (ρ : RegionId → RegionId) (b : SealedBuffer) :
    (b.rename ρ).longDescription = b.longDescription := by
  rcases b with ⟨_ | h⟩ <;> rfl

theorem holdingFor_rename (ρ : RegionId → RegionId) (b : SealedBuffer) (count : Nat) :
    (b.rename ρ).holdingFor count = (b.holdingFor count).map (·.rename ρ) := by
  rcases b with ⟨_ | h⟩
  · rfl
  · show (if count = 0 ∨ h.len.toNat < count then _ else _) =
      Except.map _ (if count = 0 ∨ h.len.toNat < count then _ else _)
    split <;> rfl

end SealedBuffer

end SealedPages
