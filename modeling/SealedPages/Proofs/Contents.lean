/-
  SealedPages.Proofs.Contents
  ───────────────────────────
  **WHAT THE OPERATIONS OF A BUFFER DO TO ITS BYTES.**  Changing the protection of pages
  changes no byte.  So what an access does to the bytes of a region is what its body does;
  an access that is refused does nothing to them, and one that breaks leaves no buffer
  behind that could show them.

  Main statements:
    * `access_contents` — what an access does to bytes;
    * `write_contents` — a write that is done overlays the data, any other changes
      nothing;
    * `readInto_contents`, `read_contents` — a read changes nothing, and gives the first
      bytes.
-/
import SealedPages.Proofs.Frame

namespace SealedPages

variable (kind : BufferScript.PlatformKind) (page : UInt64) (m : Machine) {h : Holding}

/-! ## §1. Changing the protection. -/

theorem Kernel.mprotect_bytes? (s : Span) (mode : Protection) (m : Machine) :
    ((mprotect s mode).run m).2.memory.bytes? = m.memory.bytes? := by
  unfold mprotect
  rw [run_attempt]
  cases verdictOn m.faults .mprotect (isAligned s m.memory) with
  | granted => exact m.memory.bytes?_update_of_bytes_eq s.region fun _ => rfl
  | refused => rfl

/-- **The services that change a protection change no byte.** -/
theorem protect_bytes? (kind : BufferScript.PlatformKind) (page : UInt64) (s : Span)
    (mode : Protection) (m : Machine) :
    (((kind.platform page).protect s mode).run m).2.memory.bytes? = m.memory.bytes? := by
  cases kind with
  | system => exact Kernel.mprotect_bytes? s mode m
  | custom =>
      show ((Platform.served .protect _ (Pages.protect s mode)).run m).2.memory.bytes? = _
      rw [Platform.run_served]
      cases m.faults.fires .protect with
      | true => rfl
      | false => exact Kernel.mprotect_bytes? s mode { m with faults := m.faults.tick .protect }

/-! ## §2. An access. -/

namespace SealedBuffer

/-- **An access is refused, or does what its body does, or leaves a destroyed buffer.** -/
theorem access_contents {α : Type} (body : MachineM α) (hmode : h.mode = .noAccess) :
    (∃ m', (access (kind.platform page) h body).run m = ((.closed, ⟨some h⟩), m') ∧
      m'.memory.bytes? = m.memory.bytes?) ∨
    (∃ m₁ m', (access (kind.platform page) h body).run m =
        ((.finished (body.run m₁).1, ⟨some h⟩), m') ∧
      m₁.memory.bytes? = m.memory.bytes? ∧
      m'.memory.bytes? = (body.run m₁).2.memory.bytes?) ∨
    ∃ m', (access (kind.platform page) h body).run m = ((.broken, destroyed), m') := by
  have hopened := protect_bytes? kind page h.pages .readWrite m
  unfold access
  rw [run_bind]
  generalize ((kind.platform page).protect h.pages .readWrite).run m = opened at hopened ⊢
  obtain ⟨out₁, m₁⟩ := opened
  cases out₁ with
  | refused => exact Or.inl ⟨_, rfl, hopened⟩
  | granted =>
      right
      have hclosed := protect_bytes? kind page h.pages .noAccess (body.run m₁).2
      show (∃ m₁' m', (body >>= fun _ => (kind.platform page).protect h.pages .noAccess >>= _).run m₁ =
        _ ∧ _) ∨ ∃ m', (body >>= fun _ => (kind.platform page).protect h.pages .noAccess >>= _).run m₁ = _
      rw [run_bind, run_bind]
      generalize ((kind.platform page).protect h.pages .noAccess).run (body.run m₁).2 = closed at hclosed ⊢
      obtain ⟨out₂, m₂⟩ := closed
      cases out₂ with
      | granted =>
          -- the buffer records the mode that it had
          have hsame : { h with mode := .noAccess } = h := by
            rw [← hmode]
          refine Or.inl ⟨m₁, m₂, ?_, hopened, hclosed⟩
          show ((_, (⟨some { h with mode := .noAccess }⟩ : SealedBuffer)), m₂) = _
          rw [hsame]
      | refused => exact Or.inr ⟨_, rfl⟩

/-! ## §3. Writing. -/

/-- Data that is copied in overlays the bytes from the first one on. -/
theorem copyIn_bytes? (j : RegionId) (n : UInt64) (data : Bytes) (m : Machine) :
    ((Kernel.copyIn (.front j n) data).run m).2.memory.bytes? j =
      (m.memory.bytes? j).map fun bytes => Bytes.patch bytes 0 data := by
  rw [Kernel.run_copyIn]
  show ((m.memory.update j _).find? j).map _ = ((m.memory.find? j).map _).map _
  rw [Memory.find?_update, if_pos rfl, Option.map_map, Option.map_map]
  rfl

/-- **A write that is done overlays the data.**  Any other leaves the bytes as they were, or
the buffer destroyed. -/
theorem write_contents (hmode : h.mode = .noAccess) (data : Bytes) :
    ∃ outcome m', ((⟨some h⟩ : SealedBuffer).write (kind.platform page) data).run m =
        (outcome, m') ∧
      ((outcome.buffer = ⟨some h⟩ ∧ outcome.result = .ok () ∧ data.length ≤ h.len.toNat ∧
          m'.memory.bytes? h.region =
            (m.memory.bytes? h.region).map fun bytes => Bytes.patch bytes 0 data) ∨
        (∃ e, outcome.result = .error e ∧ (outcome.buffer = destroyed ∨
          outcome.buffer = ⟨some h⟩ ∧ m'.memory.bytes? = m.memory.bytes?))) := by
  unfold write
  cases hb : (⟨some h⟩ : SealedBuffer).holdingFor data.length with
  | error e => exact ⟨_, _, rfl, Or.inr ⟨e, rfl, Or.inr ⟨rfl, rfl⟩⟩⟩
  | ok h' =>
      obtain ⟨hh, hcount⟩ := holdingFor_eq_ok hb
      cases hh
      rcases access_contents kind page m
          (Kernel.copyIn (h.front data.length) data) hmode with
        ⟨m', hrun, hsame⟩ | ⟨m₁, m', hrun, hsame, hdone⟩ | ⟨m', hrun⟩
      · exact ⟨_, _, run_bind_of_eq hrun, Or.inr ⟨.protectFailed, rfl, Or.inr ⟨rfl, hsame⟩⟩⟩
      · refine ⟨_, _, run_bind_of_eq hrun, Or.inl ⟨rfl, rfl, hcount, ?_⟩⟩
        rw [hdone, ← hsame]
        exact copyIn_bytes? _ _ data m₁
      · exact ⟨_, _, run_bind_of_eq hrun, Or.inr ⟨.protectFailed, rfl, Or.inl rfl⟩⟩

/-! ## §4. Reading. -/

/-- The first `n` bytes of a region. -/
def firstBytes (m : Memory) (j : RegionId) (n : Nat) : Bytes :=
  ((m.bytes? j).getD []).take n

theorem copyOut_eq_firstBytes (j : RegionId) {n : Nat} (hn : n < 2 ^ 64) (m : Machine) :
    ((Kernel.copyOut (.front j n.toUInt64)).run m).1 = firstBytes m.memory j n := by
  have hlen : n.toUInt64.toNat = n := Nat.mod_eq_of_lt hn
  rw [Kernel.run_copyOut]
  unfold firstBytes Memory.bytes?
  cases hr : m.memory.find? j with
  | none => exact (Memory.read_of_find?_none (s := .front j n.toUInt64) hr).trans List.take_nil.symm
  | some r =>
      refine (Memory.read_of_find? (s := .front j n.toUInt64) hr).trans ?_
      show Bytes.slice r.bytes 0 n.toUInt64.toNat = r.bytes.take n
      rw [hlen]
      rfl

theorem length_firstBytes {m : Memory} {j : RegionId} {n : Nat} {r : Region}
    (hr : m.find? j = some r) (hn : n ≤ r.bytes.length) : (firstBytes m j n).length = n := by
  unfold firstBytes
  rw [Memory.bytes?_of_find? hr, Option.getD_some, List.length_take]
  omega

/-- **However a read ends, it leaves the caller as many bytes as there were.** -/
theorem length_readInto (hmode : h.mode = .noAccess) {r : Region}
    (hr : m.memory.find? h.region = some r) (hfits : h.len.toNat ≤ r.bytes.length) (out : Bytes) :
    (((⟨some h⟩ : SealedBuffer).readInto (kind.platform page) out).run m).1.1.length =
      out.length := by
  unfold readInto
  cases hb : (⟨some h⟩ : SealedBuffer).holdingFor out.length with
  | error e => rfl
  | ok h' =>
      obtain ⟨hh, hcount⟩ := holdingFor_eq_ok hb
      cases hh
      show ((access _ h _ >>= _ : MachineM (Bytes × Outcome Unit)).run m).1.1.length = _
      rcases access_contents kind page m
          (Kernel.copyOut (h.front out.length)) hmode with
        ⟨m', hrun, _⟩ | ⟨m₁, m', hrun, hsame, _⟩ | ⟨m', hrun⟩
      · rw [run_bind_of_eq hrun]
        rfl
      · have hcopy := copyOut_eq_firstBytes h.region
          (Nat.lt_of_le_of_lt hcount h.len.toNat_lt) m₁
        have hbytes : firstBytes m₁.memory h.region out.length =
            firstBytes m.memory h.region out.length := by
          unfold firstBytes
          rw [hsame]
        rw [run_bind_of_eq hrun]
        show ((Kernel.copyOut (.front h.region out.length.toUInt64)).run m₁).1.length = _
        rw [hcopy, hbytes]
        exact length_firstBytes hr (Nat.le_trans hcount hfits)
      · rw [run_bind_of_eq hrun]
        exact Bytes.length_zeros _

/-- **A read changes no byte, and a read that is done gives the first ones.** -/
theorem readInto_contents (hmode : h.mode = .noAccess) (out : Bytes) :
    ∃ copy outcome m', ((⟨some h⟩ : SealedBuffer).readInto (kind.platform page) out).run m =
        ((copy, outcome), m') ∧
      ((outcome.buffer = ⟨some h⟩ ∧ m'.memory.bytes? = m.memory.bytes? ∧
          outcome.result = .ok () ∧ out.length ≤ h.len.toNat ∧
          copy = firstBytes m.memory h.region out.length) ∨
        (∃ e, outcome.result = .error e ∧ (outcome.buffer = destroyed ∨
          outcome.buffer = ⟨some h⟩ ∧ m'.memory.bytes? = m.memory.bytes?))) := by
  unfold readInto
  cases hb : (⟨some h⟩ : SealedBuffer).holdingFor out.length with
  | error e => exact ⟨_, _, _, rfl, Or.inr ⟨e, rfl, Or.inr ⟨rfl, rfl⟩⟩⟩
  | ok h' =>
      obtain ⟨hh, hcount⟩ := holdingFor_eq_ok hb
      cases hh
      rcases access_contents kind page m
          (Kernel.copyOut (h.front out.length)) hmode with
        ⟨m', hrun, hsame⟩ | ⟨m₁, m', hrun, hsame, hdone⟩ | ⟨m', hrun⟩
      · exact ⟨_, _, _, run_bind_of_eq hrun, Or.inr ⟨.protectFailed, rfl, Or.inr ⟨rfl, hsame⟩⟩⟩
      · refine ⟨_, _, _, run_bind_of_eq hrun, Or.inl ⟨rfl, ?_, rfl, hcount, ?_⟩⟩
        · rw [hdone, ← hsame]
          rfl
        · have hcopy := copyOut_eq_firstBytes h.region
            (Nat.lt_of_le_of_lt hcount h.len.toNat_lt) m₁
          refine Eq.trans hcopy ?_
          unfold firstBytes
          rw [hsame]
      · exact ⟨_, _, _, run_bind_of_eq hrun, Or.inr ⟨.protectFailed, rfl, Or.inl rfl⟩⟩

/-- **So does a read of new bytes.** -/
theorem read_contents (hmode : h.mode = .noAccess) (count : Nat) :
    ∃ outcome m', ((⟨some h⟩ : SealedBuffer).read (kind.platform page) count).run m =
        (outcome, m') ∧
      ((outcome.buffer = ⟨some h⟩ ∧ m'.memory.bytes? = m.memory.bytes? ∧
          count ≤ h.len.toNat ∧ outcome.result = .ok (firstBytes m.memory h.region count)) ∨
        (∃ e, outcome.result = .error e ∧ (outcome.buffer = destroyed ∨
          outcome.buffer = ⟨some h⟩ ∧ m'.memory.bytes? = m.memory.bytes?))) := by
  rw [read_eq]
  cases hb : (⟨some h⟩ : SealedBuffer).holdingFor count with
  | error e => exact ⟨_, _, rfl, Or.inr ⟨e, rfl, Or.inr ⟨rfl, rfl⟩⟩⟩
  | ok h' =>
      obtain ⟨copy, outcome, m', hrun, hcases⟩ := readInto_contents kind page m hmode
        (Bytes.zeros count)
      rw [Bytes.length_zeros] at hcases
      refine ⟨⟨outcome.result.map fun _ => copy, outcome.buffer⟩, m', run_bind_of_eq hrun, ?_⟩
      rcases hcases with ⟨hbuffer, hsame, hok, hcount, hcopy⟩ | ⟨e, herror, hrest⟩
      · left
        refine ⟨hbuffer, hsame, hcount, ?_⟩
        show outcome.result.map _ = _
        rw [hok, hcopy]
        rfl
      · right
        refine ⟨e, ?_, hrest⟩
        show outcome.result.map _ = _
        rw [herror]
        rfl

end SealedBuffer

end SealedPages
