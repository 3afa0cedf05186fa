/-
  SealedPages.Proofs.BufferOperations
  ───────────────────────────────────
  **THE OPERATIONS OF A BUFFER KEEP CUSTODY.**  Creating, writing, reading and
  destroying a buffer are followed call by call, on any platform that serves and
  whichever calls fail.  Each ends with the custody of all regions intact: the
  buffer holds what it held, or a new region, or nothing, and then its region was
  handed back or given up.

  Main statements:
    * `dispose_handover` — a buffer that is destroyed hands its region back or gives
      it up;
    * `access_ended`, `access_handover` — an access leaves its buffer at rest or destroyed;
    * `write_handover`, `readInto_handover`, `destroy_handover` — so does every use;
    * `create_handover` — a creation makes one buffer at rest, or leaves nothing behind;
    * `create_trapped_iff` — it traps only where its size cannot be rounded.
-/
import SealedPages.Buffer.Access
import SealedPages.Proofs.Custody

namespace SealedPages

open Computability

namespace SealedBuffer

variable {v : View} {p : Platform} {page : UInt64} {j : RegionId} {L : UInt64}
  {m m₁ : Machine} {r : Region} {h : Holding} {rest : List Holding}

/-! ## §1. Erasing. -/

/-- Zero pages are unpinned; that the platform refuses is only logged. -/
theorem unpin_stretch (hp : p.Serves v page) (hr : m.memory.find? j = some r) (hz : r.IsZero) :
    ∃ m' pinned, (unpin p (.front j L)).run m = ((), m') ∧
      m'.memory.find? j = some { r with pinned := pinned } ∧
      Stretch v j (v.spelling j L).unlock m m' := by
  obtain ⟨out, m₁, pinned, hrun, hfound, a⟩ := hp.unlock L hr hz
  unfold unpin
  rw [run_bind, hrun]
  cases out with
  | granted => exact ⟨m₁, pinned, rfl, hfound, a⟩
  | refused => exact ⟨_, pinned, rfl, hfound, a.noted (.unlockRefused j) fun _ => rfl⟩

/-- **Open pages are wiped, unpinned and handed back.**  The secret that they may still
hold has to be pinned. -/
theorem dispose_stretch (hp : p.Serves v page) (hopened : (openForWipe p h).run m = (.granted, m₁))
    (hr : m₁.memory.find? h.region = some r) (hlive : r.live = true)
    (hopen : r.protection = .readWrite) (hL : r.bytes.length = h.capacity.toNat)
    (hs : v.Sheltered (eventsOn h.region m₁.trace) (some r)) :
    ∃ m' r', (dispose p h).run m = ((), m') ∧ m'.memory.find? h.region = some r' ∧
      r'.live = false ∧ r'.bytes.length = h.capacity.toNat ∧ r'.IsZero ∧
      Stretch v h.region (v.spelling h.region h.capacity).erasing m₁ m' := by
  have hlen : (Bytes.zeros h.capacity.toNat).length = h.capacity.toNat := Bytes.length_zeros _
  have hz : Region.IsZero { r with bytes := Bytes.zeros h.capacity.toNat } :=
    fun _ hb => List.eq_of_mem_replicate hb
  -- the wipe comes first, so the two calls after it find zeros
  obtain ⟨m₂, hrun₂, hfound₂, a₂⟩ := hp.wipe hr hlive hopen hL hs
  obtain ⟨m₃, pinned, hrun₃, hfound₃, a₃⟩ := unpin_stretch (L := h.capacity) hp hfound₂ hz
  obtain ⟨m₄, hrun₄, hfound₄, a₄⟩ := hp.release hfound₃ hlive hopen hlen hz
  -- the line that ends it is about a region that is back, not given up
  have hall := ((a₂.trans a₃).trans a₄).noted (.destroyed h.region) fun _ => rfl
  refine ⟨{ m₄ with log := m₄.log ++ [.destroyed h.region] }, _, ?_, hfound₄, rfl, hlen, hz, hall⟩
  unfold dispose
  rw [run_bind, hopened]
  show (p.wipe (.front h.region h.capacity) >>= fun _ =>
    unpin p (.front h.region h.capacity) >>= fun _ => p.release (.front h.region h.capacity) >>=
      fun _ => Machine.note (.destroyed h.region)).run m₁ = _
  rw [run_bind, hrun₂, run_bind, hrun₃, run_bind, hrun₄, Machine.run_note]

/-- **A held region is erased once its pages are open.**  That they are is known from the
stretch that opened them; the record of the buffer, with the mode in it, is what makes
`dispose` start from there. -/
theorem erase_stretch {l : Language Event} {m₀ : Machine} (mode : Protection)
    (hp : p.Serves v page) (hheld : (m.story h.region).Held v h) (a : Stretch v h.region l m m₁)
    (hkeeps : l ≤ keeping) (hr : m₁.memory.find? h.region = some r) (hlive : r.live = true)
    (hopen : r.protection = .readWrite) (hL : r.bytes.length = h.capacity.toNat)
    (hopened : (openForWipe p { h with mode := mode }).run m₀ = (.granted, m₁)) :
    ∃ m' r', (dispose p { h with mode := mode }).run m₀ = ((), m') ∧
      m'.memory.find? h.region = some r' ∧ r'.live = false ∧
      r'.bytes.length = h.capacity.toNat ∧ r'.IsZero ∧
      Stretch v h.region (l * (v.spelling h.region h.capacity).erasing) m m' := by
  obtain ⟨m', r', hrun', hfound', hfreed, hlen, hz, a'⟩ :=
    dispose_stretch (h := { h with mode := mode }) hp hopened hr hlive hopen hL
      (.of_pinned (a.pinned hkeeps hheld.pinned))
  exact ⟨m', r', hrun', hfound', hfreed, hlen, hz, a.trans a'⟩

/-- **A region that was erased is handed back**: nobody holds it any more. -/
theorem erased_handover {l : Language Event} {m' : Machine} (c : Custody v (h :: rest) m)
    (a : Stretch v h.region l m m')
    (hreturned : (v.spelling h.region h.capacity).resting h.pageSize * l ≤
      (v.spelling h.region h.capacity).returned h.pageSize)
    (hr : m'.memory.find? h.region = some r) (hfreed : r.live = false) (hz : r.IsZero) :
    Handover v m rest m' := by
  have hheld := c.held h List.mem_cons_self
  refine .drop c a (.released hr hfreed hz hheld.rounded ?_ ?_)
  · exact hreturned (a.calls_mem hheld.calls)
  · rw [a.abandoned_eq]
    exact hheld.kept

/-- **A buffer that is destroyed hands its region back, or gives it up** where the pages do
not open. -/
theorem dispose_handover (hp : p.Serves v page) (c : Custody v (h :: rest) m) :
    ∃ m', (dispose p h).run m = ((), m') ∧ Handover v m rest m' := by
  have hheld := c.held h List.mem_cons_self
  obtain ⟨r, hr, hrest⟩ := hheld.region
  have hopening : openForWipe p h = p.protect h.pages .readWrite := by
    unfold openForWipe
    rw [hheld.mode]
  obtain ⟨out, m₁, hrun, hfound, a⟩ :=
    hp.protect h.capacity .readWrite hr (.inr hheld.pinned)
  have hopened : (openForWipe p h).run m = (out, m₁) := hopening ▸ hrun
  cases out with
  | granted =>
      obtain ⟨m', r', hrun', hfound', hfreed, -, hz, a'⟩ := erase_stretch h.mode hp hheld a
        (protect_le_keeping _ _) hfound hrest.live rfl hrest.length hopened
      exact ⟨m', hrun', erased_handover c a' (le_sup_of_le_left le_sup_right) hfound' hfreed hz⟩
  | refused =>
      -- the pages stay as they are, closed and pinned, for good
      refine ⟨{ m₁ with log := m₁.log ++ [.abandoned h.region h.capacity] }, ?_, .giveUp c a
        (.givenUp hfound hrest hheld.rounded (a.calls_mem hheld.calls) rfl)⟩
      unfold dispose
      exact run_bind_of_eq hopened

/-! ## §2. An access. -/

/-- The calls of an access, by how it ends. -/
def callsOf (w : Spelling) {α : Type} : Access α → Language Event
  | .closed     => w.protect .readWrite .refused
  | .finished _ => w.protect .readWrite .granted * w.protect .noAccess .granted
  | .broken     => w.protect .readWrite .granted * w.protect .noAccess .refused * w.erasing

/-- **What an access leaves of the region `r` that `h` holds.**  If the pages did not open, it
is as it was; if they opened and closed again, its bytes are turned into others; and if they
did not close again, it is zero and handed back. -/
inductive Ended (h : Holding) (r : Region) {α : Type} (turns : Bytes → α → Bytes → Prop)
    (after : Memory) : Access α → SealedBuffer → Prop
  | closed (found : after.find? h.region = some r) : Ended h r turns after .closed ⟨some h⟩
  | finished {value : α} {bytes : Bytes} (turned : turns r.bytes value bytes)
      (length : bytes.length = h.capacity.toNat)
      (found : after.find? h.region = some { r with bytes := bytes }) :
      Ended h r turns after (.finished value) ⟨some h⟩
  | broken {r' : Region} (found : after.find? h.region = some r') (freed : r'.live = false)
      (length : r'.bytes.length = h.capacity.toNat) (zero : r'.IsZero) :
      Ended h r turns after .broken destroyed

/-- **An access to a held region ends in one of these ways.** -/
theorem access_ended {α : Type} {body : MachineM α} {turns : Bytes → α → Bytes → Prop}
    (hp : p.Serves v page) (hheld : (m.story h.region).Held v h)
    (hbody : Kernel.TurnsRegion v h.region h.capacity body turns) :
    ∃ r a b m', m.memory.find? h.region = some r ∧ r.Resting h.capacity ∧
      (access p h body).run m = ((a, b), m') ∧ Ended h r turns m'.memory a b ∧
      Stretch v h.region (callsOf (v.spelling h.region h.capacity) a) m m' := by
  obtain ⟨r, hr, hrest⟩ := hheld.region
  obtain ⟨out₁, m₁, hrun₁, hfound₁, a₁⟩ :=
    hp.protect h.capacity .readWrite hr (.inr hheld.pinned)
  have hopening : (p.protect h.pages .readWrite).run m = (out₁, m₁) := hrun₁
  unfold access
  rw [run_bind, hopening]
  cases out₁ with
  | refused =>
      -- the pages stayed closed, and nothing was done
      have hnoted := a₁.noted (.grantRefused h.region) fun _ => rfl
      exact ⟨r, .closed, _, _, hr, hrest, rfl, .closed hfound₁, hnoted⟩
  | granted =>
      -- while the pages are open, what they hold stays pinned
      have hpinned₁ := a₁.pinned (protect_le_keeping _ _) hheld.pinned
      obtain ⟨value, m₂, bytes, hrun₂, hlen, hturned, hfound₂, a₂⟩ :=
        hbody m₁ _ hfound₁ hrest.live rfl hrest.length (.of_pinned hpinned₁)
      have hpinned₂ := a₂.pinned one_le_keeping hpinned₁
      obtain ⟨out₃, m₃, hrun₃, hfound₃, a₃⟩ :=
        hp.protect h.capacity .noAccess hfound₂ (.inr hpinned₂)
      have hclosing : (p.protect h.pages .noAccess).run m₂ = (out₃, m₃) := hrun₃
      have a₁₃ := (a₁.trans_unseen a₂).trans a₃
      show ∃ r a b m', _ ∧ _ ∧ (body >>= fun _ => p.protect h.pages .noAccess >>= fun _ => _).run m₁ =
        ((a, b), m') ∧ _
      rw [run_bind, hrun₂, run_bind, hclosing]
      cases out₃ with
      | granted =>
          -- the mode that the buffer records, and the protection, are what they were
          have hbuffer : { h with mode := .noAccess } = h := by
            rw [← hheld.mode]
          have hregion : { r with protection := .noAccess, bytes := bytes } =
              { r with bytes := bytes } := by
            rw [← hrest.closed]
          refine ⟨r, .finished value, ⟨some { h with mode := .noAccess }⟩, m₃, hr, hrest, rfl, ?_, a₁₃⟩
          rw [hbuffer]
          exact .finished hturned hlen (hfound₃.trans (congrArg some hregion))
      | refused =>
          -- the pages are still open, as the buffer records, and are erased on the spot
          have hnoted := a₁₃.noted (.revokeRefused h.region) fun _ => rfl
          obtain ⟨m', r', hrun', hfound', hfreed, hlen', hz, a'⟩ := erase_stretch .readWrite hp hheld hnoted
            (mul_le_keeping (protect_le_keeping _ _) (protect_le_keeping _ _))
            hfound₃ hrest.live rfl hlen rfl
          refine ⟨r, .broken, destroyed, m', hr, hrest, ?_, .broken hfound' hfreed hlen' hz, a'⟩
          show (Machine.note _ >>= fun _ => dispose p { h with mode := .readWrite } >>= fun _ =>
            pure (Access.broken, destroyed)).run m₃ = _
          rw [run_bind, Machine.run_note, run_bind, hrun']
          rfl

/-- A region that is at rest again after an access stays held. -/
theorem rest_again {m' : Machine} (c : Custody v (h :: rest) m)
    (a : Stretch v h.region (v.spelling h.region h.capacity).access m m')
    (hr : m'.memory.find? h.region = some r) (hrest : r.Resting h.capacity) :
    Handover v m (h :: rest) m' := by
  have hheld := c.held h List.mem_cons_self
  refine .keep c a rfl ⟨⟨r, hr, hrest⟩, hheld.mode, hheld.rounded, ?_, ?_⟩
  · exact Spelling.resting_mul_access_le _ _ (a.calls_mem hheld.calls)
  · rw [a.abandoned_eq]
    exact hheld.kept

/-- **An access leaves its buffer at rest, or destroyed.** -/
theorem access_handover {α : Type} {body : MachineM α} (hp : p.Serves v page)
    (c : Custody v (h :: rest) m) (hbody : Kernel.KeepsRegion v h.region h.capacity body) :
    ∃ a b m', (access p h body).run m = ((a, b), m') ∧
      Handover v m (b.holding.toList ++ rest) m' := by
  obtain ⟨r, a, b, m', hr, hrest, hrun, hended, hstretch⟩ :=
    access_ended hp (c.held h List.mem_cons_self) hbody.turnsRegion
  refine ⟨a, b, m', hrun, ?_⟩
  cases hended with
  | closed hfound => exact rest_again c (hstretch.mono le_sup_left) hfound hrest
  | finished _ hlength hfound =>
      exact rest_again c (hstretch.mono le_sup_right) hfound
        ⟨hrest.live, hrest.closed, hrest.pinned, hlength⟩
  | broken hfound hfreed _ hz => exact erased_handover c hstretch le_sup_right hfound hfreed hz

/-! ## §3. Using a buffer. -/

/-- A count that is accepted fits into the pages. -/
theorem holdingFor_eq_ok {b : SealedBuffer} {count : Nat} (hb : b.holdingFor count = .ok h) :
    b.holding = some h ∧ count ≤ h.len.toNat := by
  unfold holdingFor at hb
  split at hb
  · cases hb
  · rename_i h' hh
    split at hb
    · cases hb
    · rename_i hcount
      cases hb
      exact ⟨hh, by omega⟩

/-- A count that is accepted is not zero. -/
theorem pos_of_holdingFor {b : SealedBuffer} {count : Nat} (hb : b.holdingFor count = .ok h) :
    0 < count := by
  unfold holdingFor at hb
  split at hb
  · cases hb
  · split at hb
    · cases hb
    · omega

/-- A count is refused by a destroyed buffer, or because it is out of range. -/
theorem holdingFor_eq_error {b : SealedBuffer} {count : Nat} {e : BufferError}
    (hb : b.holdingFor count = .error e) :
    (b.holding = none ∧ e = .nullPointer) ∨
    (∃ h, b.holding = some h ∧ (count = 0 ∨ h.len.toNat < count) ∧ e = .invalidSize) := by
  unfold holdingFor at hb
  split at hb
  · rename_i hnone
    cases hb
    exact Or.inl ⟨hnone, rfl⟩
  · rename_i h hh
    split at hb
    · rename_i hcount
      cases hb
      exact Or.inr ⟨h, hh, hcount, rfl⟩
    · cases hb

/-- The part of the pages that is accessed lies within them. -/
theorem front_le_capacity {count : Nat} (hh : RoundedUp h.len h.pageSize h.capacity)
    (hcount : count ≤ h.len.toNat) : count.toUInt64 ≤ h.capacity := by
  rw [UInt64.le_iff_toNat_le]
  calc count.toUInt64.toNat ≤ count := Nat.mod_le _ _
    _ ≤ h.len.toNat := hcount
    _ ≤ h.capacity.toNat := UInt64.le_iff_toNat_le.1 (le_of_roundUp hh.2)

variable {b : SealedBuffer}

/-- **A write keeps custody.** -/
theorem write_handover (hp : p.Serves v page) (c : Custody v (b.holding.toList ++ rest) m)
    (data : Bytes) :
    ∃ outcome m', (b.write p data).run m = (outcome, m') ∧
      Handover v m (outcome.buffer.holding.toList ++ rest) m' := by
  unfold write
  cases hb : b.holdingFor data.length with
  | error e => exact ⟨_, _, rfl, .refl c⟩
  | ok h =>
      obtain ⟨hh, hcount⟩ := holdingFor_eq_ok hb
      rw [hh] at c
      have hfits := front_le_capacity (c.held h (by simp)).rounded hcount
      obtain ⟨a, b', m', hrun, hhand⟩ :=
        access_handover hp c (Kernel.copyIn_keepsRegion data hfits)
      refine ⟨⟨a.result, b'⟩, m', ?_, hhand⟩
      exact run_bind_of_eq hrun

/-- **A read keeps custody.** -/
theorem readInto_handover (hp : p.Serves v page) (c : Custody v (b.holding.toList ++ rest) m)
    (out : Bytes) :
    ∃ copy outcome m', (b.readInto p out).run m = ((copy, outcome), m') ∧
      Handover v m (outcome.buffer.holding.toList ++ rest) m' := by
  unfold readInto
  cases hb : b.holdingFor out.length with
  | error e => exact ⟨_, _, _, rfl, .refl c⟩
  | ok h =>
      obtain ⟨hh, hcount⟩ := holdingFor_eq_ok hb
      rw [hh] at c
      have hfits := front_le_capacity (c.held h (by simp)).rounded hcount
      obtain ⟨a, b', m', hrun, hhand⟩ :=
        access_handover hp c (Kernel.copyOut_keepsRegion hfits)
      refine ⟨a.fillOut out, ⟨a.result.map fun _ => (), b'⟩, m', ?_, hhand⟩
      exact run_bind_of_eq hrun

/-- **A read of new bytes keeps custody.** -/
theorem read_handover (hp : p.Serves v page) (c : Custody v (b.holding.toList ++ rest) m)
    (count : Nat) :
    ∃ outcome m', (b.read p count).run m = (outcome, m') ∧
      Handover v m (outcome.buffer.holding.toList ++ rest) m' := by
  rw [read_eq]
  cases hb : b.holdingFor count with
  | error e => exact ⟨_, _, rfl, .refl c⟩
  | ok h =>
      obtain ⟨copy, outcome, m', hrun, hhand⟩ := readInto_handover hp c (Bytes.zeros count)
      refine ⟨⟨outcome.result.map fun _ => copy, outcome.buffer⟩, m', ?_, hhand⟩
      exact run_bind_of_eq hrun

/-- **A buffer that is destroyed holds nothing.** -/
theorem destroy_handover (hp : p.Serves v page) (c : Custody v (b.holding.toList ++ rest) m) :
    ∃ m', (b.destroy p).run m = (destroyed, m') ∧ Handover v m rest m' := by
  obtain ⟨holding⟩ := b
  unfold destroy
  cases holding with
  | none => exact ⟨m, rfl, .refl c⟩
  | some h =>
      obtain ⟨m', hrun, hhand⟩ := dispose_handover hp c
      refine ⟨m', ?_, hhand⟩
      exact run_bind_of_eq hrun

/-- **A buffer that is let go of holds nothing.** -/
theorem letGo_handover (hp : p.Serves v page) (c : Custody v (b.holding.toList ++ rest) m) :
    ∃ m', (b.letGo p).run m = ((), m') ∧ Handover v m rest m' := by
  obtain ⟨m', hrun, hhand⟩ := destroy_handover hp c
  refine ⟨m', ?_, hhand⟩
  unfold letGo
  exact run_bind_of_eq hrun

/-! ## §4. Creating. -/

/-- What a failed attempt to pin and close fresh pages leaves in the record. -/
def unenclosed (w : Spelling) : Language Event :=
  w.lock .refused + w.lock .granted * w.protect .noAccess .refused * w.unlock

/-- The same by the verdict on pinning: a lock that was granted is taken back. -/
def unenclosedAfter (w : Spelling) : Verdict → Language Event
  | .refused => w.lock .refused
  | .granted => w.lock .granted * w.protect .noAccess .refused * w.unlock

/-- The error that such an attempt ends with. -/
def unenclosedError : Verdict → BufferError
  | .refused => .lockFailed
  | .granted => .protectFailed

theorem unenclosedAfter_le (w : Spelling) (pin : Verdict) : unenclosedAfter w pin ≤ unenclosed w := by
  cases pin with
  | refused => exact le_sup_left
  | granted => exact le_sup_right

/-- **Zero pages are pinned and closed, or neither**, and then they stay open. -/
theorem enclose_stretch (hp : p.Serves v page) (hr : m.memory.find? j = some r)
    (hz : r.IsZero) :
    (∃ m', StateT.run (enclose p (.front j L)).run m = (.ok (), m') ∧
      m'.memory.find? j = some { r with pinned := true, protection := .noAccess } ∧
      Stretch v j ((v.spelling j L).lock .granted *
        (v.spelling j L).protect .noAccess .granted) m m') ∨
    (∃ pin m' pinned, StateT.run (enclose p (.front j L)).run m =
        (.error (.refused (unenclosedError pin)), m') ∧
      m'.memory.find? j = some { r with pinned := pinned } ∧
      Stretch v j (unenclosedAfter (v.spelling j L) pin) m m') := by
  -- both calls need zeros, and they come before anything is written
  obtain ⟨out₁, m₁, hrun₁, hfound₁, a₁⟩ := hp.lock L hr hz
  have hlock := run_demand (p.lock (.front j L)) (.lockRefused j L) BufferError.lockFailed m
  rw [hrun₁] at hlock
  cases out₁ with
  | refused =>
      right
      have hnoted := a₁.noted (.lockRefused j L) fun _ => rfl
      exact ⟨.refused, _, r.pinned, run_bind_of_error hlock, hfound₁, hnoted⟩
  | granted =>
      have hz₁ : Region.IsZero { r with pinned := true } := hz
      obtain ⟨out₂, m₂, hrun₂, hfound₂, a₂⟩ := hp.protect L .noAccess hfound₁ (.inl hz₁)
      have hclose := run_demand (p.protect (.front j L) .noAccess) (.sealRefused j)
        BufferError.protectFailed m₁
      rw [hrun₂] at hclose
      have a₁₂ := a₁.trans a₂
      have hgoes : StateT.run (enclose p (.front j L)).run m =
          StateT.run (undoing (unpin p (.front j L)) (demand (p.protect (.front j L) .noAccess)
            (.sealRefused j) BufferError.protectFailed)).run m₁ := run_bind_of_ok hlock
      rw [hgoes]
      cases out₂ with
      | granted => exact Or.inl ⟨m₂, run_undoing_of_ok hclose, hfound₂, a₁₂⟩
      | refused =>
          right
          -- the lock is taken back; that is possible because nothing was written yet
          have hnoted := a₁₂.noted (.sealRefused j) fun _ => rfl
          obtain ⟨m₃, pinned, hrun₃, hfound₃, a₃⟩ := unpin_stretch (L := L) hp
            (m := { m₂ with log := m₂.log ++ [.sealRefused j] }) hfound₂ hz₁
          refine ⟨.granted, m₃, pinned, ?_, hfound₃, hnoted.trans a₃⟩
          rw [run_undoing_of_error hclose, hrun₃]
          rfl

/-- Wiping, pinning and closing fresh pages, and handing them back where that fails. -/
def furnish (p : Platform) (pages : Span) : TryM BufferError Unit :=
  undoing (p.release pages) do
    p.wipe pages
    enclose p pages

/-- **Fresh pages are made ready, or handed back.** -/
theorem furnish_stretch (hp : p.Serves v page)
    (hr : m.memory.find? j = some (.fresh page L.toNat))
    (hnew : ∀ e ∈ eventsOn j m.trace, e.wipes = false) :
    (∃ m' r', StateT.run (furnish p (.front j L)).run m = (.ok (), m') ∧
      m'.memory.find? j = some r' ∧ r'.Resting L ∧ r'.IsZero ∧
      Stretch v j ((v.spelling j L).wipe * ((v.spelling j L).lock .granted *
        (v.spelling j L).protect .noAccess .granted)) m m') ∨
    (∃ pin m' r', StateT.run (furnish p (.front j L)).run m =
        (.error (.refused (unenclosedError pin)), m') ∧
      m'.memory.find? j = some r' ∧ r'.live = false ∧ r'.IsZero ∧
      Stretch v j ((v.spelling j L).wipe * unenclosedAfter (v.spelling j L) pin *
        (v.spelling j L).release) m m') := by
  have hlen : (Bytes.zeros L.toNat).length = L.toNat := Bytes.length_zeros _
  have hz : Region.IsZero { Region.fresh page L.toNat with bytes := Bytes.zeros L.toNat } :=
    fun _ hb => List.eq_of_mem_replicate hb
  obtain ⟨m₁, hrun₁, hfound₁, a₁⟩ :=
    hp.wipe hr rfl rfl (Region.length_fresh _ _) (.of_not_wiped hnew)
  have hbody : StateT.run (do p.wipe (.front j L); enclose p (.front j L) :
      TryM BufferError Unit).run m = StateT.run (enclose p (.front j L)).run m₁ := by
    rw [run_lift_bind, hrun₁]
  unfold furnish
  rcases enclose_stretch (L := L) hp hfound₁ hz with
    ⟨m₂, hrun₂, hfound₂, a₂⟩ | ⟨pin, m₂, pinned, hrun₂, hfound₂, a₂⟩
  · exact Or.inl ⟨m₂, _, run_undoing_of_ok (hbody.trans hrun₂), hfound₂, ⟨rfl, rfl, rfl, hlen⟩,
      hz, a₁.trans a₂⟩
  · right
    obtain ⟨m₃, hrun₃, hfound₃, a₃⟩ := hp.release hfound₂ rfl rfl hlen hz
    refine ⟨pin, m₃, _, ?_, hfound₃, rfl, hz, (a₁.trans a₂).trans a₃⟩
    rw [run_undoing_of_error (hbody.trans hrun₂), hrun₃]

variable {hs : List Holding} {size : UInt64}

/-- **Pages are obtained under the next number, or nothing is made.** -/
theorem obtain_cases (hp : p.Serves v page) (hL : RoundedUp size page L)
    (hnone : eventsOn m.memory.nextId m.trace = []) :
    (∃ m', StateT.run (p.allocate L).run m = (.error (.refused .refused), m') ∧
      StateT.run (SealedBuffer.obtain p L).run m = (.error (.refused .allocationFailed),
        { m' with log := m'.log ++ [.allocationRefused L] }) ∧ Idle m m') ∨
    (∃ m', StateT.run (p.allocate L).run m = (.ok m.memory.nextId, m') ∧
      StateT.run (SealedBuffer.obtain p L).run m = (.ok m.memory.nextId, m') ∧
      m'.memory.find? m.memory.nextId = some (.fresh page L.toNat) ∧
      (∀ e ∈ eventsOn m.memory.nextId m'.trace, e.wipes = false) ∧
      Stretch v m.memory.nextId ((v.spelling m.memory.nextId L).allocate page) m m') := by
  rcases hp.allocate m L (Pages.checkWholePages_of_roundUp hL.1 hL.2) with
    ⟨m', hrun, hidle⟩ | ⟨m', hrun, hfound, hnew, a⟩
  · refine Or.inl ⟨m', hrun, ?_, hidle⟩
    rw [run_obtain, hrun]
  · refine Or.inr ⟨m', hrun, ?_, hfound, hnew (by rw [hnone]; simp), a⟩
    rw [run_obtain, hrun]

/-- What is obtained is made ready by furnishing it. -/
theorem run_prepare {j : RegionId} (h : StateT.run (SealedBuffer.obtain p L).run m = (.ok j, m₁)) :
    StateT.run (prepare p L).run m =
      StateT.run (furnish p (.front j L) >>= fun _ => pure j : TryM BufferError RegionId).run m₁ := by
  unfold prepare
  exact run_bind_of_ok h

theorem run_prepare_of_unobtained {f : Failure BufferError}
    (h : StateT.run (SealedBuffer.obtain p L).run m = (.error f, m₁)) :
    StateT.run (prepare p L).run m = (.error f, m₁) := by
  unfold prepare
  exact run_bind_of_error h

/-- A creation that fails after the region was made hands it back. -/
theorem allocate_mul_unfurnished_le (w : Spelling) (page : UInt64) (pin : Verdict) :
    w.allocate page * (w.wipe * unenclosedAfter w pin * w.release) ≤ w.returned page := by
  have hsome : w.allocate page * (w.wipe * unenclosed w * w.release) ≤ w.returned page := by
    unfold unenclosed Spelling.returned
    simp only [mul_add, add_mul, mul_assoc]
    exact le_sup_of_le_left le_sup_left
  have hafter := unenclosedAfter_le w pin
  exact le_trans (by gcongr) hsome

/-- **What a new buffer of `size` bytes holds**: the next region to be made on `m`, which is
zero on `m'`. -/
structure New (size : UInt64) (m m' : Machine) (h : Holding) : Prop where
  region : h.region = m.memory.nextId
  len : h.len = size
  zero : ∃ r, m'.memory.find? h.region = some r ∧ r.IsZero

/-- **Pages are made ready under a new number, or nothing is left behind.** -/
theorem prepare_handover (hp : p.Serves v page) (c : Custody v hs m) (hL : RoundedUp size page L) :
    (∃ e m', StateT.run (prepare p L).run m = (.error (.refused e), m') ∧ Handover v m hs m') ∨
    (∃ j m', StateT.run (prepare p L).run m = (.ok j, m') ∧
      New size m m' ⟨j, size, L, page, .noAccess⟩ ∧
      Handover v m (⟨j, size, L, page, .noAccess⟩ :: hs) m') := by
  obtain ⟨hnone, hkept⟩ := c.eventsOn_nextId
  rcases obtain_cases hp hL hnone with
    ⟨m₁, _, hobtain, hidle⟩ | ⟨m₁, _, hobtain, hfound₁, hwiped, a₁⟩
  · -- no region is made
    exact Or.inl ⟨_, _, run_prepare_of_unobtained hobtain,
      .idle c (hidle.trans (Idle.note (.allocationRefused L) fun _ => rfl))⟩
  · -- the number is new, so its calls begin with this creation
    have hcalls : v.callsOn m.memory.nextId m.trace ∈ (1 : Language Event) := by
      show (eventsOn _ _).filter _ = []
      rw [hnone]
      rfl
    rw [run_prepare hobtain]
    rcases furnish_stretch hp hfound₁ hwiped with
      ⟨m', r', hrun', hfound', hrest, hz, a₂⟩ | ⟨pin, m', r', hrun', hfound', hfreed, hz, a₂⟩
    · right
      have hall := a₁.trans a₂
      have hword := hall.calls_mem hcalls
      rw [one_mul] at hword
      refine ⟨m.memory.nextId, m', run_bind_of_ok hrun', ⟨rfl, rfl, r', hfound', hz⟩,
        .gain c c.nextId_notMem hall
          ⟨⟨r', hfound', hrest⟩, rfl, hL, Spelling.opening_le_resting _ _ ?_, ?_⟩⟩
      · unfold Spelling.opening
        rw [mul_assoc, mul_assoc]
        exact hword
      · rw [hall.abandoned_eq]
        exact hkept
    · -- handed back: the number is used up, and nobody holds it
      left
      have hall := a₁.trans a₂
      have hword := hall.calls_mem hcalls
      rw [one_mul] at hword
      refine ⟨_, m', run_bind_of_error hrun', .pass c c.nextId_notMem hall
        (.released hfound' hfreed hz hL (allocate_mul_unfurnished_le _ _ pin hword) ?_)⟩
      rw [hall.abandoned_eq]
      exact hkept

/-- **A creation makes one buffer at rest, or leaves nothing behind.**  It traps only where the
rounding does. -/
theorem create_handover (hp : p.Serves v page) (c : Custody v hs m) (size : UInt64) :
    (∃ f m', StateT.run (create p size).run m = (.error f, m') ∧
      (∀ t, f = .trapped t → roundUp size page = .error t) ∧ Handover v m hs m') ∨
    (∃ h m', StateT.run (create p size).run m = (.ok ⟨some h⟩, m') ∧ New size m m' h ∧
      Handover v m (h :: hs) m') := by
  have hrefused : ∀ (e : BufferError) (t : Trap), Failure.refused e = .trapped t →
      roundUp size page = .error t := by
    intro e t h
    cases h
  by_cases hsize : size = 0
  · -- a buffer without bytes is refused before the platform is asked for anything
    subst hsize
    rw [create_zero]
    exact Or.inl ⟨_, _, rfl, hrefused _, .refl c⟩
  obtain ⟨m₁, hpage, hidle⟩ := hp.pageSize m
  have hhand₁ : Handover v m hs m₁ := .idle c hidle
  cases hround : roundUp size page with
  | error t =>
      -- the page size is no power of two
      refine Or.inl ⟨_, m₁, run_create_of_trap hsize hpage hround, ?_, hhand₁⟩
      intro t' h
      cases h
      rfl
  | ok capacity? =>
      cases capacity? with
      | none =>
          exact Or.inl ⟨_, m₁, run_create_of_none hsize hpage hround, hround ▸ hrefused _, hhand₁⟩
      | some capacity =>
          rcases prepare_handover hp hhand₁.custody ⟨hsize, hround⟩ with
            ⟨e, m₂, hrun₂, hhand₂⟩ | ⟨j, m₂, hrun₂, hnew, hhand₂⟩
          · exact Or.inl ⟨.refused e, m₂, run_create_of_unprepared hsize hpage hround hrun₂,
              hround ▸ hrefused e, hhand₁.trans hhand₂⟩
          · right
            have hnoted : Handover v m₂ (⟨j, size, capacity, page, .noAccess⟩ :: hs)
                { m₂ with log := m₂.log ++ [.created j size capacity] } :=
              .idle hhand₂.custody (Idle.note _ fun _ => rfl)
            -- asking for the page size made no region
            have hnew' : New size m { m₂ with log := m₂.log ++ [.created j size capacity] }
                ⟨j, size, capacity, page, .noAccess⟩ :=
              ⟨hidle.memory ▸ hnew.region, rfl, hnew.zero⟩
            exact ⟨_, _, run_create_of_prepared hsize hpage hround hrun₂, hnew',
              (hhand₁.trans hhand₂).trans hnoted⟩

/-- **A creation traps where it asks for bytes and their rounding traps.** -/
theorem create_trapped_iff (hp : p.Serves v page) (c : Custody v hs m) (size : UInt64) (t : Trap) :
    (StateT.run (create p size).run m).1 = .error (.trapped t) ↔
      size ≠ 0 ∧ roundUp size page = .error t := by
  constructor
  · intro h
    rcases create_handover hp c size with ⟨f, m', hrun, htrap, -⟩ | ⟨made, m', hrun, -⟩
    · rw [hrun] at h
      cases h
      refine ⟨?_, htrap t rfl⟩
      rintro rfl
      rw [create_zero] at hrun
      cases hrun
    · rw [hrun] at h
      cases h
  · rintro ⟨hsize, hround⟩
    obtain ⟨m₁, hask, -⟩ := hp.pageSize m
    rw [run_create_of_trap hsize hask hround]

/-- **Under a page size that is a power of two, no creation traps.** -/
theorem create_not_trapped (hp : p.Serves v page) (hpage : isPowerOfTwo page = true)
    (c : Custody v hs m) (size : UInt64) (t : Trap) :
    (StateT.run (create p size).run m).1 ≠ .error (.trapped t) := by
  intro htrapped
  have hodd := (roundUp_eq_error_iff.1 ((create_trapped_iff hp c size t).1 htrapped).2).1
  rw [hpage] at hodd
  cases hodd

end SealedBuffer

end SealedPages
