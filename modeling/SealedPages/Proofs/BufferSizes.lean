/-
  SealedPages.Proofs.BufferSizes
  ──────────────────────────────
  **WHAT A BUFFER SAYS OF ITS SIZE.**  A buffer reports three numbers: the bytes that were asked
  for, the bytes of its region, and the size of a page.  They are fixed by the creation and
  stay through every step, also where another page size is reported later.  When the buffer
  is destroyed all three become zero at once, so that each of them tells whether it is.

  Main statements:
    * `Measured` — the numbers of a buffer that is not destroyed, and its region;
    * `act_fate` — what a step can do to the buffer in a slot: there are four things;
    * `origin_of_slot` — every buffer was made by a creation, and stayed as it was made;
    * `sizes_fixed_until_destroyed` — all of it, after any steps.
-/
import SealedPages.Proofs.DestroyedBuffers
import SealedPages.Proofs.Deposits
import SealedPages.Proofs.Traps

namespace SealedPages

variable {m m' m₁ : Machine}

/-! ## §1. The numbers of a buffer. -/

namespace SealedBuffer

variable {b : SealedBuffer} {h : Holding} {p : Platform} {size page : UInt64}

/-- **What a buffer that is not destroyed reports**: some bytes, in the least whole number of
pages, and a region of just that length. -/
structure Measured (m : Machine) (b : SealedBuffer) : Prop where
  pos : 1 ≤ b.len.toNat
  fits : b.len.toNat ≤ b.capacity.toNat
  whole : b.pageSize.toNat ∣ b.capacity.toNat
  tight : b.capacity.toNat - b.len.toNat < b.pageSize.toNat
  power : ∃ n, b.pageSize.toNat = 2 ^ n
  region : ∃ h r, b.holding = some h ∧ m.memory.find? h.region = some r ∧ r.live = true ∧
    r.bytes.length = b.capacity.toNat
  notEmpty : b.isEmpty = false

/-- **A buffer knows the size of what it holds.** -/
theorem measured_of_held {v : View} (hs : (m.story h.region).Held v h) : Measured m ⟨some h⟩ := by
  obtain ⟨hlen, hround⟩ := hs.rounded
  obtain ⟨hpage, hcapacity⟩ := roundUp_eq_some hround
  have hpos : 0 < h.pageSize.toNat := pos_of_isPowerOfTwo hpage
  have hpad : padding h.len.toNat h.pageSize.toNat < h.pageSize.toNat := padding_lt hpos
  have hsome : 1 ≤ h.len.toNat := by
    have hne : h.len.toNat ≠ 0 := fun e => hlen (UInt64.toNat_inj.1 e)
    omega
  constructor
  case pos => exact hsome
  case fits =>
    show h.len.toNat ≤ h.capacity.toNat
    omega
  case whole =>
    show h.pageSize.toNat ∣ h.capacity.toNat
    rw [hcapacity]
    exact dvd_add_padding _ hpos
  case tight =>
    show h.capacity.toNat - h.len.toNat < h.pageSize.toNat
    omega
  case power =>
    obtain ⟨n, hn⟩ := isPowerOfTwo_iff.1 hpage
    rw [Nat.one_shiftLeft] at hn
    exact ⟨n, hn⟩
  case region =>
    obtain ⟨r, hr, hrest⟩ := hs.region
    exact ⟨h, r, rfl, hr, hrest.live, hrest.length⟩
  case notEmpty =>
    show (h.len == 0) = false
    simpa using hlen

/-- A buffer that is measured has no number that is zero. -/
theorem Measured.ne_zero (hb : Measured m b) : b.len ≠ 0 ∧ b.capacity ≠ 0 ∧ b.pageSize ≠ 0 := by
  have hne : ∀ {a : UInt64}, 0 < a.toNat → a ≠ 0 := by
    intro a ha e
    rw [e] at ha
    exact Nat.lt_irrefl 0 ha
  have hpos := hb.pos
  have hfits := hb.fits
  have htight := hb.tight
  exact ⟨hne hpos, hne (by omega), hne (by omega)⟩

/-- **Each of the three numbers tells whether the buffer is destroyed.** -/
theorem isDestroyed_iff_zero (hb : b.isDestroyed = false → Measured m b) :
    (b.isDestroyed = true ↔ b.isEmpty = true) ∧ (b.isDestroyed = true ↔ b.capacity = 0) ∧
      (b.isDestroyed = true ↔ b.pageSize = 0) := by
  cases hd : b.isDestroyed with
  | true =>
      rw [isDestroyed_iff.1 hd]
      exact ⟨iff_of_true rfl rfl, iff_of_true rfl rfl, iff_of_true rfl rfl⟩
  | false =>
      have hmeasured := hb hd
      obtain ⟨-, hcapacity, hpage⟩ := hmeasured.ne_zero
      rw [hmeasured.notEmpty]
      simp [hcapacity, hpage]

/-- **A buffer is made for the size that was asked for**, and keeps the size of a page that the
platform reports. -/
theorem create_eq_ok {made : SealedBuffer} (hpage : p.pageSize.run m = (page, m₁))
    (hrun : StateT.run (create p size).run m = (.ok made, m')) :
    made.len = size ∧ made.pageSize = page := by
  by_cases hsize : size = 0
  · subst hsize
    rw [create_zero] at hrun
    cases hrun
  · cases hround : roundUp size page with
    | error t =>
        rw [run_create_of_trap hsize hpage hround] at hrun
        cases hrun
    | ok capacity? =>
        cases capacity? with
        | none =>
            rw [run_create_of_none hsize hpage hround] at hrun
            cases hrun
        | some L =>
            rcases hprepare : StateT.run (prepare p L).run m₁ with ⟨f | j, m₂⟩
            · rw [run_create_of_unprepared hsize hpage hround hprepare] at hrun
              cases hrun
            · rw [run_create_of_prepared hsize hpage hround hprepare] at hrun
              cases hrun
              exact ⟨rfl, rfl⟩

end SealedBuffer

/-- An access leaves a buffer as it was, or destroyed. -/
theorem Accessed.same_or_destroyed {α : Type} {v : View} {b b' : SealedBuffer} {count : Nat}
    {change : Bytes → Bytes} {value : Bytes → α} {calls : List Event}
    {result : Except BufferError α} (ha : Accessed v b count change value m calls result b' m') :
    b' = b ∨ b' = .destroyed := by
  cases ha with
  | destroyed | outOfRange | closed | finished => exact Or.inl rfl
  | broken => exact Or.inr rfl

/-! ## §2. What a step can do to a buffer. -/

namespace BufferScript

variable {kind : PlatformKind} {page : UInt64} {s : Session} {k : Nat} {b : SealedBuffer}

/-- **What becomes of the slot `k` in a step**, by what it holds before and after.  Pages of
`page` bytes are reported. -/
inductive Fate (k : Nat) (page : UInt64) (x : Step) (reply : Reply) :
    Option SealedBuffer → Option SealedBuffer → Prop
  | kept {o : Option SealedBuffer} : Fate k page x reply o o
  /-- By its owner, or by an access. -/
  | destroyed {b : SealedBuffer} {u : Use} (hx : x = ⟨k, .use u⟩)
      (hu : u = .destroy ∨ u.isAccess = true) : Fate k page x reply (some b) (some .destroyed)
  /-- A creation that is done. -/
  | made {o : Option SealedBuffer} {b : SealedBuffer} {size : UInt64}
      (hx : x = ⟨k, .create size⟩) (hreply : reply = .done) (hlen : b.len = size)
      (hpage : b.pageSize = page) : Fate k page x reply o (some b)
  | letGo {o : Option SealedBuffer} (hx : x = ⟨k, .use .letGo⟩) : Fate k page x reply o none

/-- A use keeps the buffer, destroys it, or lets go of it. -/
theorem use_fate (page : UInt64)
    (hheld : ∀ h, b.holding = some h → (m.story h.region).Held kind.view h) (u : Use) :
    ∃ reply out held m', (use (kind.platform page) b u).run m = ((reply, out, held), m') ∧
      (held = some b ∨ (held = some .destroyed ∧ (u = .destroy ∨ u.isAccess = true)) ∨
        (held = none ∧ u = .letGo)) := by
  by_cases hu : u.isAccess = true
  · obtain ⟨reply, out, b', new, m', count, change, result, hrun, -, ha⟩ :=
      use_accessed kind page hheld hu
    refine ⟨reply, out, some b', m', hrun, ?_⟩
    rcases ha.same_or_destroyed with rfl | rfl
    · exact Or.inl rfl
    · exact Or.inr (Or.inl ⟨rfl, Or.inr hu⟩)
  · cases u with
    | write _ | readInto _ _ | read _ => exact absurd rfl hu
    | destroy =>
        refine ⟨_, _, _, _, rfl, Or.inr (Or.inl ⟨?_, Or.inl rfl⟩)⟩
        exact congrArg some (b.destroy_fst _ m)
    | letGo => exact ⟨_, _, none, _, rfl, Or.inr (Or.inr ⟨rfl, rfl⟩)⟩
    | info => exact ⟨_, _, some b, m, rfl, Or.inl rfl⟩
    | describe long => exact ⟨_, _, some b, m, rfl, Or.inl rfl⟩

theorem useSlot_fate (c : Custody kind.view s.slots.holdings m) (u : Use) (reply : Reply) :
    Fate k page ⟨k, .use u⟩ reply (s.slots.get? k)
      (((useSlot (kind.platform s.page) s k u).run m).1.2.2.slots.get? k) := by
  unfold useSlot
  cases hb : s.slots.get? k with
  | none =>
      show Fate k page _ reply none (s.slots.get? k)
      rw [hb]
      exact .kept
  | some b =>
      obtain ⟨reply', out, held, m', hrun, hfate⟩ := use_fate s.page (c.held_of_get? hb) u
      have hset : ((use (kind.platform s.page) b u >>= fun x =>
          pure (x.1, x.2.1, { s with slots := s.slots.set k x.2.2 })).run m).1.2.2.slots.get? k =
          held := by
        rw [run_bind_of_eq hrun]
        exact Slots.get?_set_self _ _ _
      show Fate k page _ reply (some b) _
      rw [hset]
      rcases hfate with rfl | ⟨rfl, hu⟩ | ⟨rfl, rfl⟩
      · exact .kept
      · exact .destroyed rfl hu
      · exact .letGo rfl

theorem create_fate (s : Session) (k : Nat) (size : UInt64) (m : Machine) :
    Fate k (kind.pageSize s.page) ⟨k, .create size⟩
      ((create (kind.platform s.page) s k size).run m).1.1 (s.slots.get? k)
      (((create (kind.platform s.page) s k size).run m).1.2.slots.get? k) := by
  rcases hrun : StateT.run (SealedBuffer.create (kind.platform s.page) size).run m with ⟨f | made, m₁⟩
  · rw [run_create_of_error s k hrun]
    exact .kept
  · obtain ⟨m₀, hask⟩ : ∃ m₀, (kind.platform s.page).pageSize.run m =
        (kind.pageSize s.page, m₀) := by
      cases kind <;> exact ⟨_, rfl⟩
    obtain ⟨hlen, hpage⟩ := SealedBuffer.create_eq_ok hask hrun
    have hput : (s.slots.put k made).get? k = some made := s.slots.get?_set_self k (some made)
    unfold create
    rw [run_bind_of_eq hrun]
    cases s.slots.get? k <;>
    · show Fate k _ _ .done _ ((s.slots.put k made).get? k)
      rw [hput]
      exact .made rfl rfl hlen hpage

/-- **What a step does to the buffer in a slot**, its own slot or another one. -/
theorem act_fate (c : Custody kind.view s.slots.holdings m) (x : Step) :
    Fate k (kind.pageSize s.page) x ((act kind s x.slot x.action).run m).1.1 (s.slots.get? k)
      (((act kind s x.slot x.action).run m).1.2.2.slots.get? k) := by
  obtain ⟨slot, action⟩ := x
  by_cases hslot : k = slot
  · subst hslot
    cases action with
    | create size => exact create_fate s k size m
    | use u => exact useSlot_fate c u _
    | setPageSize value | fault target places | peek region first len => exact .kept
  · rw [(act_others kind s slot action m).1 k hslot]
    exact .kept

/-! ## §3. Where a buffer comes from. -/

/-- **The buffer `b` in the slot `k` was made by one of the steps**, for the size that was asked
for and under the page size that was reported then, and the slot has held just this buffer ever
since. -/
def Origin (kind : PlatformKind) (page : UInt64) (steps : List Step) (k : Nat)
    (b : SealedBuffer) : Prop :=
  ∃ before size since, steps = before ++ ⟨k, .create size⟩ :: since ∧
    (next kind page before ⟨k, .create size⟩).reply = .done ∧
    b.len = size ∧ b.pageSize = kind.pageSize (reported page before) ∧
    ∀ first, first <+: since →
      (sceneAfter kind page (before ++ ⟨k, .create size⟩ :: first)).session.slots.get? k = some b

variable {steps : List Step}

/-- What becomes of a slot in the next step. -/
theorem next_fate (kind : PlatformKind) (page : UInt64) (steps : List Step) (k : Nat) (x : Step) :
    Fate k (kind.pageSize (reported page steps)) x (next kind page steps x).reply
      ((sceneAfter kind page steps).session.slots.get? k)
      ((sceneAfter kind page (steps ++ [x])).session.slots.get? k) := by
  rw [sceneAfter_snoc, ← sceneAfter_page kind page steps]
  exact act_fate (Scenario.buffers kind page steps).custody x

/-- A step that keeps a buffer keeps where it comes from. -/
theorem Origin.snoc (ho : Origin kind page steps k b) {x : Step}
    (hk : (sceneAfter kind page (steps ++ [x])).session.slots.get? k = some b) :
    Origin kind page (steps ++ [x]) k b := by
  obtain ⟨before, size, since, rfl, hdone, hlen, hpage, hsince⟩ := ho
  refine ⟨before, size, since ++ [x], by simp, hdone, hlen, hpage, ?_⟩
  intro first hfirst
  rcases List.prefix_concat_iff.1 hfirst with rfl | hearlier
  · rwa [List.append_assoc] at hk
  · exact hsince first hearlier

/-- **Every buffer that is not destroyed was made by a creation, and stayed as it was made.** -/
theorem origin_of_slot (kind : PlatformKind) (page : UInt64) (steps : List Step) :
    ∀ k b, (sceneAfter kind page steps).session.slots.get? k = some b → b.isDestroyed = false →
      Origin kind page steps k b := by
  induction steps using List.reverseRecOn with
  | nil =>
      intro k b hk
      cases hk
  | append_singleton steps x ih =>
      intro k b hk hlive
      have hfate := next_fate kind page steps k x
      rw [hk] at hfate
      generalize hbefore : (sceneAfter kind page steps).session.slots.get? k = o at hfate
      cases hfate with
      | kept => exact (ih k b hbefore hlive).snoc hk
      | destroyed => cases hlive
      | @made _ _ size hx hreply hlen hpage =>
          subst hx
          refine ⟨steps, size, [], rfl, hreply, hlen, hpage, ?_⟩
          intro first hfirst
          rw [List.prefix_nil.1 hfirst]
          exact hk

/-! ## §4. After any steps. -/

/-- **The sizes of a buffer are fixed until it is destroyed.**  After any steps, a buffer that is
not destroyed reports the size that was asked for at its creation, the size of a page as it was
reported then, and the least whole number of these pages, which is the length of its region; and
it has been in its slot, just as it is, since that creation.  Each of the numbers is zero exactly
where the buffer is destroyed.  The next step keeps the buffer as it is, or destroys it, with all
three numbers zero; or it is a creation that puts another buffer in its place, or lets go of
it. -/
theorem sizes_fixed_until_destroyed (kind : PlatformKind) (page : UInt64) (steps : List Step)
    (k : Nat) (b : SealedBuffer)
    (hk : (sceneAfter kind page steps).session.slots.get? k = some b) :
    (b.isDestroyed = false →
      b.Measured (sceneAfter kind page steps).machine ∧ Origin kind page steps k b) ∧
    ((b.isDestroyed = true ↔ b.isEmpty = true) ∧ (b.isDestroyed = true ↔ b.capacity = 0) ∧
      (b.isDestroyed = true ↔ b.pageSize = 0)) ∧
    (∀ x, Fate k (kind.pageSize (reported page steps)) x (next kind page steps x).reply (some b)
      ((sceneAfter kind page (steps ++ [x])).session.slots.get? k)) ∧
    SealedBuffer.destroyed.status = ⟨0, 0, 0, true, true⟩ := by
  have hmeasured : b.isDestroyed = false → b.Measured (sceneAfter kind page steps).machine := by
    intro hlive
    obtain ⟨holding⟩ := b
    cases holding with
    | none => cases hlive
    | some h =>
        exact SealedBuffer.measured_of_held
          (Scenario.held_of_slot (σ := .buffers kind page steps) hk h rfl)
  refine ⟨?_, SealedBuffer.isDestroyed_iff_zero hmeasured, ?_, rfl⟩
  · intro hlive
    exact ⟨hmeasured hlive, origin_of_slot kind page steps k b hk hlive⟩
  · intro x
    rw [← hk]
    exact next_fate kind page steps k x

/-- A buffer of five bytes is made on pages of eight, then pages of sixteen are reported. -/
theorem sizes_after_larger_pages :
    (sceneAfter .custom 8 [⟨0, .create 5⟩, ⟨0, .setPageSize 16⟩]).session.slots.get? 0 =
      some ⟨some ⟨1, 5, 8, 8, .noAccess⟩⟩ ∧
    Origin .custom 8 [⟨0, .create 5⟩, ⟨0, .setPageSize 16⟩] 0
      ⟨some ⟨1, 5, 8, 8, .noAccess⟩⟩ := by
  refine ⟨rfl, ?_⟩
  exact ((sizes_fixed_until_destroyed .custom 8 [⟨0, .create 5⟩, ⟨0, .setPageSize 16⟩] 0
    ⟨some ⟨1, 5, 8, 8, .noAccess⟩⟩ rfl).1 rfl).2

end BufferScript

end SealedPages
