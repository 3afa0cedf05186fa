/-
  SealedPages.Proofs.PageCalls
  ────────────────────────────
  **THE PAGE FUNCTIONS AS STRETCHES.**  Each call of the operating system, and each
  page function above it, is a stretch on the region that it names.  Every statement
  says three things: that the computation gives a value, what the region is
  afterwards, and that nothing else happened.

  All of it holds for any view, because a platform that records its own services
  makes these calls too, below what it shows: `View.pageWords` is what the view sees
  of them.

  Main statements:
    * `Kernel.attempt_stretch` — a call that can be refused, whatever it does;
    * `Pages.lock_stretch`, `Pages.unlock_stretch`, … — one for each page function.
-/
import SealedPages.Pages
import SealedPages.Proofs.Stretch

namespace SealedPages

variable {v : View} {j : RegionId} {L : UInt64} {m : Machine} {r : Region}

/-! ## §1. What a view sees of a call. -/

namespace View

/-- A call, if the view shows it. -/
def letter (v : View) (e : Event) : Language Event :=
  {[e].filter v.shows}

/-- A call whatever its verdict, if the view shows it. -/
def letters (v : View) (call : Verdict → Event) : Language Event :=
  {word | ∃ out, word ∈ v.letter (call out)}

/-- What a view sees of the page functions. -/
def pageWords (v : View) (id : RegionId) (L : UInt64) : Spelling where
  allocate page := v.letter (.system (.posixMemalign page L (some id)))
  -- a wipe touches bytes, and calls nobody
  wipe := 1
  lock
    | .granted => v.letter (.system (.mlock (.front id L) .granted)) *
        v.letters fun out => .system (.madvise (.front id L) .dontDump out)
    | .refused => v.letter (.system (.mlock (.front id L) .refused))
  unlock := (v.letters fun out => .system (.madvise (.front id L) .doDump out)) *
    v.letters fun out => .system (.munlock (.front id L) out)
  protect mode out := v.letter (.system (.mprotect (.front id L) mode out))
  release := {word | ∃ k, word ∈ v.letter (.system (.free id k))}

end View

/-- The change that only a granted call makes to a region. -/
def Region.whenGranted (change : Region → Region) : Verdict → Region → Region
  | .granted, r => change r
  | .refused, r => r

/-! ## §2. Calls of the operating system. -/

namespace Memory

theorem find?_update_self (m : Memory) (f : Region → Region) (hr : m.find? j = some r) :
    (m.update j f).find? j = some (f r) := by
  rw [find?_update, if_pos rfl, hr]
  rfl

theorem find?_update_of_ne (m : Memory) (f : Region → Region) {id : RegionId} (h : id ≠ j) :
    (m.update j f).find? id = m.find? id := by
  rw [find?_update, if_neg h]

end Memory

namespace Kernel

/-- **A call that can be refused**, if it changes region `j` alone and the moment it
makes is sound under either verdict. -/
theorem attempt_stretch (t : Target) (sound : Memory → Bool) (call : Verdict → SystemCall)
    (effect : Verdict → Memory → Memory) (hcall : ∀ out, (call out).region? = some j)
    (heffect : ∀ out mem, ∀ id ≠ j, (effect out mem).find? id = mem.find? id)
    (hsound : ∀ out, Moment.Sound v j m.trace ⟨m.memory, .system (call out)⟩)
    (hwatch : ∀ out, m.memory.areas.step (.system (call out)) =
      some (effect out m.memory).areas) :
    ∃ out m', (attempt t sound call effect).run m = (out, m') ∧
      m'.memory = effect out m.memory ∧ Stretch v j (v.letter (.system (call out))) m m' := by
  have hregion : (Event.system (call (verdictOn m.faults t (sound m.memory)))).region? = some j :=
    hcall _
  exact ⟨_, _, run_attempt t sound call effect m, rfl,
    Stretch.single hregion rfl rfl (fun _ _ => rfl) (heffect _ _) rfl (hsound _) (hwatch _)⟩

/-- What a granted call changes of the region. -/
theorem find?_whenGranted_self {mem : Memory} (f : Region → Region) (out : Verdict)
    (hr : mem.find? j = some r) :
    (whenGranted (fun m => m.update j f) out mem).find? j = some (r.whenGranted f out) := by
  cases out with
  | granted => exact Memory.find?_update_self mem f hr
  | refused => exact hr

theorem find?_whenGranted_of_ne {id : RegionId} (mem : Memory) (f : Region → Region)
    (out : Verdict) (h : id ≠ j) :
    (whenGranted (fun m => m.update j f) out mem).find? id = mem.find? id := by
  cases out with
  | granted => exact Memory.find?_update_of_ne mem f h
  | refused => rfl

/-- Pinning pages needs them to be zero. -/
theorem mlock_stretch (hr : m.memory.find? j = some r) (hz : r.IsZero) :
    ∃ out m', (mlock (.front j L)).run m = (out, m') ∧
      m'.memory.find? j = some (r.whenGranted (fun r => { r with pinned := true }) out) ∧
      Stretch v j (v.letter (.system (.mlock (.front j L) out))) m m' := by
  obtain ⟨out, m', hrun, hmem, hs⟩ := attempt_stretch (v := v) (j := j) (m := m) .mlock
    (fun _ => true) (.mlock (.front j L)) (whenGranted fun m => m.setPinned j true) (fun _ => rfl)
    (fun out mem id hid => find?_whenGranted_of_ne mem _ out hid)
    (fun out => Moment.sound_of_isZero hr hz rfl (fun _ h => (Option.some.inj h).symm) rfl)
    (fun out => by
      -- the warden does not look at pins
      cases out with
      | granted => exact congrArg some (Memory.areas_setPinned m.memory j true).symm
      | refused => rfl)
  exact ⟨out, m', hrun, hmem ▸ find?_whenGranted_self _ out hr, hs⟩

/-- Unpinning pages needs them to be zero. -/
theorem munlock_stretch (hr : m.memory.find? j = some r) (hz : r.IsZero) :
    ∃ out m', (munlock (.front j L)).run m = (out, m') ∧
      m'.memory.find? j = some { r with pinned := false } ∧
      Stretch v j (v.letter (.system (.munlock (.front j L) out))) m m' := by
  obtain ⟨out, m', hrun, hmem, hs⟩ := attempt_stretch (v := v) (j := j) (m := m) .munlock
    (fun _ => true) (.munlock (.front j L)) (fun _ m => m.setPinned j false) (fun _ => rfl)
    (fun out mem id hid => Memory.find?_update_of_ne mem _ hid)
    (fun out => Moment.sound_of_isZero hr hz rfl (fun _ h => (Option.some.inj h).symm) rfl)
    (fun out => congrArg some (Memory.areas_setPinned m.memory j false).symm)
  exact ⟨out, m', hrun, hmem ▸ Memory.find?_update_self m.memory _ hr, hs⟩

/-- An advice needs zeros as well; it leaves the memory as it was. -/
theorem madvise_stretch (a : Advice) (hr : m.memory.find? j = some r) (hz : r.IsZero) :
    ∃ out m', (madvise (.front j L) a).run m = (out, m') ∧
      m'.memory = m.memory ∧
      Stretch v j (v.letter (.system (.madvise (.front j L) a out))) m m' := by
  obtain ⟨out, m', hrun, hmem, hs⟩ := attempt_stretch (v := v) (j := j) (m := m) .madvise
    (isAligned (.front j L)) (.madvise (.front j L) a) (fun _ m => m) (fun _ => rfl)
    (fun _ _ _ _ => rfl)
    (fun out => Moment.sound_of_isZero hr hz rfl (fun id h => by cases a <;> cases h; rfl) rfl)
    (fun out => rfl)
  exact ⟨out, m', hrun, hmem, hs⟩

/-- A change of protection shelters what was sheltered before. -/
theorem mprotect_stretch (mode : Protection) (hr : m.memory.find? j = some r)
    (hs : v.Sheltered (eventsOn j m.trace) (some r)) :
    ∃ out m', (mprotect (.front j L) mode).run m = (out, m') ∧
      m'.memory.find? j = some (r.whenGranted (fun r => { r with protection := mode }) out) ∧
      Stretch v j (v.letter (.system (.mprotect (.front j L) mode out))) m m' := by
  obtain ⟨out, m', hrun, hmem, hstretch⟩ := attempt_stretch (v := v) (j := j) (m := m)
    .mprotect (isAligned (.front j L)) (.mprotect (.front j L) mode)
    (whenGranted fun m => m.setProtection j mode) (fun _ => rfl)
    (fun out mem id hid => find?_whenGranted_of_ne mem _ out hid)
    (fun out => Moment.sound_of_idle (hr ▸ hs) rfl rfl rfl)
    (fun out => by
      cases out with
      | granted =>
          have harea : m.memory.areas (Span.front j L).region = some r.area :=
            Memory.areas_of_find? hr
          show _ = some (m.memory.update j _).areas
          rw [Memory.areas_update_of_find? _ hr, Warden.step_mprotect mode harea]
          rfl
      | refused => rfl)
  exact ⟨out, m', hrun, hmem ▸ find?_whenGranted_self _ out hr, hstretch⟩

/-- A region can be made under a number that nothing was recorded for. -/
theorem posixMemalign_stretch (page : UInt64) :
    (∃ m', (posixMemalign page L).run m = (none, m') ∧ Idle m m') ∨
    (∃ m', (posixMemalign page L).run m = (some m.memory.nextId, m') ∧
      m'.memory.find? m.memory.nextId = some (.fresh page L.toNat) ∧
      m'.trace = m.trace ++
        [⟨m.memory, .system (.posixMemalign page L (some m.memory.nextId))⟩] ∧
      Stretch v m.memory.nextId
        (v.letter (.system (.posixMemalign page L (some m.memory.nextId)))) m m') := by
  -- the moment meets a memory that has no region of this number yet
  have hsound : Moment.Sound v m.memory.nextId m.trace
      ⟨m.memory, .system (.posixMemalign page L (some m.memory.nextId))⟩ :=
    Moment.sound_of_idle (m.memory.find?_nextId ▸ .of_none) rfl rfl rfl
  rw [run_posixMemalign]
  split
  · right
    refine ⟨_, rfl, Memory.find?_grow_self _ _, rfl, Stretch.single rfl rfl rfl (fun _ _ => rfl)
      (fun id hid => Memory.find?_grow_of_ne _ _ hid) rfl hsound ?_⟩
    have hnone : m.memory.areas m.memory.nextId = none := by
      show (m.memory.find? _).map _ = _
      rw [Memory.find?_nextId]
      rfl
    show _ = some (m.memory.grow _).areas
    rw [Memory.areas_grow, Warden.step_posixMemalign page L hnone]
    simp [Region.area, Region.fresh]
  · exact Or.inl ⟨_, rfl, Idle.single rfl rfl rfl rfl⟩

/-- Handing a region back needs it live, open and zero. -/
theorem free_stretch (hr : m.memory.find? j = some r) (hlive : r.live = true)
    (hopen : r.protection = .readWrite) (hz : r.IsZero) :
    ∃ m', (free j).run m = ((), m') ∧ m'.memory.find? j = some { r with live := false } ∧
      Stretch v j {word | ∃ k, word ∈ v.letter (.system (.free j k))} m m' := by
  -- handing back is a touch of no bytes
  have hsound : Moment.Sound v j m.trace ⟨m.memory, .system (.free j (m.memory.nonzero j))⟩ :=
    Moment.sound_of_handBack (L := 0) hr hlive hopen (Nat.zero_le _) hz rfl rfl rfl
  refine ⟨_, run_free j m, Memory.find?_update_self m.memory _ hr,
    Stretch.single rfl rfl rfl (fun _ _ => rfl)
      (fun id hid => Memory.find?_update_of_ne m.memory _ hid) ⟨_, rfl⟩ hsound ?_⟩
  have hadmits : r.area.admits 0 0 = true := by
    simp [Region.area, Area.admits, hlive, hopen]
  show _ = some (m.memory.update j _).areas
  rw [Memory.areas_update_of_find? _ hr, Warden.step_free _ (Memory.areas_of_find? hr) hadmits]
  rfl

/-! ## §3. Touching bytes. -/

/-- Bytes of a live and open region may be touched. -/
theorem touch_stretch (t : Touch) (change : Memory → Memory) (htj : t.span.region = j)
    (hr : m.memory.find? j = some r) (hlive : r.live = true) (hopen : r.protection = .readWrite)
    (hlen : t.span.off.toNat + t.span.len.toNat ≤ r.bytes.length)
    (hs : v.Sheltered (eventsOn j m.trace) (some r))
    (helse : ∀ id ≠ j, (change m.memory).find? id = m.memory.find? id)
    (hareas : (change m.memory).areas = m.memory.areas) :
    Stretch v j 1 m { m with
      memory := change m.memory
      trace := m.trace ++ [⟨m.memory, .touch t⟩] } := by
  have hregion : (Event.touch t).region? = some j := congrArg some htj
  have hsound : Moment.Sound v j m.trace ⟨m.memory, .touch t⟩ :=
    Moment.sound_of_touch htj hr hlive hopen hlen hs rfl rfl rfl
  have hadmits : r.area.admits t.span.off.toNat t.span.len.toNat = true := by
    simp [Region.area, Area.admits, hlive, hopen, hlen]
  -- no view shows a touch
  have hunseen : [Event.touch t].filter v.shows ∈ (1 : Language Event) := by
    cases v <;> rfl
  refine Stretch.single hregion rfl rfl (fun _ _ => rfl) helse hunseen hsound ?_
  rw [Warden.step_touch (Memory.areas_of_find? (htj.symm ▸ hr)) hadmits]
  exact congrArg some hareas.symm

/-- A wipe of a whole region leaves zeros. -/
theorem wipe_stretch (hr : m.memory.find? j = some r) (hlive : r.live = true)
    (hopen : r.protection = .readWrite) (hL : r.bytes.length = L.toNat)
    (hs : v.Sheltered (eventsOn j m.trace) (some r)) :
    ∃ m', (wipe (.front j L)).run m = ((), m') ∧
      m'.memory.find? j = some { r with bytes := Bytes.zeros L.toNat } ∧ Stretch v j 1 m m' := by
  have hstretch := touch_stretch (v := v) (.wipe (.front j L))
    (fun m => m.wipe (.front j L)) rfl hr hlive hopen (by simp [Span.front, Touch.span, hL])
    hs (fun id hid => Memory.find?_update_of_ne m.memory _ hid) (Memory.areas_wipe _ _)
  refine ⟨_, run_wipe _ m, ?_, hstretch⟩
  have hzeros : Bytes.wipe r.bytes 0 L.toNat = Bytes.zeros L.toNat := by
    rw [← hL]
    exact Bytes.wipe_all r.bytes
  rw [← hzeros]
  exact Memory.find?_update_self m.memory _ hr

/-- What an access does to an open region of `L` bytes: these may change, but not their
number. -/
def KeepsRegion (v : View) (j : RegionId) (L : UInt64) {α : Type} (body : MachineM α) : Prop :=
  ∀ (m : Machine) (r : Region), m.memory.find? j = some r → r.live = true →
    r.protection = .readWrite → r.bytes.length = L.toNat →
    v.Sheltered (eventsOn j m.trace) (some r) →
    ∃ a m' bytes, body.run m = (a, m') ∧ bytes.length = L.toNat ∧
      m'.memory.find? j = some { r with bytes := bytes } ∧ Stretch v j 1 m m'

/-- An access to an open region of `L` bytes, with what it turns these into and the value
that it gives: `turns` relates the bytes before, the value, and the bytes after. -/
def TurnsRegion (v : View) (j : RegionId) (L : UInt64) {α : Type} (body : MachineM α)
    (turns : Bytes → α → Bytes → Prop) : Prop :=
  ∀ (m : Machine) (r : Region), m.memory.find? j = some r → r.live = true →
    r.protection = .readWrite → r.bytes.length = L.toNat →
    v.Sheltered (eventsOn j m.trace) (some r) →
    ∃ a m' bytes, body.run m = (a, m') ∧ bytes.length = L.toNat ∧ turns r.bytes a bytes ∧
      m'.memory.find? j = some { r with bytes := bytes } ∧ Stretch v j 1 m m'

/-- Whatever an access turns the bytes into, it keeps the region. -/
theorem TurnsRegion.keepsRegion {α : Type} {body : MachineM α} {turns : Bytes → α → Bytes → Prop}
    (h : TurnsRegion v j L body turns) : KeepsRegion v j L body := by
  intro m r hr hlive hopen hL hs
  obtain ⟨a, m', bytes, hrun, hlen, _, hfound, hstretch⟩ := h m r hr hlive hopen hL hs
  exact ⟨a, m', bytes, hrun, hlen, hfound, hstretch⟩

/-- And an access that keeps the region turns its bytes into some others. -/
theorem KeepsRegion.turnsRegion {α : Type} {body : MachineM α} (h : KeepsRegion v j L body) :
    TurnsRegion v j L body fun _ _ _ => True := by
  intro m r hr hlive hopen hL hs
  obtain ⟨a, m', bytes, hrun, hlen, hfound, hstretch⟩ := h m r hr hlive hopen hL hs
  exact ⟨a, m', bytes, hrun, hlen, trivial, hfound, hstretch⟩

/-- Data that fits into a region is copied over its first bytes. -/
theorem copyIn_turnsRegion {n : UInt64} (data : Bytes) (h : n ≤ L) :
    TurnsRegion v j L (copyIn (.front j n) data)
      fun before _ after => after = Bytes.patch before 0 data := by
  intro m r hr hlive hopen hL hs
  have hfits : n.toNat ≤ r.bytes.length := hL ▸ UInt64.le_iff_toNat_le.1 h
  refine ⟨(), _, _, run_copyIn _ _ m, ?_, rfl, Memory.find?_update_self m.memory _ hr,
    touch_stretch (.copyIn (.front j n)) (fun m => m.write (.front j n) data) rfl hr hlive hopen
      (by simpa [Span.front, Touch.span] using hfits) hs
      (fun id hid => Memory.find?_update_of_ne m.memory _ hid) (Memory.areas_write _ _ _)⟩
  rw [← hL]
  exact Bytes.length_patch _ _ _

/-- The first bytes of a region are copied out, and the region stays as it is. -/
theorem copyOut_turnsRegion {n : UInt64} (h : n ≤ L) :
    TurnsRegion v j L (copyOut (.front j n))
      fun before copy after => copy = before.take n.toNat ∧ after = before := by
  intro m r hr hlive hopen hL hs
  have hfits : n.toNat ≤ r.bytes.length := hL ▸ UInt64.le_iff_toNat_le.1 h
  have hread : m.memory.read (.front j n) = r.bytes.take n.toNat :=
    (Memory.read_of_find? (s := .front j n) hr).trans rfl
  exact ⟨_, _, r.bytes, run_copyOut _ m, hL, ⟨hread, rfl⟩, hr,
    touch_stretch (.copyOut (.front j n)) (fun m => m) rfl hr hlive hopen
      (by simpa [Span.front, Touch.span] using hfits) hs (fun _ _ => rfl) rfl⟩

/-- Copying data in keeps a region that the data fits into. -/
theorem copyIn_keepsRegion {n : UInt64} (data : Bytes) (h : n ≤ L) :
    KeepsRegion v j L (copyIn (.front j n) data) :=
  (copyIn_turnsRegion data h).keepsRegion

/-- Copying a part of a region out keeps the region. -/
theorem copyOut_keepsRegion {n : UInt64} (h : n ≤ L) :
    KeepsRegion v j L (copyOut (.front j n)) :=
  (copyOut_turnsRegion h).keepsRegion

end Kernel

/-! ## §4. The page functions. -/

namespace Pages

/-- An advice, taken or not, changes nothing. -/
theorem advise_stretch (a : Advice) (hr : m.memory.find? j = some r) (hz : r.IsZero) :
    ∃ m', (advise (.front j L) a).run m = ((), m') ∧ m'.memory = m.memory ∧
      Stretch v j (v.letters fun out => .system (.madvise (.front j L) a out)) m m' := by
  obtain ⟨out, m₁, hrun, hmem, hs⟩ := Kernel.madvise_stretch (v := v) (L := L) a hr hz
  have hword : Stretch v j (v.letters fun out => .system (.madvise (.front j L) a out)) m m₁ :=
    hs.mono fun word h => ⟨out, h⟩
  unfold advise
  rw [run_bind, hrun]
  cases out with
  | granted => exact ⟨m₁, rfl, hmem, hword⟩
  | refused =>
      exact ⟨_, rfl, hmem, hword.noted (.adviceRefused (.front j L) a) fun _ => rfl⟩

/-- Pages are pinned only while they are zero. -/
theorem lock_stretch (hr : m.memory.find? j = some r) (hz : r.IsZero) :
    ∃ out m', (lock (.front j L)).run m = (out, m') ∧
      m'.memory.find? j = some (r.whenGranted (fun r => { r with pinned := true }) out) ∧
      Stretch v j ((v.pageWords j L).lock out) m m' := by
  -- the advice follows the pin, and only where that was granted
  obtain ⟨out, m₁, hrun, hmem, hs⟩ := Kernel.mlock_stretch (v := v) (L := L) hr hz
  unfold lock
  rw [run_bind, hrun]
  cases out with
  | granted =>
      have hz₁ : Region.IsZero { r with pinned := true } := hz
      obtain ⟨m₂, hrun₂, hmem₂, hs₂⟩ := advise_stretch (v := v) (L := L) .dontDump hmem hz₁
      refine ⟨.granted, m₂, ?_, by rw [hmem₂]; exact hmem, hs.trans hs₂⟩
      show ((advise (.front j L) .dontDump >>= fun _ => pure Verdict.granted)).run m₁ = _
      exact run_bind_of_eq hrun₂
  | refused => exact ⟨.refused, m₁, rfl, hmem, hs⟩

/-- Pages are unpinned only while they are zero. -/
theorem unlock_stretch (hr : m.memory.find? j = some r) (hz : r.IsZero) :
    ∃ out m', (unlock (.front j L)).run m = (out, m') ∧
      m'.memory.find? j = some { r with pinned := false } ∧
      Stretch v j (v.pageWords j L).unlock m m' := by
  -- the advice is taken back first, and the pages are unpinned whatever it said
  obtain ⟨m₁, hrun, hmem, hs⟩ := advise_stretch (v := v) (L := L) .doDump hr hz
  obtain ⟨out, m₂, hrun₂, hmem₂, hs₂⟩ :=
    Kernel.munlock_stretch (v := v) (L := L) (hmem ▸ hr : m₁.memory.find? j = some r) hz
  refine ⟨out, m₂, ?_, hmem₂, hs.trans (hs₂.mono fun word h => ⟨out, h⟩)⟩
  unfold unlock
  rw [run_bind, hrun]
  exact hrun₂

theorem protect_stretch (mode : Protection) (hr : m.memory.find? j = some r)
    (hs : v.Sheltered (eventsOn j m.trace) (some r)) :
    ∃ out m', (protect (.front j L) mode).run m = (out, m') ∧
      m'.memory.find? j = some (r.whenGranted (fun r => { r with protection := mode }) out) ∧
      Stretch v j ((v.pageWords j L).protect mode out) m m' :=
  Kernel.mprotect_stretch mode hr hs

theorem wipe_stretch (hr : m.memory.find? j = some r) (hlive : r.live = true)
    (hopen : r.protection = .readWrite) (hL : r.bytes.length = L.toNat)
    (hs : v.Sheltered (eventsOn j m.trace) (some r)) :
    ∃ m', (wipe (.front j L)).run m = ((), m') ∧
      m'.memory.find? j = some { r with bytes := Bytes.zeros L.toNat } ∧
      Stretch v j (v.pageWords j L).wipe m m' :=
  Kernel.wipe_stretch hr hlive hopen hL hs

theorem dealloc_stretch (hr : m.memory.find? j = some r) (hlive : r.live = true)
    (hopen : r.protection = .readWrite) (hz : r.IsZero) :
    ∃ m', (dealloc j).run m = ((), m') ∧ m'.memory.find? j = some { r with live := false } ∧
      Stretch v j (v.pageWords j L).release m m' :=
  Kernel.free_stretch hr hlive hopen hz

/-- A positive whole number of pages is allocated, or refused with nothing changed. -/
theorem alloc_stretch {page : UInt64} (hL : checkWholePages L page = .ok ()) :
    (∃ m', StateT.run (alloc L page).run m = (.error (.refused .refused), m') ∧ Idle m m') ∨
    (∃ m', StateT.run (alloc L page).run m = (.ok m.memory.nextId, m') ∧
      m'.memory.find? m.memory.nextId = some (.fresh page L.toNat) ∧
      m'.trace = m.trace ++
        [⟨m.memory, .system (.posixMemalign page L (some m.memory.nextId))⟩] ∧
      Stretch v m.memory.nextId ((v.pageWords m.memory.nextId L).allocate page) m m') := by
  -- the size has passed its check, so only the call itself can refuse
  rw [run_alloc_of_wholePages hL]
  rcases Kernel.posixMemalign_stretch (v := v) (L := L) (m := m) page with
    ⟨m', h, hidle⟩ | ⟨m', h, hfound, ht, hs⟩
  · exact Or.inl ⟨m', by rw [h], hidle⟩
  · exact Or.inr ⟨m', by rw [h], hfound, ht, hs⟩

end Pages

end SealedPages
