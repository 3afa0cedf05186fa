/-
  SealedPages.Proofs.Services
  ───────────────────────────
  **WHAT A BUFFER MAY RELY ON.**  `Platform.Serves p v page` says of every service of
  a platform what it does to the region it is given, and that it does nothing else.
  Buffers are proved correct from it alone, so what holds of a buffer holds on every
  platform that serves.

  Main statements:
    * `Platform.serves_system` — the pages of the operating system serve, in their own
      calls;
    * `Platform.serves_custom` — a platform that records its services serves, in these, under
      pages of any size and whichever services or calls below them fail.
-/
import SealedPages.Platform
import SealedPages.Proofs.PageCalls

namespace SealedPages

variable {j : RegionId} {L : UInt64} {m : Machine} {r : Region}

/-! ## §1. The laws of a platform. -/

/-- **The services of a platform, under pages of `page` bytes.** -/
structure Platform.Serves (p : Platform) (v : View) (page : UInt64) : Prop where
  pageSize : ∀ m : Machine, ∃ m', p.pageSize.run m = (page, m') ∧ Idle m m'
  /-- Whole pages are made under the next number, and not wiped yet; or nothing is made. -/
  allocate : ∀ (m : Machine) (L : UInt64), Pages.checkWholePages L page = .ok () →
    (∃ m', StateT.run (p.allocate L).run m = (.error (.refused .refused), m') ∧ Idle m m') ∨
    (∃ m', StateT.run (p.allocate L).run m = (.ok m.memory.nextId, m') ∧
      m'.memory.find? m.memory.nextId = some (.fresh page L.toNat) ∧
      ((∀ e ∈ eventsOn m.memory.nextId m.trace, e.wipes = false) →
        ∀ e ∈ eventsOn m.memory.nextId m'.trace, e.wipes = false) ∧
      Stretch v m.memory.nextId ((v.spelling m.memory.nextId L).allocate page) m m')
  /-- Open pages are zero afterwards. -/
  wipe : ∀ {m : Machine} {j : RegionId} {L : UInt64} {r : Region}, m.memory.find? j = some r →
    r.live = true → r.protection = .readWrite → r.bytes.length = L.toNat →
    v.Sheltered (eventsOn j m.trace) (some r) →
    ∃ m', (p.wipe (.front j L)).run m = ((), m') ∧
      m'.memory.find? j = some { r with bytes := Bytes.zeros L.toNat } ∧
      Stretch v j (v.spelling j L).wipe m m'
  lock : ∀ {m : Machine} {j : RegionId} (L : UInt64) {r : Region}, m.memory.find? j = some r →
    r.IsZero →
    ∃ out m', (p.lock (.front j L)).run m = (out, m') ∧
      m'.memory.find? j = some (r.whenGranted (fun r => { r with pinned := true }) out) ∧
      Stretch v j ((v.spelling j L).lock out) m m'
  /-- A service that fails may leave the pages pinned. -/
  unlock : ∀ {m : Machine} {j : RegionId} (L : UInt64) {r : Region}, m.memory.find? j = some r →
    r.IsZero →
    ∃ out m' pinned, (p.unlock (.front j L)).run m = (out, m') ∧
      m'.memory.find? j = some { r with pinned := pinned } ∧
      Stretch v j (v.spelling j L).unlock m m'
  protect : ∀ {m : Machine} {j : RegionId} (L : UInt64) (mode : Protection) {r : Region},
    m.memory.find? j = some r → r.IsZero ∨ v.Pinned (eventsOn j m.trace) →
    ∃ out m', (p.protect (.front j L) mode).run m = (out, m') ∧
      m'.memory.find? j = some (r.whenGranted (fun r => { r with protection := mode }) out) ∧
      Stretch v j ((v.spelling j L).protect mode out) m m'
  release : ∀ {m : Machine} {j : RegionId} {L : UInt64} {r : Region}, m.memory.find? j = some r →
    r.live = true → r.protection = .readWrite → r.bytes.length = L.toNat → r.IsZero →
    ∃ m', (p.release (.front j L)).run m = ((), m') ∧
      m'.memory.find? j = some { r with live := false } ∧
      Stretch v j (v.spelling j L).release m m'

/-- Zeros and pinned pages are sheltered. -/
theorem View.Sheltered.of_or {v : View} {events : List Event}
    (h : r.IsZero ∨ v.Pinned events) : v.Sheltered events (some r) :=
  h.elim .of_isZero .of_pinned

/-! ## §2. The pages of the operating system. -/

/-- **The page functions serve.**  The operating system's own calls are what its view shows,
so the words of the page functions are the words of the services. -/
theorem Platform.serves_system : Platform.system.Serves .systemCalls Kernel.pageSize where
  pageSize m := ⟨m, rfl, Idle.of_eq rfl rfl rfl⟩
  allocate m L hL := by
    refine (Pages.alloc_stretch hL).imp_right fun ⟨m', hrun, hfound, ht, hs⟩ =>
      ⟨m', hrun, hfound, fun hnone e he => ?_, hs⟩
    rw [ht, eventsOn_append] at he
    rcases List.mem_append.1 he with h | h
    · exact hnone e h
    · -- the new event is a call, and no wipe
      rw [List.mem_singleton.1 (List.mem_of_mem_filter h)]
      rfl
  wipe := Pages.wipe_stretch
  lock _ _ hr hz := Pages.lock_stretch hr hz
  unlock _ _ hr hz := by
    -- the call unpins, whatever its verdict
    obtain ⟨out, m', hrun, hmem, hs⟩ := Pages.unlock_stretch hr hz
    exact ⟨out, m', false, hrun, hmem, hs⟩
  protect _ mode _ hr hs := Pages.protect_stretch mode hr (.of_or hs)
  release hr hlive hopen _ hz := Pages.dealloc_stretch hr hlive hopen hz

/-! ## §3. A platform that records its services. -/

/-- The view of the services sees no call of the operating system. -/
theorem letter_system (call : SystemCall) : View.serviceCalls.letter (.system call) = 1 :=
  rfl

theorem letters_system (call : Verdict → SystemCall) :
    (View.serviceCalls.letters fun out => .system (call out)) = 1 := by
  ext word
  constructor
  · intro h
    obtain ⟨out, hout⟩ := h
    rwa [letter_system] at hout
  · intro h
    exact ⟨.granted, by rwa [letter_system]⟩

/-- What the page functions do below the services goes unseen. -/
theorem pageWords_serviceCalls (id : RegionId) (L : UInt64) :
    View.serviceCalls.pageWords id L = ⟨fun _ => 1, 1, fun _ => 1, 1, fun _ _ => 1, 1⟩ := by
  -- field by field; where two calls follow each other, both go unseen
  have hlock : (View.serviceCalls.pageWords id L).lock = fun _ => 1 := by
    funext out
    cases out with
    | granted =>
        show View.letter _ _ * View.letters _ _ = _
        rw [letter_system, letters_system, one_mul]
    | refused => rfl
  have hunlock : (View.serviceCalls.pageWords id L).unlock = 1 := by
    show View.letters _ _ * View.letters _ _ = _
    rw [letters_system, letters_system, one_mul]
  have hrelease : (View.serviceCalls.pageWords id L).release = 1 := by
    ext word
    exact ⟨fun ⟨_, h⟩ => h, fun h => ⟨0, h⟩⟩
  show Spelling.mk _ _ (View.serviceCalls.pageWords id L).lock
    (View.serviceCalls.pageWords id L).unlock _ (View.serviceCalls.pageWords id L).release = _
  rw [hlock, hunlock, hrelease]
  rfl

namespace Stretch

/-- A service is recorded after it was done, with the memory that it met before. -/
theorem report {m₁ : Machine} {call : ServiceCall} (hcall : call.region? = some j)
    (a : Stretch .serviceCalls j 1 m m₁)
    (hsound : Moment.Sound .serviceCalls j m₁.trace ⟨m.memory, .service call⟩) :
    Stretch .serviceCalls j {[.service call]} m
      { m₁ with trace := m₁.trace ++ [⟨m.memory, .service call⟩] } := by
  have hregion : (Event.service call).region? = some j := hcall
  have hlast : Stretch .serviceCalls j {[.service call]} m₁
      { m₁ with trace := m₁.trace ++ [⟨m.memory, .service call⟩] } :=
    single hregion rfl rfl (fun id hid => (a.memory id hid).symm) (fun _ _ => rfl) rfl hsound rfl
  exact a.unseen_trans hlast

end Stretch

namespace Platform

/-- Where the pages were zero or pinned, they are sheltered after calls that go unseen. -/
theorem sheltered_after {m₁ : Machine} (a : Stretch .serviceCalls j 1 m m₁)
    (hs : r.IsZero ∨ View.serviceCalls.Pinned (eventsOn j m.trace)) :
    View.serviceCalls.Sheltered (eventsOn j m₁.trace) (some r) :=
  .of_or (hs.imp_right fun hp => a.pinned one_le_keeping hp)

/-- **A service that can be refused**: refused by a fault of its own before it does
anything, or done as the page function does it. -/
theorem served_stretch (t : Target) (call : Verdict → ServiceCall) (service : MachineM Verdict)
    (after : Verdict → Region → Prop) (hcall : ∀ out, (call out).region? = some j)
    (hr : m.memory.find? j = some r)
    (hs : r.IsZero ∨ View.serviceCalls.Pinned (eventsOn j m.trace))
    (hsound : ∀ out past, View.serviceCalls.Sheltered (eventsOn j past) (m.memory.find? j) →
      Moment.Sound .serviceCalls j past ⟨m.memory, .service (call out)⟩)
    (hrefused : after .refused r)
    (hservice : ∀ m₀ : Machine, m₀.memory.find? j = some r → m₀.trace = m.trace →
      ∃ out m' r', service.run m₀ = (out, m') ∧ m'.memory.find? j = some r' ∧ after out r' ∧
        Stretch .serviceCalls j 1 m₀ m') :
    ∃ out m' r', (served t call service).run m = (out, m') ∧ m'.memory.find? j = some r' ∧
      after out r' ∧ Stretch .serviceCalls j {[.service (call out)]} m m' := by
  -- counting the call leaves the region alone
  have htick : Stretch .serviceCalls j 1 m { m with faults := m.faults.tick t } :=
    Stretch.of_eq rfl rfl rfl
  -- what the service did goes unseen, so the region is as sheltered as it was before
  have hreport : ∀ {out m₁}, Stretch .serviceCalls j 1 m m₁ →
      Stretch .serviceCalls j {[.service (call out)]} m
        { m₁ with trace := m₁.trace ++ [⟨m.memory, .service (call out)⟩] } := fun a =>
    a.report (hcall _) (hsound _ _ (hr ▸ sheltered_after a hs))
  rw [run_served]
  cases m.faults.fires t with
  | true => exact ⟨.refused, _, r, rfl, hr, hrefused, hreport htick⟩
  | false =>
      obtain ⟨out, m₁, r', hrun, hfound, h, a⟩ :=
        hservice { m with faults := m.faults.tick t } hr rfl
      rw [if_neg Bool.false_ne_true, hrun]
      exact ⟨out, _, r', rfl, hfound, h, hreport (htick.unseen_trans a)⟩

/-- Allocation as a service; below it the region is made. -/
theorem servedAlloc_stretch {page : UInt64} (hL : Pages.checkWholePages L page = .ok ()) :
    (∃ m', StateT.run (servedAlloc L page).run m = (.error (.refused .refused), m') ∧
      Idle m m') ∨
    (∃ m', StateT.run (servedAlloc L page).run m = (.ok m.memory.nextId, m') ∧
      m'.memory.find? m.memory.nextId = some (.fresh page L.toNat) ∧
      m'.trace = m.trace ++
        [⟨m.memory, .system (.posixMemalign page L (some m.memory.nextId))⟩,
          ⟨m.memory, .service (.allocate L (some m.memory.nextId))⟩] ∧
      Stretch .serviceCalls m.memory.nextId
        {[.service (.allocate L (some m.memory.nextId))]} m m') := by
  -- a refusal names no region, whether it comes from the service or from below it
  have hnone : ∀ {m₁ : Machine}, Idle m m₁ →
      Idle m { m₁ with trace := m₁.trace ++ [⟨m.memory, .service (.allocate L none)⟩] } := fun a =>
    a.trans (Idle.single rfl rfl (by rw [a.memory]) rfl)
  have hcounted : Idle m { m with faults := m.faults.tick .allocate } := Idle.of_eq rfl rfl rfl
  rw [run_servedAlloc]
  cases m.faults.fires .allocate with
  | true => exact Or.inl ⟨_, rfl, hnone hcounted⟩
  | false =>
      rw [if_neg Bool.false_ne_true]
      rcases Pages.alloc_stretch (v := .serviceCalls)
        (m := { m with faults := m.faults.tick .allocate }) hL with
        ⟨m₁, hrun, hidle⟩ | ⟨m₁, hrun, hfound, ht, a⟩
      · left
        rw [hrun]
        exact ⟨_, rfl, hnone (hcounted.trans hidle)⟩
      · right
        rw [pageWords_serviceCalls] at a
        have htick : Stretch .serviceCalls m.memory.nextId 1 m
            { m with faults := m.faults.tick .allocate } := Stretch.of_eq rfl rfl rfl
        rw [hrun]
        -- the service met a memory without the region
        have hsound : Moment.Sound .serviceCalls m.memory.nextId m₁.trace
            ⟨m.memory, .service (.allocate L (some m.memory.nextId))⟩ :=
          Moment.sound_of_idle (m.memory.find?_nextId ▸ .of_none) rfl rfl rfl
        refine ⟨_, rfl, hfound, ?_, (htick.unseen_trans a).report rfl hsound⟩
        show m₁.trace ++ _ = _
        rw [ht, List.append_assoc]
        rfl

/-- A service is recorded before it is done. -/
theorem announce_stretch {call : ServiceCall} (hcall : call.region? = some j)
    (hsound : Moment.Sound .serviceCalls j m.trace ⟨m.memory, .service call⟩) :
    Stretch .serviceCalls j {[.service call]} m
      { m with trace := m.trace ++ [⟨m.memory, .service call⟩] } :=
  Stretch.report hcall (Stretch.of_eq (m := m) rfl rfl rfl) hsound

/-- A wipe is announced, and then done below the service. -/
theorem wipe_served (hr : m.memory.find? j = some r) (hlive : r.live = true)
    (hopen : r.protection = .readWrite) (hL : r.bytes.length = L.toNat)
    (hs : View.serviceCalls.Sheltered (eventsOn j m.trace) (some r)) (page : UInt64) :
    ∃ m', ((custom page).wipe (.front j L)).run m = ((), m') ∧
      m'.memory.find? j = some { r with bytes := Bytes.zeros L.toNat } ∧
      Stretch .serviceCalls j {[.service (.wipe (.front j L))]} m m' := by
  have hsound : Moment.Sound .serviceCalls j m.trace
      ⟨m.memory, .service (.wipe (.front j L))⟩ :=
    Moment.sound_of_touch rfl hr hlive hopen (by simp [Span.front, hL]) hs rfl rfl rfl
  -- the announcement neither wipes nor lets go
  have hs₁ : View.serviceCalls.Sheltered
      (eventsOn j (m.trace ++ [⟨m.memory, .service (.wipe (.front j L))⟩])) (some r) := by
    rw [eventsOn_append]
    refine hs.append fun e he => ?_
    rw [List.mem_singleton.1 (List.mem_of_mem_filter he)]
    exact ⟨rfl, fun _ => rfl⟩
  obtain ⟨m', hrun, hfound, a⟩ := Pages.wipe_stretch (v := .serviceCalls)
    (m := { m with trace := m.trace ++ [⟨m.memory, .service (.wipe (.front j L))⟩] })
    hr hlive hopen hL hs₁
  rw [pageWords_serviceCalls] at a
  exact ⟨m', hrun, hfound, (announce_stretch rfl hsound).trans_unseen a⟩

theorem lock_served (hr : m.memory.find? j = some r) (hz : r.IsZero) (page : UInt64) :
    ∃ out m', ((custom page).lock (.front j L)).run m = (out, m') ∧
      m'.memory.find? j = some (r.whenGranted (fun r => { r with pinned := true }) out) ∧
      Stretch .serviceCalls j {[.service (.lock (.front j L) out)]} m m' := by
  obtain ⟨out, m', r', hrun, hfound, rfl, a⟩ := served_stretch .lock
    (.lock (.front j L)) (Pages.lock (.front j L))
    (fun out r' => r' = r.whenGranted (fun r => { r with pinned := true }) out)
    (fun _ => rfl) hr (.inl hz)
    (fun out past _ =>
      Moment.sound_of_isZero hr hz rfl (fun _ h => (Option.some.inj h).symm) rfl)
    rfl (fun m₀ hr₀ _ => by
      obtain ⟨out, m', hrun, hfound, a⟩ :=
        Pages.lock_stretch (v := .serviceCalls) (L := L) hr₀ hz
      rw [pageWords_serviceCalls] at a
      exact ⟨out, m', _, hrun, hfound, rfl, a⟩)
  exact ⟨out, m', hrun, hfound, a⟩

/-- A fault of the service leaves the pages pinned; a refusal from below does not. -/
theorem unlock_served (hr : m.memory.find? j = some r) (hz : r.IsZero) (page : UInt64) :
    ∃ out m' pinned, ((custom page).unlock (.front j L)).run m = (out, m') ∧
      m'.memory.find? j = some { r with pinned := pinned } ∧
      Stretch .serviceCalls j {[.service (.unlock (.front j L) out)]} m m' := by
  obtain ⟨out, m', r', hrun, hfound, ⟨pinned, rfl⟩, a⟩ := served_stretch .unlock
    (.unlock (.front j L)) (Pages.unlock (.front j L))
    (fun _ r' => ∃ pinned, r' = { r with pinned := pinned })
    (fun _ => rfl) hr (.inl hz)
    (fun out past _ =>
      Moment.sound_of_isZero hr hz rfl (fun _ h => (Option.some.inj h).symm) rfl)
    ⟨r.pinned, rfl⟩ (fun m₀ hr₀ _ => by
      obtain ⟨out, m', hrun, hfound, a⟩ :=
        Pages.unlock_stretch (v := .serviceCalls) (L := L) hr₀ hz
      rw [pageWords_serviceCalls] at a
      exact ⟨out, m', _, hrun, hfound, ⟨false, rfl⟩, a⟩)
  exact ⟨out, m', pinned, hrun, hfound, a⟩

theorem protect_served (mode : Protection) (hr : m.memory.find? j = some r)
    (hs : r.IsZero ∨ View.serviceCalls.Pinned (eventsOn j m.trace)) (page : UInt64) :
    ∃ out m', ((custom page).protect (.front j L) mode).run m = (out, m') ∧
      m'.memory.find? j = some (r.whenGranted (fun r => { r with protection := mode }) out) ∧
      Stretch .serviceCalls j {[.service (.protect (.front j L) mode out)]} m m' := by
  obtain ⟨out, m', r', hrun, hfound, rfl, a⟩ := served_stretch .protect
    (.protect (.front j L) mode) (Pages.protect (.front j L) mode)
    (fun out r' => r' = r.whenGranted (fun r => { r with protection := mode }) out)
    (fun _ => rfl) hr hs (fun out past h => Moment.sound_of_idle h rfl rfl rfl)
    rfl (fun m₀ hr₀ ht₀ => by
      obtain ⟨out, m', hrun, hfound, a⟩ :=
        Pages.protect_stretch (v := .serviceCalls) (L := L) mode hr₀ (.of_or (ht₀ ▸ hs))
      rw [pageWords_serviceCalls] at a
      exact ⟨out, m', _, hrun, hfound, rfl, a⟩)
  exact ⟨out, m', hrun, hfound, a⟩

/-- Zero pages are handed back, and the report says that they are zero. -/
theorem release_served (hr : m.memory.find? j = some r) (hlive : r.live = true)
    (hopen : r.protection = .readWrite) (hL : r.bytes.length = L.toNat) (hz : r.IsZero)
    (page : UInt64) :
    ∃ m', ((custom page).release (.front j L)).run m = ((), m') ∧
      m'.memory.find? j = some { r with live := false } ∧
      Stretch .serviceCalls j {[.service (.release (.front j L) (m.memory.nonzero j))]} m m' := by
  have hsound : Moment.Sound .serviceCalls j m.trace
      ⟨m.memory, .service (.release (.front j L) (m.memory.nonzero j))⟩ :=
    Moment.sound_of_handBack hr hlive hopen (Nat.le_of_eq hL.symm) hz rfl rfl rfl
  obtain ⟨m', hrun, hfound, a⟩ := Pages.dealloc_stretch (v := .serviceCalls) (L := L)
    (m := { m with trace := m.trace ++
      [⟨m.memory, .service (.release (.front j L) (m.memory.nonzero j))⟩] })
    hr hlive hopen hz
  rw [pageWords_serviceCalls] at a
  exact ⟨m', hrun, hfound, (announce_stretch rfl hsound).trans_unseen a⟩

/-- **Whatever page size a custom platform reports, it serves under that size.** -/
theorem serves_custom (page : UInt64) : (Platform.custom page).Serves .serviceCalls page where
  pageSize m := ⟨_, rfl, Idle.single rfl rfl rfl rfl⟩
  allocate m L hL := by
    refine (servedAlloc_stretch hL).imp_right fun ⟨m', hrun, hfound, ht, hs⟩ =>
      ⟨m', hrun, hfound, fun hnone e he => ?_, hs⟩
    rw [ht, eventsOn_append] at he
    rcases List.mem_append.1 he with h | h
    · exact hnone e h
    · -- neither of the two events is a touch
      obtain ⟨x, hx, rfl⟩ := List.mem_map.1 (List.mem_of_mem_filter h)
      rcases List.mem_pair.1 hx with rfl | rfl <;> rfl
  wipe hr hlive hopen hL hs := wipe_served hr hlive hopen hL hs page
  lock _ _ hr hz := lock_served hr hz page
  unlock _ _ hr hz := by
    obtain ⟨out, m', pinned, hrun, hfound, a⟩ := unlock_served hr hz page
    exact ⟨out, m', pinned, hrun, hfound, a.mono fun word hword => ⟨out, hword⟩⟩
  protect _ mode _ hr hs := protect_served mode hr hs page
  release hr hlive hopen hL hz := by
    obtain ⟨m', hrun, hfound, a⟩ := release_served hr hlive hopen hL hz page
    exact ⟨m', hrun, hfound, a.mono fun word hword => ⟨_, hword⟩⟩

end Platform

end SealedPages
