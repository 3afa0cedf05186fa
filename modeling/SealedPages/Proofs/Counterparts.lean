/-
  SealedPages.Proofs.Counterparts
  ───────────────────────────────
  **CALLS, AND THE SERVICES THAT MAKE THEM.**  The same buffers are used on the operating
  system's own pages and on a platform that records its services, with pages of the same
  size.  What is made to fail is a call on the one side and the service that makes it on the
  other.  `Ported` links the machines of the two runs: the services of the second one,
  written out as the calls that they stand for, are the calls of the first one.

  Advice on core dumps has no service of its own.  It is taken wherever the region exists, so
  the link counts the regions that are known to exist.  And it forgets which pages are pinned:
  a service that is made to fail does nothing, while the call in its place unpins.

  Main statements:
    * `Ported.served_coupled` — a call, and the service that makes it;
    * `Ported.interchangeable` — the services that a buffer uses;
    * `Ported.founding` — what a creation asks for.
-/
import SealedPages.Proofs.Comparison
import SealedPages.Proofs.FaultSchedules

namespace SealedPages

/-! ## §1. Services, written out as calls. -/

/-- **The system calls that a call of a service stands for**, on pages of the operating
system's size. -/
def ServiceCall.systemCalls : ServiceCall → List SystemCall
  | pageSize _        => []
  | allocate len made => [.posixMemalign Kernel.pageSize len made]
  | release s k       => [.free s.region k]
  | lock s .granted   => [.mlock s .granted, .madvise s .dontDump .granted]
  | lock s .refused   => [.mlock s .refused]
  | unlock s v        => [.madvise s .doDump .granted, .munlock s v]
  | protect s mode v  => [.mprotect s mode v]
  | wipe _            => []

/-- The system call that an event is. -/
def Event.systemCalls : Event → List SystemCall
  | .system c => [c]
  | _         => []

/-- The system calls that the service stands for that an event is. -/
def Event.writtenOut : Event → List SystemCall
  | .service c => c.systemCalls
  | _          => []

/-- The calls of a run on the operating system's pages, and its log. -/
def Reading.calls : Reading SystemCall LogLine where
  moment x := x.event.systemCalls
  line l := [l]

/-- The services of a run, written out as calls, and its log. -/
def Reading.services : Reading SystemCall LogLine where
  moment x := x.event.writtenOut
  line l := [l]

/-! ## §2. The link between the two runs. -/

/-- **The machine `m` of the run on the operating system's pages, and the machine `n` of the
run on recorded services.**  The regions below `known` are known to exist. -/
structure Ported (known : RegionId) (m n : Machine) : Prop where
  faults : m.faults.Ported n.faults
  /-- A service that is made to fail does nothing, but the call it would have made unpins. -/
  memory : m.memory.Matches n.memory
  record : m.ReadAlike .calls .services n
  made : known ≤ m.memory.nextId

namespace Ported

variable {known : RegionId} {m n : Machine} {j : RegionId}

theorem start : Ported 0 {} {} :=
  ⟨⟨rfl, by simp⟩, rfl, ⟨rfl, rfl⟩, Nat.zero_le _⟩

theorem mono (h : Ported known m n) {known' : RegionId} (hle : known' ≤ known) :
    Ported known' m n :=
  ⟨h.faults, h.memory, h.record, Nat.le_trans hle h.made⟩

/-- All regions of a machine are known to exist. -/
theorem all (h : Ported known m n) : Ported m.memory.nextId m n :=
  ⟨h.faults, h.memory, h.record, Nat.le_refl _⟩

/-- **Both runs go on**, with moments that say the same. -/
theorem advance (h : Ported known m n) {fs fs' : Faults} {mem mem' : Memory}
    {new new' : List Moment} (hfaults : fs.Ported fs') (hmemory : mem.Matches mem')
    (hmade : m.memory.nextId ≤ mem.nextId)
    (hnew : new'.flatMap (·.event.writtenOut) = new.flatMap (·.event.systemCalls)) :
    Ported known { m with memory := mem, faults := fs, trace := m.trace ++ new }
      { n with memory := mem', faults := fs', trace := n.trace ++ new' } where
  faults := hfaults
  memory := hmemory
  record := {
    trace := by
      show (n.trace ++ new').flatMap (·.event.writtenOut) =
        (m.trace ++ new).flatMap (·.event.systemCalls)
      rw [List.flatMap_append, List.flatMap_append, hnew]
      exact congrArg (· ++ _) h.record.trace
    log := h.record.log }
  made := Nat.le_trans h.made hmade

/-- Both runs go on, and may have made regions: all that there are now are known. -/
theorem grown (h : Ported known m n) {fs fs' : Faults} {mem mem' : Memory}
    {new new' : List Moment} (hfaults : fs.Ported fs') (hmemory : mem.Matches mem')
    (hmade : m.memory.nextId ≤ mem.nextId)
    (hnew : new'.flatMap (·.event.writtenOut) = new.flatMap (·.event.systemCalls)) :
    Ported mem.nextId { m with memory := mem, faults := fs, trace := m.trace ++ new }
      { n with memory := mem', faults := fs', trace := n.trace ++ new' } :=
  (h.advance hfaults hmemory hmade hnew).all

/-- What the services of the second run do below is not looked at. -/
theorem hidden (h : Ported known m n) {new : List Moment}
    (hnew : new.flatMap (·.event.writtenOut) = []) :
    Ported known m { n with trace := n.trace ++ new } where
  faults := h.faults
  memory := h.memory
  record := {
    trace := by
      show (n.trace ++ new).flatMap (·.event.writtenOut) = _
      rw [List.flatMap_append, hnew, List.append_nil]
      exact h.record.trace
    log := h.record.log }
  made := h.made

/-- Both write the same line. -/
theorem note (h : Ported known m n) (l : LogLine) :
    Ported known { m with log := m.log ++ [l] } { n with log := n.log ++ [l] } where
  faults := h.faults
  memory := h.memory
  record := {
    trace := h.record.trace
    log := by
      show (n.log ++ [l]).flatMap (fun l => [l]) = (m.log ++ [l]).flatMap fun l => [l]
      rw [List.flatMap_append, List.flatMap_append]
      exact congrArg (· ++ _) h.record.log }
  made := h.made

/-- Both touch their bytes, which is no call. -/
theorem touch (h : Ported known m n) (t : Touch) {mem mem' : Memory} (hmemory : mem.Matches mem')
    (hmade : m.memory.nextId ≤ mem.nextId) :
    Ported known
      { m with memory := mem, trace := m.trace ++ [⟨m.memory, .touch t⟩] }
      { n with memory := mem', trace := n.trace ++ [⟨n.memory, .touch t⟩] } :=
  h.advance h.faults hmemory hmade rfl

end Ported

/-! ## §3. Calls that no fault is pending for. -/

/-- A region that was made. -/
theorem Memory.exists_find? {m : Memory} {j : RegionId} (hpos : 0 < j) (hlt : j < m.nextId) :
    ∃ r, m.find? j = some r := by
  obtain ⟨i, rfl⟩ := Nat.exists_eq_succ_of_ne_zero (Nat.ne_of_gt hpos)
  have hi : i < m.regions.length := Nat.lt_of_succ_lt_succ hlt
  exact ⟨m.regions[i], List.getElem?_eq_getElem hi⟩

/-- The pages of a region that was made start where they should. -/
theorem Kernel.isAligned_front {m : Memory} {j : RegionId} (hpos : 0 < j) (hlt : j < m.nextId)
    (L : UInt64) : isAligned (.front j L) m = true := by
  obtain ⟨r, hr⟩ := Memory.exists_find? hpos hlt
  rw [isAligned_of_find? (s := .front j L) hr]
  simp [Region.alignedAt, Span.front]

variable {m : Machine} {t : Target} {s : Span}

/-- The verdict on a sound call. -/
theorem Kernel.verdictOn_sound (fs : Faults) (t : Target) :
    verdictOn fs t true = if fs.fires t then .refused else .granted := by
  unfold verdictOn
  cases fs.fires t <;> rfl

theorem Kernel.run_attempt_of_sound {sound : Memory → Bool} {event : Verdict → SystemCall}
    {effect : Verdict → Memory → Memory} (hsound : sound m.memory = true) :
    (attempt t sound event effect).run m =
      if m.faults.fires t then
        (.refused, { m with
          memory := effect .refused m.memory
          faults := m.faults.tick t
          trace := m.trace ++ [⟨m.memory, .system (event .refused)⟩] })
      else
        (.granted, { m with
          memory := effect .granted m.memory
          faults := m.faults.tick t
          trace := m.trace ++ [⟨m.memory, .system (event .granted)⟩] }) := by
  rw [run_attempt, hsound, verdictOn_sound]
  split
  · rfl
  · rfl

namespace Pages

/-- Advice that is not made to fail is taken. -/
theorem run_advise (hspared : m.faults.Spares .madvise) (haligned : Kernel.isAligned s m.memory = true)
    (a : Advice) :
    (advise s a).run m =
      ((), { m with trace := m.trace ++ [⟨m.memory, .system (.madvise s a .granted)⟩] }) := by
  have hcall : (Kernel.madvise s a).run m = (.granted,
      { m with trace := m.trace ++ [⟨m.memory, .system (.madvise s a .granted)⟩] }) := by
    unfold Kernel.madvise
    rw [Kernel.run_attempt_of_sound haligned, hspared.fires_eq, if_neg Bool.false_ne_true,
      hspared.tick_eq]
  unfold advise
  rw [run_bind_of_eq hcall]
  rfl

/-- **Pinning pages**, where advice is not made to fail. -/
theorem run_lock (hspared : m.faults.Spares .madvise) (haligned : Kernel.isAligned s m.memory = true) :
    (lock s).run m =
      if m.faults.fires .mlock then
        (.refused, { m with
          faults := m.faults.tick .mlock
          trace := m.trace ++ [⟨m.memory, .system (.mlock s .refused)⟩] })
      else
        (.granted, { m with
          memory := m.memory.setPinned s.region true
          faults := m.faults.tick .mlock
          trace := m.trace ++ [⟨m.memory, .system (.mlock s .granted)⟩,
            ⟨m.memory.setPinned s.region true, .system (.madvise s .dontDump .granted)⟩] }) := by
  unfold lock Kernel.mlock
  rw [run_bind, Kernel.run_attempt_of_sound rfl]
  cases m.faults.fires .mlock with
  | true => rfl
  | false =>
      rw [if_neg Bool.false_ne_true, if_neg Bool.false_ne_true]
      -- pinning moves no region, so the advice is as sound as before
      have hmoved : Kernel.isAligned s (m.memory.setPinned s.region true) = true :=
        ((Memory.Matches.refl m.memory).setPinned s.region true).isAligned_eq s ▸ haligned
      have hadvise := run_advise (m := { m with
          memory := m.memory.setPinned s.region true
          faults := m.faults.tick .mlock
          trace := m.trace ++ [⟨m.memory, .system (.mlock s .granted)⟩] })
        (hspared.tick .mlock) hmoved .dontDump
      rw [List.append_assoc] at hadvise
      exact run_bind_of_eq hadvise

/-- **Unpinning pages**, where advice is not made to fail. -/
theorem run_unlock (hspared : m.faults.Spares .madvise)
    (haligned : Kernel.isAligned s m.memory = true) :
    (unlock s).run m =
      (if m.faults.fires .munlock then .refused else .granted, { m with
        memory := m.memory.setPinned s.region false
        faults := m.faults.tick .munlock
        trace := m.trace ++ [⟨m.memory, .system (.madvise s .doDump .granted)⟩,
          ⟨m.memory, .system (.munlock s (if m.faults.fires .munlock then .refused else .granted))⟩] })
    := by
  unfold unlock Kernel.munlock
  rw [run_bind_of_eq (run_advise hspared haligned .doDump), Kernel.run_attempt_of_sound rfl,
    List.append_assoc, List.append_assoc]
  cases m.faults.fires .munlock with
  | true => rfl
  | false => rfl

theorem run_protect (haligned : Kernel.isAligned s m.memory = true) (mode : Protection) :
    (protect s mode).run m =
      if m.faults.fires .mprotect then
        (.refused, { m with
          faults := m.faults.tick .mprotect
          trace := m.trace ++ [⟨m.memory, .system (.mprotect s mode .refused)⟩] })
      else
        (.granted, { m with
          memory := m.memory.setProtection s.region mode
          faults := m.faults.tick .mprotect
          trace := m.trace ++ [⟨m.memory, .system (.mprotect s mode .granted)⟩] }) :=
  Kernel.run_attempt_of_sound haligned

end Pages

/-! ## §4. The services of both platforms. -/

namespace Ported

variable {known : RegionId} {m n : Machine} {j : RegionId}

/-- **A call, and the service that makes it.**  Where the call is made to fail, the service
does nothing; and where it is not, nothing that the service calls is. -/
theorem served_coupled {t : Target} (ht : t.isServed = true) {event : Verdict → ServiceCall}
    {call below : MachineM Verdict}
    (hrefused : ∀ {m n}, Ported known m n → m.faults.fires t = true →
      (call.run m).1 = .refused ∧ Ported known (call.run m).2
        { n with
          faults := n.faults.tick t.service
          trace := n.trace ++ [⟨n.memory, .service (event .refused)⟩] })
    (hgranted : ∀ {m n n₁}, Ported known m n → m.faults.fires t = false →
      n₁ = { n with faults := n.faults.tick t.service } →
      (call.run m).1 = (below.run n₁).1 ∧ Ported known (call.run m).2
        { (below.run n₁).2 with
          trace := (below.run n₁).2.trace ++
            [⟨n.memory, .service (event (below.run n₁).1)⟩] }) :
    Coupled (Ported known) Eq call (Platform.served t.service event below) := by
  intro m n h
  rw [Platform.run_served, h.faults.fires_eq ht]
  cases hf : m.faults.fires t with
  | true => exact hrefused h hf
  | false => exact hgranted h hf rfl

section KnownRegions

variable (hpos : 0 < j) (hlt : j < known)

include hpos hlt

/-- Regions that are known to exist are aligned in both runs. -/
theorem isAligned_front (h : Ported known m n) (L : UInt64) :
    Kernel.isAligned (.front j L) m.memory = true ∧ Kernel.isAligned (.front j L) n.memory = true := by
  have hleft := Kernel.isAligned_front hpos (Nat.lt_of_lt_of_le hlt h.made) L
  refine ⟨hleft, ?_⟩
  rw [h.memory.isAligned_eq]
  exact hleft

theorem lock_coupled (page L : UInt64) :
    Coupled (Ported known) Eq (Platform.system.lock (.front j L))
      ((Platform.custom page).lock (.front j L)) := by
  refine served_coupled (t := .mlock) rfl ?_ ?_
  · intro m n h hf
    obtain ⟨haligned, _⟩ := h.isAligned_front hpos hlt L
    have hrun := Pages.run_lock h.faults.spares_madvise haligned
    rw [if_pos hf] at hrun
    rw [show (Platform.system.lock (.front j L)).run m = _ from hrun]
    exact ⟨rfl, h.advance (h.faults.tick rfl) h.memory (Nat.le_refl _) rfl⟩
  · intro m n n₁ h hf hn₁
    obtain ⟨haligned, haligned'⟩ := h.isAligned_front hpos hlt L
    have hticked : (m.faults.tick .mlock).Ported n₁.faults := hn₁ ▸ h.faults.tick rfl
    have hspared := hticked.spares_call (t := .mlock) (Or.inl rfl)
    have hrun := Pages.run_lock h.faults.spares_madvise haligned
    have hbelow := Pages.run_lock (m := n₁) (s := .front j L) (hticked.spares_call (Or.inr rfl))
      (hn₁ ▸ haligned')
    rw [if_neg (Bool.eq_false_iff.1 hf)] at hrun
    rw [hspared.fires_eq, if_neg Bool.false_ne_true, hspared.tick_eq] at hbelow
    rw [show (Platform.system.lock (.front j L)).run m = _ from hrun, hbelow]
    subst hn₁
    refine ⟨rfl, ?_⟩
    exact (h.hidden rfl).advance hticked (h.memory.setPinned_both j true)
      (Nat.le_of_eq (Memory.nextId_update ..).symm) rfl

/-- The advice is the same whether the pages are unpinned or not. -/
theorem unlock_coupled (page L : UInt64) :
    Coupled (Ported known) Eq (Platform.system.unlock (.front j L))
      ((Platform.custom page).unlock (.front j L)) := by
  refine served_coupled (t := .munlock) rfl ?_ ?_
  · intro m n h hf
    obtain ⟨haligned, _⟩ := h.isAligned_front hpos hlt L
    have hrun := Pages.run_unlock h.faults.spares_madvise haligned
    rw [if_pos hf] at hrun
    rw [show (Platform.system.unlock (.front j L)).run m = _ from hrun]
    exact ⟨rfl, h.advance (h.faults.tick rfl) (h.memory.setPinned_left j false)
      (Nat.le_of_eq (Memory.nextId_update ..).symm) rfl⟩
  · intro m n n₁ h hf hn₁
    obtain ⟨haligned, haligned'⟩ := h.isAligned_front hpos hlt L
    have hticked : (m.faults.tick .munlock).Ported n₁.faults := hn₁ ▸ h.faults.tick rfl
    have hspared := hticked.spares_call (t := .munlock) (Or.inl rfl)
    have hrun := Pages.run_unlock h.faults.spares_madvise haligned
    have hbelow := Pages.run_unlock (m := n₁) (s := .front j L) (hticked.spares_call (Or.inr rfl))
      (hn₁ ▸ haligned')
    rw [if_neg (Bool.eq_false_iff.1 hf)] at hrun
    rw [hspared.fires_eq, if_neg Bool.false_ne_true, hspared.tick_eq] at hbelow
    rw [show (Platform.system.unlock (.front j L)).run m = _ from hrun, hbelow]
    subst hn₁
    refine ⟨rfl, ?_⟩
    exact (h.hidden rfl).advance hticked (h.memory.setPinned_both j false)
      (Nat.le_of_eq (Memory.nextId_update ..).symm) rfl

theorem protect_coupled (page L : UInt64) (mode : Protection) :
    Coupled (Ported known) Eq (Platform.system.protect (.front j L) mode)
      ((Platform.custom page).protect (.front j L) mode) := by
  refine served_coupled (t := .mprotect) rfl ?_ ?_
  · intro m n h hf
    obtain ⟨haligned, _⟩ := h.isAligned_front hpos hlt L
    have hrun := Pages.run_protect haligned mode
    rw [if_pos hf] at hrun
    rw [show (Platform.system.protect (.front j L) mode).run m = _ from hrun]
    exact ⟨rfl, h.advance (h.faults.tick rfl) h.memory (Nat.le_refl _) rfl⟩
  · intro m n n₁ h hf hn₁
    obtain ⟨haligned, haligned'⟩ := h.isAligned_front hpos hlt L
    have hticked : (m.faults.tick .mprotect).Ported n₁.faults := hn₁ ▸ h.faults.tick rfl
    have hspared := hticked.spares_call (t := .mprotect) (Or.inl rfl)
    have hrun := Pages.run_protect haligned mode
    have hbelow := Pages.run_protect (m := n₁) (s := .front j L) (hn₁ ▸ haligned') mode
    rw [if_neg (Bool.eq_false_iff.1 hf)] at hrun
    rw [hspared.fires_eq, if_neg Bool.false_ne_true, hspared.tick_eq] at hbelow
    rw [show (Platform.system.protect (.front j L) mode).run m = _ from hrun, hbelow]
    subst hn₁
    refine ⟨rfl, ?_⟩
    exact (h.hidden rfl).advance hticked (h.memory.setProtection j mode)
      (Nat.le_of_eq (Memory.nextId_update ..).symm) rfl

end KnownRegions

theorem note_coupled (l : LogLine) :
    Coupled (Ported known) Eq (Machine.note l) (Machine.note l) :=
  fun _ _ h => ⟨rfl, h.note l⟩

theorem release_coupled (page L : UInt64) :
    Coupled (Ported known) Eq (Platform.system.release (.front j L))
      ((Platform.custom page).release (.front j L)) := by
  intro m n h
  refine ⟨rfl, ?_⟩
  have hcount : n.memory.nonzero j = m.memory.nonzero j := h.memory.nonzero_eq j
  have hfree : Ported known
      { m with
        memory := m.memory.retire j
        trace := m.trace ++ [⟨m.memory, .system (.free j (m.memory.nonzero j))⟩] }
      { n with
        memory := n.memory.retire j
        trace := n.trace ++ [⟨n.memory, .service (.release (.front j L) (n.memory.nonzero j))⟩] } :=
    h.advance h.faults (h.memory.retire j) (Nat.le_of_eq (Memory.nextId_update ..).symm)
      (by rw [hcount]; rfl)
  -- the service hands the pages back by a call, which is not looked at
  exact hfree.hidden rfl

theorem wipe_coupled (page L : UInt64) :
    Coupled (Ported known) Eq (Platform.system.wipe (.front j L))
      ((Platform.custom page).wipe (.front j L)) := by
  intro m n h
  refine ⟨rfl, ?_⟩
  have hservice : Ported known m
      { n with trace := n.trace ++ [⟨n.memory, .service (.wipe (.front j L))⟩] } := h.hidden rfl
  exact hservice.touch (.wipe (.front j L)) (h.memory.wipe _)
    (Nat.le_of_eq (Memory.nextId_update ..).symm)

theorem copyIn_coupled (n : UInt64) (data : Bytes) :
    Coupled (Ported known) Eq (Kernel.copyIn (.front j n) data) (Kernel.copyIn (.front j n) data) :=
  fun _ _ h => ⟨rfl, h.touch (.copyIn (.front j n)) (h.memory.write _ data)
    (Nat.le_of_eq (Memory.nextId_update ..).symm)⟩

theorem copyOut_coupled (n : UInt64) :
    Coupled (Ported known) Eq (Kernel.copyOut (.front j n)) (Kernel.copyOut (.front j n)) :=
  fun _ _ h => ⟨(h.memory.read_eq _).symm, h.touch (.copyOut (.front j n)) h.memory (Nat.le_refl _)⟩

/-- **The two platforms can stand for one another** on a region that is known to exist. -/
theorem interchangeable (hpos : 0 < j) (hlt : j < known) (page : UInt64) :
    Interchangeable (Ported known) .system (.custom page) j where
  wipe := wipe_coupled page
  unpin L := by
    unfold SealedBuffer.unpin
    refine (unlock_coupled hpos hlt page L).bind ?_
    rintro out _ rfl
    cases out with
    | granted => exact .pure rfl
    | refused => exact note_coupled _
  release := release_coupled page
  lock := lock_coupled hpos hlt page
  protect := protect_coupled hpos hlt page
  note := note_coupled
  copyIn := copyIn_coupled
  copyOut := copyOut_coupled

end Ported

/-! ## §5. Creating on both platforms. -/

namespace Ported

variable {known : RegionId} {m n : Machine}

/-- **Both are refused pages, or make a region**, which is known to exist from then on. -/
theorem allocate_cases (h : Ported known m n) {L : UInt64}
    (hL : Pages.checkWholePages L Kernel.pageSize = .ok ()) :
    (∃ m₁ n₁, Ported known m₁ n₁ ∧
      StateT.run (Platform.system.allocate L).run m = (.error (.refused .refused), m₁) ∧
      StateT.run ((Platform.custom Kernel.pageSize).allocate L).run n =
        (.error (.refused .refused), n₁)) ∨
    (∃ j m₁ n₁, Ported (j + 1) m₁ n₁ ∧ 0 < j ∧ known ≤ j ∧
      StateT.run (Platform.system.allocate L).run m = (.ok j, m₁) ∧
      StateT.run ((Platform.custom Kernel.pageSize).allocate L).run n = (.ok j, n₁)) := by
  have hfires : n.faults.fires .allocate = m.faults.fires .posixMemalign :=
    h.faults.fires_eq (t := .posixMemalign) rfl
  have hticked : (m.faults.tick .posixMemalign).Ported (n.faults.tick .allocate) :=
    h.faults.tick (t := .posixMemalign) rfl
  have hspared := hticked.spares_call (t := .posixMemalign) (Or.inl rfl)
  -- what both requests come to, and what the service does below
  have hleft := Pages.run_alloc_of_wholePages hL m
  have hright := Platform.run_servedAlloc L Kernel.pageSize n
  rw [Pages.run_alloc_of_wholePages hL, Kernel.run_posixMemalign, hspared.fires_eq,
    hspared.tick_eq, hfires] at hright
  rw [Kernel.run_posixMemalign] at hleft
  cases hf : m.faults.fires .posixMemalign with
  | true =>
      rw [hf] at hleft hright
      exact Or.inl ⟨_, _, h.advance hticked h.memory (Nat.le_refl _) rfl, hleft, hright⟩
  | false =>
      rw [hf] at hleft hright
      cases ha : Kernel.acceptsRequest Kernel.pageSize L with
      | false =>
          rw [ha] at hleft hright
          exact Or.inl ⟨_, _, (h.hidden rfl).advance hticked h.memory (Nat.le_refl _) rfl, hleft, hright⟩
      | true =>
          rw [ha] at hleft hright
          rw [h.memory.nextId_eq] at hright
          have hbelow : Ported known m
              { n with
                trace := n.trace ++ [⟨n.memory,
                  .system (.posixMemalign Kernel.pageSize L (some m.memory.nextId))⟩] } :=
            h.hidden rfl
          have hmade : m.memory.nextId + 1 =
              (m.memory.grow (.fresh Kernel.pageSize L.toNat)).nextId :=
            (Memory.nextId_grow ..).symm
          refine Or.inr ⟨m.memory.nextId, _, _, ?_, Nat.succ_pos _, h.made, hleft, hright⟩
          rw [hmade]
          exact (hbelow.grown hticked (h.memory.grow _) (Nat.le_of_succ_le (Nat.le_of_eq hmade)) rfl)

/-- **What a creation asks for**, on pages of the same size. -/
theorem founding : Founding (Ported known) (fun page => page = Kernel.pageSize) id .system
    (.custom Kernel.pageSize) where
  pageSize := fun _ _ h => ⟨⟨rfl, rfl⟩, h.hidden rfl⟩
  obtain {L page} hpage hL m n h := by
    subst hpage
    have hleft := SealedBuffer.run_obtain .system L m
    have hright := SealedBuffer.run_obtain (.custom Kernel.pageSize) L n
    rcases h.allocate_cases hL with ⟨m₁, n₁, h₁, hm, hn⟩ | ⟨j, m₁, n₁, h₁, hpos, hknown, hm, hn⟩
    · rw [hm] at hleft
      rw [hn] at hright
      rw [hleft, hright]
      exact .error _ (h₁.note _)
    · rw [hm] at hleft
      rw [hn] at hright
      rw [hleft, hright]
      exact .ok (interchangeable hpos (Nat.lt_succ_self j) _).furnishing h₁ fun h =>
        h.mono (Nat.le_succ_of_le hknown)

end Ported

end SealedPages
