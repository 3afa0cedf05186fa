/-
  SealedPages.Proofs.BestEffort
  ─────────────────────────────
  **CALLS THAT DECIDE NOTHING.**  Advice on core dumps is best effort, and so is unpinning: a
  refusal is logged, and that is all.  So two runs that differ only in which of these calls
  are made to fail are `Spared` any other difference.

    * The schedules agree on the faults that are essential.
    * The memories match, but for the mark that unpinning takes away.
    * Read without the verdicts of best-effort calls, and without the lines that report their
      refusal, the records agree.

  To be spared is an equivalence.  So what goes unnoticed in one run may be left out, and a
  call that was made on one side only is compared with none at all.

  Main statements:
    * `Spared.attempt_coupled`, `Spared.onRefusal_coupled` — a best-effort call, and its line;
    * `Spared.interchangeable` — the services that a buffer uses;
    * `Spared.creating` — what a creation asks for.
-/
import SealedPages.Proofs.Comparison
import SealedPages.Proofs.FaultSchedules

namespace SealedPages

/-! ## §1. What is read of a record. -/

/-- The event, whatever the verdict if it is on a best-effort call. -/
def Event.regardless : Event → Event
  | .system (.madvise s a _) => .system (.madvise s a .granted)
  | .system (.munlock s _)   => .system (.munlock s .granted)
  | .service (.unlock s _)   => .service (.unlock s .granted)
  | e => e

/-- Whether a line reports that a best-effort call was refused. -/
def LogLine.isBestEffort : LogLine → Bool
  | adviceRefused .. => true
  | unlockRefused _  => true
  | _ => false

/-- **What does not tell of best-effort verdicts**: the events of a view without them, and the
log without the lines that report them. -/
def Reading.outcome (v : View) : Reading Event LogLine where
  moment x := if v.shows x.event then [x.event.regardless] else []
  line l := if l.isBestEffort then [] else [l]

/-! ## §2. The link between the two runs. -/

/-- **Two machines that differ in best-effort calls only.** -/
structure Spared (v : View) (m n : Machine) : Prop where
  faults : n.faults.essential = m.faults.essential
  memory : m.memory.Matches n.memory
  record : m.ReadAlike (.outcome v) (.outcome v) n

namespace Spared

variable {v : View} {m n k : Machine}

theorem refl (m : Machine) : Spared v m m :=
  ⟨rfl, rfl, ⟨rfl, rfl⟩⟩

theorem symm (h : Spared v m n) : Spared v n m :=
  ⟨h.faults.symm, h.memory.symm, ⟨h.record.trace.symm, h.record.log.symm⟩⟩

theorem trans (h : Spared v m n) (h' : Spared v n k) : Spared v m k :=
  ⟨h'.faults.trans h.faults, h.memory.trans h'.memory,
    ⟨h'.record.trace.trans h.record.trace, h'.record.log.trans h.record.log⟩⟩

/-- Both runs count a call of the same target. -/
theorem tick (h : Spared v m n) (t : Target) :
    Spared v { m with faults := m.faults.tick t } { n with faults := n.faults.tick t } where
  faults := by
    show (n.faults.tick t).essential = (m.faults.tick t).essential
    rw [Faults.essential_tick, Faults.essential_tick, h.faults]
  memory := h.memory
  record := ⟨h.record.trace, h.record.log⟩

/-- Both runs record what reads the same. -/
theorem recordAt (h : Spared v m n) {e e' : Event} (hshows : v.shows e' = v.shows e)
    (hsame : e'.regardless = e.regardless) (met met' : Memory) :
    Spared v { m with trace := m.trace ++ [⟨met, e⟩] } { n with trace := n.trace ++ [⟨met', e'⟩] }
    where
  faults := h.faults
  memory := h.memory
  record := {
    trace := by
      rw [List.flatMap_append, List.flatMap_append, h.record.trace, List.flatMap_singleton,
        List.flatMap_singleton]
      simp only [Reading.outcome, hshows, hsame]
    log := h.record.log }

/-- Both runs write the same line. -/
theorem note (h : Spared v m n) (l : LogLine) :
    Spared v { m with log := m.log ++ [l] } { n with log := n.log ++ [l] } where
  faults := h.faults
  memory := h.memory
  record := {
    trace := h.record.trace
    log := by
      rw [List.flatMap_append, List.flatMap_append, h.record.log] }

/-- Both memories change, and match again. -/
theorem remember (h : Spared v m n) {mem mem' : Memory} (hmemory : mem.Matches mem') :
    Spared v { m with memory := mem } { n with memory := mem' } :=
  ⟨h.faults, hmemory, ⟨h.record.trace, h.record.log⟩⟩

end Spared

/-! ## §3. What goes unnoticed. -/

/-- A computation that leaves the machine as good as it was. -/
def Unnoticed {α : Type} (v : View) (x : MachineM α) : Prop :=
  ∀ m, Spared v m (x.run m).2

/-- Log the refusal of a call. -/
def onRefusal (l : LogLine) : Verdict → MachineM Unit
  | .granted => pure ()
  | .refused => Machine.note l

namespace Unnoticed

variable {v : View} {α β : Type}

theorem pure (a : α) : Unnoticed v (Pure.pure a : MachineM α) :=
  fun m => .refl m

theorem bind {x : MachineM α} {f : α → MachineM β} (hx : Unnoticed v x)
    (hf : ∀ a, Unnoticed v (f a)) : Unnoticed v (x >>= f) :=
  fun m => (hx m).trans (hf _ _)

theorem note {l : LogLine} (hl : l.isBestEffort = true) : Unnoticed v (Machine.note l) := by
  intro m
  refine ⟨rfl, rfl, rfl, ?_⟩
  show (m.log ++ [l]).flatMap _ = m.log.flatMap _
  rw [List.flatMap_append, List.flatMap_singleton]
  simp [Reading.outcome, hl]

theorem onRefusal {l : LogLine} (hl : l.isBestEffort = true) (out : Verdict) :
    Unnoticed v (SealedPages.onRefusal l out) := by
  cases out with
  | granted => exact pure ()
  | refused => exact note hl

/-- A best-effort call that the view does not show. -/
theorem attempt {t : Target} (ht : t.isBestEffort = true) {sound : Memory → Bool}
    {event : Verdict → SystemCall} {effect : Verdict → Memory → Memory}
    (hhidden : ∀ out, v.shows (.system (event out)) = false)
    (heffect : ∀ out (m : Memory), m.Matches (effect out m)) :
    Unnoticed v (Kernel.attempt t sound event effect) := by
  intro m
  rw [Kernel.run_attempt]
  refine ⟨m.faults.essential_tick_of_isBestEffort ht, heffect _ _, ?_, rfl⟩
  rw [List.flatMap_append, List.flatMap_singleton]
  simp [Reading.outcome, hhidden]

/-- Making best-effort calls fail. -/
theorem schedule {t : Target} (ht : t.isBestEffort = true) (places : List Nat) :
    Unnoticed v (Machine.schedule t places) := by
  intro m
  refine ⟨?_, rfl, ⟨rfl, rfl⟩⟩
  show (m.faults.schedule t places).essential = m.faults.essential
  rw [Faults.essential_schedule, if_pos ht]

/-- Two computations that both go unnoticed. -/
theorem coupled {x : MachineM α} {y : MachineM β} (hx : Unnoticed v x) (hy : Unnoticed v y) :
    Coupled (Spared v) (fun _ _ => True) x y :=
  fun m n h => ⟨trivial, ((hx m).symm.trans h).trans (hy n)⟩

end Unnoticed

/-! ## §4. Calls and page functions. -/

namespace Spared

variable {v : View} {m n : Machine} {j : RegionId}

/-- A call that decides something is made to fail in both runs or in neither. -/
theorem draw_coupled {t : Target} (ht : t.isBestEffort = false) :
    Coupled (Spared v) Eq (Machine.draw t) (Machine.draw t) := by
  intro m n h
  refine ⟨?_, h.tick t⟩
  show m.faults.fires t = n.faults.fires t
  rw [← m.faults.fires_essential ht, ← n.faults.fires_essential ht, h.faults]

/-- Calls are made to fail in both runs. -/
theorem schedule_coupled (t : Target) (places : List Nat) :
    Coupled (Spared v) Eq (Machine.schedule t places) (Machine.schedule t places) := by
  intro m n h
  refine ⟨rfl, ?_, h.memory, ⟨h.record.trace, h.record.log⟩⟩
  show (n.faults.schedule t places).essential = (m.faults.schedule t places).essential
  rw [Faults.essential_schedule, Faults.essential_schedule, h.faults]

theorem recordedAlike (e : Event) : RecordedAlike (Spared v) e e :=
  fun _ _ _ _ _ h => ⟨rfl, h.recordAt rfl rfl _ _⟩

theorem note_coupled (l : LogLine) : Coupled (Spared v) Eq (Machine.note l) (Machine.note l) :=
  fun _ _ h => ⟨rfl, h.note l⟩

/-- Whatever the two verdicts on a best-effort call, its line is not looked at. -/
theorem onRefusal_coupled {l : LogLine} (hl : l.isBestEffort = true) (out out' : Verdict) :
    Coupled (Spared v) Eq (onRefusal l out) (onRefusal l out') :=
  ((Unnoticed.onRefusal hl out).coupled (.onRefusal hl out')).mono fun _ _ _ => rfl

/-- **A call whose verdict is not looked at** goes on in both runs, whatever its verdicts. -/
theorem attempt_coupled {t : Target} {sound : Memory → Bool} {event : Verdict → SystemCall}
    {effect : Verdict → Memory → Memory}
    (hevent : ∀ out out', (Event.system (event out')).regardless = (Event.system (event out)).regardless)
    (heffect : ∀ out (m : Memory), m.Matches (effect out m)) :
    Coupled (Spared v) (fun _ _ => True) (Kernel.attempt t sound event effect)
      (Kernel.attempt t sound event effect) := by
  intro m n h
  rw [Kernel.run_attempt, Kernel.run_attempt]
  refine ⟨trivial, ?_⟩
  have hshows : ∀ c c' : SystemCall, v.shows (.system c') = v.shows (.system c) := by
    intro c c'
    cases v with
    | systemCalls => rfl
    | serviceCalls => rfl
  have hmemory : ∀ out out', (effect out m.memory).Matches (effect out' n.memory) := fun out out' =>
    ((heffect out m.memory).symm.trans h.memory).trans (heffect out' n.memory)
  exact ((h.tick t).recordAt (hshows _ _) (hevent _ _) _ _).remember (hmemory _ _)

theorem advise_coupled (s : Span) (a : Advice) :
    Coupled (Spared v) Eq (Pages.advise s a) (Pages.advise s a) := by
  have hcall : Coupled (Spared v) (fun _ _ => True) (Kernel.madvise s a) (Kernel.madvise s a) :=
    attempt_coupled (fun _ _ => rfl) fun _ m => .refl m
  exact hcall.bind fun out out' _ => onRefusal_coupled (l := .adviceRefused s a) rfl out out'

/-- **Pages are pinned in both runs or in neither**: advice comes after the verdict. -/
theorem lock_coupled (s : Span) :
    Coupled (Spared v) Eq (Pages.lock s) (Pages.lock s) := by
  have hcall : Coupled (Spared v) Eq (Kernel.mlock s) (Kernel.mlock s) :=
    Kernel.attempt_coupled (draw_coupled rfl) (fun _ => rfl) (fun _ => recordedAlike _)
      (Kernel.whenGranted_coupled fun _ _ h => ⟨rfl, h.remember (h.memory.setPinned_both _ _)⟩)
  unfold Pages.lock
  refine hcall.bind ?_
  rintro out _ rfl
  cases out with
  | granted => exact (advise_coupled s .dontDump).seq (.pure rfl)
  | refused => exact .pure rfl

theorem unlock_coupled (s : Span) :
    Coupled (Spared v) (fun _ _ => True) (Pages.unlock s) (Pages.unlock s) :=
  (advise_coupled s .doDump).seq
    (attempt_coupled (fun _ _ => rfl) fun _ m => (Memory.Matches.refl m).setPinned _ _)

/-- Where system calls are not shown, unpinning goes unnoticed. -/
theorem unlock_unnoticed (s : Span) : Unnoticed .serviceCalls (Pages.unlock s) := by
  have hadvise : Unnoticed .serviceCalls (Pages.advise s .doDump) :=
    Unnoticed.bind (.attempt rfl (fun _ => rfl) fun _ m => .refl m)
      fun out => .onRefusal (l := .adviceRefused s .doDump) rfl out
  exact hadvise.bind fun _ =>
    .attempt rfl (fun _ => rfl) fun _ m => (Memory.Matches.refl m).setPinned _ _

theorem protect_coupled (s : Span) (mode : Protection) :
    Coupled (Spared v) Eq (Pages.protect s mode) (Pages.protect s mode) :=
  Kernel.attempt_coupled (draw_coupled rfl) (fun h => h.memory.isAligned_eq s)
    (fun _ => recordedAlike _)
    (Kernel.whenGranted_coupled fun _ _ h => ⟨rfl, h.remember (h.memory.setProtection _ _)⟩)

theorem free_coupled (j : RegionId) : Coupled (Spared v) Eq (Kernel.free j) (Kernel.free j) := by
  intro m n h
  refine ⟨rfl, ?_⟩
  rw [Kernel.run_free, Kernel.run_free, h.memory.nonzero_eq]
  exact (h.recordAt rfl rfl _ _).remember (h.memory.retire j)

theorem wipe_coupled (s : Span) : Coupled (Spared v) Eq (Kernel.wipe s) (Kernel.wipe s) :=
  fun _ _ h => ⟨rfl, (h.recordAt rfl rfl _ _).remember (h.memory.wipe s)⟩

/-- Both make the same region, or neither makes one. -/
theorem posixMemalign_coupled (align L : UInt64) :
    Coupled (Spared v) (Option.Rel fun j j' => j' = j) (Kernel.posixMemalign align L)
      (Kernel.posixMemalign align L) := by
  intro m n h
  have hfires : m.faults.fires .posixMemalign = n.faults.fires .posixMemalign :=
    (draw_coupled rfl m n h).1
  rw [Kernel.run_posixMemalign, Kernel.run_posixMemalign, ← hfires, h.memory.nextId_eq]
  have hticked := h.tick .posixMemalign
  split
  · exact ⟨.some rfl, (hticked.recordAt rfl rfl _ _).remember (h.memory.grow _)⟩
  · exact ⟨.none, hticked.recordAt rfl rfl _ _⟩

/-! ## §5. Services. -/

/-- **Unpinning as a service** is recorded in both runs, whatever each of them did. -/
theorem served_unlock_coupled (s : Span) :
    Coupled (Spared .serviceCalls) (fun _ _ => True)
      (Platform.served .unlock (.unlock s) (Pages.unlock s))
      (Platform.served .unlock (.unlock s) (Pages.unlock s)) := by
  -- what comes before the record, where the service was made to fail and where it was not
  have hdone : ∀ m : Machine, Spared .serviceCalls m
      (if m.faults.fires .unlock then (Verdict.refused, { m with faults := m.faults.tick .unlock })
        else (Pages.unlock s).run { m with faults := m.faults.tick .unlock }).2 := by
    intro m
    have hticked : Spared .serviceCalls m { m with faults := m.faults.tick .unlock } :=
      ⟨m.faults.essential_tick_of_isBestEffort rfl, rfl, ⟨rfl, rfl⟩⟩
    split
    · exact hticked
    · exact hticked.trans (unlock_unnoticed s _)
  intro m n h
  rw [Platform.run_served, Platform.run_served]
  refine ⟨trivial, (((hdone m).symm.trans h).trans (hdone n)).recordAt ?_ ?_ _ _⟩
  · rfl
  · rfl

theorem unpin_coupled {p : Platform}
    (h : ∀ s, Coupled (Spared v) (fun _ _ => True) (p.unlock s) (p.unlock s)) (s : Span) :
    Coupled (Spared v) Eq (SealedBuffer.unpin p s) (SealedBuffer.unpin p s) :=
  (h s).bind fun out out' _ => onRefusal_coupled (l := .unlockRefused s.region) rfl out out'

theorem interchangeable_system (j : RegionId) :
    Interchangeable (Spared .systemCalls) .system .system j where
  wipe _ := wipe_coupled _
  unpin _ := unpin_coupled unlock_coupled _
  release _ := free_coupled j
  lock _ := lock_coupled _
  protect _ _ := protect_coupled _ _
  note := note_coupled
  copyIn _ data _ _ h := ⟨rfl, (h.recordAt rfl rfl _ _).remember (h.memory.write _ data)⟩
  copyOut _ _ _ h := ⟨(h.memory.read_eq _).symm, h.recordAt rfl rfl _ _⟩

theorem interchangeable_custom (page : UInt64) (j : RegionId) :
    Interchangeable (Spared .serviceCalls) (.custom page) (.custom page) j where
  wipe L := (recordedAlike (.service (.wipe (.front j L)))).record.seq (wipe_coupled _)
  unpin _ := unpin_coupled served_unlock_coupled _
  release L := by
    intro m n h
    refine ⟨rfl, ?_⟩
    have hcount : n.memory.nonzero j = m.memory.nonzero j := h.memory.nonzero_eq j
    have hrecorded : Spared .serviceCalls
        { m with
          trace := m.trace ++ [⟨m.memory, .service (.release (.front j L) (m.memory.nonzero j))⟩] }
        { n with
          trace := n.trace ++ [⟨n.memory, .service (.release (.front j L) (n.memory.nonzero j))⟩] } := by
      rw [hcount]
      exact h.recordAt rfl rfl _ _
    exact (free_coupled j _ _ hrecorded).2
  lock _ := Platform.served_coupled (draw_coupled rfl) (lock_coupled _) fun _ => recordedAlike _
  protect _ _ :=
    Platform.served_coupled (draw_coupled rfl) (protect_coupled _ _) fun _ => recordedAlike _
  note := note_coupled
  copyIn _ data _ _ h := ⟨rfl, (h.recordAt rfl rfl _ _).remember (h.memory.write _ data)⟩
  copyOut _ _ _ h := ⟨(h.memory.read_eq _).symm, h.recordAt rfl rfl _ _⟩

open BufferScript (PlatformKind)

/-- **Every kind of platform can stand for itself**, spared best-effort calls. -/
theorem interchangeable (kind : PlatformKind) (page : UInt64) (j : RegionId) :
    Interchangeable (Spared kind.view) (kind.platform page) (kind.platform page) j := by
  cases kind with
  | system => exact interchangeable_system j
  | custom => exact interchangeable_custom page j

theorem allocate_coupled (kind : PlatformKind) (page L : UInt64) :
    Coupled (Spared kind.view) (Both fun j j' => j' = j)
      ((kind.platform page).allocate L).run ((kind.platform page).allocate L).run := by
  have halloc : ∀ page, Coupled (Spared kind.view) (Both fun j j' => j' = j)
      (Pages.alloc L page).run (Pages.alloc L page).run := fun page =>
    Pages.alloc_coupled (posixMemalign_coupled page L)
  cases kind with
  | system => exact halloc _
  | custom =>
      refine Platform.servedAlloc_coupled (draw_coupled rfl) (halloc page) ?_ (recordedAlike _)
      rintro j _ rfl
      exact recordedAlike _

/-- **What a creation asks for.** -/
theorem creating (kind : PlatformKind) (page : UInt64) :
    Creating (Spared kind.view) id (kind.platform page) (kind.platform page) where
  pageSize := by
    cases kind with
    | system => exact .pure rfl
    | custom => exact (recordedAlike (.service (.pageSize page))).record.seq (.pure rfl)
  obtain L := by
    have hmade := (allocate_coupled kind page L).mono fun r r' hr =>
      show Both (fun j j' => j' = id j ∧ Furnishing (Spared kind.view) id (kind.platform page)
        (kind.platform page) j) r r' from by
        cases hr with
        | ok related => exact .ok ⟨related, (interchangeable kind page _).furnishing⟩
        | error f => exact .error f
    exact SealedBuffer.obtain_coupled (note_coupled _) hmade

end Spared

end SealedPages
