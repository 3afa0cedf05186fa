/-
  SealedPages.Proofs.PairedCalls
  ──────────────────────────────
  **FROM SINGLE STEPS TO SERVICES.**  A call of the operating system counts a fault,
  records an event and changes one region.  If these single steps are coupled, then so
  are the calls that are made of them, the page functions, and the services of both
  platforms; and with these the operations of a buffer.  So a link between two runs has
  to be looked at in a handful of places only.

  A refused opening and the log line that reports it go together: some links hold only
  after both.  So the steps that every link has to keep, `Primitives`, leave these two
  out, and `Unreserved` adds them.

  Main statements:
    * `Primitives.services_system`, `Primitives.services_custom` — the services of both
      platforms;
    * `Primitives.erasing`, `Primitives.furnishing`, `Primitives.accessing`,
      `Primitives.disposing` — what operations need, from what services do;
    * `Originates.creating_system`, `Originates.creating_custom` — new regions;
    * `KeptOn.unreserved`, `KeptByMaking.originates` — all this for a property of one run.
-/
import SealedPages.Proofs.PairedBuffers

namespace SealedPages

/-! ## §1. Single steps. -/

/-- The region whose opening an event reports as refused. -/
def Event.denied? : Event → Option RegionId
  | .system (.mprotect s .readWrite .refused) => some s.region
  | .service (.protect s .readWrite .refused) => some s.region
  | _ => none

/-- The region whose opening a log line reports as refused. -/
def LogLine.denied? : LogLine → Option RegionId
  | grantRefused id => some id
  | abandoned id _  => some id
  | _ => none

/-- An event is recorded in both runs, with a memory that each of them has met. -/
def RecordedAlike (R : Link) (e e' : Event) : Prop :=
  ∀ m n, R m n → Coupled R Eq (Machine.recordAt m.memory e) (Machine.recordAt n.memory e')

/-- **Coupled single steps on the region `j`**, apart from refused openings. -/
structure Primitives (R : Link) (ρ : RegionId → RegionId) (j : RegionId) : Prop where
  draw : ∀ t, Coupled R Eq (Machine.draw t) (Machine.draw t)
  aligned : ∀ {m n}, R m n → ∀ L,
    Kernel.isAligned (.front (ρ j) L) n.memory = Kernel.isAligned (.front j L) m.memory
  record : ∀ {e : Event}, e.region? = some j → e.denied? = none → RecordedAlike R e (e.rename ρ)
  /-- Each run counts the bytes other than zero for itself. -/
  recordFree : Coupled R Eq
    (get >>= fun m => Machine.record (.system (.free j (m.memory.nonzero j))))
    (get >>= fun n => Machine.record (.system (.free (ρ j) (n.memory.nonzero (ρ j)))))
  recordRelease : ∀ L, Coupled R Eq
    (get >>= fun m => Machine.record (.service (.release (.front j L) (m.memory.nonzero j))))
    (get >>= fun n => Machine.record (.service (.release (.front (ρ j) L) (n.memory.nonzero (ρ j)))))
  note : ∀ {l : LogLine}, l.region? = some j → l.denied? = none →
    Coupled R Eq (Machine.note l) (Machine.note (l.rename ρ))
  setPinned : ∀ pinned, Coupled R Eq (Machine.remember fun m => m.setPinned j pinned)
    (Machine.remember fun m => m.setPinned (ρ j) pinned)
  setProtection : ∀ mode, Coupled R Eq (Machine.remember fun m => m.setProtection j mode)
    (Machine.remember fun m => m.setProtection (ρ j) mode)
  retire : Coupled R Eq (Machine.remember fun m => m.retire j)
    (Machine.remember fun m => m.retire (ρ j))
  wipe : ∀ L, Coupled R Eq (Machine.remember fun m => m.wipe (.front j L))
    (Machine.remember fun m => m.wipe (.front (ρ j) L))

/-- **All single steps on the region `j` are coupled**, and so are its copies. -/
structure Unreserved (R : Link) (ρ : RegionId → RegionId) (S : Bytes → Bytes → Prop)
    (j : RegionId) : Prop extends Primitives R ρ j where
  recordAny : ∀ {e : Event}, e.region? = some j → RecordedAlike R e (e.rename ρ)
  noteAny : ∀ {l : LogLine}, l.region? = some j →
    Coupled R Eq (Machine.note l) (Machine.note (l.rename ρ))
  copyIn : ∀ n data data', S data data' →
    Coupled R Eq (Kernel.copyIn (.front j n) data) (Kernel.copyIn (.front (ρ j) n) data')
  copyOut : ∀ n, Coupled R (fun copy copy' => S copy copy' ∧ copy.length ≤ n.toNat)
    (Kernel.copyOut (.front j n)) (Kernel.copyOut (.front (ρ j) n))

/-- **Coupled steps that make a region**, or name none. -/
structure Originates (R : Link) (ρ : RegionId → RegionId) : Prop where
  draw : ∀ t, Coupled R Eq (Machine.draw t) (Machine.draw t)
  record : ∀ {e : Event}, e.region? = none → RecordedAlike R e e
  note : ∀ {l : LogLine}, l.region? = none → Coupled R Eq (Machine.note l) (Machine.note l)
  posixMemalign : ∀ align L,
    Coupled R (fun made made' => made' = made.map ρ ∧ ∀ j, made = some j → Primitives R ρ j)
      (Kernel.posixMemalign align L) (Kernel.posixMemalign align L)

/-! ## §2. Calls of the operating system. -/

variable {R : Link} {ρ : RegionId → RegionId} {S : Bytes → Bytes → Prop} {j : RegionId}

/-- An event that meets the memory of its own run. -/
theorem RecordedAlike.record {e e' : Event} (h : RecordedAlike R e e') :
    Coupled R Eq (Machine.record e) (Machine.record e') :=
  fun m n hR => h m n hR m n hR

/-- **A call that can be refused** has the same verdict in both runs. -/
theorem Kernel.attempt_coupled {t : Target} {sound sound' : Memory → Bool}
    {event event' : Verdict → SystemCall} {effect effect' : Verdict → Memory → Memory}
    (hdraw : Coupled R Eq (Machine.draw t) (Machine.draw t))
    (hsound : ∀ {m n}, R m n → sound' n.memory = sound m.memory)
    (hrecord : ∀ out, RecordedAlike R (.system (event out)) (.system (event' out)))
    (heffect : ∀ out, Coupled R Eq (Machine.remember (effect out))
      (Machine.remember (effect' out))) :
    Coupled R Eq (attempt t sound event effect) (attempt t sound' event' effect') := by
  intro m n hR
  obtain ⟨hfires, hR₁⟩ := hdraw m n hR
  have hverdict : verdictOn n.faults t (sound' n.memory) =
      verdictOn m.faults t (sound m.memory) := by
    unfold verdictOn
    rw [show n.faults.fires t = m.faults.fires t from hfires.symm, hsound hR]
  rw [run_attempt, run_attempt, hverdict]
  obtain ⟨_, hR₂⟩ := hrecord (verdictOn m.faults t (sound m.memory)) m n hR _ _ hR₁
  obtain ⟨_, hR₃⟩ := heffect (verdictOn m.faults t (sound m.memory)) _ _ hR₂
  exact ⟨rfl, hR₃⟩

/-- A change that only a granted call makes. -/
theorem Kernel.whenGranted_coupled {change change' : Memory → Memory}
    (h : Coupled R Eq (Machine.remember change) (Machine.remember change')) (out : Verdict) :
    Coupled R Eq (Machine.remember (whenGranted change out))
      (Machine.remember (whenGranted change' out)) := by
  cases out with
  | granted => exact h
  | refused => exact fun m n hR => ⟨rfl, hR⟩

namespace Primitives

variable (hP : Primitives R ρ j) (L : UInt64)

include hP

theorem mlock : Coupled R Eq (Kernel.mlock (.front j L)) (Kernel.mlock (.front (ρ j) L)) :=
  Kernel.attempt_coupled (hP.draw _) (fun _ => rfl) (fun _ => hP.record rfl rfl)
    (Kernel.whenGranted_coupled (hP.setPinned true))

theorem munlock : Coupled R Eq (Kernel.munlock (.front j L)) (Kernel.munlock (.front (ρ j) L)) :=
  Kernel.attempt_coupled (hP.draw _) (fun _ => rfl) (fun _ => hP.record rfl rfl)
    (fun _ => hP.setPinned false)

theorem madvise (a : Advice) :
    Coupled R Eq (Kernel.madvise (.front j L) a) (Kernel.madvise (.front (ρ j) L) a) :=
  Kernel.attempt_coupled (hP.draw _) (fun hR => hP.aligned hR L) (fun _ => hP.record rfl rfl)
    (fun _ _ _ hR => ⟨rfl, hR⟩)

/-- Closing pages, or opening them where a refusal may be recorded. -/
theorem mprotect {mode : Protection}
    (hrecord : ∀ out, RecordedAlike R (.system (.mprotect (.front j L) mode out))
      (.system (.mprotect (.front (ρ j) L) mode out))) :
    Coupled R Eq (Kernel.mprotect (.front j L) mode) (Kernel.mprotect (.front (ρ j) L) mode) :=
  Kernel.attempt_coupled (hP.draw _) (fun hR => hP.aligned hR L) hrecord
    (Kernel.whenGranted_coupled (hP.setProtection mode))

theorem free : Coupled R Eq (Kernel.free j) (Kernel.free (ρ j)) := by
  intro m n hR
  obtain ⟨_, hR₁⟩ := hP.recordFree m n hR
  exact hP.retire _ _ hR₁

theorem wipePages : Coupled R Eq (Kernel.wipe (.front j L)) (Kernel.wipe (.front (ρ j) L)) := by
  have hrecord := hP.record (e := .touch (.wipe (.front j L))) rfl rfl
  exact hrecord.record.seq (hP.wipe L)

/-! ## §3. The page functions. -/

theorem advise (a : Advice) :
    Coupled R Eq (Pages.advise (.front j L) a) (Pages.advise (.front (ρ j) L) a) := by
  unfold Pages.advise
  refine (hP.madvise L a).bind ?_
  rintro out _ rfl
  cases out with
  | granted => exact .pure rfl
  | refused => exact hP.note (l := .adviceRefused (.front j L) a) rfl rfl

theorem lock : Coupled R Eq (Pages.lock (.front j L)) (Pages.lock (.front (ρ j) L)) := by
  unfold Pages.lock
  refine (hP.mlock L).bind ?_
  rintro out _ rfl
  cases out with
  | granted => exact (hP.advise L .dontDump).seq (.pure rfl)
  | refused => exact .pure rfl

theorem unlock : Coupled R Eq (Pages.unlock (.front j L)) (Pages.unlock (.front (ρ j) L)) :=
  (hP.advise L .doDump).seq (hP.munlock L)

end Primitives

/-! ## §4. Services. -/

/-- The services that can be looked at alone, in two runs. -/
structure PairedServices (R : Link) (ρ : RegionId → RegionId) (p p' : Platform) (j : RegionId) :
    Prop where
  wipe : ∀ L, Coupled R Eq (p.wipe (.front j L)) (p'.wipe (.front (ρ j) L))
  lock : ∀ L, Coupled R Eq (p.lock (.front j L)) (p'.lock (.front (ρ j) L))
  unlock : ∀ L, Coupled R Eq (p.unlock (.front j L)) (p'.unlock (.front (ρ j) L))
  release : ∀ L, Coupled R Eq (p.release (.front j L)) (p'.release (.front (ρ j) L))
  close : ∀ L, Coupled R Eq (p.protect (.front j L) .noAccess) (p'.protect (.front (ρ j) L) .noAccess)

/-- **A recorded service** is coupled if what it does is. -/
theorem Platform.served_coupled {t : Target} {event event' : Verdict → ServiceCall}
    {service service' : MachineM Verdict}
    (hdraw : Coupled R Eq (Machine.draw t) (Machine.draw t))
    (hservice : Coupled R Eq service service')
    (hrecord : ∀ out, RecordedAlike R (.service (event out)) (.service (event' out))) :
    Coupled R Eq (served t event service) (served t event' service') := by
  intro m n hR
  obtain ⟨hfires, hR₁⟩ := hdraw m n hR
  have hfires' : n.faults.fires t = m.faults.fires t := hfires.symm
  rw [run_served, run_served, hfires']
  cases m.faults.fires t with
  | true =>
      obtain ⟨_, hR₂⟩ := hrecord .refused m n hR _ _ hR₁
      exact ⟨rfl, hR₂⟩
  | false =>
      have hdone := hservice { m with faults := m.faults.tick t }
        { n with faults := n.faults.tick t } hR₁
      rw [if_neg Bool.false_ne_true, if_neg Bool.false_ne_true]
      generalize service.run { m with faults := m.faults.tick t } = done at hdone ⊢
      generalize service'.run { n with faults := n.faults.tick t } = done' at hdone ⊢
      obtain ⟨out, m₁⟩ := done
      obtain ⟨out', n₁⟩ := done'
      obtain ⟨hout, hR₂⟩ := hdone
      cases (hout : out = out')
      obtain ⟨_, hR₃⟩ := hrecord out m n hR _ _ hR₂
      exact ⟨rfl, hR₃⟩

namespace Primitives

/-- **The pages of the operating system.** -/
theorem services_system (hP : Primitives R ρ j) : PairedServices R ρ .system .system j where
  wipe := hP.wipePages
  lock := hP.lock
  unlock := hP.unlock
  release _ := hP.free
  close L := hP.mprotect L fun _ => hP.record rfl rfl

/-- **A platform that records its services.** -/
theorem services_custom (hP : Primitives R ρ j) (page : UInt64) :
    PairedServices R ρ (.custom page) (.custom page) j where
  wipe L := by
    have hrecord := hP.record (e := .service (.wipe (.front j L))) rfl rfl
    exact hrecord.record.seq (hP.wipePages L)
  lock L := Platform.served_coupled (hP.draw _) (hP.lock L) fun _ => hP.record rfl rfl
  unlock L := Platform.served_coupled (hP.draw _) (hP.unlock L) fun _ => hP.record rfl rfl
  release L := by
    intro m n hR
    obtain ⟨_, hR₁⟩ := hP.recordRelease L m n hR
    exact hP.free _ _ hR₁
  close L := Platform.served_coupled (hP.draw _) (hP.mprotect L fun _ => hP.record rfl rfl)
    fun _ => hP.record rfl rfl

/-! ## §5. What the operations of a buffer need. -/

variable {p p' : Platform}

theorem erasing (hP : Primitives R ρ j) (hS : PairedServices R ρ p p' j) : Erasing R ρ p p' j where
  wipe := hS.wipe
  unpin L := by
    unfold SealedBuffer.unpin
    refine (hS.unlock L).bind ?_
    rintro out _ rfl
    cases out with
    | granted => exact .pure rfl
    | refused => exact hP.note (l := .unlockRefused j) rfl rfl
  release := hS.release
  noteDestroyed := hP.note (l := .destroyed j) rfl rfl

theorem furnishing (hP : Primitives R ρ j) (hS : PairedServices R ρ p p' j) :
    Furnishing R ρ p p' j where
  toErasing := hP.erasing hS
  lock L := (hS.lock L).announced (hP.note (l := .lockRefused j L) rfl rfl)
  close L := (hS.close L).announced (hP.note (l := .sealRefused j) rfl rfl)
  noteCreated size L := hP.note (l := .created j size L) rfl rfl

/-- An access opens the pages, which its platform may refuse, and copies. -/
theorem accessing (hP : Primitives R ρ j) (hS : PairedServices R ρ p p' j)
    (hgrant : ∀ L, Coupled R Eq
      (announced (p.protect (.front j L) .readWrite) (.grantRefused j))
      (announced (p'.protect (.front (ρ j) L) .readWrite) (.grantRefused (ρ j))))
    (hin : ∀ n data data', S data data' →
      Coupled R Eq (Kernel.copyIn (.front j n) data) (Kernel.copyIn (.front (ρ j) n) data'))
    (hout : ∀ n, Coupled R (fun copy copy' => S copy copy' ∧ copy.length ≤ n.toNat)
      (Kernel.copyOut (.front j n)) (Kernel.copyOut (.front (ρ j) n))) :
    Accessing R ρ S p p' j where
  toErasing := hP.erasing hS
  grant := hgrant
  revoke L := (hS.close L).announced (hP.note (l := .revokeRefused j) rfl rfl)
  copyIn := hin
  copyOut := hout

/-- A destruction opens the pages, and they may have to be given up. -/
theorem disposing (hP : Primitives R ρ j) (hS : PairedServices R ρ p p' j)
    (hreopen : ∀ L, Coupled R Eq
      (announced (p.protect (.front j L) .readWrite) (.abandoned j L))
      (announced (p'.protect (.front (ρ j) L) .readWrite) (.abandoned (ρ j) L))) :
    Disposing R ρ p p' j where
  toErasing := hP.erasing hS
  reopen := hreopen

end Primitives

namespace Unreserved

variable {p p' : Platform}

/-- Opening pages, whether it is refused or not. -/
theorem open_system (hU : Unreserved R ρ S j) (L : UInt64) :
    Coupled R Eq (Platform.system.protect (.front j L) .readWrite)
      (Platform.system.protect (.front (ρ j) L) .readWrite) :=
  hU.mprotect L fun _ => hU.recordAny rfl

theorem open_custom (hU : Unreserved R ρ S j) (page L : UInt64) :
    Coupled R Eq ((Platform.custom page).protect (.front j L) .readWrite)
      ((Platform.custom page).protect (.front (ρ j) L) .readWrite) :=
  Platform.served_coupled (hU.draw _) (hU.mprotect L fun _ => hU.recordAny rfl)
    fun _ => hU.recordAny rfl

variable (hU : Unreserved R ρ S j) (hS : PairedServices R ρ p p' j)
  (hopen : ∀ L, Coupled R Eq (p.protect (.front j L) .readWrite)
    (p'.protect (.front (ρ j) L) .readWrite))

include hU hS hopen

theorem accessing_of_open : Accessing R ρ S p p' j :=
  hU.accessing hS (fun L => (hopen L).announced (hU.noteAny (l := .grantRefused j) rfl))
    hU.copyIn hU.copyOut

theorem disposing_of_open : Disposing R ρ p p' j :=
  hU.disposing hS fun L => (hopen L).announced (hU.noteAny (l := .abandoned j L) rfl)

end Unreserved

/-! ## §6. New regions. -/

section NewRegions

variable {T : RegionId → RegionId → Prop} {p p' : Platform} {L page : UInt64}

/-- Whole pages are made, or refused, in both runs. -/
theorem Pages.alloc_coupled
    (h : Coupled R (Option.Rel T) (Kernel.posixMemalign page L) (Kernel.posixMemalign page L)) :
    Coupled R (Both T) (alloc L page).run (alloc L page).run := by
  unfold alloc
  refine Coupled.bind_try (Coupled.checked _) fun _ _ _ => ?_
  refine Coupled.lift_bind h fun made made' hmade => ?_
  cases hmade with
  | none => exact .refuse _
  | some related => exact .ok related

/-- **A recorded allocation** is coupled if what it does is. -/
theorem Platform.servedAlloc_coupled
    (hdraw : Coupled R Eq (Machine.draw .allocate) (Machine.draw .allocate))
    (halloc : Coupled R (Both T) (Pages.alloc L page).run (Pages.alloc L page).run)
    (hmade : ∀ j j', T j j' →
      RecordedAlike R (.service (.allocate L (some j))) (.service (.allocate L (some j'))))
    (hnone : RecordedAlike R (.service (.allocate L none)) (.service (.allocate L none))) :
    Coupled R (Both T) (servedAlloc L page).run (servedAlloc L page).run := by
  intro m n hR
  obtain ⟨hfires, hR₁⟩ := hdraw m n hR
  have hfires' : n.faults.fires .allocate = m.faults.fires .allocate := hfires.symm
  have hleft := run_servedAlloc L page m
  have hright := run_servedAlloc L page n
  rw [hfires'] at hright
  cases hf : m.faults.fires .allocate with
  | true =>
      rw [hf, if_pos rfl] at hleft hright
      obtain ⟨_, hR₂⟩ := hnone m n hR _ _ hR₁
      rw [hleft, hright]
      exact ⟨.error _, hR₂⟩
  | false =>
      rw [hf, if_neg Bool.false_ne_true] at hleft hright
      obtain ⟨hresult, hR₂⟩ := halloc _ _ hR₁
      -- the two results are split together
      generalize hx : StateT.run (Pages.alloc L page).run
        { m with faults := m.faults.tick .allocate } = x at hleft
      generalize hy : StateT.run (Pages.alloc L page).run
        { n with faults := n.faults.tick .allocate } = y at hright
      have hresult' : Both T x.1 y.1 := hx ▸ hy ▸ hresult
      have hR₂' : R x.2 y.2 := hx ▸ hy ▸ hR₂
      obtain ⟨r, m₁⟩ := x
      obtain ⟨r', n₁⟩ := y
      cases hresult' with
      | ok related =>
          obtain ⟨_, hR₃⟩ := hmade _ _ related m n hR _ _ hR₂'
          rw [hleft, hright]
          exact ⟨.ok related, hR₃⟩
      | error e =>
          rw [hleft, hright]
          cases e with
          | refused e =>
              obtain ⟨_, hR₃⟩ := hnone m n hR _ _ hR₂'
              exact ⟨.error _, hR₃⟩
          | trapped t => exact ⟨.error _, hR₂'⟩

/-- A refused allocation is logged, and nothing is made. -/
theorem SealedBuffer.obtain_coupled
    (hnote : Coupled R Eq (Machine.note (.allocationRefused L)) (Machine.note (.allocationRefused L)))
    (h : Coupled R (Both T) (p.allocate L).run (p'.allocate L).run) :
    Coupled R (Both T) (obtain p L).run (obtain p' L).run := by
  show Coupled R (Both T) ((p.allocate L).run >>= _) ((p'.allocate L).run >>= _)
  refine h.bind fun r r' hrr' => ?_
  cases hrr' with
  | ok related => exact .pure (.ok related)
  | error e =>
      cases e with
      | refused e => exact hnote.seq (.pure (.error _))
      | trapped t => exact .pure (.error _)

end NewRegions

namespace Originates

variable (hO : Originates R ρ)

include hO

theorem alloc (L page : UInt64) :
    Coupled R (Both fun j j' => j' = ρ j ∧ Primitives R ρ j) (Pages.alloc L page).run
      (Pages.alloc L page).run := by
  refine Pages.alloc_coupled ((hO.posixMemalign page L).mono ?_)
  rintro made _ ⟨rfl, hP⟩
  cases made with
  | none => exact .none
  | some j => exact .some ⟨rfl, hP j rfl⟩

theorem servedAlloc (L page : UInt64) :
    Coupled R (Both fun j j' => j' = ρ j ∧ Primitives R ρ j) (Platform.servedAlloc L page).run
      (Platform.servedAlloc L page).run := by
  refine Platform.servedAlloc_coupled (hO.draw _) (hO.alloc L page) ?_ (hO.record rfl)
  rintro j _ ⟨rfl, hP⟩
  exact hP.record (e := .service (.allocate L (some j))) rfl rfl

/-- **New regions of the operating system.** -/
theorem creating_system : Creating R ρ .system .system where
  pageSize := .pure rfl
  obtain L := SealedBuffer.obtain_coupled (hO.note rfl) <| (hO.alloc L _).mono fun _ _ h => by
    cases h with
    | ok related => exact .ok ⟨related.1, related.2.furnishing related.2.services_system⟩
    | error e => exact .error e

/-- **New regions of a platform that records its services.** -/
theorem creating_custom (page : UInt64) : Creating R ρ (.custom page) (.custom page) where
  pageSize := (hO.record (e := .service (.pageSize page)) rfl).record.seq (.pure rfl)
  obtain L := SealedBuffer.obtain_coupled (hO.note rfl) <| (hO.servedAlloc L _).mono fun _ _ h => by
    cases h with
    | ok related => exact .ok ⟨related.1, related.2.furnishing (related.2.services_custom page)⟩
    | error e => exact .error e

end Originates

/-! ## §7. A property of a single run. -/

/-- **A property that single steps on the region `j` keep**, apart from refused openings. -/
structure KeptOn (P : Machine → Prop) (j : RegionId) : Prop where
  draw : ∀ t, Preserves P (Machine.draw t)
  record : ∀ {e : Event}, e.region? = some j → e.denied? = none →
    ∀ met, Preserves P (Machine.recordAt met e)
  note : ∀ {l : LogLine}, l.region? = some j → l.denied? = none → Preserves P (Machine.note l)
  update : ∀ f, Preserves P (Machine.remember fun m => m.update j f)

/-- **A property that is kept where regions are made**, and by steps on the new region. -/
structure KeptByMaking (P : Machine → Prop) : Prop where
  draw : ∀ t, Preserves P (Machine.draw t)
  record : ∀ {e : Event}, e.region? = none → ∀ met, Preserves P (Machine.recordAt met e)
  note : ∀ {l : LogLine}, l.region? = none → Preserves P (Machine.note l)
  fresh : ∀ m, P m → KeptOn P m.memory.nextId
  grow : ∀ r, Preserves P (Machine.remember fun m => m.grow r)

variable {P : Machine → Prop}

theorem Preserves.recordedAlike {e : Event} (h : ∀ met, Preserves P (Machine.recordAt met e)) :
    RecordedAlike (Diagonal P) e (e.rename id) := by
  rintro m n ⟨rfl, _⟩
  rw [e.rename_id]
  exact (h m.memory).coupled

theorem Preserves.noted {l : LogLine} (h : Preserves P (Machine.note l)) :
    Coupled (Diagonal P) Eq (Machine.note l) (Machine.note (l.rename id)) := by
  rw [l.rename_id]
  exact h.coupled

namespace KeptOn

theorem primitives (hP : KeptOn P j) : Primitives (Diagonal P) id j where
  draw t := (hP.draw t).coupled
  aligned := by
    rintro m n ⟨rfl, _⟩ L
    rfl
  record he hd := Preserves.recordedAlike (hP.record he hd)
  recordFree := Preserves.coupled fun m hm => hP.record rfl rfl m.memory m hm
  recordRelease L := Preserves.coupled fun m hm => hP.record rfl rfl m.memory m hm
  note hl hd := (hP.note hl hd).noted
  setPinned pinned := (hP.update _).coupled
  setProtection mode := (hP.update _).coupled
  retire := (hP.update _).coupled
  wipe L := (hP.update _).coupled

theorem copyIn (hP : KeptOn P j) (n : UInt64) {data data' : Bytes} (h : data = data') :
    Coupled (Diagonal P) Eq (Kernel.copyIn (.front j n) data) (Kernel.copyIn (.front j n) data') := by
  subst h
  exact Preserves.coupled fun m hm =>
    hP.update _ _ (hP.record (e := .touch (.copyIn (.front j n))) rfl rfl m.memory m hm)

theorem copyOut (hP : KeptOn P j) (n : UInt64) :
    Coupled (Diagonal P) (fun copy copy' => copy = copy' ∧ copy.length ≤ n.toNat)
      (Kernel.copyOut (.front j n)) (Kernel.copyOut (.front j n)) := by
  intro m m' hR
  obtain ⟨rfl, hm⟩ := hR
  exact ⟨⟨rfl, m.memory.length_read_le (.front j n)⟩, rfl,
    hP.record (e := .touch (.copyOut (.front j n))) rfl rfl m.memory m hm⟩

/-- Where refused openings keep the property as well, everything does. -/
theorem unreserved (hP : KeptOn P j)
    (hrecord : ∀ {e : Event}, e.region? = some j → ∀ met, Preserves P (Machine.recordAt met e))
    (hnote : ∀ {l : LogLine}, l.region? = some j → Preserves P (Machine.note l)) :
    Unreserved (Diagonal P) id Eq j where
  toPrimitives := hP.primitives
  recordAny he := Preserves.recordedAlike (hrecord he)
  noteAny hl := (hnote hl).noted
  copyIn n _ _ h := hP.copyIn n h
  copyOut := hP.copyOut

end KeptOn

theorem KeptByMaking.originates (hP : KeptByMaking P) : Originates (Diagonal P) id where
  draw t := (hP.draw t).coupled
  record he m n hR := by
    obtain ⟨rfl, _⟩ := hR
    exact (hP.record he m.memory).coupled
  note hl := (hP.note hl).coupled
  posixMemalign align L := by
    rintro m n ⟨rfl, hm⟩
    have hdrawn : P { m with faults := m.faults.tick .posixMemalign } := hP.draw _ m hm
    rw [Kernel.run_posixMemalign]
    split
    · have hfresh := hP.fresh m hm
      have hrecorded := hfresh.record
        (e := .system (.posixMemalign align L (some m.memory.nextId))) rfl rfl m.memory _ hdrawn
      refine ⟨⟨rfl, ?_⟩, rfl, hP.grow (.fresh align L.toNat) _ hrecorded⟩
      rintro j ⟨⟩
      exact hfresh.primitives
    · refine ⟨⟨rfl, by simp⟩, rfl, ?_⟩
      exact hP.record (e := .system (.posixMemalign align L none)) rfl m.memory _ hdrawn

end SealedPages
