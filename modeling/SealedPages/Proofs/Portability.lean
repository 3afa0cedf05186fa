/-
  SealedPages.Proofs.Portability
  ──────────────────────────────
  **A BUFFER KNOWS ITS PLATFORM BY THE INTERFACE ALONE.**  Play a script of buffers on the
  operating system's own pages, and play it again on a platform that records its services,
  with pages of the same size.  A fault of a call becomes a fault of the service that makes
  the call.  Then both runs are answered the same, write the same log and leave the same
  regions, and the calls of the first run are the services of the second one, each written
  out as the calls that it stands for.

  Main statements:
    * `BufferScript.perform_ported` — a step on two linked machines;
    * `BufferScript.step_ported` — two runs that are abreast stay so, and report the same;
    * `BufferScript.same_on_both_platforms` — whole scripts.
-/
import SealedPages.Proofs.Counterparts

namespace SealedPages

/-! ## §1. Steps of a script. -/

/-- **Two reports that tell the same**: on the operating system's pages, and on services that are
written out as calls. -/
structure Report.Ported {α : Type} (r r' : Report α) : Prop where
  reply : r'.reply = r.reply
  calls : r.trace.flatMap (·.event.systemCalls) = r'.trace.flatMap (·.event.writtenOut)
  log : r'.log = r.log

theorem Report.ReadAlike.ported {α : Type} {r r' : Report α}
    (h : Report.ReadAlike .calls .services (fun a a' => a' = a) r r') : Report.Ported r r' where
  reply := h.reply
  calls := h.trace.symm
  log := by
    have hlog : r'.log.flatMap (fun l => [l]) = r.log.flatMap fun l => [l] := h.log
    simpa using hlog

/-- What is held is known to exist. -/
theorem Custody.known {v : View} {hs : List Holding} {m : Machine} (c : Custody v hs m)
    {h : Holding} (hmem : h ∈ hs) : 0 < h.region ∧ h.region < m.memory.nextId := by
  obtain ⟨r, hr, _⟩ := (c.held h hmem).region
  have hfind : m.memory.find? h.region = some r := hr
  refine ⟨Nat.pos_of_ne_zero ?_, Memory.lt_nextId_of_find? hfind⟩
  intro hzero
  rw [hzero] at hfind
  cases hfind

namespace BufferScript

/-- Whether a step means the same on both platforms: it does not set the page size, and the
calls that it makes fail are made by services. -/
def Step.isPortable (x : Step) : Bool :=
  match x.action with
  | .setPageSize _ => false
  | .fault t _     => t.isServed
  | _              => true

/-- The step for a platform that records its services: what it makes fail are these. -/
def Step.served (x : Step) : Step :=
  match x.action with
  | .fault t places => ⟨x.slot, .fault t.service places⟩
  | _               => x

variable {known : RegionId} {s s' : Session} {m n : Machine}

/-- **A step is answered the same**, where the regions that the slot holds are known to exist. -/
theorem perform_ported {x : Step} (hx : x.isPortable = true) (hslots : s'.slots = s.slots)
    (hpage : s'.page = Kernel.pageSize)
    (hheld : ∀ h ∈ heldBy (s.slots.get? x.slot), 0 < h.region ∧ h.region < known) :
    Coupled (Ported known)
      (fun y y' => y'.1 = y.1 ∧ y'.2.slots = y.2.slots ∧ y'.2.page = Kernel.pageSize)
      (perform .system s x) (perform .custom s' x.served) := by
  obtain ⟨slot, action⟩ := x
  have hoperation : ∀ {a : Action}, a.Paired Eq a → Coupled (Ported known)
      (fun y y' => y'.1 = y.1 ∧ y'.2.slots = y.2.slots ∧ y'.2.page = Kernel.pageSize)
      (perform .system s ⟨slot, a⟩) (perform .custom s' ⟨slot, a⟩) := by
    intro a ha
    have hplatform : PlatformKind.custom.platform s'.page = .custom Kernel.pageSize := by
      rw [hpage]
      rfl
    refine Coupled.mono (perform_interchangeable ha hslots ?_ ?_) ?_
    · intro size
      rw [hplatform]
      exact SealedBuffer.create_founded Ported.founding size
    · intro h hmem
      obtain ⟨hpos, hlt⟩ := hheld h hmem
      rw [hplatform]
      exact Ported.interchangeable hpos hlt _
    · intro y y' hy
      exact ⟨hy.1, hy.2.slots_eq hslots, hy.2.page_eq'.trans hpage⟩
  have hstatus : (s'.slots.get? slot).map (·.status) = (s.slots.get? slot).map (·.status) := by
    rw [hslots]
  cases action with
  | create size => exact hoperation (.create size)
  | use u => exact hoperation (.use (.same u))
  | setPageSize value => cases hx
  | fault target places =>
      intro m n h
      refine ⟨⟨congrArg (Answer.mk .silent none) hstatus, hslots, hpage⟩, ?_⟩
      exact ⟨h.faults.schedule hx places, h.memory, ⟨h.record.trace, h.record.log⟩, h.made⟩
  | peek region first len =>
      intro m n h
      have hsight := h.memory.peek_eq region first len
      refine ⟨⟨?_, hslots, hpage⟩, h⟩
      show Answer.mk (.sight (n.memory.peek region first len)) none _ =
        Answer.mk (.sight (m.memory.peek region first len)) none _
      rw [hsight]
      exact congrArg (Answer.mk _ none) hstatus

/-- **The two runs of a script, after some steps.** -/
structure Abreast (scene scene' : Script.Scene Session) : Prop where
  slots : scene'.session.slots = scene.session.slots
  page : scene'.session.page = Kernel.pageSize
  ported : Ported 0 scene.machine scene'.machine
  custody : Custody .systemCalls scene.session.slots.holdings scene.machine
  custody' : Custody .serviceCalls scene'.session.slots.holdings scene'.machine

/-- **After one more step** the runs are abreast again, and they have reported the same. -/
theorem step_ported {scene scene' : Script.Scene Session} (h : Abreast scene scene') {x : Step}
    (hx : x.isPortable = true) :
    Report.Ported (Script.playStep (perform .system) scene x).1
        (Script.playStep (perform .custom) scene' x.served).1 ∧
      Abreast (Script.playStep (perform .system) scene x).2
        (Script.playStep (perform .custom) scene' x.served).2 := by
  have hheld : ∀ g ∈ heldBy (scene.session.slots.get? x.slot),
      0 < g.region ∧ g.region < scene.machine.memory.nextId := fun g hg =>
    (h.custody.of_slot x.slot).known (List.mem_append_left _ hg)
  obtain ⟨⟨hanswer, hslots, hpage⟩, hported⟩ :=
    perform_ported hx h.slots h.page hheld _ _ h.ported.all
  constructor
  · have hgrows := (keeps_custody .system).grows h.custody x
    have hgrows' := (keeps_custody .custom).grows h.custody' x.served
    have hreport : Report.ReadAlike .calls .services (fun a a' => a' = a)
        (Script.playStep (perform .system) scene x).1
        (Script.playStep (perform .custom) scene' x.served).1 :=
      Script.playStep_alike hgrows hgrows' h.ported.record hported.record hanswer
    exact hreport.ported
  · exact ⟨hslots, hpage, hported.mono (Nat.zero_le _), (keeps_custody .system).run h.custody x,
      (keeps_custody .custom).run h.custody' x.served⟩

/-! ## §2. Whole scripts. -/

/-- The buffers that are held at the end are let go of alike. -/
theorem giveUp_ported {scene scene' : Script.Scene Session} (h : Abreast scene scene') :
    Ported 0 ((giveUp .system scene.session).run scene.machine).2
      ((giveUp .custom scene'.session).run scene'.machine).2 := by
  have hgiven := letGoAll_interchangeable scene.session.slots.values fun g hg =>
    Ported.interchangeable (h.custody.known hg).1 (h.custody.known hg).2 scene'.session.page
  obtain ⟨_, hported⟩ := hgiven _ _ h.ported.all
  unfold giveUp
  rw [h.slots]
  exact hported.mono (Nat.zero_le _)

theorem report_giveUp_ported {scene scene' : Script.Scene Session} (h : Abreast scene scene') :
    Report.Ported (scene.machine.report (giveUp .system scene.session)).1
      (scene'.machine.report (giveUp .custom scene'.session)).1 := by
  have hgrows := (giveUp_handover .system h.custody).grows
  have hgrows' := (giveUp_handover .custom h.custody').grows
  have hreport : Report.ReadAlike .calls .services (fun a a' => a' = a)
      (scene.machine.report (giveUp .system scene.session)).1
      (scene'.machine.report (giveUp .custom scene'.session)).1 :=
    Machine.report_alike hgrows hgrows' h.ported.record (giveUp_ported h).record rfl
  exact hreport.ported

end BufferScript

/-- **Two transcripts that tell the same**, step by step and at the end. -/
structure Script.Transcript.Ported {α : Type} (t t' : Script.Transcript α) : Prop where
  answers : List.Forall₂ Report.Ported t.answers t'.answers
  calls : t.ending.trace.flatMap (·.event.systemCalls) =
    t'.ending.trace.flatMap (·.event.writtenOut)
  log : t'.ending.log = t.ending.log
  leaked : t'.ending.leaked = t.ending.leaked

namespace BufferScript

/-- **A script runs the same on both platforms.**  Take a script that makes no advice fail and
does not set the page size.  Its answers, log lines and leaks on the operating system's pages
are those on a platform that records its services, with pages of the same size and with the
services made to fail instead of the calls that they make; and its calls are the services,
written out. -/
theorem same_on_both_platforms (page : UInt64) (steps : List Step)
    (h : ∀ x ∈ steps, x.isPortable = true) :
    Script.Transcript.Ported (run .system page steps)
      (run .custom Kernel.pageSize (steps.map Step.served)) := by
  have hsteps : List.Forall₂ (fun x y => x.isPortable = true ∧ y = x.served) steps
      (steps.map Step.served) := by
    rw [List.forall₂_map_right_iff, List.forall₂_same]
    intro x hx
    exact ⟨h x hx, rfl⟩
  have hstart : Abreast ⟨{ page }, {}⟩ ⟨{ page := Kernel.pageSize }, {}⟩ :=
    ⟨rfl, rfl, .start, Custody.start _, Custody.start _⟩
  have hstep : ∀ {scene scene' x y}, Abreast scene scene' → x.isPortable = true ∧ y = x.served →
      Report.Ported (Script.playStep (perform .system) scene x).1
          (Script.playStep (perform .custom) scene' y).1 ∧
        Abreast (Script.playStep (perform .system) scene x).2
          (Script.playStep (perform .custom) scene' y).2 := by
    intro scene scene' x y habreast hxy
    obtain ⟨hx, rfl⟩ := hxy
    exact step_ported habreast hx
  obtain ⟨hanswers, hlast⟩ := Script.play_in_step hstep hsteps hstart
  have hreport := report_giveUp_ported hlast
  exact ⟨hanswers, hreport.calls, hreport.log, (giveUp_ported hlast).memory.liveIds_eq⟩

/-- The pages of one buffer cannot be pinned, and those of another one do not close after a
write and are not unpinned. -/
theorem same_where_pages_do_not_close :
    (∀ x ∈ ([⟨0, .fault .mlock [1]⟩, ⟨0, .create 3⟩, ⟨0, .create 5⟩, ⟨0, .fault .mprotect [2]⟩,
        ⟨0, .fault .munlock [1]⟩, ⟨0, .use (.write [1, 2])⟩] : List Step), x.isPortable = true) ∧
    Script.Transcript.Ported
      (run .system 0 [⟨0, .fault .mlock [1]⟩, ⟨0, .create 3⟩, ⟨0, .create 5⟩,
        ⟨0, .fault .mprotect [2]⟩, ⟨0, .fault .munlock [1]⟩, ⟨0, .use (.write [1, 2])⟩])
      (run .custom Kernel.pageSize [⟨0, .fault .lock [1]⟩, ⟨0, .create 3⟩, ⟨0, .create 5⟩,
        ⟨0, .fault .protect [2]⟩, ⟨0, .fault .unlock [1]⟩, ⟨0, .use (.write [1, 2])⟩]) := by
  have hportable : ∀ x ∈ ([⟨0, .fault .mlock [1]⟩, ⟨0, .create 3⟩, ⟨0, .create 5⟩,
      ⟨0, .fault .mprotect [2]⟩, ⟨0, .fault .munlock [1]⟩, ⟨0, .use (.write [1, 2])⟩] : List Step),
      x.isPortable = true := by decide
  exact ⟨hportable, same_on_both_platforms 0 _ hportable⟩

end BufferScript

end SealedPages
