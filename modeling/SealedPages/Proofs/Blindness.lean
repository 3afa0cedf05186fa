/-
  SealedPages.Proofs.Blindness
  ────────────────────────────
  **THE RECORD IS WRITTEN AND NEVER READ.**  What an operation does depends on the memory and
  on the faults to come, and not on the moments and the log lines of the past.  So on two
  machines whose memory and faults are the same, it gives the same value, adds the same
  moments and the same lines, and leaves memory and faults the same again.  This lets a run
  be compared with another one that has logged more.

  Main statements:
    * `InStep.unreserved`, `InStep.originates` — single steps do not look at the record;
    * `Blind.create`, `Blind.write`, `Blind.readInto`, `Blind.letGo` — nor do the operations
      of a buffer on the pages of the operating system;
    * `Blind.run` — what a blind computation does on two machines.
-/
import SealedPages.Proofs.PairedSessions

namespace SealedPages

/-! ## §1. Machines that differ in their past. -/

/-- **Machines with the same memory and the same faults to come.** -/
structure Machine.SameState (m n : Machine) : Prop where
  memory : n.memory = m.memory
  faults : n.faults = m.faults

/-- Machines in the same state that have recorded the same since they were `m₀` and `n₀`. -/
structure InStep (m₀ n₀ m n : Machine) : Prop extends Machine.SameState m n where
  trace : ∃ new, m.trace = m₀.trace ++ new ∧ n.trace = n₀.trace ++ new
  log : ∃ new, m.log = m₀.log ++ new ∧ n.log = n₀.log ++ new

theorem Machine.SameState.inStep {m n : Machine} (h : m.SameState n) : InStep m n m n :=
  ⟨h, ⟨[], by simp⟩, ⟨[], by simp⟩⟩

namespace InStep

variable {m₀ n₀ m n : Machine} {j : RegionId}

theorem trans {m' n' : Machine} (h : InStep m₀ n₀ m n) (h' : InStep m n m' n') :
    InStep m₀ n₀ m' n' := by
  obtain ⟨T, hm, hn⟩ := h.trace
  obtain ⟨T', hm', hn'⟩ := h'.trace
  obtain ⟨L, hml, hnl⟩ := h.log
  obtain ⟨L', hml', hnl'⟩ := h'.log
  refine ⟨h'.toSameState, ⟨T ++ T', ?_, ?_⟩, ⟨L ++ L', ?_, ?_⟩⟩
  · rw [hm', hm, List.append_assoc]
  · rw [hn', hn, List.append_assoc]
  · rw [hml', hml, List.append_assoc]
  · rw [hnl', hnl, List.append_assoc]

/-- **What both have added to their records is the same.** -/
theorem drop_eq (h : InStep m₀ n₀ m n) :
    m.trace.drop m₀.trace.length = n.trace.drop n₀.trace.length ∧
      m.log.drop m₀.log.length = n.log.drop n₀.log.length := by
  obtain ⟨T, hm, hn⟩ := h.trace
  obtain ⟨L, hml, hnl⟩ := h.log
  rw [hm, hn, hml, hnl]
  simp only [List.drop_left, and_self]

/-- **Two parts, between which one of the machines has written lines of its own.** -/
theorem drop_eq_of_noted {m₁ n₁ m₂ n₂ : Machine} {lines : List LogLine} (h : InStep m n m₁ n₁)
    (h' : InStep { m₁ with log := m₁.log ++ lines } n₁ m₂ n₂) :
    m₂.trace.drop m.trace.length =
        n₁.trace.drop n.trace.length ++ n₂.trace.drop n₁.trace.length ∧
      m₂.log.drop m.log.length =
        n₁.log.drop n.log.length ++ lines ++ n₂.log.drop n₁.log.length := by
  obtain ⟨T, hm₁, hn₁⟩ := h.trace
  obtain ⟨T', hm₂, hn₂⟩ := h'.trace
  obtain ⟨L, hml₁, hnl₁⟩ := h.log
  obtain ⟨L', hml₂, hnl₂⟩ := h'.log
  constructor
  · rw [hm₂, hm₁, hn₂, hn₁]
    simp
  · rw [hml₂, hml₁, hnl₂, hnl₁]
    simp

/-- Both record the same event, which met the same memory. -/
theorem record (h : InStep m₀ n₀ m n) {x y : Moment} (hxy : y = x) :
    InStep m₀ n₀ { m with trace := m.trace ++ [x] } { n with trace := n.trace ++ [y] } := by
  subst hxy
  refine ⟨⟨h.memory, h.faults⟩, ?_, h.log⟩
  obtain ⟨new, hm, hn⟩ := h.trace
  refine ⟨new ++ [y], ?_, ?_⟩
  · rw [← List.append_assoc, ← hm]
  · rw [← List.append_assoc, ← hn]

/-- Both write the same line. -/
theorem note (h : InStep m₀ n₀ m n) (l : LogLine) :
    InStep m₀ n₀ { m with log := m.log ++ [l] } { n with log := n.log ++ [l] } := by
  refine ⟨⟨h.memory, h.faults⟩, h.trace, ?_⟩
  obtain ⟨new, hm, hn⟩ := h.log
  refine ⟨new ++ [l], ?_, ?_⟩
  · rw [← List.append_assoc, ← hm]
  · rw [← List.append_assoc, ← hn]

/-- Both change their memory in the same way. -/
theorem remember (h : InStep m₀ n₀ m n) (f : Memory → Memory) :
    InStep m₀ n₀ { m with memory := f m.memory } { n with memory := f n.memory } :=
  ⟨⟨congrArg f h.memory, h.faults⟩, h.trace, h.log⟩

theorem setFaults (h : InStep m₀ n₀ m n) (f : Faults → Faults) :
    InStep m₀ n₀ { m with faults := f m.faults } { n with faults := f n.faults } :=
  ⟨⟨h.memory, congrArg f h.faults⟩, h.trace, h.log⟩

/-! ## §2. Single steps. -/

theorem draw_coupled (t : Target) :
    Coupled (InStep m₀ n₀) Eq (Machine.draw t) (Machine.draw t) := by
  intro m n h
  refine ⟨?_, h.setFaults (·.tick t)⟩
  show m.faults.fires t = n.faults.fires t
  rw [h.faults]

theorem note_coupled (l : LogLine) : Coupled (InStep m₀ n₀) Eq (Machine.note l) (Machine.note l) :=
  fun _ _ h => ⟨rfl, h.note l⟩

theorem remember_coupled (f : Memory → Memory) :
    Coupled (InStep m₀ n₀) Eq (Machine.remember f) (Machine.remember f) :=
  fun _ _ h => ⟨rfl, h.remember f⟩

theorem recordedAlike (e : Event) : RecordedAlike (InStep m₀ n₀) e e := by
  intro m n hR m₁ n₁ h
  exact ⟨rfl, h.record (congrArg (Moment.mk · e) hR.memory)⟩

/-- An event that is made from the memory as it stands. -/
theorem recordOf_coupled (f : Memory → Event) :
    Coupled (InStep m₀ n₀) Eq (get >>= fun m => Machine.record (f m.memory))
      (get >>= fun n => Machine.record (f n.memory)) := by
  intro m n h
  refine ⟨rfl, h.record ?_⟩
  show Moment.mk n.memory (f n.memory) = Moment.mk m.memory (f m.memory)
  rw [h.memory]

theorem primitives : Primitives (InStep m₀ n₀) id j where
  draw := draw_coupled
  aligned hR L := by
    rw [hR.memory]
    rfl
  record {e} _ _ := by
    rw [e.rename_id]
    exact recordedAlike e
  recordFree := recordOf_coupled fun memory => .system (.free j (memory.nonzero j))
  recordRelease L := recordOf_coupled fun memory =>
    .service (.release (.front j L) (memory.nonzero j))
  note {l} _ _ := by
    rw [l.rename_id]
    exact note_coupled l
  setPinned _ := remember_coupled _
  setProtection _ := remember_coupled _
  retire := remember_coupled _
  wipe _ := remember_coupled _

/-- **No single step on a region looks at the record.** -/
theorem unreserved : Unreserved (InStep m₀ n₀) id Eq j where
  toPrimitives := primitives
  recordAny {e} _ := by
    rw [e.rename_id]
    exact recordedAlike e
  noteAny {l} _ := by
    rw [l.rename_id]
    exact note_coupled l
  copyIn n data data' hdata := by
    subst hdata
    exact (recordedAlike _).record.seq (remember_coupled _)
  copyOut n := by
    intro m m' h
    obtain ⟨_, h₁⟩ := (recordedAlike (.touch (.copyOut (.front j n)))).record m m' h
    refine ⟨⟨?_, m.memory.length_read_le (.front j n)⟩, h₁⟩
    show m.memory.read (.front j n) = m'.memory.read (.front j n)
    rw [h.memory]

/-- **Nor does the making of a region.** -/
theorem originates : Originates (InStep m₀ n₀) id where
  draw := draw_coupled
  record _ := recordedAlike _
  note _ := note_coupled _
  posixMemalign align L := by
    intro m n h
    have hfires : n.faults.fires .posixMemalign = m.faults.fires .posixMemalign := by
      rw [h.faults]
    have hticked := h.setFaults (·.tick .posixMemalign)
    rw [Kernel.run_posixMemalign, Kernel.run_posixMemalign, hfires]
    split
    · have hnext : n.memory.nextId = m.memory.nextId := by
        rw [h.memory]
      refine ⟨⟨hnext ▸ rfl, fun _ _ => primitives⟩, ?_⟩
      refine (hticked.remember (·.grow (.fresh align L.toNat))).record ?_
      show Moment.mk n.memory _ = Moment.mk m.memory _
      rw [h.memory]
    · refine ⟨⟨rfl, by simp⟩, hticked.record ?_⟩
      exact congrArg (Moment.mk · _) h.memory

end InStep

/-! ## §3. Operations that do not look at the record. -/

variable {α β : Type}

/-- **A computation that does not look at the record.** -/
def Blind (x : MachineM α) : Prop :=
  ∀ m₀ n₀, Coupled (InStep m₀ n₀) Eq x x

namespace Blind

theorem pure (a : α) : Blind (Pure.pure a : MachineM α) :=
  fun _ _ => .pure rfl

theorem bind {x : MachineM α} {f : α → MachineM β} (hx : Blind x) (hf : ∀ a, Blind (f a)) :
    Blind (x >>= f) := by
  intro m₀ n₀
  refine (hx m₀ n₀).bind ?_
  rintro a _ rfl
  exact hf a m₀ n₀

theorem schedule (t : Target) (places : List Nat) : Blind (Machine.schedule t places) :=
  fun _ _ _ _ h => ⟨rfl, h.setFaults (·.schedule t places)⟩

/-- **What a blind computation does on two machines in the same state.** -/
theorem run {x : MachineM α} (hx : Blind x) {m n : Machine} (h : m.SameState n) :
    ∃ a m' n', x.run m = (a, m') ∧ x.run n = (a, n') ∧ InStep m n m' n' := by
  obtain ⟨hvalue, hstep⟩ := hx m n m n h.inStep
  refine ⟨(x.run m).1, (x.run m).2, (x.run n).2, rfl, ?_, hstep⟩
  exact Prod.ext hvalue.symm rfl

/-! ## §4. The operations of a buffer. -/

variable {m₀ n₀ : Machine} {j : RegionId}

theorem accessing_system : Accessing (InStep m₀ n₀) id Eq .system .system j :=
  InStep.unreserved.accessing_of_kind .system Kernel.pageSize

theorem disposing_system : Disposing (InStep m₀ n₀) id .system .system j :=
  InStep.unreserved.disposing_of_kind .system Kernel.pageSize

theorem create (size : UInt64) : Blind (SealedBuffer.create .system size).run := by
  intro m₀ n₀
  refine (SealedBuffer.create_coupled InStep.originates.creating_system size).mono ?_
  intro r r' h
  cases h with
  | ok related => rw [related, SealedBuffer.rename_id]
  | error e => rfl

theorem letGo (b : SealedBuffer) : Blind (b.letGo .system) := by
  intro m₀ n₀
  have h : Coupled (InStep m₀ n₀) Eq (b.letGo .system) ((b.rename id).letGo .system) :=
    SealedBuffer.letGo_coupled fun _ _ => disposing_system
  rwa [b.rename_id] at h

theorem write (b : SealedBuffer) (data : Bytes) : Blind (b.write .system data) := by
  intro m₀ n₀
  have h : Coupled (InStep m₀ n₀) (SealedBuffer.Outcome.Paired id Eq) (b.write .system data)
      ((b.rename id).write .system data) :=
    SealedBuffer.write_coupled (fun _ _ => accessing_system) rfl rfl
  rw [b.rename_id] at h
  exact h.mono fun o o' ho => ho.eq

theorem readInto (b : SealedBuffer) (out : Bytes) : Blind (b.readInto .system out) := by
  intro m₀ n₀
  have h := SealedBuffer.readInto_coupled (R := InStep m₀ n₀) (b := b)
    (fun _ _ => accessing_system) out
  rw [b.rename_id] at h
  refine h.mono ?_
  intro x x' hx
  obtain ⟨ho, hcopies⟩ := hx
  refine Prod.ext ?_ ho.eq
  -- the bytes are the same, be it those that were read or those that were there
  unfold SealedBuffer.Copies at hcopies
  cases hr : x.2.result with
  | ok _ =>
      rw [hr] at hcopies
      exact hcopies.1
  | error e =>
      rw [hr] at hcopies
      exact hcopies.symm

theorem destroy (h : Handle) : Blind h.destroy := by
  cases h with
  | none => exact pure ()
  | some b => exact letGo b

theorem destroyAll (bs : List SealedBuffer) : Blind (HandleScript.destroyAll bs) := by
  induction bs with
  | nil => exact pure ()
  | cons b rest ih => exact (destroy (some b)).bind fun _ => ih

end Blind

end SealedPages
