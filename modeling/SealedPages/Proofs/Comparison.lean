/-
  SealedPages.Proofs.Comparison
  ─────────────────────────────
  **TWO RUNS BY WHAT CAN BE SEEN OF THEM.**  Runs that make different calls cannot agree on
  everything.  Two means of comparing them nevertheless are given here:

    * `Memory.unpinned` forgets which regions are pinned.  No look at raw memory, no count of
      nonzero bytes and no list of live regions tells of that mark, so memories that differ in
      it show the same.
    * A `Reading` takes something from every moment and from every log line of a record.  If two
      growing records are read alike before a step and after it, then what the step has added
      to them is read alike.

  Main statements:
    * `Memory.unpinned_update` — a change that is not about the mark passes through;
    * `Memory.peek_unpinned`, `Memory.liveIds_unpinned` — what is seen does not tell of the mark;
    * `Machine.report_alike` — a step is reported alike;
    * `BufferScript.perform_interchangeable` — a step of a script, on two platforms.
-/
import SealedPages.Proofs.PairedSessions

namespace SealedPages

/-! ## §1. Memory, but for the pins. -/

/-- The region, as if it were not pinned. -/
def Region.unpinned (r : Region) : Region :=
  { r with pinned := false }

namespace Memory

/-- The memory, as if no region were pinned. -/
def unpinned (m : Memory) : Memory :=
  ⟨m.regions.map Region.unpinned⟩

theorem find?_unpinned (m : Memory) (id : RegionId) :
    m.unpinned.find? id = (m.find? id).map Region.unpinned := by
  cases id with
  | zero => rfl
  | succ n => exact List.getElem?_map

theorem nextId_unpinned (m : Memory) : m.unpinned.nextId = m.nextId := by
  simp [nextId, unpinned]

/-- **A change passes through**, as far as it is not about the mark. -/
theorem unpinned_update (m : Memory) (id : RegionId) {f g : Region → Region}
    (h : ∀ r, (f r).unpinned = g r.unpinned) : (m.update id f).unpinned = m.unpinned.update id g := by
  apply ext_find?
  intro other
  rw [find?_unpinned, find?_update, find?_update, find?_unpinned]
  split
  · rw [Option.map_map, Option.map_map]
    exact Option.map_congr fun r _ => h r
  · rfl

/-- Pinning and unpinning cannot be told. -/
theorem unpinned_setPinned (m : Memory) (id : RegionId) (pinned : Bool) :
    (m.setPinned id pinned).unpinned = m.unpinned := by
  apply ext_find?
  intro other
  show ((m.update id fun r => { r with pinned }).unpinned).find? other = _
  have hpassed := unpinned_update m id (f := fun r => { r with pinned }) (g := fun r => r) fun r => rfl
  rw [hpassed, find?_update]
  split
  · exact Option.map_id'
  · rfl

theorem unpinned_grow (m : Memory) (r : Region) :
    (m.grow r).unpinned = m.unpinned.grow r.unpinned := by
  simp [grow, unpinned]

/-! ## §2. What does not tell of the pins. -/

theorem read_unpinned (m : Memory) (s : Span) : m.unpinned.read s = m.read s := by
  unfold read
  rw [find?_unpinned]
  cases m.find? s.region with
  | none => rfl
  | some r => rfl

theorem nonzero_unpinned (m : Memory) (id : RegionId) : m.unpinned.nonzero id = m.nonzero id := by
  unfold nonzero
  rw [find?_unpinned]
  cases m.find? id with
  | none => rfl
  | some r => rfl

theorem isAligned_unpinned (m : Memory) (s : Span) :
    Kernel.isAligned s m.unpinned = Kernel.isAligned s m := by
  unfold Kernel.isAligned
  rw [find?_unpinned]
  cases m.find? s.region with
  | none => rfl
  | some r => rfl

/-- **A look at raw memory** does not tell. -/
theorem peek_unpinned (m : Memory) (id : RegionId) (first len : Nat) :
    m.unpinned.peek id first len = m.peek id first len := by
  unfold peek
  rw [find?_unpinned]
  cases m.find? id with
  | none => rfl
  | some r => rfl

/-- **The live regions** do not tell. -/
theorem liveIds_unpinned (m : Memory) : m.unpinned.liveIds = m.liveIds := by
  have hlength : m.unpinned.regions.length = m.regions.length := List.length_map _
  unfold liveIds
  rw [hlength]
  apply List.filter_congr
  intro id _
  unfold live?
  rw [find?_unpinned, Option.isSome_filter, Option.isSome_filter]
  cases m.find? id with
  | none => rfl
  | some r => rfl

end Memory

/-- **Memories that differ in their pins only.** -/
def Memory.Matches (m m' : Memory) : Prop :=
  m'.unpinned = m.unpinned

namespace Memory.Matches

theorem refl (m : Memory) : m.Matches m :=
  rfl

theorem symm {m m' : Memory} (h : m.Matches m') : m'.Matches m :=
  Eq.symm h

theorem trans {m m' m'' : Memory} (h : m.Matches m') (h' : m'.Matches m'') : m.Matches m'' :=
  Eq.trans h' h

variable {m m' : Memory} (h : m.Matches m')

include h

theorem nextId_eq : m'.nextId = m.nextId := by
  rw [← m'.nextId_unpinned, h, m.nextId_unpinned]

theorem read_eq (s : Span) : m'.read s = m.read s := by
  rw [← m'.read_unpinned, h, m.read_unpinned]

theorem nonzero_eq (id : RegionId) : m'.nonzero id = m.nonzero id := by
  rw [← m'.nonzero_unpinned, h, m.nonzero_unpinned]

theorem isAligned_eq (s : Span) : Kernel.isAligned s m' = Kernel.isAligned s m := by
  rw [← m'.isAligned_unpinned, h, m.isAligned_unpinned]

theorem peek_eq (id : RegionId) (first len : Nat) : m'.peek id first len = m.peek id first len := by
  rw [← m'.peek_unpinned, h, m.peek_unpinned]

theorem liveIds_eq : m'.liveIds = m.liveIds := by
  rw [← m'.liveIds_unpinned, h, m.liveIds_unpinned]

/-- The same change of both. -/
theorem update {f : Region → Region} (hf : ∀ r, (f r).unpinned = f r.unpinned) (id : RegionId) :
    (m.update id f).Matches (m'.update id f) := by
  show (m'.update id f).unpinned = (m.update id f).unpinned
  rw [m'.unpinned_update id hf, m.unpinned_update id hf, h]

theorem grow (r : Region) : (m.grow r).Matches (m'.grow r) := by
  show (m'.grow r).unpinned = (m.grow r).unpinned
  rw [m'.unpinned_grow, m.unpinned_grow, h]

/-- Either of them may be pinned or unpinned. -/
theorem setPinned (id : RegionId) (pinned : Bool) : m.Matches (m'.setPinned id pinned) := by
  show (m'.setPinned id pinned).unpinned = m.unpinned
  rw [m'.unpinned_setPinned, h]

theorem setPinned_left (id : RegionId) (pinned : Bool) : (m.setPinned id pinned).Matches m' := by
  show m'.unpinned = (m.setPinned id pinned).unpinned
  rw [m.unpinned_setPinned, h]

theorem setPinned_both (id : RegionId) (pinned : Bool) :
    (m.setPinned id pinned).Matches (m'.setPinned id pinned) :=
  (h.setPinned id pinned).setPinned_left id pinned

theorem setProtection (id : RegionId) (mode : Protection) :
    (m.setProtection id mode).Matches (m'.setProtection id mode) :=
  h.update (f := fun r => { r with protection := mode }) (fun _ => rfl) id

theorem retire (id : RegionId) : (m.retire id).Matches (m'.retire id) :=
  h.update (f := fun r => { r with live := false }) (fun _ => rfl) id

theorem wipe (s : Span) : (m.wipe s).Matches (m'.wipe s) :=
  h.update (f := fun r => { r with bytes := Bytes.wipe r.bytes s.off.toNat s.len.toNat })
    (fun _ => rfl) s.region

theorem write (s : Span) (data : Bytes) : (m.write s data).Matches (m'.write s data) :=
  h.update (f := fun r => { r with bytes := Bytes.patch r.bytes s.off.toNat data })
    (fun _ => rfl) s.region

end Memory.Matches

/-! ## §3. Readings of a record. -/

/-- **What is read off a record**: something from every moment, and something from every line. -/
structure Reading (γ δ : Type) where
  moment : Moment → List γ
  line : LogLine → List δ

variable {γ δ α α' : Type} {g g' : Reading γ δ}

/-- Two machines whose records are read alike, each in its own way. -/
structure Machine.ReadAlike (g g' : Reading γ δ) (m n : Machine) : Prop where
  trace : n.trace.flatMap g'.moment = m.trace.flatMap g.moment
  log : n.log.flatMap g'.line = m.log.flatMap g.line

/-- Two reports with related replies that are read alike. -/
structure Report.ReadAlike (g g' : Reading γ δ) (Q : α → α' → Prop) (r : Report α)
    (r' : Report α') : Prop where
  reply : Q r.reply r'.reply
  trace : r'.trace.flatMap g'.moment = r.trace.flatMap g.moment
  log : r'.log.flatMap g'.line = r.log.flatMap g.line

/-- What was added to lists that were read alike and still are is read alike. -/
theorem flatMap_drop_eq {β β' : Type} {f : β → List γ} {f' : β' → List γ} {old new : List β}
    {old' new' : List β'} (hgrows : old <+: new) (hgrows' : old' <+: new')
    (hold : old'.flatMap f' = old.flatMap f) (hnew : new'.flatMap f' = new.flatMap f) :
    (new'.drop old'.length).flatMap f' = (new.drop old.length).flatMap f := by
  obtain ⟨added, rfl⟩ := hgrows
  obtain ⟨added', rfl⟩ := hgrows'
  rw [List.flatMap_append, List.flatMap_append, hold] at hnew
  rw [List.drop_left, List.drop_left]
  exact List.append_cancel_left hnew

namespace Machine

variable {m n : Machine} {x : MachineM α} {y : MachineM α'} {Q : α → α' → Prop}

/-- **Steps that keep the records read alike are reported alike.** -/
theorem report_alike (hgrows : m.Grows (x.run m).2) (hgrows' : n.Grows (y.run n).2)
    (hbefore : m.ReadAlike g g' n) (hafter : (x.run m).2.ReadAlike g g' (y.run n).2)
    (hreply : Q (x.run m).1 (y.run n).1) :
    Report.ReadAlike g g' Q (m.report x).1 (n.report y).1 where
  reply := hreply
  trace := flatMap_drop_eq hgrows.trace hgrows'.trace hbefore.trace hafter.trace
  log := flatMap_drop_eq hgrows.log hgrows'.log hbefore.log hafter.log

end Machine

/-! ## §4. Scripts in step. -/

namespace Script

variable {σ σ' κ κ' : Type} {perform : σ → κ → MachineM (α × σ)}
  {perform' : σ' → κ' → MachineM (α' × σ')} {I : Scene σ → Scene σ' → Prop} {P : κ → κ' → Prop}
  {Q : Report α → Report α' → Prop}

/-- **Two steps that keep the records read alike** are reported alike. -/
theorem playStep_alike {A : α → α' → Prop} {scene : Scene σ} {scene' : Scene σ'} {k : κ} {k' : κ'}
    (hgrows : scene.machine.Grows (playStep perform scene k).2.machine)
    (hgrows' : scene'.machine.Grows (playStep perform' scene' k').2.machine)
    (hbefore : scene.machine.ReadAlike g g' scene'.machine)
    (hafter : (playStep perform scene k).2.machine.ReadAlike g g'
      (playStep perform' scene' k').2.machine)
    (hreply : A (playStep perform scene k).1.reply (playStep perform' scene' k').1.reply) :
    Report.ReadAlike g g' A (playStep perform scene k).1 (playStep perform' scene' k').1 where
  reply := hreply
  trace := flatMap_drop_eq hgrows.trace hgrows'.trace hbefore.trace hafter.trace
  log := flatMap_drop_eq hgrows.log hgrows'.log hbefore.log hafter.log

/-- **What pairs of steps keep holds after paired scripts**, and all their reports are related. -/
theorem play_in_step
    (hstep : ∀ {scene scene' k k'}, I scene scene' → P k k' →
      Q (playStep perform scene k).1 (playStep perform' scene' k').1 ∧
        I (playStep perform scene k).2 (playStep perform' scene' k').2)
    {xs : List κ} {ys : List κ'} (h : List.Forall₂ P xs ys) :
    ∀ {scene scene'}, I scene scene' →
      List.Forall₂ Q (play perform scene xs).1 (play perform' scene' ys).1 ∧
        I (play perform scene xs).2 (play perform' scene' ys).2 := by
  induction h with
  | nil =>
      intro scene scene' hI
      exact ⟨.nil, hI⟩
  | cons hk _ ih =>
      intro scene scene' hI
      obtain ⟨hreport, hI₁⟩ := hstep hI hk
      obtain ⟨hreports, hI₂⟩ := ih hI₁
      exact ⟨.cons hreport hreports, hI₂⟩

end Script

/-! ## §5. The same step on interchangeable platforms. -/

namespace BufferScript

variable {R : Link} {p p' : Platform} {k : Nat} {s s' s₁ s₁' : Session}

/-- Sessions with the same slots have the same slots again. -/
theorem Session.Moved.slots_eq (h : Session.Moved id k s s' s₁ s₁') (hslots : s'.slots = s.slots) :
    s₁'.slots = s₁.slots := by
  cases h with
  | stay => exact hslots
  | set o =>
      show s'.slots.set k (o.map (·.rename id)) = s.slots.set k o
      rw [SealedBuffer.map_rename_id, hslots]

theorem Interchangeable.needs {j : RegionId} (h : Interchangeable R p p' j) (u : Use) :
    u.Needs R id Eq p p' j := by
  cases u with
  | write _ | readInto _ _ | read _ => exact h.accessing
  | destroy | letGo => exact h.disposing
  | info | describe _ => exact trivial

/-- **An operation on the same slot is answered the same** on platforms that can stand for one
another, even where they report different page sizes. -/
theorem perform_interchangeable {kind kind' : PlatformKind} {a : Action} (ha : a.Paired Eq a)
    (hslots : s'.slots = s.slots)
    (hcreate : ∀ size, Coupled R (Both fun b b' => b' = b.rename id)
      (SealedBuffer.create (kind.platform s.page) size).run
      (SealedBuffer.create (kind'.platform s'.page) size).run)
    (hheld : ∀ h ∈ heldBy (s.slots.get? k),
      Interchangeable R (kind.platform s.page) (kind'.platform s'.page) h.region) :
    Coupled R (fun y y' => y'.1 = y.1 ∧ Session.Moved id k s s' y.2 y'.2)
      (perform kind s ⟨k, a⟩) (perform kind' s' ⟨k, a⟩) := by
  have hslot : s'.slots.get? k = (s.slots.get? k).map (·.rename id) := by
    rw [SealedBuffer.map_rename_id, hslots]
  have hact : Coupled R (fun x x' => x'.1 = x.1 ∧ x'.2.1 = x.2.1 ∧
      Session.Moved id k s s' x.2.2 x'.2.2) (act kind s k a) (act kind' s' k a) := by
    cases ha with
    | create size =>
        have h := create_coupled_of_made (hcreate size) hslot fun g hg => (hheld g hg).disposing
        refine h.bind fun x x' hx => ?_
        exact .pure ⟨hx.1, rfl, hx.2⟩
    | use hu =>
        have h := useSlot_coupled likeness_eq hu hslot fun g hg => Interchangeable.needs (hheld g hg) _
        exact h.mono fun x x' hx => ⟨hx.1.eq, hx.2.1.eq, hx.2.2⟩
  unfold perform
  refine hact.bind ?_
  rintro ⟨_, _, s₁⟩ ⟨reply, out, s₁'⟩ ⟨rfl, rfl, hmoved⟩
  have hsame : s₁'.slots = s₁.slots := hmoved.slots_eq hslots
  refine .pure ⟨?_, hmoved⟩
  show Answer.mk reply out ((s₁'.slots.get? k).map _) = Answer.mk reply out ((s₁.slots.get? k).map _)
  rw [hsame]

/-- The same buffers are let go of. -/
theorem letGoAll_interchangeable (bs : List SealedBuffer)
    (hheld : ∀ h ∈ bs.flatMap (·.holding.toList), Interchangeable R p p' h.region) :
    Coupled R Eq (letGoAll p bs) (letGoAll p' bs) := by
  have hD : ∀ b ∈ bs, ∀ g, b.holding = some g → Disposing R id p p' g.region := fun b hb g hg =>
    (hheld g (List.mem_flatMap.2 ⟨b, hb, by simp [hg]⟩)).disposing
  have h := letGoAll_coupled bs hD
  have hsame : bs.map (·.rename id) = bs :=
    (List.map_congr_left fun b _ => b.rename_id).trans (List.map_id _)
  rwa [hsame] at h

end BufferScript

end SealedPages
