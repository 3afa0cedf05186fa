/-
  SealedPages.Proofs.Sessions
  ───────────────────────────
  **EVERY STEP OF A SCRIPT KEEPS CUSTODY.**  The buffers of a session stand in slots;
  `Slots.holdings` is what they hold together.  A step takes one slot, works on its
  buffer, and puts back what became of it; a buffer that is replaced is let go of
  only after the new one is made.

  Main statements:
    * `BufferScript.keeps_custody`, `HandleScript.keeps_custody` — the step lemmas;
    * `BufferScript.giveUp_handover`, `HandleScript.giveUp_handover` — at the end
      nothing is held any more.
-/
import SealedPages.Script.Buffers
import SealedPages.Script.Handles
import SealedPages.Proofs.BufferOperations

namespace SealedPages

variable {v : View} {p : Platform} {page : UInt64} {m : Machine} {rest : List Holding}

/-! ## §1. What slots hold. -/

/-- What a slot holds, or a handle. -/
def heldBy : Option SealedBuffer → List Holding
  | some b => b.holding.toList
  | none   => []

/-- What the buffers in the slots hold. -/
def Slots.holdings (s : Slots SealedBuffer) : List Holding :=
  s.values.flatMap (·.holding.toList)

theorem flatMap_toList (o : Option SealedBuffer) :
    o.toList.flatMap (·.holding.toList) = heldBy o := by
  cases o with
  | none => rfl
  | some b => exact List.append_nil _

namespace Slots

theorem holdings_perm (s : Slots SealedBuffer) (k : Nat) :
    s.holdings.Perm (heldBy (s.get? k) ++ (s.erase k).holdings) := by
  have h := (s.values_perm k).flatMap_right (·.holding.toList)
  rwa [List.flatMap_append, flatMap_toList] at h

theorem holdings_set_perm (s : Slots SealedBuffer) (k : Nat) (o : Option SealedBuffer) :
    (s.set k o).holdings.Perm (heldBy o ++ (s.erase k).holdings) := by
  have h := (s.values_set_perm k o).flatMap_right (·.holding.toList)
  rwa [List.flatMap_append, flatMap_toList] at h

variable {s : Slots SealedBuffer} {k : Nat} {b : SealedBuffer} {h : Holding}

theorem mem_holdings (hb : s.get? k = some b) (hh : b.holding = some h) : h ∈ s.holdings :=
  List.mem_flatMap.2 ⟨b, s.mem_values_iff.2 ⟨k, hb⟩, by simp [hh]⟩

end Slots

/-- **A step on one slot** hands over what the slot holds and leaves the others alone. -/
theorem Handover.of_slot {s : Slots SealedBuffer} {k : Nat} {o : Option SealedBuffer}
    {m' : Machine} (h : Handover v m (heldBy o ++ (s.erase k).holdings) m') :
    Handover v m (s.set k o).holdings m' :=
  h.perm (s.holdings_set_perm k o).symm

theorem Custody.of_slot {s : Slots SealedBuffer} (c : Custody v s.holdings m) (k : Nat) :
    Custody v (heldBy (s.get? k) ++ (s.erase k).holdings) m :=
  c.perm (s.holdings_perm k)

/-- What is known of the region that the buffer in a slot holds. -/
theorem Custody.held_of_get? {s : Slots SealedBuffer} (c : Custody v s.holdings m) {k : Nat}
    {b : SealedBuffer} (hb : s.get? k = some b) :
    ∀ h, b.holding = some h → (m.story h.region).Held v h :=
  fun h hh => c.held h (Slots.mem_holdings hb hh)

/-! ## §2. Scripts of buffers. -/

namespace BufferScript

/-- The size of a page on a platform of a kind, where a custom one reports `page`. -/
def PlatformKind.pageSize (page : UInt64) : PlatformKind → UInt64
  | system => Kernel.pageSize
  | custom => page

/-- A kind of platform serves in its own view, under pages of its size. -/
theorem serves_pageSize (kind : PlatformKind) (page : UInt64) :
    (kind.platform page).Serves kind.view (kind.pageSize page) := by
  cases kind with
  | system => exact Platform.serves_system
  | custom => exact Platform.serves_custom page

/-- A kind of platform serves in its own view, whatever page size it reports. -/
theorem serves (kind : PlatformKind) (page : UInt64) :
    ∃ size, (kind.platform page).Serves kind.view size :=
  ⟨_, serves_pageSize kind page⟩

/-- **A creation in a slot keeps custody**, also where it replaces a buffer. -/
theorem create_handover (hp : p.Serves v page) {s : Session} (c : Custody v s.slots.holdings m)
    (slot : Nat) (size : UInt64) :
    ∃ reply s' m', (create p s slot size).run m = ((reply, s'), m') ∧
      Handover v m s'.slots.holdings m' := by
  unfold create
  rcases SealedBuffer.create_handover hp c size with
    ⟨f, m₁, hrun, _, hhand⟩ | ⟨h, m₁, hrun, _, hhand⟩
  · -- where no buffer was made, the slot keeps what it had
    refine ⟨.failed f, s, m₁, ?_, hhand⟩
    exact run_bind_of_eq hrun
  · -- the new buffer is there before the old one is let go of
    have c₁ := hhand.custody.perm
      (((s.slots.holdings_perm slot).cons h).trans List.perm_middle.symm)
    have hput : ∀ {m₂}, Handover v m₁ (h :: (s.slots.erase slot).holdings) m₂ →
        Handover v m (s.slots.put slot ⟨some h⟩).holdings m₂ := fun h₂ =>
      hhand.trans (Handover.of_slot (o := some ⟨some h⟩) h₂)
    rw [run_bind, hrun]
    cases hold : s.slots.get? slot with
    | none =>
        rw [hold] at c₁
        exact ⟨_, _, m₁, rfl, hput (.refl c₁)⟩
    | some old =>
        rw [hold] at c₁
        obtain ⟨m₂, hrun₂, hhand₂⟩ := SealedBuffer.letGo_handover hp c₁
        refine ⟨.done, { s with slots := s.slots.put slot ⟨some h⟩ }, m₂, ?_, hput hhand₂⟩
        exact run_bind_of_eq hrun₂

/-- **A use of a buffer keeps custody.** -/
theorem use_handover (hp : p.Serves v page) {b : SealedBuffer}
    (c : Custody v (heldBy (some b) ++ rest) m) (u : Use) :
    ∃ reply out held m', (use p b u).run m = ((reply, out, held), m') ∧
      Handover v m (heldBy held ++ rest) m' := by
  cases u with
  | write data =>
      obtain ⟨outcome, m', hrun, hhand⟩ := SealedBuffer.write_handover hp c data
      refine ⟨.ofResult outcome.result, none, some outcome.buffer, m', ?_, hhand⟩
      exact run_bind_of_eq hrun
  | readInto len fill =>
      obtain ⟨copy, outcome, m', hrun, hhand⟩ :=
        SealedBuffer.readInto_handover hp c (List.replicate len fill)
      refine ⟨.ofResult outcome.result, some copy, some outcome.buffer, m', ?_, hhand⟩
      exact run_bind_of_eq hrun
  | read len =>
      obtain ⟨outcome, m', hrun, hhand⟩ := SealedBuffer.read_handover hp c len
      refine ⟨.ofBytes outcome.result, none, some outcome.buffer, m', ?_, hhand⟩
      exact run_bind_of_eq hrun
  | destroy =>
      obtain ⟨m', hrun, hhand⟩ := SealedBuffer.destroy_handover hp c
      refine ⟨.done, none, some .destroyed, m', ?_, hhand⟩
      exact run_bind_of_eq hrun
  | letGo =>
      obtain ⟨m', hrun, hhand⟩ := SealedBuffer.letGo_handover hp c
      refine ⟨.done, none, none, m', ?_, hhand⟩
      exact run_bind_of_eq hrun
  | info => exact ⟨_, _, some b, m, rfl, .refl c⟩
  | describe long => exact ⟨_, _, some b, m, rfl, .refl c⟩

theorem useSlot_handover (hp : p.Serves v page) {s : Session} (c : Custody v s.slots.holdings m)
    (slot : Nat) (u : Use) :
    ∃ reply out s' m', (useSlot p s slot u).run m = ((reply, out, s'), m') ∧
      Handover v m s'.slots.holdings m' := by
  unfold useSlot
  have c₁ := c.of_slot slot
  cases hb : s.slots.get? slot with
  | none => exact ⟨_, _, s, m, rfl, .refl c⟩
  | some b =>
      rw [hb] at c₁
      obtain ⟨reply, out, held, m', hrun, hhand⟩ := use_handover hp c₁ u
      refine ⟨reply, out, { s with slots := s.slots.set slot held }, m', ?_, .of_slot hhand⟩
      exact run_bind_of_eq hrun

/-- **What a step says keeps custody.** -/
theorem act_handover (kind : PlatformKind) {s : Session}
    (c : Custody kind.view s.slots.holdings m) (slot : Nat) (action : Action) :
    ∃ reply out s' m', (act kind s slot action).run m = ((reply, out, s'), m') ∧
      Handover kind.view m s'.slots.holdings m' := by
  obtain ⟨size, hp⟩ := serves kind s.page
  cases action with
  | create len =>
      obtain ⟨reply, s', m', hrun, hhand⟩ := create_handover hp c slot len
      refine ⟨reply, none, s', m', ?_, hhand⟩
      exact run_bind_of_eq hrun
  | use u => exact useSlot_handover hp c slot u
  | setPageSize value => exact ⟨_, _, { s with page := value }, m, rfl, .refl c⟩
  | fault target places => exact ⟨_, _, s, _, rfl, .idle c (.of_eq rfl rfl rfl)⟩
  | peek region first len => exact ⟨_, _, s, m, rfl, .refl c⟩

/-- **Every step of a script of buffers keeps custody.** -/
theorem keeps_custody (kind : PlatformKind) :
    Script.Keeps (fun s m => Custody kind.view s.slots.holdings m) (perform kind) := by
  intro s step m c
  obtain ⟨reply, out, s', m', hrun, hhand⟩ := act_handover kind c step.slot step.action
  refine ⟨⟨reply, out, (s'.slots.get? step.slot).map (·.status)⟩, s', m', ?_, hhand.custody,
    hhand.grows⟩
  unfold perform
  exact run_bind_of_eq hrun

theorem letGoAll_handover (hp : p.Serves v page) (bs : List SealedBuffer) :
    ∀ {m : Machine}, Custody v (bs.flatMap (·.holding.toList)) m →
      ∃ m', (letGoAll p bs).run m = ((), m') ∧ Handover v m [] m' := by
  induction bs with
  | nil =>
      intro m c
      exact ⟨m, rfl, .refl c⟩
  | cons b rest ih =>
      intro m c
      -- the first buffer stands at the head of what is held
      obtain ⟨m₁, hrun₁, hhand₁⟩ := SealedBuffer.letGo_handover hp c
      obtain ⟨m₂, hrun₂, hhand₂⟩ := ih hhand₁.custody
      refine ⟨m₂, ?_, hhand₁.trans hhand₂⟩
      unfold letGoAll
      rw [run_bind, hrun₁, hrun₂]

/-- **At the end of a script of buffers nothing is held.** -/
theorem giveUp_handover (kind : PlatformKind) {s : Session}
    (c : Custody kind.view s.slots.holdings m) :
    Handover kind.view m [] ((giveUp kind s).run m).2 := by
  obtain ⟨size, hp⟩ := serves kind s.page
  obtain ⟨m', hrun, hhand⟩ := letGoAll_handover hp s.slots.values c
  unfold giveUp
  rw [hrun]
  exact hhand

end BufferScript

/-! ## §3. The functions of the C interface. -/

namespace Handle

variable {handle : Handle}

theorem destroy_handover (c : Custody .systemCalls (heldBy handle ++ rest) m) :
    ∃ m', (destroy handle).run m = ((), m') ∧ Handover .systemCalls m rest m' := by
  cases handle with
  | none => exact ⟨m, rfl, .refl c⟩
  | some b => exact SealedBuffer.letGo_handover Platform.serves_system c

/-- **A handle that is created stands for a new buffer**, or it is NULL. -/
theorem create_handover (c : Custody .systemCalls rest m) (size : UInt64) :
    ∃ made m', (create size).run m = (made, m') ∧
      Handover .systemCalls m (heldBy (made.toOption.join) ++ rest) m' := by
  -- the interface runs on the pages of the operating system
  have hplatform : SealedBuffer.create platform size = SealedBuffer.create .system size := rfl
  unfold create
  rw [hplatform]
  rcases SealedBuffer.create_handover Platform.serves_system c size with
    ⟨f, m', hrun, _, hhand⟩ | ⟨h, m', hrun, _, hhand⟩
  · rw [run_bind_of_eq hrun]
    cases f with
    | refused e =>
        exact ⟨_, _, rfl, hhand.trans (.idle hhand.custody (Idle.note _ fun _ => rfl))⟩
    | trapped t => exact ⟨_, m', rfl, hhand⟩
  · rw [run_bind_of_eq hrun]
    exact ⟨.ok (some ⟨some h⟩), m', rfl, hhand⟩

theorem store_handover (c : Custody .systemCalls (heldBy handle ++ rest) m) (data : Option Bytes)
    (len : UInt64) :
    ∃ code after m', (store handle data len).run m = ((code, after), m') ∧
      Handover .systemCalls m (heldBy after ++ rest) m' := by
  -- a NULL or a length of zero is answered before the buffer is asked
  unfold store
  split
  · rename_i b bytes
    split
    · exact ⟨_, _, m, rfl, .refl c⟩
    · obtain ⟨outcome, m', hrun, hhand⟩ :=
        SealedBuffer.write_handover Platform.serves_system c (bytes.take len.toNat)
      refine ⟨resultCode outcome.result, some outcome.buffer, m', ?_, hhand⟩
      exact run_bind_of_eq hrun
  · exact ⟨_, handle, m, rfl, .refl c⟩

theorem retrieve_handover (c : Custody .systemCalls (heldBy handle ++ rest) m)
    (out : Option Bytes) (len : UInt64) :
    ∃ code out' after m', (retrieve handle out len).run m = ((code, out', after), m') ∧
      Handover .systemCalls m (heldBy after ++ rest) m' := by
  -- as for `store`; the bytes behind the first `len` are not passed on
  unfold retrieve
  split
  · rename_i b bytes
    split
    · exact ⟨_, _, _, m, rfl, .refl c⟩
    · obtain ⟨front, outcome, m', hrun, hhand⟩ :=
        SealedBuffer.readInto_handover Platform.serves_system c (bytes.take len.toNat)
      refine ⟨resultCode outcome.result, some (front ++ bytes.drop len.toNat),
        some outcome.buffer, m', ?_, hhand⟩
      exact run_bind_of_eq hrun
  · exact ⟨_, _, handle, m, rfl, .refl c⟩

end Handle

/-! ## §4. Scripts of handles. -/

namespace HandleScript

variable {vars : Variables}

/-- **A creation into a variable keeps custody**, also where it replaces a handle. -/
theorem create_handover (c : Custody .systemCalls vars.holdings m) (slot : Nat) (size : UInt64) :
    ∃ reply after m', (create vars slot size).run m = ((reply, after), m') ∧
      Handover .systemCalls m after.holdings m' := by
  obtain ⟨made, m₁, hrun₁, hhand₁⟩ := Handle.create_handover c size
  unfold create
  rw [run_bind, hrun₁]
  cases made with
  | error t => exact ⟨_, vars, m₁, rfl, hhand₁⟩
  | ok handle =>
      have hhand : Handover .systemCalls m (heldBy handle ++ vars.holdings) m₁ := hhand₁
      -- the new handle is there before the old one is destroyed
      have hswap : (heldBy handle ++ vars.holdings).Perm
          (heldBy (vars.get? slot) ++ (heldBy handle ++ (vars.erase slot).holdings)) :=
        ((vars.holdings_perm slot).append_left _).trans (List.perm_append_comm_assoc _ _ _)
      obtain ⟨m₂, hrun₂, hhand₂⟩ := Handle.destroy_handover (hhand.custody.perm hswap)
      refine ⟨.handle handle.isSome, vars.set slot handle, m₂, ?_, hhand.trans (.of_slot hhand₂)⟩
      exact run_bind_of_eq hrun₂

/-- **What a step says keeps custody.**  A NULL that is passed instead of a variable is
sent back at once. -/
theorem act_handover (c : Custody .systemCalls vars.holdings m) (step : Step) :
    ∃ reply out after m', (act vars step).run m = ((reply, out, after), m') ∧
      Handover .systemCalls m after.holdings m' := by
  cases step with
  | create slot size =>
      obtain ⟨reply, after, m', hrun, hhand⟩ := create_handover c slot size
      refine ⟨reply, none, after, m', ?_, hhand⟩
      exact run_bind_of_eq hrun
  | store passed data len =>
      cases passed with
      | none => exact ⟨_, _, vars, m, rfl, .refl c⟩
      | some k =>
          obtain ⟨code, after, m', hrun, hhand⟩ := Handle.store_handover (c.of_slot k) data len
          refine ⟨.code code, none, vars.set k after, m', ?_, .of_slot hhand⟩
          exact run_bind_of_eq hrun
  | retrieve passed len room fill =>
      cases passed with
      | none => exact ⟨_, _, vars, m, rfl, .refl c⟩
      | some k =>
          obtain ⟨code, out, after, m', hrun, hhand⟩ := Handle.retrieve_handover (c.of_slot k)
            (room.map (List.replicate · fill)) len
          refine ⟨.code code, some (out.getD []), vars.set k after, m', ?_, .of_slot hhand⟩
          exact run_bind_of_eq hrun
  | getSize passed => exact ⟨_, _, vars, m, rfl, .refl c⟩
  | destroy passed =>
      cases passed with
      | none => exact ⟨_, _, vars, m, rfl, .refl c⟩
      | some k =>
          obtain ⟨m', hrun, hhand⟩ := Handle.destroy_handover (c.of_slot k)
          refine ⟨.silent, none, vars.set k none, m', ?_, .of_slot hhand⟩
          exact run_bind_of_eq hrun
  | clear address =>
      cases address with
      | none => exact ⟨_, _, vars, m, rfl, .refl c⟩
      | some k =>
          obtain ⟨m', hrun, hhand⟩ := Handle.destroy_handover (c.of_slot k)
          refine ⟨.handle false, none, vars.set k none, m', ?_, .of_slot hhand⟩
          show ((Handle.destroy (vars.get? k) >>= fun _ => pure none) >>= fun _ => _).run m = _
          rw [run_bind, run_bind, hrun]
          rfl
  | version => exact ⟨_, _, vars, m, rfl, .refl c⟩
  | codeText code => exact ⟨_, _, vars, m, rfl, .refl c⟩
  | fault target places => exact ⟨_, _, vars, _, rfl, .idle c (.of_eq rfl rfl rfl)⟩
  | peek region first len => exact ⟨_, _, vars, m, rfl, .refl c⟩

/-- **Every step of a script of handles keeps custody.** -/
theorem keeps_custody :
    Script.Keeps (fun vars m => Custody .systemCalls (Slots.holdings vars) m) perform := by
  intro vars step m c
  obtain ⟨reply, out, after, m', hrun, hhand⟩ := act_handover c step
  refine ⟨⟨reply, out⟩, after, m', ?_, hhand.custody, hhand.grows⟩
  unfold perform
  exact run_bind_of_eq hrun

theorem destroyAll_handover (bs : List SealedBuffer) :
    ∀ {m : Machine}, Custody .systemCalls (bs.flatMap (·.holding.toList)) m →
      ∃ m', (destroyAll bs).run m = ((), m') ∧ Handover .systemCalls m [] m' := by
  induction bs with
  | nil =>
      intro m c
      exact ⟨m, rfl, .refl c⟩
  | cons b rest ih =>
      intro m c
      have c₁ : Custody .systemCalls (heldBy (some b) ++ rest.flatMap (·.holding.toList)) m := c
      obtain ⟨m₁, hrun₁, hhand₁⟩ := Handle.destroy_handover c₁
      obtain ⟨m₂, hrun₂, hhand₂⟩ := ih hhand₁.custody
      refine ⟨m₂, ?_, hhand₁.trans hhand₂⟩
      unfold destroyAll
      rw [run_bind, hrun₁, hrun₂]

/-- **At the end of a script of handles nothing is held.** -/
theorem giveUp_handover (c : Custody .systemCalls vars.holdings m) :
    Handover .systemCalls m [] ((giveUp vars).run m).2 := by
  obtain ⟨m', hrun, hhand⟩ := destroyAll_handover vars.values c
  unfold giveUp
  rw [hrun]
  exact hhand

end HandleScript

end SealedPages
