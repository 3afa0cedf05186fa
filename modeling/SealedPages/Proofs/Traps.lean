/-
  SealedPages.Proofs.Traps
  ────────────────────────
  **WHERE A STEP CAN TRAP.**  No step of a script of handles traps, and none of a script of
  buffers on the pages of the operating system.  A custom platform may report any page size,
  and another one after every step; there a creation traps where it asks for bytes while the
  reported size is no power of two, and nothing else does.  It has then asked for the page
  size, and done no more.  The other assumptions never fail: the rounding takes no difference
  below zero and no remainder by zero, and what it gives is a positive whole number of pages.

  Main statements:
    * `BufferScript.perform_trap?_iff`, `HandleScript.perform_trap?` — one step;
    * `BufferScript.sceneAfter_page` — the page size that is reported after steps;
    * `traps_only_in_creations` — all steps of all scripts.
-/
import SealedPages.Proofs.Scenario
import SealedPages.Proofs.StepRuns

namespace SealedPages

/-! ## §1. Traps in the replies of buffers. -/

namespace BufferScript

/-- The trap that a reply reports. -/
def Reply.trap? : Reply → Option Trap
  | failed (.trapped t) => some t
  | _ => none

theorem Reply.trap?_ofResult (result : Except BufferError Unit) :
    (Reply.ofResult result).trap? = none := by
  cases result <;> rfl

theorem Reply.trap?_ofBytes (result : Except BufferError Bytes) :
    (Reply.ofBytes result).trap? = none := by
  cases result <;> rfl

variable {kind : PlatformKind} {s : Session} {m : Machine} {t : Trap}

/-- **No use of a buffer traps**: what it gives is a result, or nothing. -/
theorem use_trap? (p : Platform) (b : SealedBuffer) (u : Use) (m : Machine) :
    ((use p b u).run m).1.1.trap? = none := by
  cases u with
  | write data => exact Reply.trap?_ofResult _
  | readInto len fill => exact Reply.trap?_ofResult _
  | read len => exact Reply.trap?_ofBytes _
  | destroy | letGo | info | describe long => rfl

theorem useSlot_trap? (p : Platform) (s : Session) (slot : Nat) (u : Use) (m : Machine) :
    ((useSlot p s slot u).run m).1.1.trap? = none := by
  unfold useSlot
  cases s.slots.get? slot with
  | none => cases u <;> rfl
  | some b => exact use_trap? p b u m

/-- A creation replies with what it failed with. -/
theorem create_reply (p : Platform) (s : Session) (slot : Nat) (size : UInt64) (m : Machine) :
    ((create p s slot size).run m).1.1 =
      match (StateT.run (SealedBuffer.create p size).run m).1 with
      | .ok _    => .done
      | .error f => .failed f := by
  unfold create
  rw [run_bind]
  rcases StateT.run (SealedBuffer.create p size).run m with ⟨f | made, m'⟩
  · rfl
  · cases s.slots.get? slot <;> rfl

theorem create_trap?_iff (kind : PlatformKind) (c : Custody kind.view s.slots.holdings m)
    (slot : Nat) (size : UInt64) :
    ((create (kind.platform s.page) s slot size).run m).1.1.trap? = some t ↔
      size ≠ 0 ∧ isPowerOfTwo (kind.pageSize s.page) = false ∧ t = .pageSizeNotPowerOfTwo := by
  have htraps := SealedBuffer.create_trapped_iff (serves_pageSize kind s.page) c size t
  rw [roundUp_eq_error_iff] at htraps
  rw [create_reply, ← htraps]
  rcases (StateT.run (SealedBuffer.create (kind.platform s.page) size).run m).1 with
    (e | t') | made <;> simp [Reply.trap?]

/-- **A step traps where it asks for a buffer while the page size is no power of two.** -/
theorem perform_trap?_iff (kind : PlatformKind) (c : Custody kind.view s.slots.holdings m)
    (x : Step) :
    ((perform kind s x).run m).1.1.reply.trap? = some t ↔
      t = .pageSizeNotPowerOfTwo ∧
        ∃ size, x.action = .create size ∧ size ≠ 0 ∧
          isPowerOfTwo (kind.pageSize s.page) = false := by
  have hno : ∀ {o : Option Trap} {a : Action}, o = none → (∀ size, a ≠ .create size) →
      (o = some t ↔ t = .pageSizeNotPowerOfTwo ∧ ∃ size, a = .create size ∧ size ≠ 0 ∧
        isPowerOfTwo (kind.pageSize s.page) = false) := by
    rintro _ a rfl ha
    constructor
    · intro h
      cases h
    · rintro ⟨_, size, hcreate, _⟩
      exact absurd hcreate (ha size)
  obtain ⟨slot, action⟩ := x
  cases action with
  | create size =>
      refine (create_trap?_iff kind c slot size).trans ⟨?_, ?_⟩
      · rintro ⟨hsize, hodd, ht⟩
        exact ⟨ht, size, rfl, hsize, hodd⟩
      · rintro ⟨ht, _, hcreate, hsize, hodd⟩
        cases hcreate
        exact ⟨hsize, hodd, ht⟩
  | use u => exact hno (useSlot_trap? _ _ _ _ _) (by simp)
  | setPageSize value | fault target places | peek region first len => exact hno rfl (by simp)

/-- On the pages of the operating system no step does. -/
theorem perform_system_trap? (c : Custody PlatformKind.system.view s.slots.holdings m) (x : Step) :
    ((perform .system s x).run m).1.1.reply.trap? = none := by
  refine Option.eq_none_iff_forall_ne_some.2 fun t ht => ?_
  obtain ⟨_, _, _, _, hodd⟩ := (perform_trap?_iff .system c x).1 ht
  have hsound : isPowerOfTwo Kernel.pageSize = true := rfl
  exact Bool.noConfusion (hsound.symm.trans hodd)

/-- That a custom platform was asked for the size of a page. -/
def asking (page : UInt64) (m : Machine) : Moment :=
  ⟨m.memory, .service (.pageSize page)⟩

/-- **A step that stopped at a trap** of the rounding: the size of a page was asked for, and all
else is as it was. -/
structure Stopped (page : UInt64) (scene : Script.Scene Session)
    (played : Report Answer × Script.Scene Session) : Prop where
  reply : played.1.reply.reply = .failed (.trapped .pageSizeNotPowerOfTwo)
  trace : played.1.trace = [asking page scene.machine]
  log : played.1.log = []
  session : played.2.session = scene.session
  machine : played.2.machine =
    { scene.machine with trace := scene.machine.trace ++ [asking page scene.machine] }

/-- **A creation stops where it asks for bytes while the page size is no power of two.** -/
theorem stopped_of_odd (scene : Script.Scene Session) (slot : Nat) {size : UInt64}
    (hsize : size ≠ 0) (hodd : isPowerOfTwo scene.session.page = false) :
    Stopped scene.session.page scene
      (Script.playStep (perform .custom) scene ⟨slot, .create size⟩) := by
  have hrun := create_run_of_error .custom scene.session slot
    (SealedBuffer.run_create_of_trap (p := .custom scene.session.page) (m := scene.machine) hsize rfl
      (roundUp_of_not_isPowerOfTwo hodd))
  rw [Script.playStep_of_run hrun]
  exact ⟨rfl, List.drop_left, List.drop_length, rfl, rfl⟩

/-! ## §2. The page size that is reported. -/

/-- The page size that is reported after an action. -/
def Action.pageAfter (page : UInt64) : Action → UInt64
  | setPageSize value => value
  | _ => page

/-- The page size that is reported after steps: the last one that was set, or `page`. -/
def reported (page : UInt64) (steps : List Step) : UInt64 :=
  steps.foldl (fun page x => x.action.pageAfter page) page

theorem perform_page (kind : PlatformKind) (s : Session) (x : Step) (m : Machine) :
    ((perform kind s x).run m).1.2.page = x.action.pageAfter s.page := by
  obtain ⟨slot, action⟩ := x
  cases action with
  | create size =>
      show ((create (kind.platform s.page) s slot size).run m).1.2.page = s.page
      unfold create
      rw [run_bind]
      rcases StateT.run (SealedBuffer.create (kind.platform s.page) size).run m with ⟨f | made, m'⟩
      · rfl
      · cases s.slots.get? slot <;> rfl
  | use u =>
      show ((useSlot (kind.platform s.page) s slot u).run m).1.2.2.page = s.page
      unfold useSlot
      cases s.slots.get? slot <;> rfl
  | setPageSize value | fault target places | peek region first len => rfl

theorem play_page (kind : PlatformKind) (steps : List Step) :
    ∀ scene : Script.Scene Session,
      (Script.play (perform kind) scene steps).2.session.page =
        reported scene.session.page steps := by
  induction steps with
  | nil =>
      intro scene
      rfl
  | cons x rest ih =>
      intro scene
      refine (ih (Script.playStep (perform kind) scene x).2).trans ?_
      exact congrArg (reported · rest) (perform_page kind scene.session x scene.machine)

/-- **The page size that a script has come to.** -/
theorem sceneAfter_page (kind : PlatformKind) (page : UInt64) (steps : List Step) :
    (sceneAfter kind page steps).session.page = reported page steps :=
  play_page kind steps ⟨{ page }, {}⟩

end BufferScript

/-! ## §3. Traps in the replies of handles. -/

namespace HandleScript

/-- The trap that a reply reports. -/
def Reply.trap? : Reply → Option Trap
  | trapped t => some t
  | _ => none

variable {vars : Variables} {m : Machine}

/-- No creation traps: the pages of the operating system have a sound size. -/
theorem create_trap? (c : Custody .systemCalls vars.holdings m) (slot : Nat) (size : UInt64) :
    ((create vars slot size).run m).1.1.trap? = none := by
  have hsound : ∀ t, (StateT.run (SealedBuffer.create Handle.platform size).run m).1 ≠
      .error (.trapped t) :=
    SealedBuffer.create_not_trapped Platform.serves_system rfl c size
  unfold create Handle.create
  rw [run_bind, run_bind]
  rcases hrun : StateT.run (SealedBuffer.create Handle.platform size).run m with
    ⟨(e | t) | made, m'⟩
  · rfl
  · exact absurd (congrArg Prod.fst hrun) (hsound t)
  · rfl

/-- **No step of a script of handles traps.** -/
theorem perform_trap? (c : Custody .systemCalls vars.holdings m) (step : Step) :
    ((perform vars step).run m).1.1.reply.trap? = none := by
  cases step with
  | create slot size => exact create_trap? c slot size
  | clear address => cases address <;> rfl
  | _ => rfl

end HandleScript

/-! ## §4. All steps of all scripts. -/

namespace BufferScript

/-- What the next step comes to, after steps on a custom platform. -/
def nextOnCustom (page : UInt64) (steps : List Step) (x : Step) :
    Report Answer × Script.Scene Session :=
  Script.playStep (perform .custom) (sceneAfter .custom page steps) x

theorem nextOnCustom_trap?_iff (page : UInt64) (steps : List Step) (x : Step) (t : Trap) :
    (nextOnCustom page steps x).1.reply.reply.trap? = some t ↔
      t = .pageSizeNotPowerOfTwo ∧
        ∃ size, x.action = .create size ∧ size ≠ 0 ∧
          isPowerOfTwo (reported page steps) = false := by
  rw [← sceneAfter_page .custom page steps]
  exact perform_trap?_iff .custom (Scenario.buffers .custom page steps).custody x

theorem nextOnCustom_stopped {page : UInt64} {steps : List Step} {x : Step} {t : Trap}
    (h : (nextOnCustom page steps x).1.reply.reply.trap? = some t) :
    Stopped (reported page steps) (sceneAfter .custom page steps) (nextOnCustom page steps x) := by
  obtain ⟨_, size, hcreate, hsize, hodd⟩ := (nextOnCustom_trap?_iff page steps x t).1 h
  obtain ⟨slot, action⟩ := x
  cases hcreate
  rw [← sceneAfter_page .custom page steps] at hodd ⊢
  exact stopped_of_odd _ slot hsize hodd

end BufferScript

open BufferScript in
/-- **Where steps trap.**  No answer of a script of handles is a trap, and none of a script of
buffers on the pages of the operating system.  On a custom platform, after any steps, the next
step traps exactly where it creates a buffer of one byte or more while the page size that is
reported is no power of two.  The trap is that of the rounding; the page size was asked for, and
all else is as it was.  The rounding traps on its page size alone, and what it gives passes the
check of the allocation. -/
theorem traps_only_in_creations :
    (∀ steps, ∀ a ∈ (HandleScript.run steps).answers, a.reply.reply.trap? = none) ∧
    (∀ page steps, ∀ a ∈ (BufferScript.run .system page steps).answers,
      a.reply.reply.trap? = none) ∧
    (∀ page steps x t,
      ((nextOnCustom page steps x).1.reply.reply.trap? = some t ↔
        t = .pageSizeNotPowerOfTwo ∧
          ∃ size, x.action = .create size ∧ size ≠ 0 ∧
            isPowerOfTwo (reported page steps) = false) ∧
      ((nextOnCustom page steps x).1.reply.reply.trap? = some t →
        t.message = "assertion failed: page_size.is_power_of_two()" ∧
        Stopped (reported page steps) (sceneAfter .custom page steps)
          (nextOnCustom page steps x))) ∧
    (∀ size page t, roundUp size page = .error t ↔
      isPowerOfTwo page = false ∧ t = .pageSizeNotPowerOfTwo) ∧
    (∀ size page total, size ≠ 0 → roundUp size page = .ok (some total) →
      Pages.checkWholePages total page = .ok ()) := by
  refine ⟨?_, ?_, ?_, fun _ _ _ => roundUp_eq_error_iff,
    fun _ _ _ => Pages.checkWholePages_of_roundUp⟩
  · intro steps
    exact Script.answers_of_keeps (Q := fun a => a.reply.trap? = none) HandleScript.keeps_custody
      (fun _ step _ c => HandleScript.perform_trap? c step) steps ⟨.empty, {}⟩ (Custody.start _)
  · intro page steps
    exact Script.answers_of_keeps (Q := fun a => a.reply.trap? = none) (keeps_custody .system)
      (fun _ step _ c => perform_system_trap? c step) steps ⟨{ page }, {}⟩ (Custody.start _)
  · intro page steps x t
    refine ⟨nextOnCustom_trap?_iff page steps x t, fun htrapped => ⟨?_, nextOnCustom_stopped htrapped⟩⟩
    rw [((nextOnCustom_trap?_iff page steps x t).1 htrapped).1]
    rfl

open BufferScript in
/-- A buffer is in a slot; then pages of three bytes are reported, and another buffer is asked
for.  The first one stays. -/
theorem trapped_on_pages_of_three_bytes :
    (nextOnCustom 8 [⟨0, .create 5⟩, ⟨0, .setPageSize 3⟩]
      ⟨0, .create 7⟩).1.reply.reply.trap? = some .pageSizeNotPowerOfTwo ∧
    (nextOnCustom 8 [⟨0, .create 5⟩, ⟨0, .setPageSize 3⟩]
      ⟨0, .create 7⟩).2.session.slots.get? 0 = some ⟨some ⟨1, 5, 8, 8, .noAccess⟩⟩ := by
  obtain ⟨htraps, hstopped⟩ := traps_only_in_creations.2.2.1 8
    [⟨0, .create 5⟩, ⟨0, .setPageSize 3⟩] ⟨0, .create 7⟩ .pageSizeNotPowerOfTwo
  have htrapped := htraps.2 ⟨rfl, 7, rfl, by decide, rfl⟩
  refine ⟨htrapped, ?_⟩
  rw [(hstopped htrapped).2.session]
  rfl

end SealedPages
