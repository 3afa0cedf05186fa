/-
  SealedPages.Machine
  ───────────────────
  **THE MACHINE THAT BUFFERS LIVE ON.**  Its state is the memory, the faults
  still to come, and two records that only ever grow: the moments and the log
  lines.  `MachineM` is a computation on it, `TryM ε` one that can refuse with
  an `ε` or trap.

  Failing undoes nothing by itself: the machine keeps what happened up to the
  failure.  What is to be undone is undone by `undoing`.
-/
import SealedPages.Faults
import SealedPages.Log

namespace SealedPages

/-! ## §1. State and computations. -/

/-- Memory, coming faults, and the record of what happened. -/
structure Machine where
  memory : Memory := {}
  faults : Faults := {}
  trace : List Moment := []
  log : List LogLine := []

/-- A computation on the machine that always gives a value. -/
abbrev MachineM := StateM Machine

/-- A computation on the machine that can refuse or trap. -/
abbrev TryM (ε : Type) := ExceptT (Failure ε) MachineM

/-! ## §2. Primitive steps. -/

namespace Machine

/-- Record an event, which met the memory as it stands. -/
def record (e : Event) : MachineM Unit :=
  modify fun m => { m with trace := m.trace ++ [⟨m.memory, e⟩] }

/-- Record an event that met an earlier memory. -/
def recordAt (memory : Memory) (e : Event) : MachineM Unit :=
  modify fun m => { m with trace := m.trace ++ [⟨memory, e⟩] }

/-- Write a log line. -/
def note (l : LogLine) : MachineM Unit :=
  modify fun m => { m with log := m.log ++ [l] }

/-- Change the memory. -/
def remember (f : Memory → Memory) : MachineM Unit :=
  modify fun m => { m with memory := f m.memory }

/-- Count one call of a target, and tell whether it is to fail. -/
def draw (t : Target) : MachineM Bool :=
  modifyGet fun m => (m.faults.fires t, { m with faults := m.faults.tick t })

/-- Make coming calls of a target fail. -/
def schedule (t : Target) (places : List Nat) : MachineM Unit :=
  modify fun m => { m with faults := m.faults.schedule t places }

end Machine

/-! ## §3. Computations that fail. -/

/-- Refuse. -/
def refuse {ε α : Type} (e : ε) : TryM ε α :=
  throw (.refused e)

/-- Trap. -/
def trap {ε α : Type} (t : Trap) : TryM ε α :=
  throw (.trapped t)

/-- Trap where checked arithmetic does. -/
def checked {ε α : Type} : Except Trap α → TryM ε α
  | .ok a    => pure a
  | .error t => trap t

/-- Make a call that must be granted: a refusal is logged and becomes the error. -/
def demand {ε : Type} (call : MachineM Verdict) (line : LogLine) (e : ε) : TryM ε Unit := do
  match ← (call : TryM ε Verdict) with
  | .granted => pure ()
  | .refused => Machine.note line; refuse e

/-- Run `body`, and if it fails, run `undo` before failing in the same way.
Nested, the undoing of the inner step comes first. -/
def undoing {ε α : Type} (undo : MachineM Unit) (body : TryM ε α) : TryM ε α :=
  ExceptT.mk do
    match ← body.run with
    | .ok a    => pure (.ok a)
    | .error f => undo; pure (.error f)

/-! ## §4. Running computations. -/

theorem run_pure {α : Type} (a : α) (m : Machine) : (pure a : MachineM α).run m = (a, m) :=
  rfl

theorem run_bind {α β : Type} (x : MachineM α) (f : α → MachineM β) (m : Machine) :
    (x >>= f).run m = (f (x.run m).1).run (x.run m).2 :=
  rfl

/-- A computation whose value is known goes on from that value. -/
theorem run_bind_of_eq {α β : Type} {x : MachineM α} {f : α → MachineM β} {m m' : Machine} {a : α}
    (h : x.run m = (a, m')) : (x >>= f).run m = (f a).run m' := by
  rw [run_bind, h]

theorem run_get (m : Machine) : (get : MachineM Machine).run m = (m, m) :=
  rfl

namespace Machine

theorem run_note (l : LogLine) (m : Machine) :
    (note l).run m = ((), { m with log := m.log ++ [l] }) :=
  rfl

theorem run_draw (t : Target) (m : Machine) :
    (draw t).run m = (m.faults.fires t, { m with faults := m.faults.tick t }) :=
  rfl

end Machine

/-- A computation that always gives a value goes on from that value. -/
theorem run_lift_bind {ε α β : Type} (x : MachineM α) (f : α → TryM ε β) (m : Machine) :
    StateT.run ((liftM x : TryM ε α) >>= f).run m =
      StateT.run (f (x.run m).1).run (x.run m).2 :=
  rfl

/-- A step that succeeds goes on. -/
theorem run_bind_of_ok {ε α β : Type} {x : TryM ε α} {f : α → TryM ε β} {m m' : Machine} {a : α}
    (h : StateT.run x.run m = (.ok a, m')) :
    StateT.run (x >>= f).run m = StateT.run (f a).run m' := by
  show StateT.run (x.run >>= ExceptT.bindCont f) m = _
  exact run_bind_of_eq h

/-- A step that fails ends the computation. -/
theorem run_bind_of_error {ε α β : Type} {x : TryM ε α} {f : α → TryM ε β} {m m' : Machine}
    {e : Failure ε} (h : StateT.run x.run m = (.error e, m')) :
    StateT.run (x >>= f).run m = (.error e, m') := by
  show StateT.run (x.run >>= ExceptT.bindCont f) m = _
  exact run_bind_of_eq h

/-- **A demand is met, or it is logged and becomes the error.** -/
theorem run_demand {ε : Type} (call : MachineM Verdict) (line : LogLine) (e : ε) (m : Machine) :
    StateT.run (demand call line e).run m =
      match call.run m with
      | (.granted, m') => (.ok (), m')
      | (.refused, m') => (.error (.refused e), { m' with log := m'.log ++ [line] }) := by
  unfold demand
  rw [run_lift_bind]
  rcases call.run m with ⟨out, m'⟩
  cases out <;> rfl

/-- **A body that fails is undone, and fails in the same way.** -/
theorem run_undoing_of_error {ε α : Type} {undo : MachineM Unit} {body : TryM ε α} {m m' : Machine}
    {f : Failure ε} (h : StateT.run body.run m = (.error f, m')) :
    StateT.run (undoing undo body).run m = (.error f, (undo.run m').2) := by
  show StateT.run (body.run >>= _) m = _
  exact run_bind_of_eq h

/-- A body that succeeds is not undone. -/
theorem run_undoing_of_ok {ε α : Type} {undo : MachineM Unit} {body : TryM ε α} {m m' : Machine}
    {a : α} (h : StateT.run body.run m = (.ok a, m')) :
    StateT.run (undoing undo body).run m = (.ok a, m') := by
  show StateT.run (body.run >>= _) m = _
  exact run_bind_of_eq h

/-! ## §5. What a step adds. -/

/-- The record of `m'` begins with the record of `m`. -/
structure Machine.Grows (m m' : Machine) : Prop where
  trace : m.trace <+: m'.trace
  log : m.log <+: m'.log

namespace Machine.Grows

theorem refl (m : Machine) : m.Grows m :=
  ⟨List.prefix_rfl, List.prefix_rfl⟩

theorem trans {m m₁ m' : Machine} (a : m.Grows m₁) (b : m₁.Grows m') : m.Grows m' :=
  ⟨a.trace.trans b.trace, a.log.trans b.log⟩

end Machine.Grows

/-- The answer of a step, and what it added to the record. -/
structure Report (ρ : Type) where
  reply : ρ
  trace : List Moment
  log : List LogLine

/-- Run one step of a script and report it. -/
def Machine.report {ρ : Type} (step : MachineM ρ) (m : Machine) : Report ρ × Machine :=
  let after := step.run m
  (⟨after.1, after.2.trace.drop m.trace.length, after.2.log.drop m.log.length⟩, after.2)

end SealedPages
