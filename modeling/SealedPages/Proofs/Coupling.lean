/-
  SealedPages.Proofs.Coupling
  ───────────────────────────
  **TWO RUNS SIDE BY SIDE.**  Some properties compare two runs: with other secrets,
  among other buffers, on another platform.  A `Link` says how the machines of the two
  runs are related.  `Coupled R Q x y` says that from machines linked by `R` the
  computations `x` and `y` give values related by `Q`, and that they end on machines
  linked by `R` again.

  Each way of putting computations together has a rule here, so that two operations are
  coupled as soon as the calls that they make are.  A property of a single run is the
  case of two runs that are the same.

  Main statements:
    * `Coupled.bind`, `Coupled.bind_try`, `Coupled.undoing` — couplings of the parts are
      a coupling of the whole;
    * `Coupled.bind_announced` — a call whose refusal is logged counts as one part with
      its log line;
    * `Coupled.preserves` — a computation that is coupled with itself keeps a property.
-/
import SealedPages.Machine

namespace SealedPages

/-- How the machines of two runs are related. -/
abbrev Link := Machine → Machine → Prop

variable {R : Link} {α α' β β' ε : Type}

/-! ## §1. Couplings. -/

/-- **From linked machines, two computations give related values and end on linked
machines.** -/
def Coupled (R : Link) (Q : α → α' → Prop) (x : MachineM α) (y : MachineM α') : Prop :=
  ∀ m n, R m n → Q (x.run m).1 (y.run n).1 ∧ R (x.run m).2 (y.run n).2

/-- Two results that fail in the same way, or succeed with related values. -/
inductive Both {φ : Type} (Q : α → α' → Prop) : Except φ α → Except φ α' → Prop
  | ok {a : α} {b : α'} (related : Q a b) : Both Q (.ok a) (.ok b)
  | error (e : φ) : Both Q (.error e) (.error e)

theorem Both.eq {φ : Type} {r r' : Except φ α} (h : Both Eq r r') : r = r' := by
  cases h with
  | ok related => rw [related]
  | error e => rfl

theorem Both.map {φ : Type} {Q : α → α' → Prop} {Q' : β → β' → Prop} {f : α → β} {g : α' → β'}
    {r : Except φ α} {r' : Except φ α'} (h : Both Q r r') (hfg : ∀ a b, Q a b → Q' (f a) (g b)) :
    Both Q' (r.map f) (r'.map g) := by
  cases h with
  | ok related => exact .ok (hfg _ _ related)
  | error e => exact .error e

namespace Coupled

variable {Q : α → α' → Prop} {Q' : β → β' → Prop}

theorem pure {a : α} {b : α'} (h : Q a b) :
    Coupled R Q (Pure.pure a : MachineM α) (Pure.pure b) :=
  fun _ _ hR => ⟨h, hR⟩

/-- **One part after the other.** -/
theorem bind {x : MachineM α} {y : MachineM α'} {f : α → MachineM β} {g : α' → MachineM β'}
    (hxy : Coupled R Q x y) (hfg : ∀ a b, Q a b → Coupled R Q' (f a) (g b)) :
    Coupled R Q' (x >>= f) (y >>= g) := by
  intro m n hR
  obtain ⟨hQ, hR₁⟩ := hxy m n hR
  exact hfg _ _ hQ _ _ hR₁

theorem mono {P : α → α' → Prop} {x : MachineM α} {y : MachineM α'} (h : Coupled R P x y)
    (hPQ : ∀ a b, P a b → Q a b) : Coupled R Q x y := by
  intro m n hR
  obtain ⟨hP, hR₁⟩ := h m n hR
  exact ⟨hPQ _ _ hP, hR₁⟩

/-- Machines whose link is narrower than it has to be. -/
theorem apply_weaken {R₁ : Link} {x : MachineM α} {y : MachineM α'} {m n : Machine}
    (h : Coupled R₁ Q x y) (hR : R₁ m n) (hweaken : ∀ {m n}, R₁ m n → R m n) :
    Q (x.run m).1 (y.run n).1 ∧ R (x.run m).2 (y.run n).2 := by
  obtain ⟨hQ, hR₁⟩ := h m n hR
  exact ⟨hQ, hweaken hR₁⟩

/-- One part after the other, where the first one gives nothing. -/
theorem seq {x y : MachineM Unit} {f : Unit → MachineM β} {g : Unit → MachineM β'}
    (hxy : Coupled R Eq x y) (hfg : Coupled R Q' (f ()) (g ())) :
    Coupled R Q' (x >>= f) (y >>= g) :=
  hxy.bind fun _ _ _ => hfg

/-! ## §2. Computations that fail. -/

theorem ok {a : α} {b : α'} (h : Q a b) :
    Coupled R (Both Q) (Pure.pure a : TryM ε α).run (Pure.pure b : TryM ε α').run :=
  pure (.ok h)

theorem refuse (e : ε) :
    Coupled R (Both Q) (SealedPages.refuse e : TryM ε α).run (SealedPages.refuse e : TryM ε α').run :=
  pure (.error _)

/-- What is checked without asking the machine comes out the same. -/
theorem checked (r : Except Trap α) :
    Coupled R (Both Eq) (SealedPages.checked r : TryM ε α).run (SealedPages.checked r : TryM ε α).run := by
  cases r with
  | ok a => exact pure (.ok rfl)
  | error t => exact pure (.error _)

/-- One part after the other, unless the first one fails. -/
theorem bind_try {x : TryM ε α} {y : TryM ε α'} {f : α → TryM ε β} {g : α' → TryM ε β'}
    (hxy : Coupled R (Both Q) x.run y.run)
    (hfg : ∀ a b, Q a b → Coupled R (Both Q') (f a).run (g b).run) :
    Coupled R (Both Q') (x >>= f).run (y >>= g).run := by
  show Coupled R (Both Q') (x.run >>= ExceptT.bindCont f) (y.run >>= ExceptT.bindCont g)
  refine hxy.bind fun r r' h => ?_
  cases h with
  | ok related => exact hfg _ _ related
  | error e => exact pure (.error e)

/-- A computation that cannot fail, before one that can. -/
theorem lift_bind {x : MachineM α} {y : MachineM α'} {f : α → TryM ε β} {g : α' → TryM ε β'}
    (hxy : Coupled R Q x y) (hfg : ∀ a b, Q a b → Coupled R (Both Q') (f a).run (g b).run) :
    Coupled R (Both Q') ((liftM x : TryM ε α) >>= f).run ((liftM y : TryM ε α') >>= g).run := by
  intro m n hR
  obtain ⟨hQ, hR₁⟩ := hxy m n hR
  exact hfg _ _ hQ _ _ hR₁

/-- Bodies that fail are undone on both sides. -/
theorem undoing {undo undo' : MachineM Unit} {body : TryM ε α} {body' : TryM ε α'}
    (hundo : Coupled R Eq undo undo') (hbody : Coupled R (Both Q) body.run body'.run) :
    Coupled R (Both Q) (SealedPages.undoing undo body).run (SealedPages.undoing undo' body').run := by
  show Coupled R (Both Q) (body.run >>= _) (body'.run >>= _)
  refine hbody.bind fun r r' h => ?_
  cases h with
  | ok related => exact pure (.ok related)
  | error e => exact hundo.seq (pure (.error e))

end Coupled

/-! ## §3. Calls whose refusal is logged. -/

/-- Make a call, and write a line where it is refused. -/
def announced (call : MachineM Verdict) (line : LogLine) : MachineM Verdict := do
  let out ← call
  match out with
  | .granted => pure ()
  | .refused => Machine.note line
  return out

theorem run_announced (call : MachineM Verdict) (line : LogLine) (m : Machine) :
    (announced call line).run m =
      ((call.run m).1,
        match (call.run m).1 with
        | .granted => (call.run m).2
        | .refused => { (call.run m).2 with log := (call.run m).2.log ++ [line] }) := by
  unfold announced
  rw [run_bind]
  cases (call.run m).1 <;> rfl

namespace Coupled

variable {Q : α → α' → Prop} {call call' : MachineM Verdict} {line line' : LogLine}

/-- A call and its line are coupled if both are. -/
theorem announced (hcall : Coupled R Eq call call')
    (hnote : Coupled R Eq (Machine.note line) (Machine.note line')) :
    Coupled R Eq (SealedPages.announced call line) (SealedPages.announced call' line') := by
  unfold SealedPages.announced
  refine hcall.bind fun out out' h => ?_
  subst h
  cases out with
  | granted => exact pure rfl
  | refused => exact hnote.seq (pure rfl)

/-- Both sides have the same verdict, and both have written their line or neither has. -/
theorem verdicts {m n : Machine}
    (hcall : Coupled R Eq (SealedPages.announced call line) (SealedPages.announced call' line'))
    (hR : R m n) :
    (∃ m₁ n₁, call.run m = (.granted, m₁) ∧ call'.run n = (.granted, n₁) ∧ R m₁ n₁) ∨
    (∃ m₁ n₁, call.run m = (.refused, m₁) ∧ call'.run n = (.refused, n₁) ∧
      R { m₁ with log := m₁.log ++ [line] } { n₁ with log := n₁.log ++ [line'] }) := by
  obtain ⟨hsame, hlinked⟩ := hcall m n hR
  rw [run_announced, run_announced] at hsame hlinked
  generalize call.run m = ran at *
  generalize call'.run n = ran' at *
  obtain ⟨out, m₁⟩ := ran
  obtain ⟨out', n₁⟩ := ran'
  cases (hsame : out = out')
  cases out with
  | granted => exact Or.inl ⟨m₁, n₁, rfl, rfl, hlinked⟩
  | refused => exact Or.inr ⟨m₁, n₁, rfl, rfl, hlinked⟩

/-- **A call that is logged where it is refused**, and what follows under either verdict. -/
theorem bind_announced {f : Verdict → MachineM α} {g : Verdict → MachineM α'} {k : MachineM α}
    {k' : MachineM α'}
    (hcall : Coupled R Eq (SealedPages.announced call line) (SealedPages.announced call' line'))
    (hf : f .refused = Machine.note line >>= fun _ => k)
    (hg : g .refused = Machine.note line' >>= fun _ => k')
    (hgranted : Coupled R Q (f .granted) (g .granted)) (hrefused : Coupled R Q k k') :
    Coupled R Q (call >>= f) (call' >>= g) := by
  intro m n hR
  rw [run_bind, run_bind]
  rcases hcall.verdicts hR with ⟨m₁, n₁, hm, hn, hR₁⟩ | ⟨m₁, n₁, hm, hn, hR₁⟩
  · rw [hm, hn]
    exact hgranted _ _ hR₁
  · rw [hm, hn, hf, hg]
    exact hrefused _ _ hR₁

/-- A demand is such a call. -/
theorem demand (hcall : Coupled R Eq (SealedPages.announced call line)
      (SealedPages.announced call' line')) (e : ε) :
    Coupled R (Both Eq) (SealedPages.demand call line e).run
      (SealedPages.demand call' line' e).run := by
  intro m n hR
  have hdemand := run_demand call line e m
  have hdemand' := run_demand call' line' e n
  rcases hcall.verdicts hR with ⟨m₁, n₁, hm, hn, hR₁⟩ | ⟨m₁, n₁, hm, hn, hR₁⟩
  · rw [hm] at hdemand
    rw [hn] at hdemand'
    rw [hdemand, hdemand']
    exact ⟨.ok rfl, hR₁⟩
  · rw [hm] at hdemand
    rw [hn] at hdemand'
    rw [hdemand, hdemand']
    exact ⟨.error _, hR₁⟩

end Coupled

/-! ## §4. One run. -/

/-- The same machine on both sides, with a property. -/
def Diagonal (P : Machine → Prop) : Link :=
  fun m n => m = n ∧ P m

/-- A property that a computation keeps. -/
def Preserves (P : Machine → Prop) (x : MachineM α) : Prop :=
  ∀ m, P m → P (x.run m).2

variable {P : Machine → Prop}

/-- **A computation that is coupled with itself keeps the property.** -/
theorem Coupled.preserves {Q : α → α' → Prop} {x : MachineM α} {y : MachineM α'}
    (h : Coupled (Diagonal P) Q x y) : Preserves P x :=
  fun m hP => (h m m ⟨rfl, hP⟩).2.2

namespace Preserves

/-- A computation that keeps the property is coupled with itself. -/
theorem coupled {x : MachineM α} (h : Preserves P x) : Coupled (Diagonal P) Eq x x := by
  rintro m n ⟨rfl, hP⟩
  exact ⟨rfl, rfl, h m hP⟩

theorem pure (a : α) : Preserves P (Pure.pure a) :=
  fun _ hP => hP

theorem bind {x : MachineM α} {f : α → MachineM β} (hx : Preserves P x)
    (hf : ∀ a, Preserves P (f a)) : Preserves P (x >>= f) :=
  fun m hP => hf _ _ (hx m hP)

end Preserves

end SealedPages
