/-
  SealedPages.Proofs.PinCalls
  ───────────────────────────
  **THE CALLS OF PINNING AND UNPINNING.**  Pages are pinned by one call.  Only once it is granted
  does the advice follow to leave them out of core dumps.  Pages are unpinned in the other order:
  the advice is taken back first, and whatever becomes of that, one call unpins the pages.

  The verdicts are told from the machine before any of it: a fault of the call itself, and for
  an advice also an address that is no multiple of the region's alignment.  A refused advice leaves
  one warning in the log and decides nothing.

  Main statements:
    * `Kernel.pinVerdict_eq_refused_iff`, `Kernel.adviceVerdict_eq_refused_iff`, … — the verdicts;
    * `Pages.lock_onlyPins`, `Pages.unlock_onlyPins` — the calls and the lines, on any machine.
-/
import SealedPages.Proofs.Comparison

namespace SealedPages

/-! ## §1. Calls that change no more than pins. -/

/-- From `m` to `m'` the calls `calls` of the operating system were made, in order, and nothing
else happened to the pages; the lines `lines` were logged. -/
structure Machine.Calls (m : Machine) (calls : List SystemCall) (lines : List LogLine)
    (m' : Machine) : Prop where
  trace : ∃ moments, m'.trace = m.trace ++ moments ∧
    moments.map (·.event) = calls.map Event.system
  log : m'.log = m.log ++ lines

namespace Machine.Calls

variable {m m₁ m' : Machine} {calls calls₁ : List SystemCall} {lines lines₁ : List LogLine}

theorem refl (m : Machine) : m.Calls [] [] m :=
  ⟨⟨[], (List.append_nil _).symm, rfl⟩, (List.append_nil _).symm⟩

theorem trans (a : m.Calls calls lines m₁) (b : m₁.Calls calls₁ lines₁ m') :
    m.Calls (calls ++ calls₁) (lines ++ lines₁) m' := by
  obtain ⟨earlier, hearlier, hcalls⟩ := a.trace
  obtain ⟨later, hlater, hcalls₁⟩ := b.trace
  refine ⟨⟨earlier ++ later, ?_, ?_⟩, ?_⟩
  · rw [hlater, hearlier, List.append_assoc]
  · rw [List.map_append, hcalls, hcalls₁, List.map_append]
  · rw [b.log, a.log, List.append_assoc]

end Machine.Calls

/-- Calls were made and lines logged, and no region was changed but for its pin. -/
structure Machine.OnlyPins (m : Machine) (calls : List SystemCall) (lines : List LogLine)
    (m' : Machine) : Prop extends m.Calls calls lines m' where
  memory : m'.memory.unpinned = m.memory.unpinned

theorem Machine.OnlyPins.trans {m m₁ m' : Machine} {calls calls₁ : List SystemCall}
    {lines lines₁ : List LogLine} (a : m.OnlyPins calls lines m₁)
    (b : m₁.OnlyPins calls₁ lines₁ m') : m.OnlyPins (calls ++ calls₁) (lines ++ lines₁) m' :=
  ⟨a.toCalls.trans b.toCalls, b.memory.trans a.memory⟩

namespace Kernel

/-- The verdict is a refusal where a fault fires, or where the call is not sound. -/
theorem verdictOn_eq_refused_iff {fs : Faults} {t : Target} {sound : Bool} :
    verdictOn fs t sound = .refused ↔ fs.fires t = true ∨ sound = false := by
  unfold verdictOn
  cases fs.fires t <;> cases sound <;> simp

/-- A call that can be refused is one call, and writes no line. -/
theorem attempt_calls (t : Target) (sound : Memory → Bool) (event : Verdict → SystemCall)
    (effect : Verdict → Memory → Memory) (m : Machine) :
    m.Calls [event (verdictOn m.faults t (sound m.memory))] []
      ((attempt t sound event effect).run m).2 :=
  ⟨⟨_, rfl, rfl⟩, (List.append_nil _).symm⟩

/-- **Such a call changes pins alone**, if its effect does. -/
theorem attempt_onlyPins {t : Target} {sound : Memory → Bool} {event : Verdict → SystemCall}
    {effect : Verdict → Memory → Memory}
    (heffect : ∀ out mem, (effect out mem).unpinned = mem.unpinned) (m : Machine) :
    ∃ m', (attempt t sound event effect).run m = (verdictOn m.faults t (sound m.memory), m') ∧
      m.OnlyPins [event (verdictOn m.faults t (sound m.memory))] [] m' ∧
      m'.faults = m.faults.tick t :=
  ⟨_, run_attempt t sound event effect m,
    ⟨attempt_calls t sound event effect m, heffect _ m.memory⟩, rfl⟩

/-- The verdict on pinning pages. -/
def pinVerdict (m : Machine) : Verdict :=
  verdictOn m.faults .mlock true

/-- The verdict on unpinning pages. -/
def unpinVerdict (m : Machine) : Verdict :=
  verdictOn m.faults .munlock true

/-- The verdict on an advice on a part of a region. -/
def adviceVerdict (m : Machine) (s : Span) : Verdict :=
  verdictOn m.faults .madvise (isAligned s m.memory)

theorem pinVerdict_eq_refused_iff {m : Machine} :
    pinVerdict m = .refused ↔ m.faults.fires .mlock = true := by
  rw [pinVerdict, verdictOn_eq_refused_iff]
  simp

theorem unpinVerdict_eq_refused_iff {m : Machine} :
    unpinVerdict m = .refused ↔ m.faults.fires .munlock = true := by
  rw [unpinVerdict, verdictOn_eq_refused_iff]
  simp

/-- An advice is refused where a fault fires, or where the address of the part is no multiple of
the region's alignment. -/
theorem adviceVerdict_eq_refused_iff {m : Machine} {s : Span} {r : Region}
    (hr : m.memory.find? s.region = some r) :
    adviceVerdict m s = .refused ↔
      m.faults.fires .madvise = true ∨ ¬ r.align.toNat ∣ s.off.toNat := by
  rw [adviceVerdict, verdictOn_eq_refused_iff, isAligned_of_find? hr, ← mod_eq_zero_iff_dvd,
    Region.alignedAt, beq_eq_false_iff_ne]

theorem mlock_onlyPins (s : Span) (m : Machine) :
    ∃ m', (mlock s).run m = (pinVerdict m, m') ∧
      m.OnlyPins [.mlock s (pinVerdict m)] [] m' ∧ m'.faults = m.faults.tick .mlock := by
  refine attempt_onlyPins (fun out mem => ?_) m
  cases out with
  | granted => exact mem.unpinned_setPinned s.region true
  | refused => rfl

theorem munlock_onlyPins (s : Span) (m : Machine) :
    ∃ m', (munlock s).run m = (unpinVerdict m, m') ∧
      m.OnlyPins [.munlock s (unpinVerdict m)] [] m' ∧ m'.faults = m.faults.tick .munlock :=
  attempt_onlyPins (fun _ mem => mem.unpinned_setPinned s.region false) m

theorem madvise_onlyPins (s : Span) (a : Advice) (m : Machine) :
    ∃ m', (madvise s a).run m = (adviceVerdict m s, m') ∧
      m.OnlyPins [.madvise s a (adviceVerdict m s)] [] m' ∧ m'.faults = m.faults.tick .madvise :=
  attempt_onlyPins (fun _ _ => rfl) m

/-- **A call for another target, that changes no more than pins, does not decide an advice.** -/
theorem adviceVerdict_congr {m m' : Machine} {t : Target} (s : Span) (ht : Target.madvise ≠ t)
    (hmemory : m'.memory.unpinned = m.memory.unpinned) (hfaults : m'.faults = m.faults.tick t) :
    adviceVerdict m' s = adviceVerdict m s := by
  have haligned : isAligned s m'.memory = isAligned s m.memory := by
    rw [← Memory.isAligned_unpinned, hmemory, Memory.isAligned_unpinned]
  unfold adviceVerdict verdictOn
  rw [haligned, hfaults, Faults.fires_tick_of_ne _ ht]

end Kernel

/-! ## §2. The page functions. -/

namespace Span

/-- The calls of pinning pages: the advice is asked for only once they are pinned. -/
def pinCalls (s : Span) : Verdict → Verdict → List SystemCall
  | .granted, advice => [.mlock s .granted, .madvise s .dontDump advice]
  | .refused, _ => [.mlock s .refused]

/-- The calls of unpinning pages, in this order whatever their verdicts. -/
def unpinCalls (s : Span) (advice unpin : Verdict) : List SystemCall :=
  [.madvise s .doDump advice, .munlock s unpin]

/-- What is logged about an advice: a refusal. -/
def adviceLines (s : Span) (a : Advice) : Verdict → List LogLine
  | .granted => []
  | .refused => [.adviceRefused s a]

/-- What is logged about pinning pages: nothing where no advice was asked for. -/
def pinLines (s : Span) : Verdict → Verdict → List LogLine
  | .granted, advice => s.adviceLines .dontDump advice
  | .refused, _ => []

end Span

namespace Pages

open Kernel

/-- An advice makes one call, and its refusal is logged. -/
theorem advise_onlyPins (s : Span) (a : Advice) (m : Machine) :
    ∃ m', (advise s a).run m = ((), m') ∧
      m.OnlyPins [.madvise s a (adviceVerdict m s)] (s.adviceLines a (adviceVerdict m s)) m' ∧
      m'.faults = m.faults.tick .madvise := by
  obtain ⟨m', hrun, hcalls, hfaults⟩ := madvise_onlyPins s a m
  unfold advise
  rw [run_bind_of_eq hrun]
  generalize adviceVerdict m s = advice at hcalls ⊢
  cases advice with
  | granted => exact ⟨m', rfl, hcalls, hfaults⟩
  | refused =>
      refine ⟨_, rfl, ⟨⟨hcalls.trace, ?_⟩, hcalls.memory⟩, hfaults⟩
      show m'.log ++ [_] = _
      rw [hcalls.log, List.append_nil]
      rfl

/-- **Pinning** is decided by one call; only if it is granted, the advice follows. -/
theorem lock_onlyPins (s : Span) (m : Machine) :
    ∃ m', (lock s).run m = (pinVerdict m, m') ∧
      m.OnlyPins (s.pinCalls (pinVerdict m) (adviceVerdict m s))
        (s.pinLines (pinVerdict m) (adviceVerdict m s)) m' := by
  obtain ⟨m₁, hrun, hcalls, hfaults⟩ := mlock_onlyPins s m
  have hadvice := adviceVerdict_congr s (by decide) hcalls.memory hfaults
  unfold lock
  rw [run_bind_of_eq hrun]
  generalize pinVerdict m = pin at hcalls ⊢
  cases pin with
  | granted =>
      obtain ⟨m', hrun₁, hcalls₁, -⟩ := advise_onlyPins s .dontDump m₁
      rw [hadvice] at hcalls₁
      exact ⟨m', run_bind_of_eq hrun₁, hcalls.trans hcalls₁⟩
  | refused => exact ⟨m₁, rfl, hcalls⟩

/-- **Unpinning** is decided by one call, after the advice whatever came of it. -/
theorem unlock_onlyPins (s : Span) (m : Machine) :
    ∃ m', (unlock s).run m = (unpinVerdict m, m') ∧
      m.OnlyPins (s.unpinCalls (adviceVerdict m s) (unpinVerdict m))
        (s.adviceLines .doDump (adviceVerdict m s)) m' := by
  obtain ⟨m₁, hrun, hcalls, hfaults⟩ := advise_onlyPins s .doDump m
  obtain ⟨m', hrun₁, hcalls₁, -⟩ := munlock_onlyPins s m₁
  have hunpin : unpinVerdict m₁ = unpinVerdict m := by
    unfold unpinVerdict verdictOn
    rw [hfaults, Faults.fires_tick_of_ne _ (by decide)]
  rw [hunpin] at hrun₁ hcalls₁
  unfold unlock
  have hboth := hcalls.trans hcalls₁
  rw [List.append_nil] at hboth
  exact ⟨m', (run_bind_of_eq hrun).trans hrun₁, hboth⟩

end Pages

end SealedPages
