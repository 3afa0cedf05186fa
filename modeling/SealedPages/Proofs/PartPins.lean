/-
  SealedPages.Proofs.PartPins
  ───────────────────────────
  **PINNING A PART OF A REGION.**  The steps of a script pin and unpin any part of a live region,
  wherever it begins and ends.  Only the advice on core dumps looks at where: it is refused for a
  part that does not begin at a multiple of the region's alignment.  That leaves a warning and
  decides nothing; the reply is the verdict of the pinning or unpinning call.

  Main statement:
    * `PageScript.pinning_of_parts` — both steps, by either way to the pages.
-/
import SealedPages.Proofs.PageSessions

namespace SealedPages

namespace PageScript

variable {api : Api} {steps : List Step} {part : Part}

theorem act_lock (api : Api) (part : Part) :
    act api (.lock part) = withPart part fun s => return .ofVerdict (← Pages.lock s) := by
  cases api <;> rfl

theorem act_unlock (api : Api) (part : Part) :
    act api (.unlock part) = withPart part fun s => return .ofVerdict (← Pages.unlock s) := by
  cases api <;> rfl

/-- A step on a part replies with the verdict of what it does there. -/
theorem goesOn_of_part {x : Step} {body : Span → MachineM Verdict} {s : Span} {out : Verdict}
    {calls : List SystemCall} {lines : List LogLine} {m' : Machine}
    (hact : act api x = withPart part fun s => return .ofVerdict (← body s))
    (hspan : part.span? (machineAfter api steps).memory = some s)
    (hrun : (body s).run (machineAfter api steps) = (out, m'))
    (hcalls : (machineAfter api steps).Calls calls lines m') :
    GoesOn api steps x (.ofVerdict out) calls lines m' := by
  refine .of_run ?_ hcalls
  rw [hact, run_withPart hspan]
  exact run_bind_of_eq hrun

/-- **Pinning and unpinning a part of a live region**, after any steps and by either way to the
pages.  The calls come in a fixed order, and the reply is the verdict of the pinning or
unpinning call alone. -/
theorem pinning_of_parts {r : Region}
    (hlive : (machineAfter api steps).memory.live? part.region = some r) (hin : part.Inside r) :
    ∃ (s : Span) (pin advice unpin : Verdict),
      (s.region = part.region ∧ s.off = part.off ∧ s.len.toNat = part.size r ∧
        s.off.toNat + s.len.toNat ≤ r.bytes.length) ∧
      ((pin = .refused ↔ (machineAfter api steps).faults.fires .mlock = true) ∧
        (unpin = .refused ↔ (machineAfter api steps).faults.fires .munlock = true) ∧
        (advice = .refused ↔ (machineAfter api steps).faults.fires .madvise = true ∨
          ¬ r.align.toNat ∣ part.off.toNat)) ∧
      (∃ m', GoesOn api steps (.lock part) (.ofVerdict pin) (s.pinCalls pin advice)
          (s.pinLines pin advice) m' ∧
        m'.memory.unpinned = (machineAfter api steps).memory.unpinned) ∧
      (∃ m', GoesOn api steps (.unlock part) (.ofVerdict unpin) (s.unpinCalls advice unpin)
          (s.adviceLines .doDump advice) m' ∧
        m'.memory.unpinned = (machineAfter api steps).memory.unpinned) ∧
      (Advice.dontDump.number = 16 ∧ Advice.doDump.number = 17 ∧
        ∀ a, (LogLine.adviceRefused s a).level = .warn ∧ (LogLine.adviceRefused s a).message =
          s!"madvise({a.number}) failed for {s.len} bytes at <addr>") ∧
      (∀ x, x = .lock part ∨ x = .unlock part → comesTo .services (machineAfter api steps) x =
        comesTo .functions (machineAfter api steps) x) ∧
      ∀ script, run .services script = run .functions (script.map Step.ofServices) := by
  have hfound : (machineAfter api steps).memory.find? part.region = some r :=
    (Option.filter_eq_some_iff.1 hlive).1
  have hobtainable : r.Obtainable := machineAfter_obtainable api steps part.region r hfound
  obtain ⟨len, hspan, hlen, hends⟩ := Part.span?_of_inside hlive hobtainable hin
  obtain ⟨m₁, hlock, hpins⟩ :=
    Pages.lock_onlyPins ⟨part.region, part.off, len⟩ (machineAfter api steps)
  obtain ⟨m₂, hunlock, hunpins⟩ :=
    Pages.unlock_onlyPins ⟨part.region, part.off, len⟩ (machineAfter api steps)
  refine ⟨⟨part.region, part.off, len⟩, _, _, _, ⟨rfl, rfl, hlen, hends⟩,
    ⟨Kernel.pinVerdict_eq_refused_iff, Kernel.unpinVerdict_eq_refused_iff,
      Kernel.adviceVerdict_eq_refused_iff hfound⟩,
    ⟨m₁, goesOn_of_part (act_lock ..) hspan hlock hpins.toCalls, hpins.memory⟩,
    ⟨m₂, goesOn_of_part (act_unlock ..) hspan hunlock hunpins.toCalls, hunpins.memory⟩,
    ⟨rfl, rfl, fun a => ⟨rfl, rfl⟩⟩, ?_, run_services⟩
  rintro x (rfl | rfl)
  · exact comesTo_services _ _
  · exact comesTo_services _ _

/-- A small region, and a fault on the next unpinning. -/
def smallRegion : List Step :=
  [.alloc 8 8, .fault .munlock [1]]

/-- In the middle of a region the advice is refused: the part is pinned all the same, and the
fault alone refuses to unpin it. -/
theorem pinning_of_the_middle :
    (machineAfter .functions smallRegion).memory.live? 1 = some (.fresh 8 8) ∧
      Part.Inside ⟨1, 3, some 2⟩ (.fresh 8 8) ∧
      (∃ m', GoesOn .functions smallRegion (.lock ⟨1, 3, some 2⟩) .done
        [.mlock ⟨1, 3, 2⟩ .granted, .madvise ⟨1, 3, 2⟩ .dontDump .refused]
        [.adviceRefused ⟨1, 3, 2⟩ .dontDump] m') ∧
      ∃ m', GoesOn .functions smallRegion (.unlock ⟨1, 3, some 2⟩) (.failed (.refused .refused))
        [.madvise ⟨1, 3, 2⟩ .doDump .refused, .munlock ⟨1, 3, 2⟩ .refused]
        [.adviceRefused ⟨1, 3, 2⟩ .doDump] m' := by
  have hlive : (machineAfter .functions smallRegion).memory.live? 1 = some (.fresh 8 8) := rfl
  have hin : Part.Inside ⟨1, 3, some 2⟩ (.fresh 8 8) :=
    ⟨by decide, fun len hlen => by cases hlen; decide⟩
  obtain ⟨⟨region, off, len⟩, pin, advice, unpin, ⟨rfl, rfl, hlen, -⟩, ⟨hpin, hunpin, hadvice⟩,
    ⟨m₁, hlock, -⟩, ⟨m₂, hunlock, -⟩, -⟩ := pinning_of_parts hlive hin
  obtain rfl : len = 2 := UInt64.toNat_inj.1 hlen
  obtain rfl : advice = .refused := hadvice.2 (.inr (by decide))
  obtain rfl : unpin = .refused := hunpin.2 rfl
  cases pin with
  | granted => exact ⟨hlive, hin, ⟨m₁, hlock⟩, ⟨m₂, hunlock⟩⟩
  | refused => exact absurd (hpin.1 rfl) (by decide)

end PageScript

end SealedPages
