/-
  SealedPages.Proofs.EveryMoment
  ──────────────────────────────
  **AT EVERY MOMENT OF A RUN, ALSO IN THE MIDDLE OF AN OPERATION.**  Custody is about
  the state between two steps.  What it keeps of the past is about each moment of it:
  which bytes were touched, what the pages held when they were pinned, unpinned or
  handed back, and where secrets lay.

  The memory changes only with an event.  So what a region holds between two events is
  what the second one meets, and after the last event it is what the machine holds.

  Main statements:
    * `touches_permitted` — only live, open regions are touched, within their bounds,
      and the warden reads every run to its end;
    * `secrets_sheltered` — pages are zero where they are pinned, unpinned or handed
      back, and hold secrets only while they are pinned.
-/
import SealedPages.Proofs.Scenario

namespace SealedPages

namespace Scenario

variable {σ : Scenario}

/-- Every moment of a scenario is sound after all that came before it. -/
theorem sound_at {pre post : List Moment} {x : Moment} (h : σ.trace = pre ++ x :: post) :
    x.SoundAll σ.view pre := by
  rw [σ.trace_eq] at h
  have hsound := throughout_iff.1 σ.custody_last.sound pre x post h
  rwa [List.nil_append] at hsound

theorem sound_of_mem {x : Moment} (h : x ∈ σ.trace) (id : RegionId) :
    ∃ pre, x.Sound σ.view id pre := by
  obtain ⟨pre, post, e⟩ := List.append_of_mem h
  exact ⟨pre, sound_at e id⟩

/-- **Only open pages are touched.**  Wherever bytes are copied in, copied out or wiped,
or a region is handed back, the region is live, its protection is read-write, and the
bytes lie within it.  So a look at the calls that stops at any other touch stops
nowhere. -/
theorem touches_permitted (σ : Scenario) :
    (∀ x ∈ σ.trace, x.Permitted) ∧ (Warden.blank.watch σ.trace).isSome = true := by
  constructor
  · intro x hx
    obtain ⟨pre, hsound⟩ := sound_of_mem hx 0
    exact hsound.1
  · rw [σ.trace_eq, σ.custody_last.watched]
    rfl

/-- **Secrets live in pinned pages and never survive their release.**  Pages are zero, to
their last byte, where they are pinned, unpinned or handed back; and once a region was
wiped, it holds a nonzero byte only while it is pinned: in the middle of a step, after
any steps, and after the end. -/
theorem secrets_sheltered (σ : Scenario) :
    (∀ x ∈ σ.trace, x.Clean) ∧
    (∀ pre x post, σ.trace = pre ++ x :: post →
      ∀ id, σ.view.Sheltered (eventsOn id pre) (x.memory.find? id)) ∧
    (∀ id, σ.view.Sheltered (eventsOn id σ.machine.trace) (σ.machine.memory.find? id)) ∧
    ∀ id, σ.view.Sheltered (eventsOn id σ.last.trace) (σ.last.memory.find? id) := by
  refine ⟨?_, ?_, σ.custody.sheltered, σ.custody_last.sheltered⟩
  · intro x hx
    obtain ⟨pre, hsound⟩ := sound_of_mem hx 0
    exact hsound.2.1
  · intro pre x post h id
    exact (sound_at h id).2.2

end Scenario

end SealedPages
