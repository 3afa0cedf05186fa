/-
  SealedPages.Proofs.CallOrder
  ────────────────────────────
  **THE ORDER OF THE CALLS ON A REGION.**  In every scenario the calls that name one
  region spell a life, and at every point of the run they spell the beginning of one.
  The lengths and addresses are part of the words: all calls on a region are about
  the whole of it, with the length that it was made with, whatever page size a
  platform reports later.

  Main statements:
    * `calls_eq_nil_or_mem_life` — at the end of a scenario every life is over;
    * `calls_take_prefix_life` — at every point of it, the life so far is a beginning
      of that life.
-/
import SealedPages.Proofs.Scenario

namespace SealedPages

variable {v : View} {id : RegionId} {L page : UInt64}

/-! ## §1. Lives that are over. -/

/-- A region that no buffer holds was never made, or its life is over. -/
theorem Story.Loose.calls_eq_nil_or_mem_life {s : Story} (hs : s.Loose v id) :
    s.events.filter v.shows = [] ∨ ∃ size page L, RoundedUp size page L ∧
      s.events.filter v.shows ∈ (v.spelling id L).life page := by
  cases hs with
  | unmade => exact Or.inl rfl
  | released region freed zero rounded calls kept =>
      right
      refine ⟨_, _, _, rounded, ?_⟩
      rw [Spelling.life_eq_returned_add_givenUp]
      exact Or.inl calls
  | givenUp region resting rounded calls abandoned =>
      right
      refine ⟨_, _, _, rounded, ?_⟩
      rw [Spelling.life_eq_returned_add_givenUp]
      exact Or.inr calls

/-- There are lives: pages that could not be pinned are handed back at once. -/
theorem exists_mem_life (v : View) (id : RegionId) (L page : UInt64) :
    ∃ word, word ∈ (v.spelling id L).life page := by
  -- a word for each of the four actions
  have hallocate : ∃ word, word ∈ (v.spelling id L).allocate page := by
    cases v <;> exact ⟨_, rfl⟩
  have hwipe : ∃ word, word ∈ (v.spelling id L).wipe := by
    cases v <;> exact ⟨_, rfl⟩
  have hlock : ∃ word, word ∈ (v.spelling id L).lock .refused := by
    cases v <;> exact ⟨_, rfl⟩
  have hrelease : ∃ word, word ∈ (v.spelling id L).release := by
    cases v <;> exact ⟨_, 0, rfl⟩
  obtain ⟨a, ha⟩ := hallocate
  obtain ⟨b, hb⟩ := hwipe
  obtain ⟨c, hc⟩ := hlock
  obtain ⟨d, hd⟩ := hrelease
  exact ⟨a ++ b ++ (c ++ d), Language.append_mem_mul (Language.append_mem_mul ha hb)
    (Or.inl (Language.append_mem_mul hc hd))⟩

/-- Up to a point of a run, the calls are the first of all calls. -/
theorem View.callsOn_take_prefix (v : View) (id : RegionId) (t : List Moment) (n : Nat) :
    v.callsOn id (t.take n) <+: v.callsOn id t := by
  conv => rhs; rw [← List.take_append_drop n t, callsOn_append]
  exact List.prefix_append _ _

/-! ## §2. The calls of a scenario. -/

namespace Scenario

/-- **At the end of a scenario** every region that was made has a whole life behind it. -/
theorem calls_eq_nil_or_mem_life (σ : Scenario) (id : RegionId) :
    σ.view.callsOn id σ.trace = [] ∨ ∃ size page L, RoundedUp size page L ∧
      σ.view.callsOn id σ.trace ∈ (σ.view.spelling id L).life page := by
  -- nothing is held any more, so every region is loose
  rw [σ.trace_eq]
  exact (σ.custody_last.loose id (by simp)).calls_eq_nil_or_mem_life

/-- **At every point of a scenario**, the calls that name a region are the beginning
of one and the same life of that region. -/
theorem calls_take_prefix_life (σ : Scenario) (id : RegionId) :
    ∃ size page L, RoundedUp size page L ∧ ∃ word ∈ (σ.view.spelling id L).life page,
      ∀ n, σ.view.callsOn id (σ.trace.take n) <+: word := by
  rcases σ.calls_eq_nil_or_mem_life id with hnil | ⟨size, page, L, hL, hword⟩
  · -- the region is never made; one byte on one page would do
    have hL : RoundedUp 1 Kernel.pageSize Kernel.pageSize := ⟨by decide, rfl⟩
    obtain ⟨word, hword⟩ := exists_mem_life σ.view id Kernel.pageSize Kernel.pageSize
    refine ⟨1, _, _, hL, word, hword, ?_⟩
    intro n
    have hfirst := σ.view.callsOn_take_prefix id σ.trace n
    rw [hnil, List.prefix_nil] at hfirst
    rw [hfirst]
    exact List.nil_prefix
  · exact ⟨size, page, L, hL, _, hword, fun n => σ.view.callsOn_take_prefix id σ.trace n⟩

/-- Pages that do not close again after a write are erased, and their life is over. -/
example :
    View.serviceCalls.callsOn 1
      (buffers .custom 8 [⟨0, .create 5⟩, ⟨0, .fault .protect [2]⟩, ⟨0, .use (.write [1])⟩]).trace =
      [.service (.allocate 8 (some 1)), .service (.wipe (.front 1 8)),
        .service (.lock (.front 1 8) .granted),
        .service (.protect (.front 1 8) .noAccess .granted),
        .service (.protect (.front 1 8) .readWrite .granted),
        .service (.protect (.front 1 8) .noAccess .refused),
        .service (.wipe (.front 1 8)), .service (.unlock (.front 1 8) .granted),
        .service (.release (.front 1 8) 0)] := by
  rfl

end Scenario

end SealedPages
