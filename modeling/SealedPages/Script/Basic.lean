/-
  SealedPages.Script.Basic
  ────────────────────────
  **SCRIPTS.**  A script is a list of steps on one machine.  Between the steps a
  session keeps what the script holds: buffers, handles, the page size that a
  platform reports.  Each step is answered by its reply and by what it added to
  the record; at the end everything held is given up, and the regions that are
  still live have leaked.

  Main statements:
    * `play_append`        — playing two lists of steps one after the other is
      playing the second from where the first one ended;
    * `length_play`        — every step is answered.
-/
import SealedPages.Machine

namespace SealedPages

namespace Script

variable {σ κ ρ : Type}

/-! ## §1. Playing steps. -/

/-- A session on its machine. -/
structure Scene (σ : Type) where
  session : σ
  machine : Machine := {}

/-- Play one step. -/
def playStep (perform : σ → κ → MachineM (ρ × σ)) (scene : Scene σ) (step : κ) :
    Report ρ × Scene σ :=
  let played := scene.machine.report (perform scene.session step)
  (⟨played.1.reply.1, played.1.trace, played.1.log⟩, ⟨played.1.reply.2, played.2⟩)

/-- The report of a step, from its run. -/
theorem playStep_of_run {perform : σ → κ → MachineM (ρ × σ)} {scene : Scene σ} {step : κ} {reply : ρ}
    {s' : σ} {m' : Machine} (h : (perform scene.session step).run scene.machine = ((reply, s'), m')) :
    playStep perform scene step =
      (⟨reply, m'.trace.drop scene.machine.trace.length, m'.log.drop scene.machine.log.length⟩,
        ⟨s', m'⟩) := by
  simp only [playStep, Machine.report, h]

/-- The report of a step that changes nothing. -/
theorem playStep_of_unmoved {perform : σ → κ → MachineM (ρ × σ)} {scene : Scene σ} {step : κ}
    {reply : ρ}
    (h : (perform scene.session step).run scene.machine =
      ((reply, scene.session), scene.machine)) :
    playStep perform scene step = (⟨reply, [], []⟩, scene) := by
  rw [playStep_of_run h, List.drop_length, List.drop_length]

/-- Play steps in order. -/
def play (perform : σ → κ → MachineM (ρ × σ)) (scene : Scene σ) :
    List κ → List (Report ρ) × Scene σ
  | [] => ([], scene)
  | step :: rest =>
      let first := playStep perform scene step
      let others := play perform first.2 rest
      (first.1 :: others.1, others.2)

theorem length_play (perform : σ → κ → MachineM (ρ × σ)) (scene : Scene σ) (steps : List κ) :
    (play perform scene steps).1.length = steps.length := by
  induction steps generalizing scene with
  | nil => rfl
  | cons step rest ih => simp [play, ih]

/-- **Playing on from where the first steps ended.** -/
theorem play_append (perform : σ → κ → MachineM (ρ × σ)) (scene : Scene σ) (xs ys : List κ) :
    play perform scene (xs ++ ys) =
      ((play perform scene xs).1 ++ (play perform (play perform scene xs).2 ys).1,
        (play perform (play perform scene xs).2 ys).2) := by
  induction xs generalizing scene with
  | nil => rfl
  | cons x xs ih => simp [play, ih]

/-! ## §2. Whole scripts. -/

/-- What a script leaves behind. -/
structure Ending where
  trace : List Moment
  log : List LogLine
  /-- The regions that are still live. -/
  leaked : List RegionId

/-- The answers to a script. -/
structure Transcript (ρ : Type) where
  answers : List (Report ρ)
  ending : Ending

/-- Everything that happened in a script, from its first step to its end. -/
def Transcript.trace (t : Transcript ρ) : List Moment :=
  t.answers.flatMap (·.trace) ++ t.ending.trace

/-- Every log line of a script. -/
def Transcript.log (t : Transcript ρ) : List LogLine :=
  t.answers.flatMap (·.log) ++ t.ending.log

/-- Give up what the session holds. -/
def finish (giveUp : σ → MachineM Unit) (scene : Scene σ) : Ending :=
  let last := scene.machine.report (giveUp scene.session)
  ⟨last.1.trace, last.1.log, last.2.memory.liveIds⟩

/-- Play a script from its start to its end, on a new machine. -/
def run (perform : σ → κ → MachineM (ρ × σ)) (giveUp : σ → MachineM Unit) (session : σ)
    (steps : List κ) : Transcript ρ :=
  let played := play perform ⟨session, {}⟩ steps
  ⟨played.1, finish giveUp played.2⟩

/-! ## §3. What every step keeps. -/

/-- Every step keeps an invariant of the session and its machine, and only adds to
the record. -/
def Keeps (inv : σ → Machine → Prop) (perform : σ → κ → MachineM (ρ × σ)) : Prop :=
  ∀ s k m, inv s m → ∃ reply s' m', (perform s k).run m = ((reply, s'), m') ∧
    inv s' m' ∧ m.Grows m'

variable {inv : σ → Machine → Prop} {perform : σ → κ → MachineM (ρ × σ)}

/-- An invariant that every step keeps, after one step. -/
theorem Keeps.run (h : Keeps inv perform) {s : σ} {m : Machine} (hinv : inv s m) (k : κ) :
    inv ((perform s k).run m).1.2 ((perform s k).run m).2 := by
  obtain ⟨reply, s', m', hrun, hinv', _⟩ := h s k m hinv
  rw [hrun]
  exact hinv'

theorem Keeps.grows (h : Keeps inv perform) {s : σ} {m : Machine} (hinv : inv s m) (k : κ) :
    m.Grows ((perform s k).run m).2 := by
  obtain ⟨reply, s', m', hrun, _, hgrows⟩ := h s k m hinv
  rw [hrun]
  exact hgrows

/-- An invariant and a property of the machine that every step keeps under it. -/
theorem Keeps.and {P : Machine → Prop} (h : Keeps inv perform)
    (hP : ∀ s k m, inv s m → P m → P ((perform s k).run m).2) :
    Keeps (fun s m => inv s m ∧ P m) perform := by
  intro s k m hboth
  obtain ⟨reply, s', m', hrun, hinv, hgrows⟩ := h s k m hboth.1
  have hkept := hP s k m hboth.1 hboth.2
  rw [hrun] at hkept
  exact ⟨reply, s', m', hrun, ⟨hinv, hkept⟩, hgrows⟩

/-- What is dropped from a longer record is what was added. -/
theorem append_drop_eq {α : Type} {old new : List α} (h : old <+: new) :
    old ++ new.drop old.length = new := by
  obtain ⟨added, rfl⟩ := h
  rw [List.drop_left]

/-- **An invariant that every step keeps holds after all of them**, and their answers
report everything that was added to the record. -/
theorem play_of_keeps (hkeeps : Keeps inv perform) (steps : List κ) :
    ∀ scene : Scene σ, inv scene.session scene.machine →
      inv (play perform scene steps).2.session (play perform scene steps).2.machine ∧
      (play perform scene steps).2.machine.trace =
        scene.machine.trace ++ (play perform scene steps).1.flatMap (·.trace) ∧
      (play perform scene steps).2.machine.log =
        scene.machine.log ++ (play perform scene steps).1.flatMap (·.log) := by
  induction steps with
  | nil =>
      intro scene hinv
      exact ⟨hinv, (List.append_nil _).symm, (List.append_nil _).symm⟩
  | cons step rest ih =>
      intro scene hinv
      obtain ⟨reply, s', m', hrun, hinv', hgrows⟩ := hkeeps _ step _ hinv
      have hfirst : playStep perform scene step =
          (⟨reply, m'.trace.drop scene.machine.trace.length, m'.log.drop scene.machine.log.length⟩,
            ⟨s', m'⟩) := playStep_of_run hrun
      obtain ⟨hlast, htrace, hlog⟩ := ih ⟨s', m'⟩ hinv'
      simp only [play, hfirst, List.flatMap_cons]
      refine ⟨hlast, ?_, ?_⟩
      · rw [htrace, ← List.append_assoc, append_drop_eq hgrows.trace]
      · rw [hlog, ← List.append_assoc, append_drop_eq hgrows.log]

/-- **What the answer to any step is like under such an invariant**, all answers are like. -/
theorem answers_of_keeps {Q : ρ → Prop} (hkeeps : Keeps inv perform)
    (hQ : ∀ s k m, inv s m → Q ((perform s k).run m).1.1) (steps : List κ) :
    ∀ scene : Scene σ, inv scene.session scene.machine →
      ∀ a ∈ (play perform scene steps).1, Q a.reply := by
  induction steps with
  | nil =>
      intro scene hinv a ha
      cases ha
  | cons step rest ih =>
      intro scene hinv a ha
      rcases List.mem_cons.1 ha with rfl | hrest
      · exact hQ _ step _ hinv
      · exact ih _ (hkeeps.run hinv step) a hrest

/-- The machine that a run ends on. -/
def lastMachine (perform : σ → κ → MachineM (ρ × σ)) (giveUp : σ → MachineM Unit) (session : σ)
    (steps : List κ) : Machine :=
  let played := play perform ⟨session, {}⟩ steps
  ((giveUp played.2.session).run played.2.machine).2

/-- **A transcript holds the whole record** of the machine that its run ends on. -/
theorem run_record {giveUp : σ → MachineM Unit} {session : σ} {steps : List κ}
    (hkeeps : Keeps inv perform) (hinv : inv session {})
    (hgrows : (play perform ⟨session, {}⟩ steps).2.machine.Grows
      (lastMachine perform giveUp session steps)) :
    (run perform giveUp session steps).trace = (lastMachine perform giveUp session steps).trace ∧
      (run perform giveUp session steps).log = (lastMachine perform giveUp session steps).log := by
  obtain ⟨_, htrace, hlog⟩ := play_of_keeps hkeeps steps ⟨session, {}⟩ hinv
  -- the answers tell what the steps added, and the ending what came after them
  exact ⟨(congrArg (· ++ List.drop _ _) htrace.symm).trans (append_drop_eq hgrows.trace),
    (congrArg (· ++ List.drop _ _) hlog.symm).trans (append_drop_eq hgrows.log)⟩

end Script

end SealedPages
