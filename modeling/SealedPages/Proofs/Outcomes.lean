/-
  SealedPages.Proofs.Outcomes
  ───────────────────────────
  **BEST-EFFORT CALLS NEVER CHANGE AN OUTCOME.**  Take two scripts that differ only in which
  calls of `madvise` and `munlock`, or of the service `unlock`, are made to fail.  Then every
  step is answered the same, in words, in bytes and in status; a look at memory shows the same,
  and the same regions leak.  The events differ in the verdicts on these calls at most, and the
  logs in the lines that report their refusal.

  The two scripts may schedule such faults at different places.  So each of them is compared
  with the script that is left when these steps are taken out: a step that remains is played
  by both, and one that is taken out goes unnoticed.

  Main statements:
    * `Script.step_spared`, `Script.skip_spared` — a step of both scripts, and one of a single
      script;
    * `Script.play_kept` — a script, and what is left of it;
    * `best_effort_never_decides` — scripts of buffers and scripts of handles.
-/
import SealedPages.Proofs.BestEffort

namespace SealedPages

/-! ## §1. Scripts that agree on what decides. -/

namespace Script

variable {σ κ α : Type} {perform : σ → κ → MachineM (α × σ)} {giveUp : σ → MachineM Unit}
  {inv : σ → Machine → Prop} {v : View} {keep : κ → Bool} {P : κ → κ → Prop}

/-- **Two scripts that come to the same.**  Whatever steps follow them, counterparts are
answered the same right after them; and so are they at the end.  Events are read without the
verdicts of best-effort calls, logs without the lines that report them. -/
structure SameOutcome (v : View) (run : List κ → Transcript α) (P : κ → κ → Prop)
    (xs ys : List κ) : Prop where
  answer : ∀ {x y}, P x y → ∀ post post', ∃ r r',
    (run (xs ++ x :: post)).answers[xs.length]? = some r ∧
    (run (ys ++ y :: post')).answers[ys.length]? = some r' ∧
    Report.ReadAlike (.outcome v) (.outcome v) Eq r r'
  trace : (run ys).ending.trace.flatMap (Reading.outcome v).moment =
    (run xs).ending.trace.flatMap (Reading.outcome v).moment
  log : (run ys).ending.log.flatMap (Reading.outcome v).line =
    (run xs).ending.log.flatMap (Reading.outcome v).line
  leaked : (run ys).ending.leaked = (run xs).ending.leaked

/-- Two sessions that hold the same, on machines that differ in best-effort calls only. -/
structure Scene.Spared (v : View) (inv : σ → Machine → Prop) (a b : Scene σ) : Prop where
  session : b.session = a.session
  machine : SealedPages.Spared v a.machine b.machine
  left : inv a.session a.machine
  right : inv b.session b.machine

namespace Scene.Spared

variable {a b c : Scene σ}

theorem refl (h : inv a.session a.machine) : Scene.Spared v inv a a :=
  ⟨rfl, .refl _, h, h⟩

theorem symm (h : Scene.Spared v inv a b) : Scene.Spared v inv b a :=
  ⟨h.session.symm, h.machine.symm, h.right, h.left⟩

theorem trans (h : Scene.Spared v inv a b) (h' : Scene.Spared v inv b c) :
    Scene.Spared v inv a c :=
  ⟨h'.session.trans h.session, h.machine.trans h'.machine, h.left, h'.right⟩

end Scene.Spared

/-- The answer to a step does not depend on what follows it. -/
theorem run_answers_append (giveUp : σ → MachineM Unit) (session : σ) (pre : List κ) (x : κ)
    (post : List κ) :
    (run perform giveUp session (pre ++ x :: post)).answers[pre.length]? =
      some (playStep perform (play perform ⟨session, {}⟩ pre).2 x).1 := by
  have hlength := length_play perform ⟨session, {}⟩ pre
  show (play perform ⟨session, {}⟩ (pre ++ x :: post)).1[pre.length]? = _
  rw [play_append, List.getElem?_append_right (Nat.le_of_eq hlength), hlength, Nat.sub_self]
  rfl

/-- **What is given up at the end** comes to the same. -/
theorem finish_spared {a b : Scene σ} (h : Scene.Spared v inv a b)
    (hgiveUp : ∀ s, Coupled (Spared v) Eq (giveUp s) (giveUp s))
    (hend : ∀ {s m}, inv s m → m.Grows ((giveUp s).run m).2) :
    Report.ReadAlike (.outcome v) (.outcome v) Eq (a.machine.report (giveUp a.session)).1
        (b.machine.report (giveUp b.session)).1 ∧
      (finish giveUp b).leaked = (finish giveUp a).leaked := by
  obtain ⟨s, m⟩ := a
  obtain ⟨_, n⟩ := b
  cases (h.session : _ = s)
  obtain ⟨hreply, hmachine⟩ := hgiveUp s m n h.machine
  constructor
  · exact Machine.report_alike (hend h.left) (hend h.right) h.machine.record hmachine.record hreply
  · exact hmachine.memory.liveIds_eq

section TwoScripts

variable (hkeeps : Keeps inv perform)

include hkeeps

/-- **Counterparts are answered the same**, and leave the sessions as they have to be. -/
theorem step_spared {a b : Scene σ} (h : Scene.Spared v inv a b) {x y : κ}
    (hstep : ∀ s, Coupled (Spared v) Eq (perform s x) (perform s y)) :
    Report.ReadAlike (.outcome v) (.outcome v) Eq (playStep perform a x).1
        (playStep perform b y).1 ∧
      Scene.Spared v inv (playStep perform a x).2 (playStep perform b y).2 := by
  obtain ⟨s, m⟩ := a
  obtain ⟨_, n⟩ := b
  cases (h.session : _ = s)
  obtain ⟨hreply, hmachine⟩ := hstep s m n h.machine
  constructor
  · exact playStep_alike (hkeeps.grows h.left x) (hkeeps.grows h.right y) h.machine.record
      hmachine.record (congrArg Prod.fst hreply)
  · exact ⟨(congrArg Prod.snd hreply).symm, hmachine, hkeeps.run h.left x, hkeeps.run h.right y⟩

/-- **A step that only one script takes**, and that goes unnoticed. -/
theorem skip_spared {a b : Scene σ} (h : Scene.Spared v inv a b) {x : κ}
    (hskip : ∀ s m, ((perform s x).run m).1.2 = s ∧ Spared v m ((perform s x).run m).2) :
    Scene.Spared v inv (playStep perform a x).2 b := by
  obtain ⟨hsession, hmachine⟩ := hskip a.session a.machine
  exact ⟨h.session.trans hsession.symm, hmachine.symm.trans h.machine, hkeeps.run h.left x, h.right⟩

variable (hsame : ∀ x s, Coupled (Spared v) Eq (perform s x) (perform s x))
  (hskip : ∀ x, keep x = false → ∀ s m,
    ((perform s x).run m).1.2 = s ∧ Spared v m ((perform s x).run m).2)

include hsame hskip

/-- **A script comes to the same as what is left of it.** -/
theorem play_kept (xs : List κ) : ∀ {a b : Scene σ}, Scene.Spared v inv a b →
    Scene.Spared v inv (play perform a xs).2 (play perform b (xs.filter keep)).2 := by
  induction xs with
  | nil =>
      intro a b h
      exact h
  | cons x rest ih =>
      intro a b h
      cases hx : keep x with
      | true =>
          rw [List.filter_cons_of_pos hx]
          exact ih (step_spared hkeeps h (hsame x)).2
      | false =>
          rw [List.filter_cons_of_neg (Bool.eq_false_iff.1 hx)]
          exact ih (skip_spared hkeeps h (hskip x hx))

/-- Scripts of which the same is left lead to the same. -/
theorem play_spared {session : σ} (hinv : inv session {}) {xs ys : List κ}
    (h : xs.filter keep = ys.filter keep) :
    Scene.Spared v inv (play perform ⟨session, {}⟩ xs).2 (play perform ⟨session, {}⟩ ys).2 := by
  have hleft := play_kept hkeeps hsame hskip xs (.refl (a := ⟨session, {}⟩) hinv)
  have hright := play_kept hkeeps hsame hskip ys (.refl (a := ⟨session, {}⟩) hinv)
  rw [h] at hleft
  exact hleft.trans hright.symm

/-- **Scripts of which the same is left have the same outcome.** -/
theorem run_spared {session : σ} (hinv : inv session {}) {xs ys : List κ}
    (h : xs.filter keep = ys.filter keep)
    (hcounterpart : ∀ {x y}, P x y → ∀ s, Coupled (Spared v) Eq (perform s x) (perform s y))
    (hgiveUp : ∀ s, Coupled (Spared v) Eq (giveUp s) (giveUp s))
    (hend : ∀ {s m}, inv s m → m.Grows ((giveUp s).run m).2) :
    SameOutcome v (run perform giveUp session) P xs ys := by
  have hplayed := play_spared hkeeps hsame hskip hinv h
  obtain ⟨hreport, hleaked⟩ := finish_spared hplayed hgiveUp hend
  refine ⟨?_, hreport.trace, hreport.log, hleaked⟩
  intro x y hxy post post'
  exact ⟨_, _, run_answers_append giveUp session xs x post, run_answers_append giveUp session ys y post',
    (step_spared hkeeps hplayed (hcounterpart hxy)).1⟩

end TwoScripts

end Script

/-! ## §2. Scripts of buffers. -/

namespace BufferScript

/-- Whether a step decides something: it does not only make best-effort calls fail. -/
def Step.isEssential (x : Step) : Bool :=
  match x.action with
  | .fault t _ => !t.isBestEffort
  | _          => true

/-- Steps that differ in which best-effort calls they make fail, at most. -/
inductive Step.Counterpart : Step → Step → Prop
  | same (x : Step) : Counterpart x x
  | fault (slot : Nat) {t t' : Target} (ht : t.isBestEffort = true) (ht' : t'.isBestEffort = true)
      (places places' : List Nat) : Counterpart ⟨slot, .fault t places⟩ ⟨slot, .fault t' places'⟩

/-- **The same step is answered the same**, spared best-effort calls. -/
theorem perform_spared (kind : PlatformKind) (x : Step) (s : Session) :
    Coupled (Spared kind.view) Eq (perform kind s x) (perform kind s x) := by
  obtain ⟨slot, action⟩ := x
  have hoperation : ∀ {a : Action}, a.Paired Eq a →
      Coupled (Spared kind.view) Eq (perform kind s ⟨slot, a⟩) (perform kind s ⟨slot, a⟩) := by
    intro a ha
    refine Coupled.mono (perform_interchangeable ha rfl
      (fun size => SealedBuffer.create_coupled (Spared.creating kind s.page) size)
      fun h _ => Spared.interchangeable kind s.page h.region) ?_
    intro y y' hy
    exact Prod.ext hy.1.symm hy.2.eq.symm
  cases action with
  | create size => exact hoperation (.create size)
  | use u => exact hoperation (.use (.same u))
  | setPageSize value => exact .pure rfl
  | fault target places => exact fun m n h => ⟨rfl, (Spared.schedule_coupled target places m n h).2⟩
  | peek region first len =>
      intro m n h
      have hsight := h.memory.peek_eq region first len
      refine ⟨?_, h⟩
      show (Answer.mk (.sight (m.memory.peek region first len)) none _, _) =
        (Answer.mk (.sight (n.memory.peek region first len)) none _, _)
      rw [hsight]

theorem counterpart_spared (kind : PlatformKind) {x y : Step} (h : x.Counterpart y) (s : Session) :
    Coupled (Spared kind.view) Eq (perform kind s x) (perform kind s y) := by
  cases h with
  | same => exact perform_spared kind x s
  | fault slot ht ht' places places' =>
      intro m n h
      exact ⟨rfl, ((Unnoticed.schedule ht places).coupled (.schedule ht' places') m n h).2⟩

/-- A step that decides nothing changes nothing that is held. -/
theorem skip_unnoticed (kind : PlatformKind) {x : Step} (hx : x.isEssential = false) (s : Session)
    (m : Machine) :
    ((perform kind s x).run m).1.2 = s ∧ Spared kind.view m ((perform kind s x).run m).2 := by
  obtain ⟨slot, action⟩ := x
  cases action with
  | fault target places =>
      have ht : target.isBestEffort = true := by simpa [Step.isEssential] using hx
      exact ⟨rfl, Unnoticed.schedule ht places m⟩
  | _ => cases hx

theorem giveUp_spared (kind : PlatformKind) (s : Session) :
    Coupled (Spared kind.view) Eq (giveUp kind s) (giveUp kind s) :=
  letGoAll_interchangeable s.slots.values fun h _ => Spared.interchangeable kind s.page h.region

/-- **Scripts of buffers** of which the same steps decide something. -/
theorem run_spared (kind : PlatformKind) (page : UInt64) {xs ys : List Step}
    (h : xs.filter Step.isEssential = ys.filter Step.isEssential) :
    Script.SameOutcome kind.view (run kind page) Step.Counterpart xs ys :=
  Script.run_spared (keeps_custody kind) (perform_spared kind) (fun _ => skip_unnoticed kind)
    (Custody.start _) h (counterpart_spared kind) (giveUp_spared kind)
    fun c => (giveUp_handover kind c).grows

end BufferScript

/-! ## §3. Scripts of handles. -/

namespace HandleScript

/-- Whether a step decides something: it does not only make best-effort calls fail. -/
def Step.isEssential : Step → Bool
  | .fault t _ => !t.isBestEffort
  | _          => true

/-- Steps that differ in which best-effort calls they make fail, at most. -/
inductive Step.Counterpart : Step → Step → Prop
  | same (x : Step) : Counterpart x x
  | fault {t t' : Target} (ht : t.isBestEffort = true) (ht' : t'.isBestEffort = true)
      (places places' : List Nat) : Counterpart (.fault t places) (.fault t' places')

/-- All that a step needs is spared best-effort calls. -/
theorem needs_of_spared (vars : Variables) (x : Step) :
    x.Needs (Spared .systemCalls) Eq vars := by
  have hI : ∀ j, Interchangeable (Spared .systemCalls) .system .system j :=
    Spared.interchangeable_system
  cases x with
  | create slot size =>
      exact ⟨Spared.creating .system 0, fun _ _ => Spared.note_coupled _,
        fun h _ => (hI h.region).disposing⟩
  | store passed data len => exact fun h _ => (hI h.region).accessing
  | retrieve passed len room fill => exact fun h _ => (hI h.region).accessing
  | destroy passed => exact fun h _ => (hI h.region).disposing
  | clear address => exact fun h _ => (hI h.region).disposing
  | fault target places => exact Spared.schedule_coupled target places
  | peek region first len =>
      intro m n h
      rw [h.memory.peek_eq]
      exact .same _
  | getSize _ => exact trivial
  | version => exact trivial
  | codeText _ => exact trivial

/-- **The same step is answered the same**, spared best-effort calls. -/
theorem perform_spared (x : Step) (vars : Variables) :
    Coupled (Spared .systemCalls) Eq (perform vars x) (perform vars x) := by
  unfold perform
  refine (act_coupled likeness_eq (.same x) (needs_of_spared vars x)).bind ?_
  rintro ⟨reply, out, after⟩ ⟨reply', out', after'⟩ ⟨hreply, hout, hafter⟩
  cases (hreply.eq : reply' = reply)
  cases (hout.eq : out' = out)
  cases (hafter : after' = after)
  exact .pure rfl

theorem counterpart_spared {x y : Step} (h : x.Counterpart y) (vars : Variables) :
    Coupled (Spared .systemCalls) Eq (perform vars x) (perform vars y) := by
  cases h with
  | same => exact perform_spared x vars
  | fault ht ht' places places' =>
      intro m n h
      exact ⟨rfl, ((Unnoticed.schedule ht places).coupled (.schedule ht' places') m n h).2⟩

theorem skip_unnoticed {x : Step} (hx : x.isEssential = false) (vars : Variables) (m : Machine) :
    ((perform vars x).run m).1.2 = vars ∧ Spared .systemCalls m ((perform vars x).run m).2 := by
  cases x with
  | fault target places =>
      have ht : target.isBestEffort = true := by simpa [Step.isEssential] using hx
      exact ⟨rfl, Unnoticed.schedule ht places m⟩
  | _ => cases hx

/-- **Scripts of handles** of which the same steps decide something. -/
theorem run_spared {xs ys : List Step}
    (h : xs.filter Step.isEssential = ys.filter Step.isEssential) :
    Script.SameOutcome .systemCalls run Step.Counterpart xs ys :=
  Script.run_spared keeps_custody perform_spared (fun _ => skip_unnoticed) (Custody.start _) h
    counterpart_spared
    (fun vars => destroyAll_coupled vars.values fun _ _ h _ =>
      (Spared.interchangeable_system h.region).disposing)
    fun c => (giveUp_handover c).grows

end HandleScript

/-! ## §4. Both. -/

/-- **Best-effort calls never change an outcome.**  Two scripts that differ only in which calls
of `madvise`, `munlock` and the service `unlock` they make fail, wherever they do, are answered
the same: each step that they share, and steps at the same place that make such calls fail.
Replies, bytes, statuses and looks at memory are equal, and so are the regions that leak; the
events are, whatever the verdicts on these calls, and the logs without the lines that report
them. -/
theorem best_effort_never_decides :
    (∀ kind page xs ys,
      xs.filter BufferScript.Step.isEssential = ys.filter BufferScript.Step.isEssential →
      Script.SameOutcome (BufferScript.PlatformKind.view kind) (BufferScript.run kind page)
        BufferScript.Step.Counterpart xs ys) ∧
    ∀ xs ys,
      xs.filter HandleScript.Step.isEssential = ys.filter HandleScript.Step.isEssential →
      Script.SameOutcome .systemCalls HandleScript.run HandleScript.Step.Counterpart xs ys := by
  constructor
  · intro kind page xs ys h
    exact BufferScript.run_spared kind page h
  · intro xs ys h
    exact HandleScript.run_spared h

/-- Pages that do not close after a write are erased all the same, whether they are unpinned or
not. -/
theorem outcome_where_pages_stay_pinned :
    Script.SameOutcome .systemCalls (BufferScript.run .system 0) BufferScript.Step.Counterpart
      [⟨0, .create 3⟩, ⟨0, .fault .mprotect [2]⟩, ⟨0, .use (.write [1])⟩]
      [⟨0, .fault .madvise [1, 2]⟩, ⟨0, .create 3⟩, ⟨0, .fault .mprotect [2]⟩,
        ⟨0, .fault .munlock [1]⟩, ⟨0, .use (.write [1])⟩] ∧
    Script.SameOutcome .systemCalls HandleScript.run HandleScript.Step.Counterpart
      [.create 0 3, .fault .munlock [], .destroy (some 0)]
      [.create 0 3, .fault .munlock [1], .destroy (some 0)] :=
  ⟨best_effort_never_decides.1 .system 0 _ _ rfl, best_effort_never_decides.2 _ _ rfl⟩

end SealedPages
