/-
  SealedPages.Proofs.Secrecy
  ──────────────────────────
  **NOTHING BUT A READ TELLS WHAT WAS WRITTEN.**  Take two scripts that differ in the bytes
  that they write, and not in how many.  With the same faults, everything that can be seen
  of their runs is the same: which steps fail and how, every event with the number of
  nonzero bytes it reports, every log line, the status and description of every buffer, and
  what leaks.  Only the bytes of a read that succeeds may differ, and those that a look at
  raw memory shows; and there are as many of them.

  Main statements:
    * `Script.play_twins` — the answers of two runs, step by step;
    * `BufferScript.run_alike`, `HandleScript.run_alike` — whole scripts;
    * `Scenario.only_reads_reveal` — both kinds of scripts.
-/
import SealedPages.Proofs.Twins

namespace SealedPages

/-! ## §1. Two runs of a script. -/

/-- Two reports of a step with the same events and lines, and with replies that `Q` relates. -/
structure Report.Alike {α : Type} (Q : α → α → Prop) (r r' : Report α) : Prop where
  reply : Q r.reply r'.reply
  events : r'.trace.map (·.event) = r.trace.map (·.event)
  log : r'.log = r.log

/-- Under the same numbers, reports that tell the same are alike. -/
theorem Report.Paired.alike {α : Type} {Q : α → α → Prop} {r r' : Report α}
    (h : Report.Paired id Q r r') : Report.Alike Q r r' where
  reply := h.reply
  events := by
    rw [h.events]
    exact List.map_congr_left fun x _ => x.event.rename_id
  log := by
    rw [h.log]
    exact (List.map_congr_left fun l _ => l.rename_id).trans (List.map_id _)

namespace Script

variable {σ κ α : Type} {S : Bytes → Bytes → Prop} {perform : σ → κ → MachineM (α × σ)}
  {giveUp : σ → MachineM Unit} {inv : σ → Machine → Prop} {P : κ → κ → Prop}
  {Q : κ → α → α → Prop}

/-- **Two transcripts that tell the same**: the reply to a step `k` and the one to its
counterpart are related by `Q k`, and all else is equal. -/
structure Transcript.Alike (Q : κ → α → α → Prop) (steps : List κ) (t t' : Transcript α) :
    Prop where
  answers : List.Forall₂ (fun x r' => Report.Alike (Q x.1) x.2 r') (steps.zip t.answers) t'.answers
  events : t'.ending.trace.map (·.event) = t.ending.trace.map (·.event)
  log : t'.ending.log = t.ending.log
  leaked : t'.ending.leaked = t.ending.leaked

variable (hkeeps : Keeps inv perform) (hclean : ∀ {s m}, inv s m → ∀ x ∈ m.trace, x.Clean)
  (hstep : ∀ {s k k' m₀ n₀}, P k k' →
    Coupled (Twin S id m₀ n₀) (fun y y' => Q k y.1 y'.1 ∧ y'.2 = y.2) (perform s k) (perform s k'))

include hkeeps hclean hstep

/-- **From twins, two scripts are answered alike**, and they lead to twins. -/
theorem play_twins {xs ys : List κ} (h : List.Forall₂ P xs ys) :
    ∀ {s m n}, Twin S id m n m n → inv s m → inv s n →
      let left := play perform ⟨s, m⟩ xs
      let right := play perform ⟨s, n⟩ ys
      List.Forall₂ (fun x r' => Report.Alike (Q x.1) x.2 r') (xs.zip left.1) right.1 ∧
        right.2.session = left.2.session ∧
        Twin S id left.2.machine right.2.machine left.2.machine right.2.machine := by
  induction h with
  | nil =>
      intro s m n htwin _ _
      exact ⟨.nil, rfl, htwin⟩
  | @cons k k' xs ys hk _ ih =>
      intro s m n htwin hm hn
      have hm₁ := hkeeps.run hm k
      have hn₁ := hkeeps.run hn k'
      obtain ⟨hreport, hsession, htwin₁⟩ :=
        playStep_paired (T := fun s s' => s' = s) htwin (hstep hk) (hclean hm₁) (hclean hn₁)
      rw [hsession] at hn₁
      obtain ⟨hanswers, hlast, htwin₂⟩ := ih htwin₁.rebase hm₁ hn₁
      -- the second run goes on in the session of the first one
      have hright : (playStep perform ⟨s, n⟩ k').2 =
          ⟨((perform s k).run m).1.2, ((perform s k').run n).2⟩ :=
        congrArg (Scene.mk · _) hsession
      simp only [play, hright]
      exact ⟨.cons hreport.alike hanswers, hlast, htwin₂⟩

/-- **Two scripts tell the same**, from start to end. -/
theorem run_alike {session : σ}
    (hgiveUp : ∀ {s m₀ n₀}, Coupled (Twin S id m₀ n₀) Eq (giveUp s) (giveUp s))
    (hend : ∀ {s m}, inv s m → ∀ x ∈ ((giveUp s).run m).2.trace, x.Clean)
    (hS : Likeness S) (hinv : inv session {}) {xs ys : List κ} (h : List.Forall₂ P xs ys) :
    Transcript.Alike Q xs (run perform giveUp session xs) (run perform giveUp session ys) := by
  obtain ⟨hanswers, hsession, htwin⟩ := play_twins hkeeps hclean hstep h
    (.refl hS {}) hinv hinv
  have hleft := (play_of_keeps hkeeps xs ⟨session, {}⟩ hinv).1
  have hright := (play_of_keeps hkeeps ys ⟨session, {}⟩ hinv).1
  rw [hsession] at hright
  obtain ⟨_, htwin₁⟩ := hgiveUp (s := (play perform ⟨session, {}⟩ xs).2.session) _ _ htwin
  have hreport : Report.Paired id (fun _ _ => True) (Report.mk () _ _) (Report.mk () _ _) :=
    ⟨trivial, htwin₁.events_eq (hend hleft) (hend hright), htwin₁.log_eq⟩
  have hfinish : (run perform giveUp session ys).ending =
      finish giveUp ⟨(play perform ⟨session, {}⟩ xs).2.session,
        (play perform ⟨session, {}⟩ ys).2.machine⟩ := by
    show finish giveUp ⟨(play perform ⟨session, {}⟩ ys).2.session, _⟩ = _
    rw [hsession]
  refine ⟨hanswers, ?_, ?_, ?_⟩
  · rw [hfinish]
    exact hreport.alike.events
  · rw [hfinish]
    exact hreport.alike.log
  · rw [hfinish]
    exact htwin₁.liveIds_eq

end Script

/-! ## §2. Scripts of buffers. -/

namespace BufferScript

variable {S : Bytes → Bytes → Prop} {m₀ n₀ : Machine}

/-- Two steps that differ in the data that they write, at most. -/
inductive Step.Paired (S : Bytes → Bytes → Prop) : Step → Step → Prop
  | same (step : Step) : Paired S step step
  | write (slot : Nat) {data data' : Bytes} (alike : S data data') :
      Paired S ⟨slot, .use (.write data)⟩ ⟨slot, .use (.write data')⟩

/-- What a look shows is alike if the regions are. -/
theorem Reply.Paired.of_peek {m n : Machine} (hS : Likeness S) (h : Twin S id m₀ n₀ m n)
    (region : RegionId) (first len : Nat) :
    Reply.Paired S (.sight (m.memory.peek region first len))
      (.sight (n.memory.peek region first len)) := by
  rcases h.peek_alike hS region first len with hsame | ⟨content, content', hm, hn, halike⟩
  · rw [hsame]
    exact .same _
  · rw [hm, hn]
    exact .sight halike

/-- **A step answers alike**, whatever alike data it writes. -/
theorem step_alike (hS : Likeness S) (kind : PlatformKind) {s : Session} {x x' : Step}
    (hx : x.Paired S x') :
    Coupled (Twin S id m₀ n₀) (fun y y' => Answer.Paired S y.1 y'.1 ∧ y'.2 = y.2)
      (perform kind s x) (perform kind s x') := by
  have hoperation : ∀ {k a a'}, a.Paired S a' →
      Coupled (Twin S id m₀ n₀) (fun y y' => Answer.Paired S y.1 y'.1 ∧ y'.2 = y.2)
        (perform kind s ⟨k, a⟩) (perform kind s ⟨k, a'⟩) := fun ha =>
    (perform_coupled hS kind ha rfl (SealedBuffer.map_rename_id _).symm).mono
      fun _ _ h => ⟨h.1, h.2.eq⟩
  cases hx with
  | write slot alike => exact hoperation (.use (.write alike))
  | same =>
      obtain ⟨slot, action⟩ := x
      cases action with
      | create size => exact hoperation (.create size)
      | use u => exact hoperation (.use (.same u))
      | setPageSize value => exact fun m n h => ⟨⟨⟨.same _, Or.inl rfl, rfl⟩, rfl⟩, h⟩
      | fault target places =>
          exact fun m n h => ⟨⟨⟨.same _, Or.inl rfl, rfl⟩, rfl⟩,
            h.setFaults (·.schedule target places)⟩
      | peek region first len =>
          exact fun m n h => ⟨⟨⟨.of_peek hS h region first len, Or.inl rfl, rfl⟩, rfl⟩, h⟩

/-- The same buffers are let go of at the end. -/
theorem giveUp_alike (hS : Likeness S) (kind : PlatformKind) {s : Session} :
    Coupled (Twin S id m₀ n₀) Eq (giveUp kind s) (giveUp kind s) := by
  have h := letGoAll_coupled (R := Twin S id m₀ n₀) (ρ := id) s.slots.values fun _ _ h _ =>
    (Twin.unreserved hS h.region).disposing_of_kind kind s.page
  have hsame : s.slots.values.map (·.rename id) = s.slots.values :=
    (List.map_congr_left fun b _ => b.rename_id).trans (List.map_id _)
  rw [hsame] at h
  exact h

/-- **Two scripts of buffers** that write as many bytes. -/
theorem run_alike (kind : PlatformKind) (page : UInt64) {xs ys : List Step}
    (h : List.Forall₂ (Step.Paired SameLength) xs ys) :
    Script.Transcript.Alike (fun _ => Answer.Paired SameLength) xs (run kind page xs)
      (run kind page ys) :=
  Script.run_alike (keeps_custody kind) Custody.clean
    (step_alike likeness_sameLength kind) (giveUp_alike likeness_sameLength kind)
    (fun c => (giveUp_handover kind c).custody.clean) likeness_sameLength (Custody.start _) h

end BufferScript

/-! ## §3. Scripts of handles. -/

namespace HandleScript

variable {S : Bytes → Bytes → Prop} {m₀ n₀ : Machine}

/-- Two answers to a step that differ in the bytes that they show, at most. -/
structure Answer.Paired (S : Bytes → Bytes → Prop) (step : Step) (a a' : Answer) : Prop where
  reply : a.reply.Paired S a'.reply
  out : OutPaired S step a.reply a.out a'.out

/-- Twins have all that a step needs. -/
theorem needs_of_twin (hS : Likeness S) (vars : Variables) (step : Step) :
    step.Needs (Twin S id m₀ n₀) S vars := by
  have hU : ∀ j, Unreserved (Twin S id m₀ n₀) id S j := Twin.unreserved hS
  cases step with
  | create slot size =>
      exact ⟨(Twin.originates hS).creating_system, fun _ _ => Twin.note_coupled _,
        fun h _ => (hU h.region).disposing_of_kind .system 0⟩
  | store passed data len => exact fun h _ => (hU h.region).accessing_of_kind .system 0
  | retrieve passed len room fill => exact fun h _ => (hU h.region).accessing_of_kind .system 0
  | destroy passed => exact fun h _ => (hU h.region).disposing_of_kind .system 0
  | clear passed => exact fun h _ => (hU h.region).disposing_of_kind .system 0
  | fault target places => exact Twin.schedule_coupled target places
  | peek region first len =>
      intro m n h
      rcases h.peek_alike hS region first len with hsame | ⟨content, content', hm, hn, halike⟩
      · rw [hsame]
        exact .same _
      · rw [hm, hn]
        exact .sight halike
  | getSize _ => exact trivial
  | version => exact trivial
  | codeText _ => exact trivial

/-- **A step answers alike**, whatever alike data it stores. -/
theorem step_alike (hS : Likeness S) {vars : Variables} {x x' : Step} (hx : x.Paired S x') :
    Coupled (Twin S id m₀ n₀) (fun y y' => Answer.Paired S x y.1 y'.1 ∧ y'.2 = y.2)
      (perform vars x) (perform vars x') := by
  unfold perform
  refine (act_coupled hS hx (needs_of_twin hS vars x)).bind fun y y' hy => ?_
  obtain ⟨hreply, hout, hvars⟩ := hy
  exact .pure ⟨⟨hreply, hout⟩, hvars⟩

/-- **Two scripts of handles** that store as many bytes. -/
theorem run_alike {xs ys : List Step} (h : List.Forall₂ (Step.Paired SameLength) xs ys) :
    Script.Transcript.Alike (Answer.Paired SameLength) xs (run xs) (run ys) :=
  Script.run_alike keeps_custody Custody.clean (step_alike likeness_sameLength)
    (destroyAll_coupled _ fun _ _ h _ =>
      (Twin.unreserved likeness_sameLength h.region).disposing_of_kind .system 0)
    (fun c => (giveUp_handover c).custody.clean) likeness_sameLength (Custody.start _) h

end HandleScript

/-! ## §4. Both. -/

/-- **Only reads reveal what was written.**  Two scripts that differ in the bytes that they
write or store, and not in how many or in their NULL pointers, are answered alike on every
schedule of faults.  The replies, events and log lines of every step are equal, and so are
those of the end and what has leaked, except for the bytes that a read or a retrieval
shows which has succeeded, and those that a look at memory shows.  A read that fails
leaves the caller's bytes the same in both. -/
theorem only_reads_reveal :
    (∀ kind page xs ys, List.Forall₂ (BufferScript.Step.Paired SameLength) xs ys →
      Script.Transcript.Alike (fun _ => BufferScript.Answer.Paired SameLength) xs
        (BufferScript.run kind page xs) (BufferScript.run kind page ys)) ∧
    ∀ xs ys, List.Forall₂ (HandleScript.Step.Paired SameLength) xs ys →
      Script.Transcript.Alike (HandleScript.Answer.Paired SameLength) xs
        (HandleScript.run xs) (HandleScript.run ys) := by
  constructor
  · intro kind page xs ys h
    exact BufferScript.run_alike kind page h
  · intro xs ys h
    exact HandleScript.run_alike h

/-- Two bytes are written, and the pages do not close after it. -/
def writeToOpenPages (data : Bytes) : List BufferScript.Step :=
  [⟨0, .create 2⟩, ⟨0, .fault .protect [2]⟩, ⟨0, .use (.write data)⟩]

/-- Two bytes are stored through a handle, and retrieved. -/
def storeAndRetrieve (data : Bytes) : List HandleScript.Step :=
  [.create 0 2, .store (some 0) (some data) 2, .retrieve (some 0) 2 (some 2) 0]

/-- Whichever two bytes they are, the scripts are answered alike. -/
theorem two_bytes_told_alike :
    List.Forall₂ (BufferScript.Step.Paired SameLength) (writeToOpenPages [1, 2])
      (writeToOpenPages [7, 0]) ∧
    Script.Transcript.Alike (fun _ => BufferScript.Answer.Paired SameLength)
      (writeToOpenPages [1, 2]) (BufferScript.run .custom 8 (writeToOpenPages [1, 2]))
      (BufferScript.run .custom 8 (writeToOpenPages [7, 0])) ∧
    List.Forall₂ (HandleScript.Step.Paired SameLength) (storeAndRetrieve [1, 2])
      (storeAndRetrieve [7, 0]) ∧
    Script.Transcript.Alike (HandleScript.Answer.Paired SameLength) (storeAndRetrieve [1, 2])
      (HandleScript.run (storeAndRetrieve [1, 2]))
      (HandleScript.run (storeAndRetrieve [7, 0])) := by
  have hlength : SameLength [1, 2] [7, 0] := rfl
  have hwritten : List.Forall₂ (BufferScript.Step.Paired SameLength) (writeToOpenPages [1, 2])
      (writeToOpenPages [7, 0]) :=
    .cons (.same _) (.cons (.same _) (.cons (.write 0 hlength) .nil))
  have hstored : List.Forall₂ (HandleScript.Step.Paired SameLength) (storeAndRetrieve [1, 2])
      (storeAndRetrieve [7, 0]) :=
    .cons (.same _) (.cons (.store (some 0) (.some hlength) 2) (.cons (.same _) .nil))
  exact ⟨hwritten, only_reads_reveal.1 .custom 8 _ _ hwritten, hstored,
    only_reads_reveal.2 _ _ hstored⟩

/-- The pages are erased with the same events. -/
example :
    let events := fun data =>
      (BufferScript.run .custom 8 (writeToOpenPages data)).trace.map (·.event)
    events [1, 2] = events [7, 0] := by
  decide +kernel

end SealedPages
