/-
  SealedPages.Proofs.ShownCalls
  ─────────────────────────────
  **ALL THE CALLS OF A RUN.**  A stretch tells which calls name its region.  Here the calls
  that name none are counted as well: the question for the size of a page, and a request for
  pages that is refused.  `View.Spelt v l m m'` says of a run from `m` to `m'` that the calls
  it makes, all of them and in order, are a word of `l`, as far as the view shows them.

  Main statements:
    * `Stretch.spelt` — where all that is recorded names one region, the word of the stretch
      is the whole of it;
    * `pageSize_spelt`, `filter_allocate`, `allocate_spelt` — the two services that may name no
      region;
    * `furnish_about`, `access_about` — what fresh pages and an access record names their
      region alone;
    * `attempt_showsAs`, `served_showsAs`, `protect_showsAs` — calls that show as one event.
-/
import SealedPages.Proofs.PairedSessions

namespace SealedPages

open Computability

variable {v : View} {l l' : Language Event} {j : RegionId} {m₀ m m₁ m' : Machine}

/-! ## §1. Words of whole runs. -/

/-- The calls of a run, as far as the view shows them. -/
def View.calls (v : View) (t : List Moment) : List Event :=
  (t.map (·.event)).filter v.shows

theorem View.calls_append (v : View) (xs ys : List Moment) :
    v.calls (xs ++ ys) = v.calls xs ++ v.calls ys := by
  simp [calls]

/-- **The calls from `m` to `m'` are a word of `l`.** -/
def View.Spelt (v : View) (l : Language Event) (m m' : Machine) : Prop :=
  ∃ new, m'.trace = m.trace ++ new ∧ v.calls new ∈ l

namespace View.Spelt

theorem refl (v : View) (m : Machine) : v.Spelt 1 m m :=
  ⟨[], (List.append_nil _).symm, rfl⟩

/-- One run after another. -/
theorem trans (a : v.Spelt l m m₁) (b : v.Spelt l' m₁ m') : v.Spelt (l * l') m m' := by
  obtain ⟨xs, hx, hxl⟩ := a
  obtain ⟨ys, hy, hyl⟩ := b
  refine ⟨xs ++ ys, by rw [hy, hx, List.append_assoc], ?_⟩
  rw [View.calls_append]
  exact Language.append_mem_mul hxl hyl

end View.Spelt

/-! ## §2. Records about one region. -/

/-- All that was recorded since `m₀` names the region `j`. -/
def About (j : RegionId) (m₀ m : Machine) : Prop :=
  ∃ new, m.trace = m₀.trace ++ new ∧ ∀ x ∈ new, x.event.region? = some j

namespace About

theorem refl (j : RegionId) (m : Machine) : About j m m :=
  ⟨[], (List.append_nil _).symm, by simp⟩

/-- Where nothing is recorded, there is nothing to name a region. -/
theorem of_trace_eq (h : About j m₀ m) (ht : m'.trace = m.trace) : About j m₀ m' := by
  obtain ⟨new, hnew, hj⟩ := h
  exact ⟨new, ht.trans hnew, hj⟩

theorem record (h : About j m₀ m) {e : Event} (he : e.region? = some j) (met : Memory) :
    About j m₀ { m with trace := m.trace ++ [⟨met, e⟩] } := by
  obtain ⟨new, hnew, hj⟩ := h
  refine ⟨new ++ [⟨met, e⟩], by rw [hnew, List.append_assoc], ?_⟩
  intro x hx
  rcases List.mem_append.1 hx with hx | hx
  · exact hj x hx
  · rw [List.mem_singleton.1 hx]
    exact he

theorem keptOn : KeptOn (About j m₀) j where
  draw _ _ h := h.of_trace_eq rfl
  record he _ met _ h := h.record he met
  note _ _ _ h := h.of_trace_eq rfl
  update _ _ h := h.of_trace_eq rfl

/-- **Single steps on the region name no other.** -/
theorem unreserved : Unreserved (Diagonal (About j m₀)) id Eq j :=
  keptOn.unreserved (fun he met _ h => h.record he met) (fun _ _ h => h.of_trace_eq rfl)

end About

/-- **Where all that is recorded names its region**, the word of a stretch is the whole of it. -/
theorem Stretch.spelt (a : Stretch v j l m m') (h : About j m m') : v.Spelt l m m' := by
  obtain ⟨new, hn⟩ := a.moments
  obtain ⟨new', ht, hj⟩ := h
  obtain rfl : new' = new := List.append_cancel_left (ht.symm.trans hn.trace)
  have hall : eventsOn j new' = new'.map (·.event) := by
    refine List.filter_eq_self.2 fun e he => ?_
    obtain ⟨x, hx, rfl⟩ := List.mem_map.1 he
    simpa using hj x hx
  refine ⟨new', ht, ?_⟩
  have hcalls : v.callsOn j new' ∈ l := hn.calls
  unfold View.callsOn at hcalls
  rwa [hall] at hcalls

variable (kind : BufferScript.PlatformKind) (page : UInt64)

/-- **Furnishing pages records what names them**, and nothing else. -/
theorem furnish_about (j : RegionId) (L : UInt64) (m : Machine) :
    About j m (StateT.run (SealedBuffer.furnish (kind.platform page) (.front j L)).run m).2 := by
  have hP : Primitives (Diagonal (About j m)) id j := About.keptOn.primitives
  have hF := hP.furnishing (hP.services_of_kind kind page)
  have hcoupled : Coupled (Diagonal (About j m)) (Both Eq)
      (SealedBuffer.furnish (kind.platform page) (.front j L)).run
      (SealedBuffer.furnish (kind.platform page) (.front j L)).run :=
    Coupled.undoing (hF.release L)
      (Coupled.lift_bind (hF.wipe L) fun _ _ _ => SealedBuffer.enclose_coupled hF L)
  exact hcoupled.preserves m (.refl j m)

/-- **So does an access**, if its body does. -/
theorem access_about {α : Type} {h : Holding} {body : MachineM α} {m : Machine}
    {Q : α → α → Prop} (hbody : Coupled (Diagonal (About h.region m)) Q body body) :
    About h.region m ((SealedBuffer.access (kind.platform page) h body).run m).2 := by
  have hU : Unreserved (Diagonal (About h.region m)) id Eq h.region := About.unreserved
  have hA := hU.accessing_of_kind kind page
  exact (SealedBuffer.access_coupled hA hbody).preserves m (.refl _ m)

/-! ## §3. Calls that may name no region. -/

/-- How the view shows that the size of a page is asked for. -/
def View.inquiry (page : UInt64) : View → List Event
  | systemCalls  => []
  | serviceCalls => [.service (.pageSize page)]

/-- How the view shows that pages are asked for; `made` is the region that is made, if any. -/
def View.request (page L : UInt64) (made : Option RegionId) : View → Event
  | systemCalls  => .system (.posixMemalign page L made)
  | serviceCalls => .service (.allocate L made)

/-- The operating system is asked for pages in one call. -/
theorem Kernel.trace_posixMemalign (page L : UInt64) (m : Machine) :
    ((posixMemalign page L).run m).2.trace = m.trace ++
      [⟨m.memory, .system (.posixMemalign page L ((posixMemalign page L).run m).1)⟩] := by
  rw [run_posixMemalign]
  split <;> rfl

section Allocation

variable {page L : UInt64}

theorem Pages.alloc_trace (hL : checkWholePages L page = .ok ()) (m : Machine) :
    (StateT.run (alloc L page).run m).2.trace = m.trace ++ [⟨m.memory,
      .system (.posixMemalign page L (StateT.run (alloc L page).run m).1.toOption)⟩] := by
  have htrace := Kernel.trace_posixMemalign page L m
  rw [run_alloc_of_wholePages hL]
  generalize (Kernel.posixMemalign page L).run m = asked at htrace
  obtain ⟨_ | j, m'⟩ := asked
  · exact htrace
  · exact htrace

/-- The service is asked in one call; below it the operating system is asked, or nobody is. -/
theorem Platform.servedAlloc_trace (hL : Pages.checkWholePages L page = .ok ()) (m : Machine) :
    ∃ below, (StateT.run (servedAlloc L page).run m).2.trace = m.trace ++ (below ++ [⟨m.memory,
        .service (.allocate L (StateT.run (servedAlloc L page).run m).1.toOption)⟩]) ∧
      ∀ x ∈ below, ∃ made, x.event = .system (.posixMemalign page L made) := by
  rw [run_servedAlloc]
  cases m.faults.fires .allocate with
  | true => exact ⟨[], rfl, by simp⟩
  | false =>
      have htrace := Kernel.trace_posixMemalign page L { m with faults := m.faults.tick .allocate }
      rw [if_neg Bool.false_ne_true, Pages.run_alloc_of_wholePages hL]
      generalize (Kernel.posixMemalign page L).run
        { m with faults := m.faults.tick .allocate } = asked at htrace
      obtain ⟨made, m'⟩ := asked
      refine ⟨[⟨m.memory, .system (.posixMemalign page L made)⟩], ?_, ?_⟩
      · rw [← List.append_assoc, ← htrace]
        cases made <;> rfl
      · intro x hx
        exact ⟨made, congrArg (·.event) (List.mem_singleton.1 hx)⟩

end Allocation

namespace BufferScript

variable (m : Machine)

/-- Asking for the size of a page is one call, or none. -/
theorem pageSize_spelt :
    kind.view.Spelt {kind.view.inquiry (kind.pageSize page)} m
      ((kind.platform page).pageSize.run m).2 := by
  cases kind with
  | system => exact .refl _ m
  | custom => exact ⟨[⟨m.memory, _⟩], rfl, rfl⟩

/-- **Whole pages are asked for in one call.**  It is all that is left of the record where the
request to the operating system below it is passed over. -/
theorem filter_allocate {L : UInt64} {p : Event → Bool}
    (hL : Pages.checkWholePages L (kind.pageSize page) = .ok ())
    (hasked : ∀ made, p (kind.view.request (kind.pageSize page) L made) = true)
    (hbelow : kind = .custom →
      ∀ made, p (.system (.posixMemalign (kind.pageSize page) L made)) = false) :
    ∃ moments, (StateT.run ((kind.platform page).allocate L).run m).2.trace =
        m.trace ++ moments ∧
      (moments.map (·.event)).filter p = [kind.view.request (kind.pageSize page) L
        (StateT.run ((kind.platform page).allocate L).run m).1.toOption] := by
  cases kind with
  | system => exact ⟨_, Pages.alloc_trace hL m, List.filter_cons_of_pos (hasked _)⟩
  | custom =>
      obtain ⟨below, htrace, hcalls⟩ := Platform.servedAlloc_trace hL m
      have hpassed : (below.map (·.event)).filter p = [] := by
        refine List.filter_eq_nil_iff.2 fun e he => ?_
        obtain ⟨x, hx, rfl⟩ := List.mem_map.1 he
        obtain ⟨made, hmade⟩ := hcalls x hx
        rw [hmade, Bool.not_eq_true]
        exact hbelow rfl made
      refine ⟨_, htrace, ?_⟩
      rw [List.map_append, List.filter_append, hpassed, List.nil_append]
      exact List.filter_cons_of_pos (hasked _)

/-- So the call that is shown tells what was made. -/
theorem allocate_spelt {L : UInt64}
    (hL : Pages.checkWholePages L (kind.pageSize page) = .ok ()) :
    kind.view.Spelt
      {[kind.view.request (kind.pageSize page) L
        (StateT.run ((kind.platform page).allocate L).run m).1.toOption]} m
      (StateT.run ((kind.platform page).allocate L).run m).2 := by
  refine filter_allocate kind page m hL (fun made => ?_) fun hkind made => ?_
  · cases kind <;> rfl
  · subst hkind
    rfl

end BufferScript

/-! ## §4. Calls that show as one event. -/

/-- **A call shows as one event**: it writes no line, and whatever is done below it is not
shown. -/
def View.ShowsAs (v : View) (event : Verdict → Event) (call : MachineM Verdict) (m : Machine) :
    Prop :=
  ∃ out m₁ unseen met, call.run m = (out, m₁) ∧ m₁.log = m.log ∧
    m₁.trace = m.trace ++ (unseen ++ [⟨met, event out⟩]) ∧ ∀ x ∈ unseen, v.shows x.event = false

/-- A call of the operating system does nothing below it. -/
theorem Kernel.attempt_showsAs (v : View) (t : Target) (sound : Memory → Bool)
    (event : Verdict → SystemCall) (effect : Verdict → Memory → Memory) (m : Machine) :
    v.ShowsAs (fun out => .system (event out)) (attempt t sound event effect) m :=
  ⟨_, _, [], m.memory, rfl, rfl, rfl, by simp⟩

/-- **A recorded service** hides the calls that are made for it. -/
theorem Platform.served_showsAs {t : Target} {event : Verdict → ServiceCall}
    {service : MachineM Verdict} {m : Machine}
    (hbelow : ∃ out m₁ calls, service.run { m with faults := m.faults.tick t } = (out, m₁) ∧
      m₁.log = m.log ∧ m₁.trace = m.trace ++ calls ∧
      ∀ x ∈ calls, View.serviceCalls.shows x.event = false) :
    View.serviceCalls.ShowsAs (fun out => .service (event out)) (served t event service) m := by
  have hrun := run_served t event service m
  cases hf : m.faults.fires t with
  | true =>
      rw [hf, if_pos rfl] at hrun
      exact ⟨_, _, [], m.memory, hrun, rfl, rfl, by simp⟩
  | false =>
      obtain ⟨out, m₁, calls, hbelow, hlog, htrace, hcalls⟩ := hbelow
      rw [hf, if_neg Bool.false_ne_true, hbelow] at hrun
      refine ⟨_, _, calls, m.memory, hrun, hlog, ?_, hcalls⟩
      exact (congrArg (· ++ [_]) htrace).trans (List.append_assoc ..)

/-- How the view shows that the protection of a whole region is set. -/
def View.protecting : View → RegionId → UInt64 → Protection → Verdict → Event
  | systemCalls, j, L, mode, out  => .system (.mprotect (.front j L) mode out)
  | serviceCalls, j, L, mode, out => .service (.protect (.front j L) mode out)

/-- **Setting the protection of pages** shows as one event, on either kind of platform. -/
theorem BufferScript.protect_showsAs (kind : PlatformKind) (page : UInt64) (j : RegionId)
    (L : UInt64) (mode : Protection) (m : Machine) :
    kind.view.ShowsAs (kind.view.protecting j L mode)
      ((kind.platform page).protect (.front j L) mode) m := by
  cases kind with
  | system => exact Kernel.attempt_showsAs _ _ _ _ _ m
  | custom =>
      refine Platform.served_showsAs ⟨_, _, [⟨m.memory, .system (.mprotect (.front j L) mode _)⟩],
        rfl, rfl, rfl, fun x hx => ?_⟩
      rw [List.mem_singleton.1 hx]
      rfl

end SealedPages
