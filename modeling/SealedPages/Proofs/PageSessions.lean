/-
  SealedPages.Proofs.PageSessions
  ───────────────────────────────
  **SCRIPTS OF PAGES, STEP BY STEP.**  A script of pages holds nothing between its steps: what a
  step comes to depends on the machine alone.  The page functions and the services of the
  operating system's platform are two ways to the same pages, and differ only in whether an
  allocation is told the size of a page.

  After any steps, every region that was ever made is `Obtainable`: it has an alignment and a
  length that the operating system can be asked for.  So a part of a live region can be named
  in 64-bit words, to its end as well.

  Main statements:
    * `play_concat`, `GoesOn.of_run` — a script goes on as its next step runs after the others;
    * `run_services` — services are page functions that take the page size of the system;
    * `act_obtainable`, `machineAfter_obtainable` — what a step keeps, and so all steps;
    * `Part.span?_of_inside` — the part of a region that a step names.
-/
import SealedPages.Script.Pages
import SealedPages.Proofs.PinCalls

namespace SealedPages

/-! ## §1. What all steps keep. -/

namespace Script

variable {σ κ ρ : Type} {perform : σ → κ → MachineM (ρ × σ)}

/-- **A property of the machine that every step keeps** holds after all of them. -/
theorem play_preserves {P : Machine → Prop} (hstep : ∀ s k, Preserves P (perform s k))
    (steps : List κ) : ∀ c : Scene σ, P c.machine → P (play perform c steps).2.machine := by
  induction steps with
  | nil =>
      intro c hc
      exact hc
  | cons x rest ih =>
      intro c hc
      exact ih (playStep perform c x).2 (hstep c.session x c.machine hc)

/-- Steps that are put differently are played alike, if one of them is. -/
theorem play_map {κ' : Type} {perform' : σ → κ' → MachineM (ρ × σ)} {f : κ → κ'}
    (hstep : ∀ s k, perform s k = perform' s (f k)) (steps : List κ) :
    ∀ c : Scene σ, play perform c steps = play perform' c (steps.map f) := by
  induction steps with
  | nil =>
      intro c
      rfl
  | cons x rest ih =>
      intro c
      have hfirst : playStep perform c x = playStep perform' c (f x) := by
        unfold playStep
        rw [hstep]
      simp only [play, List.map_cons, hfirst, ih]

end Script

/-! ## §2. A step and its answer. -/

namespace PageScript

/-- What a step comes to on a machine. -/
def comesTo (api : Api) (m : Machine) (x : Step) : Report Reply × Script.Scene Unit :=
  Script.playStep (perform api) ⟨(), m⟩ x

/-- What a step comes to, from its run. -/
theorem comesTo_of_run {api : Api} {m m' : Machine} {x : Step} {reply : Reply}
    (h : (act api x).run m = (reply, m')) :
    comesTo api m x =
      (⟨reply, m'.trace.drop m.trace.length, m'.log.drop m.log.length⟩, ⟨(), m'⟩) := by
  have hperform : (perform api () x).run m = ((reply, ()), m') := run_bind_of_eq h
  exact Script.playStep_of_run hperform

/-- A script with one more step is answered by what the step comes to after the others. -/
theorem play_concat (api : Api) (steps : List Step) (x : Step) :
    (run api (steps ++ [x])).answers =
        (run api steps).answers ++ [(comesTo api (machineAfter api steps) x).1] ∧
      machineAfter api (steps ++ [x]) = (comesTo api (machineAfter api steps) x).2.machine := by
  have hplay := Script.play_append (perform api) ⟨(), {}⟩ steps [x]
  exact ⟨congrArg Prod.fst hplay, congrArg (·.2.machine) hplay⟩

/-- **How a script goes on**: the next step is answered by the reply, the calls that it made of
the operating system and the lines that it logged, and `m'` is the machine after it. -/
structure GoesOn (api : Api) (steps : List Step) (x : Step) (reply : Reply)
    (calls : List SystemCall) (lines : List LogLine) (m' : Machine) : Prop where
  answer : ∃ moments, (run api (steps ++ [x])).answers =
      (run api steps).answers ++ [⟨reply, moments, lines⟩] ∧
    moments.map (·.event) = calls.map Event.system
  machine : machineAfter api (steps ++ [x]) = m'

/-- A script goes on as the step runs on the machine after the others. -/
theorem GoesOn.of_run {api : Api} {steps : List Step} {x : Step} {reply : Reply}
    {calls : List SystemCall} {lines : List LogLine} {m' : Machine}
    (hrun : (act api x).run (machineAfter api steps) = (reply, m'))
    (hcalls : (machineAfter api steps).Calls calls lines m') :
    GoesOn api steps x reply calls lines m' := by
  obtain ⟨moments, htrace, hevents⟩ := hcalls.trace
  obtain ⟨hanswers, hmachine⟩ := play_concat api steps x
  rw [comesTo_of_run hrun, htrace, hcalls.log, List.drop_left, List.drop_left] at hanswers
  rw [comesTo_of_run hrun] at hmachine
  exact ⟨⟨moments, hanswers, hevents⟩, hmachine⟩

/-! ## §3. Page functions and services. -/

/-- A step as the services take it: they go by the page size of the system. -/
def Step.ofServices : Step → Step
  | alloc len _ => alloc len Kernel.pageSize
  | x => x

theorem perform_services (s : Unit) (x : Step) :
    perform .services s x = perform .functions s x.ofServices := by
  cases x <;> rfl

/-- A step of the services comes to what the step of the functions does. -/
theorem comesTo_services (m : Machine) (x : Step) :
    comesTo .services m x = comesTo .functions m x.ofServices := by
  unfold comesTo Script.playStep
  rw [perform_services]

/-- **The services do what the page functions do** under pages of the system's size, through
whole scripts. -/
theorem run_services (steps : List Step) :
    run .services steps = run .functions (steps.map Step.ofServices) := by
  unfold run Script.run
  rw [Script.play_map perform_services]

/-- So they come to the same machine. -/
theorem machineAfter_services (steps : List Step) :
    machineAfter .services steps = machineAfter .functions (steps.map Step.ofServices) := by
  unfold machineAfter
  rw [Script.play_map perform_services]

end PageScript

/-! ## §4. Regions that can be asked for. -/

/-- **A region that the operating system can be asked for**, by its alignment and its length. -/
def Region.Obtainable (r : Region) : Prop :=
  ∃ len, Kernel.acceptsRequest r.align len = true ∧ r.bytes.length = len.toNat

namespace Region.Obtainable

variable {r : Region}

theorem fresh {align len : UInt64} (h : Kernel.acceptsRequest align len = true) :
    (Region.fresh align len.toNat).Obtainable :=
  ⟨len, h, Region.length_fresh align len.toNat⟩

/-- Neither the contents of a region nor its marks matter. -/
theorem congr {r' : Region} (h : r.Obtainable) (halign : r'.align = r.align)
    (hlen : r'.bytes.length = r.bytes.length) : r'.Obtainable := by
  obtain ⟨len, haccepts, heq⟩ := h
  exact ⟨len, halign ▸ haccepts, hlen.trans heq⟩

/-- The length fits into a word. -/
theorem length_lt (h : r.Obtainable) : r.bytes.length < UInt64.size := by
  obtain ⟨len, _, heq⟩ := h
  rw [heq]
  exact len.toNat_lt

end Region.Obtainable

namespace Memory

/-- Every region that was ever made could be asked for. -/
def Obtainable (m : Memory) : Prop :=
  ∀ id r, m.find? id = some r → r.Obtainable

theorem obtainable_empty : Obtainable {} := by
  intro id r h
  cases id with
  | zero => cases h
  | succ n => cases h

theorem Obtainable.grow {m : Memory} {r : Region} (h : m.Obtainable) (hr : r.Obtainable) :
    (m.grow r).Obtainable := by
  intro id r' hfound
  by_cases hid : id = m.nextId
  · subst hid
    rw [find?_grow_self] at hfound
    cases hfound
    exact hr
  · rw [find?_grow_of_ne _ _ hid] at hfound
    exact h id r' hfound

/-- A change of one region, that is not about its alignment or its length. -/
theorem Obtainable.update {m : Memory} (h : m.Obtainable) (id : RegionId) {f : Region → Region}
    (halign : ∀ r, (f r).align = r.align)
    (hlen : ∀ r, (f r).bytes.length = r.bytes.length) : (m.update id f).Obtainable := by
  intro other r' hfound
  rw [find?_update] at hfound
  split at hfound
  · obtain ⟨r, hr, rfl⟩ := Option.map_eq_some_iff.1 hfound
    exact (h other r hr).congr (halign r) (hlen r)
  · exact h other r' hfound

end Memory

/-- All regions of a machine could be asked for. -/
def Machine.Obtainable (m : Machine) : Prop :=
  m.memory.Obtainable

namespace Kernel

/-- A region that is made was asked for. -/
theorem posixMemalign_obtainable (align len : UInt64) :
    Preserves Machine.Obtainable (posixMemalign align len) := by
  intro m hm
  rw [run_posixMemalign]
  split
  · rename_i haccepts
    obtain ⟨-, hrequest⟩ := Bool.and_eq_true_iff.1 haccepts
    exact hm.grow (.fresh hrequest)
  · exact hm

/-- A call that can be refused keeps what its effect keeps. -/
theorem attempt_obtainable {t : Target} {sound : Memory → Bool} {event : Verdict → SystemCall}
    {effect : Verdict → Memory → Memory}
    (heffect : ∀ out mem, mem.Obtainable → (effect out mem).Obtainable) :
    Preserves Machine.Obtainable (attempt t sound event effect) :=
  fun m hm => heffect _ m.memory hm

theorem mlock_obtainable (s : Span) : Preserves Machine.Obtainable (mlock s) := by
  refine attempt_obtainable fun out mem h => ?_
  cases out with
  | granted => exact h.update s.region (fun _ => rfl) (fun _ => rfl)
  | refused => exact h

theorem munlock_obtainable (s : Span) : Preserves Machine.Obtainable (munlock s) :=
  attempt_obtainable fun _ _ h => h.update s.region (fun _ => rfl) (fun _ => rfl)

theorem madvise_obtainable (s : Span) (a : Advice) : Preserves Machine.Obtainable (madvise s a) :=
  attempt_obtainable fun _ _ h => h

theorem mprotect_obtainable (s : Span) (mode : Protection) :
    Preserves Machine.Obtainable (mprotect s mode) := by
  refine attempt_obtainable fun out mem h => ?_
  cases out with
  | granted => exact h.update s.region (fun _ => rfl) (fun _ => rfl)
  | refused => exact h

end Kernel

namespace Pages

theorem alloc_obtainable (len page : UInt64) :
    Preserves Machine.Obtainable (alloc len page).run := by
  intro m hm
  have hmade := Kernel.posixMemalign_obtainable page len m hm
  cases hcheck : checkWholePages len page with
  | error t =>
      have hrun := run_alloc_of_trap hcheck m
      exact (congrArg Prod.snd hrun) ▸ hm
  | ok _ =>
      have hrun := run_alloc_of_wholePages hcheck m
      rcases hcall : (Kernel.posixMemalign page len).run m with ⟨made, m'⟩
      rw [hcall] at hrun hmade
      cases made with
      | none => exact (congrArg Prod.snd hrun) ▸ hmade
      | some j => exact (congrArg Prod.snd hrun) ▸ hmade

theorem advise_obtainable (s : Span) (a : Advice) : Preserves Machine.Obtainable (advise s a) := by
  refine (Kernel.madvise_obtainable s a).bind fun out => ?_
  cases out with
  | granted => exact .pure _
  | refused => exact fun _ hm => hm

theorem lock_obtainable (s : Span) : Preserves Machine.Obtainable (lock s) := by
  refine (Kernel.mlock_obtainable s).bind fun out => ?_
  cases out with
  | granted => exact (advise_obtainable s .dontDump).bind fun _ => .pure _
  | refused => exact .pure _

theorem unlock_obtainable (s : Span) : Preserves Machine.Obtainable (unlock s) :=
  (advise_obtainable s .doDump).bind fun _ => Kernel.munlock_obtainable s

end Pages

namespace PageScript

theorem run_withPart {part : Part} {body : Span → MachineM Reply} {m : Machine} {s : Span}
    (h : part.span? m.memory = some s) : (withPart part body).run m = (body s).run m := by
  unfold withPart
  rw [run_bind, run_get]
  simp only [h]

/-- Something done with a part keeps what is kept whatever the part is. -/
theorem withPart_preserves {P : Machine → Prop} (part : Part) {body : Span → MachineM Reply}
    (hbody : ∀ s, Preserves P (body s)) : Preserves P (withPart part body) := by
  intro m hm
  unfold withPart
  rw [run_bind, run_get]
  cases part.span? m.memory with
  | none => exact hm
  | some s => exact hbody s m hm

/-- **One step keeps all regions obtainable.** -/
theorem act_obtainable (x : Step) : Preserves Machine.Obtainable (act .functions x) := by
  cases x with
  | pageSize => exact .pure _
  | alloc len page =>
      refine (Pages.alloc_obtainable len page).bind fun result => ?_
      cases result with
      | ok id => exact fun _ hm => hm
      | error f => exact .pure _
  | lock part =>
      exact withPart_preserves part fun s => (Pages.lock_obtainable s).bind fun _ => .pure _
  | unlock part =>
      exact withPart_preserves part fun s => (Pages.unlock_obtainable s).bind fun _ => .pure _
  | protect part mode =>
      exact withPart_preserves part fun s =>
        (Kernel.mprotect_obtainable s mode).bind fun _ => .pure _
  | wipe part =>
      exact withPart_preserves part fun s _ hm =>
        Memory.Obtainable.update hm s.region (fun _ => rfl) fun r => Bytes.length_wipe ..
  | dealloc region =>
      exact withPart_preserves _ fun s _ hm =>
        Memory.Obtainable.update hm s.region (fun _ => rfl) (fun _ => rfl)
  | fill part value =>
      exact withPart_preserves part fun s _ hm =>
        Memory.Obtainable.update hm s.region (fun _ => rfl) fun r => Bytes.length_fill ..
  | dump part => exact withPart_preserves part fun _ _ hm => hm
  | fault target places => exact fun _ hm => hm

/-- **After any steps, all regions are obtainable**, by either way to the pages. -/
theorem machineAfter_obtainable (api : Api) (steps : List Step) :
    (machineAfter api steps).Obtainable := by
  have hstep : ∀ s x, Preserves Machine.Obtainable (perform .functions s x) := fun _ x =>
    (act_obtainable x).bind fun _ => .pure _
  have hfunctions : ∀ steps, (machineAfter .functions steps).Obtainable := fun steps =>
    Script.play_preserves hstep steps ⟨(), {}⟩ Memory.obtainable_empty
  cases api with
  | functions => exact hfunctions steps
  | services =>
      rw [machineAfter_services]
      exact hfunctions _

/-! ## §5. Parts of regions. -/

/-- A part that lies in a region: it begins there, and if its length is given, it ends there. -/
structure Part.Inside (part : Part) (r : Region) : Prop where
  begins : part.off.toNat ≤ r.bytes.length
  ends : ∀ len, part.len? = some len → part.off.toNat + len.toNat ≤ r.bytes.length

/-- The bytes of a part of a region; without a length it reaches to the end. -/
def Part.size (part : Part) (r : Region) : Nat :=
  match part.len? with
  | some len => len.toNat
  | none     => r.bytes.length - part.off.toNat

/-- **The part of a live region that a step names** begins and ends as it says. -/
theorem Part.span?_of_inside {part : Part} {m : Memory} {r : Region}
    (hlive : m.live? part.region = some r) (hr : r.Obtainable) (hin : part.Inside r) :
    ∃ len : UInt64, part.span? m = some ⟨part.region, part.off, len⟩ ∧ len.toNat = part.size r ∧
      part.off.toNat + len.toNat ≤ r.bytes.length := by
  have hspan : part.span? m =
      some ⟨part.region, part.off, part.len?.getD (r.bytes.length.toUInt64 - part.off)⟩ := by
    unfold span?
    rw [hlive]
    rfl
  refine ⟨_, hspan, ?_⟩
  unfold size
  cases hlen : part.len? with
  | some len => exact ⟨rfl, hin.ends len hlen⟩
  | none =>
      have hword : r.bytes.length.toUInt64.toNat = r.bytes.length :=
        UInt64.toNat_ofNat_of_lt' hr.length_lt
      have hle : part.off ≤ r.bytes.length.toUInt64 := by
        rw [UInt64.le_iff_toNat_le, hword]
        exact hin.begins
      have hrest :
          (r.bytes.length.toUInt64 - part.off).toNat = r.bytes.length - part.off.toNat := by
        rw [UInt64.toNat_sub_of_le _ _ hle, hword]
      refine ⟨hrest, ?_⟩
      show part.off.toNat + (r.bytes.length.toUInt64 - part.off).toNat ≤ _
      have hbegins := hin.begins
      omega

end PageScript

end SealedPages
