/-
  SealedPages.Proofs.RefusalLines
  ───────────────────────────────
  **A LINE FOR EVERY REFUSAL.**  A call that is refused is reported by a line of the log, and so
  is nothing else.  Which line it is can be told from the call, but for the protection of pages:
  the same call is made by an access and by the making and the destroying of a buffer, and its
  refusal is worded by who made it.

  A custom platform makes calls below what it shows.  Their refusals are passed on by the
  service, all but one: advice on core dumps is logged where it is refused, and its service goes
  on.  So the calls whose refusals the log heeds are those that are shown, and advice.

  `Told v hidden access m m'` compares the two records that a run from `m` to `m'` leaves: the
  lines that report something are those that the refused calls ask for, in the same order, and a
  refusal that is not shown is among them only if `hidden` holds.  It composes, so it has to be
  looked at for the services only, where a call and its line go together.

  Main statements:
    * `Event.level_of_line?` — the level of a line, by the refusal that it reports;
    * `called_told`, `served_told` — a call with its line, and one with calls below it;
    * `told_unpin`, `told_lock`, `told_protect`, `obtain_cases` — the services with their lines;
    * `Answering.accessing`, `Answering.disposing`, `Answering.creating`, `Answering.founding` —
      what the operations of a buffer need.
-/
import SealedPages.Proofs.Counterparts
import SealedPages.Proofs.DestroyedBuffers
import SealedPages.Proofs.PinCalls

namespace SealedPages

variable {v : View} {hidden : Prop} {access : Bool} {m m₁ m' : Machine}

/-! ## §1. The line of a refusal. -/

/-- Whether an event is a call that is refused. -/
def Event.isRefused : Event → Bool
  | .system (.posixMemalign _ _ none) => true
  | .system (.mlock _ .refused) => true
  | .system (.munlock _ .refused) => true
  | .system (.madvise _ _ .refused) => true
  | .system (.mprotect _ _ .refused) => true
  | .service (.allocate _ none) => true
  | .service (.lock _ .refused) => true
  | .service (.unlock _ .refused) => true
  | .service (.protect _ _ .refused) => true
  | _ => false

/-- The line for pages whose protection could not be set.  An access opens and closes pages that
a buffer holds; otherwise pages are closed when they are made, and opened to be wiped. -/
def protectionLine (access : Bool) (s : Span) : Protection → LogLine
  | .readWrite => if access then .grantRefused s.region else .abandoned s.region s.len
  | .noAccess  => if access then .revokeRefused s.region else .sealRefused s.region

/-- The line that reports an event, if it is a refused call. -/
def Event.line? (access : Bool) : Event → Option LogLine
  | .system (.posixMemalign _ len none) => some (.allocationRefused len)
  | .system (.mlock s .refused) => some (.lockRefused s.region s.len)
  | .system (.munlock s .refused) => some (.unlockRefused s.region)
  | .system (.madvise s a .refused) => some (.adviceRefused s a)
  | .system (.mprotect s mode .refused) => some (protectionLine access s mode)
  | .service (.allocate len none) => some (.allocationRefused len)
  | .service (.lock s .refused) => some (.lockRefused s.region s.len)
  | .service (.unlock s .refused) => some (.unlockRefused s.region)
  | .service (.protect s mode .refused) => some (protectionLine access s mode)
  | _ => none

/-- **Every refused call has a line**, and nothing else has. -/
theorem Event.isSome_line? (access : Bool) (e : Event) :
    (e.line? access).isSome = e.isRefused := by
  unfold line? isRefused
  split <;> rfl

/-- **Whether a refusal is fatal**: by an access the buffer is destroyed, for its pages do not
close; otherwise they are given up, for they do not open. -/
def Event.isFatal (access : Bool) (e : Event) : Bool :=
  if access then e.refusesClosing else e.denied?.isSome

/-- **The line of a fatal refusal is an error**, and that of any other one is a warning. -/
theorem Event.level_of_line? {e : Event} {l : LogLine} (h : e.line? access = some l) :
    l.level = if e.isFatal access then .error else .warn := by
  unfold line? at h
  split at h <;> cases h
  -- the calls of the operating system and the services are treated alike
  case h_5 s mode | h_9 s mode => cases mode <;> cases access <;> rfl
  all_goals cases access <;> rfl

/-- Whether a line reports something, and is not only there for tracing. -/
def LogLine.isReport (l : LogLine) : Bool :=
  l.level != .debug

/-- The warnings and errors of a log. -/
def reports (log : List LogLine) : List LogLine :=
  log.filter (·.isReport)

theorem reports_append (xs ys : List LogLine) : reports (xs ++ ys) = reports xs ++ reports ys :=
  List.filter_append xs ys

/-- The line of a refusal is a warning or an error. -/
theorem Event.isReport_of_line? {e : Event} {l : LogLine} (h : e.line? access = some l) :
    l.isReport = true := by
  unfold LogLine.isReport
  rw [level_of_line? h]
  split <;> rfl

/-- Advice on core dumps. -/
def Event.isAdvice : Event → Bool
  | .system (.madvise ..) => true
  | _ => false

namespace View

/-- **Whether the log heeds the refusal of a call**: of one that is shown, and of advice, which is
logged below any service. -/
def heeds (v : View) (e : Event) : Bool :=
  v.shows e || e.isAdvice

/-- The calls whose refusals are heeded. -/
def heeded (v : View) (t : List Moment) : List Event :=
  (t.map (·.event)).filter v.heeds

theorem heeded_append (v : View) (xs ys : List Moment) :
    v.heeded (xs ++ ys) = v.heeded xs ++ v.heeded ys := by
  simp [heeded]

/-- The operating system shows all its calls, and all of them are heeded. -/
theorem filter_heeds_system (calls : List SystemCall) :
    (calls.map Event.system).filter View.systemCalls.heeds = calls.map Event.system := by
  refine List.filter_eq_self.2 fun e he => ?_
  obtain ⟨c, _, rfl⟩ := List.mem_map.1 he
  rfl

/-- The lines for the refusals that are heeded, in order. -/
def refusals (v : View) (access : Bool) (t : List Moment) : List LogLine :=
  (v.heeded t).filterMap (·.line? access)

theorem refusals_append (v : View) (access : Bool) (xs ys : List Moment) :
    v.refusals access (xs ++ ys) = v.refusals access xs ++ v.refusals access ys := by
  unfold refusals
  rw [heeded_append, List.filterMap_append]

/-- **All refusals are shown**, unless something is hidden. -/
def ShowsRefusals (v : View) (hidden : Prop) (t : List Moment) : Prop :=
  ∀ e ∈ v.heeded t, e.isRefused = true → v.shows e = true ∨ hidden

theorem ShowsRefusals.append {xs ys : List Moment} (hx : v.ShowsRefusals hidden xs)
    (hy : v.ShowsRefusals hidden ys) : v.ShowsRefusals hidden (xs ++ ys) := by
  intro e he
  rw [heeded_append] at he
  rcases List.mem_append.1 he with h | h
  · exact hx e h
  · exact hy e h

end View

/-! ## §2. Runs whose refusals are told. -/

/-- **The refusals from `m` to `m'` are told**: each by its line, and in order. -/
def Told (v : View) (hidden : Prop) (access : Bool) (m m' : Machine) : Prop :=
  ∃ moments lines, m'.trace = m.trace ++ moments ∧ m'.log = m.log ++ lines ∧
    reports lines = v.refusals access moments ∧ v.ShowsRefusals hidden moments

namespace Told

theorem refl (v : View) (hidden : Prop) (access : Bool) (m : Machine) :
    Told v hidden access m m :=
  ⟨[], [], (List.append_nil _).symm, (List.append_nil _).symm, rfl, by
    intro e he
    cases he⟩

theorem trans (a : Told v hidden access m m₁) (b : Told v hidden access m₁ m') :
    Told v hidden access m m' := by
  obtain ⟨xs, ls, htrace, hlog, ha, hshown⟩ := a
  obtain ⟨ys, ks, htrace', hlog', hb, hshown'⟩ := b
  refine ⟨xs ++ ys, ls ++ ks, ?_, ?_, ?_, hshown.append hshown'⟩
  · rw [htrace', htrace, List.append_assoc]
  · rw [hlog', hlog, List.append_assoc]
  · rw [reports_append, View.refusals_append, ha, hb]

/-- A run that is told, from the events that it records. -/
theorem of_events (events : List Event) (lines : List LogLine)
    (htrace : ∃ moments, m'.trace = m.trace ++ moments ∧ moments.map (·.event) = events)
    (hlog : m'.log = m.log ++ lines)
    (hlines : reports lines = (events.filter v.heeds).filterMap (·.line? access))
    (hshown : ∀ e ∈ events.filter v.heeds, e.isRefused = true → v.shows e = true ∨ hidden) :
    Told v hidden access m m' := by
  obtain ⟨moments, htrace, rfl⟩ := htrace
  exact ⟨moments, lines, htrace, hlog, hlines, hshown⟩

/-- **A run in which nothing is refused that is heeded**, and which writes no line. -/
theorem quiet (moments : List Moment) (hlog : m'.log = m.log)
    (htrace : m'.trace = m.trace ++ moments)
    (h : ∀ x ∈ moments, v.heeds x.event = true → x.event.line? access = none) :
    Told v hidden access m m' := by
  have hnone : ∀ e ∈ (moments.map (·.event)).filter v.heeds, e.line? access = none := by
    intro e he
    obtain ⟨hmem, hheeds⟩ := List.mem_filter.1 he
    obtain ⟨x, hx, rfl⟩ := List.mem_map.1 hmem
    exact h x hx hheeds
  refine .of_events _ [] ⟨moments, htrace, rfl⟩ (hlog.trans (List.append_nil _).symm)
    (List.filterMap_eq_nil_iff.2 hnone).symm ?_
  intro e he hrefused
  rw [← e.isSome_line? access, hnone e he] at hrefused
  cases hrefused

/-- A line that reports nothing. -/
theorem note {l : LogLine} (hl : l.isReport = false) :
    Told v hidden access m ((Machine.note l).run m).2 := by
  refine .of_events [] [l] ⟨[], (List.append_nil _).symm, rfl⟩ rfl ?_ fun e he => by cases he
  unfold reports
  rw [List.filter_singleton, hl]
  rfl

end Told

/-- The line that is written where a call is refused. -/
def Verdict.lines (line : LogLine) : Verdict → List LogLine
  | .granted => []
  | .refused => [line]

section Announced

variable {line : LogLine} {out : Verdict} {calls : List SystemCall} {lines : List LogLine}

/-- A call and the line that it asks for, whatever its verdict. -/
theorem Verdict.reports_lines (event : Verdict → Event)
    (hgranted : (event .granted).line? access = none)
    (hrefused : (event .refused).line? access = some line) (out : Verdict) :
    reports (out.lines line) = [event out].filterMap (·.line? access) := by
  cases out with
  | granted =>
      rw [List.filterMap_cons_none hgranted]
      rfl
  | refused =>
      have hreport : line.isReport = true := Event.isReport_of_line? hrefused
      rw [List.filterMap_cons_some hrefused]
      show reports [line] = [line]
      exact List.filter_eq_self.2 (by simpa using hreport)

theorem log_announced (line : LogLine) {call : MachineM Verdict} (hrun : call.run m = (out, m₁)) :
    ((announced call line).run m).2.trace = m₁.trace ∧
      ((announced call line).run m).2.log = m₁.log ++ out.lines line := by
  rw [run_announced, hrun]
  cases out with
  | granted => exact ⟨rfl, (List.append_nil _).symm⟩
  | refused => exact ⟨rfl, rfl⟩

/-- **A call of the operating system is told** by the lines of the calls that it makes. -/
theorem called_told {call : MachineM Verdict} (hrun : call.run m = (out, m₁))
    (hcalls : m.Calls calls lines m₁)
    (hlines : reports (lines ++ out.lines line) =
      (calls.map Event.system).filterMap (·.line? access)) :
    Told .systemCalls hidden access m ((announced call line).run m).2 := by
  obtain ⟨htrace, hlog⟩ := log_announced line hrun
  have hheeded := View.filter_heeds_system calls
  refine .of_events (calls.map Event.system) (lines ++ out.lines line) ?_ ?_ ?_ ?_
  · rw [htrace]
    exact hcalls.trace
  · rw [hlog, hcalls.log, List.append_assoc]
  · rw [hheeded, hlines]
  · intro e he _
    rw [hheeded] at he
    obtain ⟨c, _, rfl⟩ := List.mem_map.1 he
    exact Or.inl rfl

/-- **A recorded service is told** by its own line, and by those of what is heeded below it. -/
theorem served_told {t : Target} {event : Verdict → ServiceCall} {service : MachineM Verdict}
    {heeded : List Event}
    (hrun : service.run { m with faults := m.faults.tick t } = (out, m₁))
    (hcalls : Machine.Calls { m with faults := m.faults.tick t } calls lines m₁)
    (hgranted : (Event.service (event .granted)).line? access = none)
    (hrefused : (Event.service (event .refused)).line? access = some line)
    (hheeded : (calls.map Event.system).filter View.serviceCalls.heeds = heeded)
    (hlines : reports lines = heeded.filterMap (·.line? access))
    (hhidden : ∀ e ∈ heeded, e.isRefused = true → hidden) :
    Told .serviceCalls hidden access m
      ((announced (Platform.served t event service) line).run m).2 := by
  have hline := Verdict.reports_lines (fun out => .service (event out)) hgranted hrefused
  have hserved := Platform.run_served t event service m
  cases hf : m.faults.fires t with
  | true =>
      rw [hf, if_pos rfl] at hserved
      obtain ⟨htrace, hlog⟩ := log_announced line hserved
      refine .of_events [.service (event .refused)] _ ⟨_, htrace, rfl⟩ hlog
        (hline .refused) ?_
      intro e he _
      rw [List.mem_singleton.1 (List.mem_of_mem_filter he)]
      exact Or.inl rfl
  | false =>
      rw [hf, if_neg Bool.false_ne_true, hrun] at hserved
      obtain ⟨htrace, hlog⟩ := log_announced line hserved
      obtain ⟨moments, hmoments, hevents⟩ := hcalls.trace
      refine .of_events (calls.map Event.system ++ [.service (event out)]) (lines ++ out.lines line)
        ⟨moments ++ [⟨m.memory, .service (event out)⟩], ?_, ?_⟩ ?_ ?_ ?_
      · rw [htrace]
        exact (congrArg (· ++ [_]) hmoments).trans (List.append_assoc ..)
      · rw [List.map_append, hevents]
        rfl
      · rw [hlog, ← List.append_assoc]
        exact congrArg (· ++ _) hcalls.log
      · rw [reports_append, List.filter_append, List.filterMap_append, hheeded, hlines, hline out]
        rfl
      · intro e he hrefusal
        rw [List.filter_append, hheeded] at he
        rcases List.mem_append.1 he with hbelow | hserved
        · exact Or.inr (hhidden e hbelow hrefusal)
        · rw [List.mem_singleton.1 (List.mem_of_mem_filter hserved)]
          exact Or.inl rfl

end Announced

/-! ## §3. Where advice is taken. -/

/-- **No advice is refused**: no fault is pending for it, and the regions below `known` exist. -/
structure Advised (known : RegionId) (m : Machine) : Prop where
  spared : m.faults.Spares .madvise
  made : known ≤ m.memory.nextId

open BufferScript (PlatformKind)

/-- **All refusals will be shown**, unless something is hidden.  The operating system shows all
its calls; a custom platform hides advice, so there it has to be taken. -/
def Ready (hidden : Prop) : PlatformKind → RegionId → Machine → Prop
  | .system, _, _     => True
  | .custom, known, m => hidden ∨ Advised known m

/-- A region that is known to exist, where it has to be. -/
def Known : PlatformKind → RegionId → RegionId → Prop
  | .system, _, _     => True
  | .custom, known, j => 0 < j ∧ j < known

variable {kind : PlatformKind} {known j : RegionId}

namespace Ready

theorem advance (h : Ready hidden kind known m)
    (hfaults : m.faults.Spares .madvise → m'.faults.Spares .madvise)
    (hmade : m.memory.nextId ≤ m'.memory.nextId) : Ready hidden kind known m' := by
  cases kind with
  | system => trivial
  | custom => exact h.imp_right fun a => ⟨hfaults a.spared, Nat.le_trans a.made hmade⟩

/-- More regions exist than were known. -/
theorem widen {known' : RegionId} (h : Ready hidden kind known m)
    (hmade : known' ≤ m.memory.nextId) : Ready hidden kind known' m := by
  cases kind with
  | system => trivial
  | custom => exact h.imp_right fun a => ⟨a.spared, hmade⟩

/-- What was known before the last region is known with it. -/
theorem regain (h : Ready hidden kind known m) (h' : Ready hidden kind (m.memory.nextId + 1) m') :
    Ready hidden kind known m' := by
  cases kind with
  | system => trivial
  | custom =>
      rcases h with hhidden | hadvised
      · exact Or.inl hhidden
      · exact h'.imp_right fun a => ⟨a.spared,
          Nat.le_trans (Nat.le_succ_of_le hadvised.made) a.made⟩

theorem keptOn (hidden : Prop) (kind : PlatformKind) (known j : RegionId) :
    KeptOn (Ready hidden kind known) j where
  draw t _ h := h.advance (·.tick t) (Nat.le_refl _)
  record _ _ _ _ h := h.advance id (Nat.le_refl _)
  note _ _ _ h := h.advance id (Nat.le_refl _)
  update _ _ h := h.advance id (Nat.le_of_eq (Memory.nextId_update ..).symm)

theorem keptByMaking (hidden : Prop) (kind : PlatformKind) (known : RegionId) :
    KeptByMaking (Ready hidden kind known) where
  draw t _ h := h.advance (·.tick t) (Nat.le_refl _)
  record _ _ _ h := h.advance id (Nat.le_refl _)
  note _ _ h := h.advance id (Nat.le_refl _)
  fresh _ _ := keptOn hidden kind known _
  grow r m h := h.advance id (by
    show m.memory.nextId ≤ (m.memory.grow r).nextId
    rw [Memory.nextId_grow]
    exact Nat.le_succ _)

/-- No step on a region makes the machine less ready. -/
theorem unreserved (hidden : Prop) (kind : PlatformKind) (known j : RegionId) :
    Unreserved (Diagonal (Ready hidden kind known)) id Eq j :=
  (keptOn hidden kind known j).unreserved (fun _ _ _ h => h.advance id (Nat.le_refl _))
    fun _ _ h => h.advance id (Nat.le_refl _)

/-- Setting the protection of pages, with its line. -/
theorem announced_protect (hidden : Prop) (kind : PlatformKind) (known j : RegionId)
    (page L : UInt64) (mode : Protection) (l : LogLine) :
    Preserves (Ready hidden kind known)
      (announced ((kind.platform page).protect (.front j L) mode) l) := by
  have hU := unreserved hidden kind known j
  have hcall : Coupled (Diagonal (Ready hidden kind known)) Eq
      ((kind.platform page).protect (.front j L) mode)
      ((kind.platform page).protect (.front j L) mode) := by
    cases mode with
    | readWrite => exact hU.open_of_kind kind page L
    | noAccess => exact (hU.services_of_kind kind page).close L
  have hnote : Preserves (Ready hidden kind known) (Machine.note l) :=
    fun _ h => h.advance id (Nat.le_refl _)
  exact (hcall.announced hnote.coupled).preserves

/-- **Advice that is refused below a service is hidden**: it is about the front of a region that
is known to exist, so only a fault can refuse it. -/
theorem hidden_of_refused (h : Ready hidden .custom known m) (hj : Known .custom known j)
    {t : Target} {L : UInt64}
    (hrefused : Kernel.adviceVerdict { m with faults := m.faults.tick t } (.front j L) = .refused) :
    hidden := by
  rcases h with hhidden | hadvised
  · exact hhidden
  · have haligned := Kernel.isAligned_front hj.1 (Nat.lt_of_lt_of_le hj.2 hadvised.made) L
    have hfires := (hadvised.spared.tick t).fires_eq
    rcases Kernel.verdictOn_eq_refused_iff.1 hrefused with hfault | hmisaligned
    · cases hfires.symm.trans hfault
    · cases haligned.symm.trans hmisaligned

end Ready

/-! ## §4. The services with their lines. -/

section Services

variable (kind : PlatformKind) (page : UInt64) (hidden : Prop) (access : Bool) (j : RegionId)
  (L : UInt64)

theorem told_wipe (m : Machine) :
    Told kind.view hidden access m (((kind.platform page).wipe (.front j L)).run m).2 := by
  cases kind with
  | system =>
      refine .quiet [⟨m.memory, .touch (.wipe (.front j L))⟩] rfl rfl ?_
      simp [Event.line?]
  | custom =>
      refine .quiet [⟨m.memory, .service (.wipe (.front j L))⟩,
        ⟨m.memory, .touch (.wipe (.front j L))⟩] rfl (List.append_assoc ..) ?_
      simp [Event.line?]

theorem told_release (m : Machine) :
    Told kind.view hidden access m (((kind.platform page).release (.front j L)).run m).2 := by
  cases kind with
  | system =>
      refine .quiet [⟨m.memory, .system (.free j (m.memory.nonzero j))⟩] rfl rfl ?_
      simp [Event.line?]
  | custom =>
      refine .quiet [⟨m.memory, .service (.release (.front j L) (m.memory.nonzero j))⟩,
        ⟨m.memory, .system (.free j (m.memory.nonzero j))⟩] rfl (List.append_assoc ..) ?_
      simp [Event.line?]

/-- **Setting the protection of pages**, with the line of whoever does it. -/
theorem told_protect (mode : Protection) (m : Machine) :
    Told kind.view hidden access m
      ((announced ((kind.platform page).protect (.front j L) mode)
        (protectionLine access (.front j L) mode)).run m).2 := by
  have hcalls (m : Machine) : m.Calls _ _ ((Pages.protect (.front j L) mode).run m).2 :=
    Kernel.attempt_calls .mprotect (Kernel.isAligned (.front j L)) (.mprotect (.front j L) mode) _ m
  cases kind with
  | system =>
      exact called_told rfl (hcalls m) (Verdict.reports_lines
        (fun out => .system (.mprotect (.front j L) mode out)) rfl rfl _)
  | custom => exact served_told rfl (hcalls _) rfl rfl rfl rfl fun e he => by cases he

/-- Unpinning pages is a call with its line. -/
theorem run_unpin (p : Platform) (pages : Span) (m : Machine) :
    ((SealedBuffer.unpin p pages).run m).2 =
      ((announced (p.unlock pages) (.unlockRefused pages.region)).run m).2 := by
  unfold SealedBuffer.unpin
  rw [run_announced, run_bind]
  cases ((p.unlock pages).run m).1 <;> rfl

/-- Advice has its line. -/
theorem Span.reports_adviceLines (s : Span) (a : Advice) (out : Verdict) :
    reports (s.adviceLines a out) =
      [Event.system (.madvise s a out)].filterMap (·.line? access) := by
  cases out with
  | granted => rfl
  | refused => rfl

variable {kind hidden j}

/-- **Advice whose refusal is hidden**, where it is the only call below a service. -/
theorem Ready.hides {known : RegionId} {t : Target} {a : Advice} {m : Machine}
    (h : Ready hidden .custom known m) (hj : Known .custom known j) :
    ∀ e ∈ [Event.system (.madvise (.front j L) a
        (Kernel.adviceVerdict { m with faults := m.faults.tick t } (.front j L)))],
      e.isRefused = true → hidden := by
  intro e he hrefused
  rw [List.mem_singleton.1 he] at hrefused
  apply h.hidden_of_refused hj (t := t) (L := L)
  generalize Kernel.adviceVerdict _ _ = out at hrefused
  cases out with
  | granted => cases hrefused
  | refused => rfl

/-- **Unpinning pages.** -/
theorem told_unpin {known : RegionId} (hj : Known kind known j) {m : Machine}
    (h : Ready hidden kind known m) :
    Told kind.view hidden access m
      ((SealedBuffer.unpin (kind.platform page) (.front j L)).run m).2 := by
  rw [run_unpin]
  cases kind with
  | system =>
      obtain ⟨m', hrun, hpins⟩ := Pages.unlock_onlyPins (.front j L) m
      refine called_told hrun hpins.toCalls ?_
      rw [reports_append, Span.reports_adviceLines access,
        Verdict.reports_lines (fun out => .system (.munlock (.front j L) out)) rfl rfl]
      exact (List.filterMap_append ..).symm
  | custom =>
      obtain ⟨m', hrun, hpins⟩ := Pages.unlock_onlyPins (.front j L)
        { m with faults := m.faults.tick .unlock }
      exact served_told hrun hpins.toCalls rfl rfl rfl (Span.reports_adviceLines access _ _ _)
        (h.hides L hj)

/-- **Pinning pages.** -/
theorem told_lock {known : RegionId} (hj : Known kind known j) {m : Machine}
    (h : Ready hidden kind known m) :
    Told kind.view hidden access m
      ((announced ((kind.platform page).lock (.front j L)) (.lockRefused j L)).run m).2 := by
  cases kind with
  | system =>
      obtain ⟨m', hrun, hpins⟩ := Pages.lock_onlyPins (.front j L) m
      refine called_told hrun hpins.toCalls ?_
      generalize Kernel.adviceVerdict m (.front j L) = advice
      cases Kernel.pinVerdict m with
      | granted => cases advice <;> rfl
      | refused => rfl
  | custom =>
      obtain ⟨m', hrun, hpins⟩ := Pages.lock_onlyPins (.front j L)
        { m with faults := m.faults.tick .lock }
      have hhides := h.hides (t := .lock) (a := .dontDump) L hj
      -- advice is asked for only once the pages are pinned
      cases hpin : Kernel.pinVerdict { m with faults := m.faults.tick .lock } with
      | granted =>
          rw [hpin] at hrun hpins
          exact served_told hrun hpins.toCalls rfl rfl rfl (Span.reports_adviceLines access _ _ _)
            hhides
      | refused =>
          rw [hpin] at hrun hpins
          exact served_told hrun hpins.toCalls rfl rfl rfl rfl fun e he => by cases he

end Services

/-! ## §5. Asking for pages. -/

section Allocation

variable (kind : PlatformKind) (page : UInt64) {L : UInt64}

/-- Asking for whole pages writes no line. -/
theorem log_allocate (hL : Pages.checkWholePages L (kind.pageSize page) = .ok ()) (m : Machine) :
    (StateT.run ((kind.platform page).allocate L).run m).2.log = m.log := by
  have hasked : ∀ n : Machine,
      (StateT.run (Pages.alloc L (kind.pageSize page)).run n).2.log = n.log := by
    intro n
    have hcall : ((Kernel.posixMemalign (kind.pageSize page) L).run n).2.log = n.log := by
      rw [Kernel.run_posixMemalign]
      split <;> rfl
    rw [Pages.run_alloc_of_wholePages hL]
    generalize (Kernel.posixMemalign (kind.pageSize page) L).run n = asked at hcall
    obtain ⟨_ | id, n'⟩ := asked <;> exact hcall
  cases kind with
  | system => exact hasked m
  | custom =>
      have hbelow : (StateT.run (Pages.alloc L page).run
          { m with faults := m.faults.tick .allocate }).2.log = m.log := hasked _
      show (StateT.run (Platform.servedAlloc L page).run m).2.log = m.log
      rw [Platform.run_servedAlloc]
      split
      · rfl
      · generalize StateT.run (Pages.alloc L page).run { m with faults := m.faults.tick .allocate }
          = ran at hbelow
        obtain ⟨(e | t) | id, n⟩ := ran <;> exact hbelow

/-- **Whole pages are refused, or a region is made.**  A refusal is told by its line. -/
theorem obtain_cases (hidden : Prop)
    (hL : Pages.checkWholePages L (kind.pageSize page) = .ok ()) (m : Machine) :
    (∃ m', StateT.run (SealedBuffer.obtain (kind.platform page) L).run m =
        (.error (.refused .allocationFailed), m') ∧ Told kind.view hidden false m m') ∨
    (∃ m', StateT.run (SealedBuffer.obtain (kind.platform page) L).run m =
        (.ok m.memory.nextId, m') ∧ m.memory.nextId < m'.memory.nextId ∧
      Told kind.view hidden false m m') := by
  have hrun := SealedBuffer.run_obtain (kind.platform page) L m
  have hlog := log_allocate kind page hL m
  -- advice is all that is heeded below a service, and no request for pages is advice
  obtain ⟨moments, htrace, hheeded⟩ := BufferScript.filter_allocate kind page m
    (p := kind.view.heeds) hL (fun _ => by cases kind <;> rfl) (fun hkind _ => by subst hkind; rfl)
  have hshown : kind.view.ShowsRefusals hidden moments := by
    unfold View.ShowsRefusals View.heeded
    rw [hheeded]
    intro e he _
    rw [List.mem_singleton.1 he]
    left
    cases kind <;> rfl
  rcases (BufferScript.serves_pageSize kind page).allocate m L hL with
    ⟨m', hallocate, -⟩ | ⟨m', hallocate, hfound, -, -⟩
  · left
    rw [hallocate] at hrun hlog htrace hheeded
    refine ⟨_, hrun, moments, [.allocationRefused L], htrace, congrArg (· ++ [_]) hlog, ?_, hshown⟩
    unfold View.refusals View.heeded
    rw [hheeded]
    cases kind <;> rfl
  · right
    rw [hallocate] at hrun hlog htrace hheeded
    refine ⟨m', hrun, Memory.lt_nextId_of_find? hfound, moments, [], htrace,
      hlog.trans (List.append_nil _).symm, ?_, hshown⟩
    unfold View.refusals View.heeded
    rw [hheeded]
    cases kind <;> rfl

end Allocation

/-! ## §6. What the operations of a buffer need. -/

/-- **All refusals since `m₀` are told**, and those to come will be shown. -/
structure Answering (kind : PlatformKind) (hidden : Prop) (access : Bool) (known : RegionId)
    (m₀ m : Machine) : Prop where
  told : Told kind.view hidden access m₀ m
  ready : Ready hidden kind known m

namespace Answering

variable {m₀ : Machine} {α : Type}

/-- What is told from any machine on goes on telling. -/
theorem preserves {x : MachineM α}
    (htold : ∀ m, Ready hidden kind known m → Told kind.view hidden access m (x.run m).2)
    (hready : Preserves (Ready hidden kind known) x) :
    Preserves (Answering kind hidden access known m₀) x :=
  fun m h => ⟨h.told.trans (htold m h.ready), hready m h.ready⟩

/-- A line that reports nothing. -/
theorem note {l : LogLine} (hl : l.isReport = false) :
    Preserves (Answering kind hidden access known m₀) (Machine.note l) :=
  preserves (fun _ _ => .note hl) fun _ h => h.advance id (Nat.le_refl _)

section Held

variable (page : UInt64)

/-- **Pages whose protection is set**, with the line of whoever does it. -/
theorem protect (L : UInt64) (mode : Protection) {l : LogLine}
    (hl : protectionLine access (.front j L) mode = l) :
    Coupled (Diagonal (Answering kind hidden access known m₀)) Eq
      (announced ((kind.platform page).protect (.front j L) mode) l)
      (announced ((kind.platform page).protect (.front j L) mode) l) := by
  subst hl
  exact (preserves (fun m _ => told_protect kind page hidden access j L mode m)
    (Ready.announced_protect hidden kind known j page L mode _)).coupled

variable (hj : Known kind known j)

include hj

theorem erasing :
    Erasing (Diagonal (Answering kind hidden access known m₀)) id (kind.platform page)
      (kind.platform page) j := by
  have hP := (Ready.keptOn hidden kind known j).primitives
  have hE := hP.erasing (hP.services_of_kind kind page)
  exact {
    wipe := fun L => (preserves (fun m _ => told_wipe kind page hidden access j L m)
      (hE.wipe L).preserves).coupled
    unpin := fun L => (preserves (fun m h => told_unpin page access L hj h)
      (hE.unpin L).preserves).coupled
    release := fun L => (preserves (fun m _ => told_release kind page hidden access j L m)
      (hE.release L).preserves).coupled
    noteDestroyed := (note rfl).coupled }

/-- **An access** reports pages that do not open, and pages that do not close. -/
theorem accessing : Accessing (Diagonal (Answering kind hidden true known m₀)) id Eq
    (kind.platform page) (kind.platform page) j where
  toErasing := erasing page hj
  grant L := protect page L .readWrite rfl
  revoke L := protect page L .noAccess rfl
  copyIn n data data' hdata := by
    subst hdata
    have hK := Ready.keptOn hidden kind known j
    refine (preserves (fun m _ => ?_) (hK.copyIn n rfl).preserves).coupled
    refine .quiet [⟨m.memory, .touch (.copyIn (.front j n))⟩] rfl rfl ?_
    simp [Event.line?]
  copyOut n := by
    intro m m' hR
    obtain ⟨rfl, h⟩ := hR
    refine ⟨⟨rfl, m.memory.length_read_le (.front j n)⟩, rfl, h.told.trans ?_,
      h.ready.advance id (Nat.le_refl _)⟩
    refine .quiet [⟨m.memory, .touch (.copyOut (.front j n))⟩] rfl rfl ?_
    simp [Event.line?]

/-- **A destruction** reports pages that do not open. -/
theorem disposing : Disposing (Diagonal (Answering kind hidden false known m₀)) id
    (kind.platform page) (kind.platform page) j where
  toErasing := erasing page hj
  reopen L := protect page L .readWrite rfl

/-- **A creation** reports pages that are not pinned, and pages that do not close. -/
theorem furnishing : Furnishing (Diagonal (Answering kind hidden false known m₀)) id
    (kind.platform page) (kind.platform page) j where
  toErasing := erasing page hj
  lock L := by
    have hP := (Ready.keptOn hidden kind known j).primitives
    have hF := hP.furnishing (hP.services_of_kind kind page)
    exact (preserves (fun m h => told_lock page false L hj h) (hF.lock L).preserves).coupled
  close L := protect page L .noAccess rfl
  noteCreated _ _ := (note rfl).coupled

end Held

/-- **What a creation asks of the operating system.** -/
theorem creating :
    Creating (Diagonal (Answering .system hidden false known m₀)) id .system .system where
  pageSize := .pure rfl
  obtain L := by
    intro m n hR
    obtain ⟨rfl, h⟩ := hR
    cases hL : Pages.checkWholePages L Kernel.pageSize with
    | error t =>
        -- pages that are no whole number are not asked for
        have hrun := SealedBuffer.run_obtain .system L m
        rw [show StateT.run (Platform.system.allocate L).run m = _ from
          Pages.run_alloc_of_trap hL m] at hrun
        rw [hrun]
        exact ⟨.error _, rfl, h⟩
    | ok _ =>
        rcases obtain_cases .system 0 hidden hL m with ⟨m', hrun, htold⟩ | ⟨m', hrun, -, htold⟩
        · rw [show StateT.run (SealedBuffer.obtain .system L).run m = _ from hrun]
          exact ⟨.error _, rfl, h.told.trans htold, trivial⟩
        · rw [show StateT.run (SealedBuffer.obtain .system L).run m = _ from hrun]
          exact ⟨.ok ⟨rfl, furnishing 0 trivial⟩, rfl, h.told.trans htold, trivial⟩

/-- **What it asks of a custom platform.**  From then on the new region is known. -/
theorem founding (page : UInt64) : Founding (Diagonal (Answering .custom hidden false known m₀))
    (fun reported => reported = page) id (.custom page) (.custom page) where
  pageSize := by
    intro m n hR
    obtain ⟨rfl, h⟩ := hR
    refine ⟨⟨rfl, rfl⟩, rfl, h.told.trans ?_, h.ready.advance id (Nat.le_refl _)⟩
    refine .quiet [⟨m.memory, .service (.pageSize page)⟩] rfl rfl ?_
    simp [Event.line?]
  obtain {L reported} hreported hL m n hR := by
    obtain ⟨rfl, h⟩ := hR
    subst hreported
    have hmaking := Ready.keptByMaking hidden .custom known
    have hO := hmaking.originates.creating_of_kind .custom reported
    have hready := (hO.obtain L).preserves m h.ready
    rcases obtain_cases .custom reported hidden hL m with
      ⟨m', hrun, htold⟩ | ⟨m', hrun, hmade, htold⟩
    · rw [hrun] at hready
      rw [show StateT.run (SealedBuffer.obtain (.custom reported) L).run m = _ from hrun]
      exact .error _ ⟨rfl, h.told.trans htold, hready⟩
    · rw [hrun] at hready
      rw [show StateT.run (SealedBuffer.obtain (.custom reported) L).run m = _ from hrun]
      have hknown : Known .custom (m.memory.nextId + 1) m.memory.nextId :=
        ⟨Nat.succ_pos _, Nat.lt_succ_self _⟩
      refine .ok (furnishing reported hknown) ⟨rfl, h.told.trans htold, hready.widen hmade⟩ ?_
      intro m n hR
      exact ⟨hR.1, hR.2.told, h.ready.regain hR.2.ready⟩

end Answering

end SealedPages
