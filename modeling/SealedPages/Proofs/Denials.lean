/-
  SealedPages.Proofs.Denials
  ──────────────────────────
  **WHY PAGES DID NOT OPEN.**  Pages are opened for an access, and they are opened to be
  wiped.  A refusal looks the same in both cases, the same call with the same arguments,
  but an access may be tried again, while pages that do not open to be wiped are given up.
  The log tells the two apart: `grantRefused` is the line of an access, `abandoned` the
  line of a destruction, and no other line is written for a refused opening.

  `Tallied` says that the two records agree: there is one line for each refused opening of
  a region, and where there is an `abandoned` it comes after every `grantRefused`.

  Main statements:
    * `Booked.grant`, `Booked.reopen` — the two ways in which an opening is refused;
    * `BufferScript.act_tallied`, `HandleScript.act_tallied` — every step keeps the tallies;
    * `Scenario.tallied`, `Scenario.tallied_last` — after any steps, and at the end.
-/
import SealedPages.Proofs.AtRest
import SealedPages.Proofs.ShownCalls

namespace SealedPages

variable {v : View} {j : RegionId} {L : UInt64} {m m' : Machine}

/-! ## §1. Refused openings and their lines. -/

section Tally

variable {id : RegionId}

/-- How many refused openings of a region a view shows. -/
def View.denials (v : View) (id : RegionId) (t : List Moment) : Nat :=
  t.countP fun x => v.shows x.event && x.event.denied? == some id

/-- The log lines for refused openings of a region. -/
def denialLines (id : RegionId) (log : List LogLine) : List LogLine :=
  log.filter fun l => l.denied? == some id

/-- An event that reports a refused opening names the region. -/
theorem Event.region?_of_denied? {e : Event} (h : e.denied? = some id) : e.region? = some id := by
  unfold Event.denied? at h
  split at h
  · exact h
  · exact h
  · cases h

theorem LogLine.region?_of_denied? {l : LogLine} (h : l.denied? = some id) :
    l.region? = some id := by
  unfold LogLine.denied? at h
  split at h
  · exact h
  · exact h
  · cases h

/-- What is about no region is no refused opening. -/
theorem Event.denied?_eq_none {e : Event} (h : e.region? = none) : e.denied? = none :=
  Option.eq_none_iff_forall_ne_some.2 fun _ hd => by cases h.symm.trans (region?_of_denied? hd)

theorem LogLine.denied?_eq_none {l : LogLine} (h : l.region? = none) : l.denied? = none :=
  Option.eq_none_iff_forall_ne_some.2 fun _ hd => by cases h.symm.trans (region?_of_denied? hd)

/-- A line that gives a region up reports a refused opening of it. -/
theorem LogLine.abandons?_of_denied?_ne {l : LogLine} (h : l.denied? ≠ some id) :
    l.abandons? id = none := by
  cases l with
  | abandoned region capacity => exact if_neg fun e => h (congrArg some e)
  | _ => rfl

theorem View.denials_append (v : View) (id : RegionId) (xs ys : List Moment) :
    v.denials id (xs ++ ys) = v.denials id xs + v.denials id ys :=
  List.countP_append

theorem View.denials_singleton (v : View) (id : RegionId) (x : Moment) :
    v.denials id [x] = if (v.shows x.event && x.event.denied? == some id) = true then 1 else 0 :=
  List.countP_singleton

/-- An event that is no refused opening of the region, or is not shown, does not count. -/
theorem View.denials_concat_of_ne {x : Moment} {t : List Moment}
    (h : v.shows x.event = true → x.event.denied? ≠ some id) :
    v.denials id (t ++ [x]) = v.denials id t := by
  have hx : ¬ (v.shows x.event && x.event.denied? == some id) = true := by
    intro hboth
    obtain ⟨hshown, hdenied⟩ := Bool.and_eq_true_iff.1 hboth
    exact h hshown (eq_of_beq hdenied)
  rw [denials_append, denials_singleton, if_neg hx]
  rfl

theorem denialLines_concat_of_ne {l : LogLine} {log : List LogLine} (h : l.denied? ≠ some id) :
    denialLines id (log ++ [l]) = denialLines id log := by
  simp [denialLines, h]

theorem denialLines_concat {l : LogLine} {log : List LogLine} (h : l.denied? = some id) :
    denialLines id (log ++ [l]) = denialLines id log ++ [l] := by
  simp [denialLines, h]

theorem abandonments_concat_of_ne {l : LogLine} {log : List LogLine} (h : l.denied? ≠ some id) :
    abandonments id (log ++ [l]) = abandonments id log := by
  simp [abandonments, LogLine.abandons?_of_denied?_ne h]

/-! ## §2. The tally. -/

/-- **Refused openings and their lines agree**: one line for each, first those of
accesses, then those that give the region up. -/
def Tallied (v : View) (id : RegionId) (m : Machine) : Prop :=
  ∃ n, v.denials id m.trace = n + (abandonments id m.log).length ∧
    denialLines id m.log =
      List.replicate n (.grantRefused id) ++ (abandonments id m.log).map (.abandoned id)

namespace Tallied

theorem start (v : View) (id : RegionId) : Tallied v id {} :=
  ⟨0, rfl, rfl⟩

/-- What is about no refused opening of the region does not change its tally. -/
theorem of_eq (h : Tallied v id m) (hcount : v.denials id m'.trace = v.denials id m.trace)
    (hlines : denialLines id m'.log = denialLines id m.log)
    (hgiven : abandonments id m'.log = abandonments id m.log) : Tallied v id m' := by
  unfold Tallied
  rw [hcount, hlines, hgiven]
  exact h

/-- One more refused access, while the region is not given up. -/
theorem grantRefused (h : Tallied v id m) (hkept : abandonments id m.log = [])
    (hcount : v.denials id m'.trace = v.denials id m.trace + 1)
    (hlog : m'.log = m.log ++ [.grantRefused id]) : Tallied v id m' := by
  obtain ⟨n, hn, hlines⟩ := h
  rw [hkept] at hn hlines
  have hkept' : abandonments id m'.log = [] := by
    rw [hlog, ← hkept]
    simp [abandonments, LogLine.abandons?]
  have hlines' : denialLines id m'.log = denialLines id m.log ++ [.grantRefused id] := by
    rw [hlog]
    exact denialLines_concat rfl
  refine ⟨n + 1, ?_, ?_⟩
  · rw [hcount, hn, hkept']
    rfl
  · rw [hlines', hlines, hkept', List.replicate_succ']
    simp

/-- One more opening that was refused for good. -/
theorem abandoned (h : Tallied v id m)
    (hcount : v.denials id m'.trace = v.denials id m.trace + 1)
    (hlog : m'.log = m.log ++ [.abandoned id L]) : Tallied v id m' := by
  obtain ⟨n, hn, hlines⟩ := h
  have hgiven : abandonments id m'.log = abandonments id m.log ++ [L] := by
    rw [hlog]
    simp [abandonments, LogLine.abandons?]
  have hlines' : denialLines id m'.log = denialLines id m.log ++ [.abandoned id L] := by
    rw [hlog]
    exact denialLines_concat rfl
  refine ⟨n, ?_, ?_⟩
  · rw [hcount, hn, hgiven, List.length_append, List.length_singleton, Nat.add_assoc]
  · rw [hlines', hlines, hgiven, List.map_append, List.append_assoc]
    rfl

end Tallied

end Tally

/-- **The books of a run**: every tally agrees, and what buffers hold is not given up. -/
structure Booked (v : View) (hs : List Holding) (m : Machine) : Prop where
  tallied : ∀ id, Tallied v id m
  kept : ∀ h ∈ hs, abandonments h.region m.log = []

/-! ## §3. Steps that are about no refused opening. -/

namespace Booked

variable {hs : List Holding}

theorem of_eq (h : Booked v hs m) (ht : m'.trace = m.trace) (hl : m'.log = m.log) :
    Booked v hs m' where
  tallied id := (h.tallied id).of_eq (by rw [ht]) (by rw [hl]) (by rw [hl])
  kept g hg := by
    rw [hl]
    exact h.kept g hg

theorem record {e : Event} (he : e.denied? = none) (met : Memory) :
    Preserves (Booked v hs) (Machine.recordAt met e) := by
  intro m h
  have hne := Option.eq_none_iff_forall_ne_some.1 he
  exact ⟨fun id => (h.tallied id).of_eq (View.denials_concat_of_ne fun _ => hne id) rfl rfl, h.kept⟩

theorem note {l : LogLine} (hl : l.denied? = none) : Preserves (Booked v hs) (Machine.note l) := by
  intro m h
  have hne := Option.eq_none_iff_forall_ne_some.1 hl
  refine ⟨fun id => (h.tallied id).of_eq rfl (denialLines_concat_of_ne (hne id))
    (abandonments_concat_of_ne (hne id)), fun g hg => ?_⟩
  exact (abandonments_concat_of_ne (hne g.region)).trans (h.kept g hg)

theorem keptOn (v : View) (hs : List Holding) (j : RegionId) : KeptOn (Booked v hs) j where
  draw _ _ h := h.of_eq rfl rfl
  record _ he := record he
  note _ hl := note hl
  update _ _ h := h.of_eq rfl rfl

theorem keptByMaking (v : View) (hs : List Holding) : KeptByMaking (Booked v hs) where
  draw _ _ h := h.of_eq rfl rfl
  record he := record (Event.denied?_eq_none he)
  note hl := note (LogLine.denied?_eq_none hl)
  fresh _ _ := keptOn v hs _
  grow _ _ h := h.of_eq rfl rfl

end Booked

/-! ## §4. Refused openings. -/

/-- Opening pages sets their protection. -/
theorem View.protecting_readWrite (v : View) (id : RegionId) (L : UInt64) (out : Verdict) :
    v.protecting id L .readWrite out = v.opening id L out := by
  cases v <;> rfl

/-- An opening that is shown counts where it is refused. -/
theorem View.denials_opening (v : View) (id j : RegionId) (L : UInt64) (out : Verdict)
    (met : Memory) :
    v.denials id [⟨met, v.opening j L out⟩] = if out = .refused ∧ j = id then 1 else 0 := by
  rw [denials_singleton]
  cases v <;> cases out <;>
    simp [opening, shows, Event.text?, Event.denied?, Span.front]

theorem View.denied?_opening (v : View) (id : RegionId) (L : UInt64) :
    (v.opening id L .refused).denied? = some id := by
  cases v <;> rfl

/-- Events that are not shown do not count. -/
theorem View.denials_of_unseen {t : List Moment} (h : ∀ x ∈ t, v.shows x.event = false)
    (id : RegionId) : v.denials id t = 0 := by
  refine List.countP_eq_zero.2 fun x hx => ?_
  rw [h x hx]
  exact Bool.false_ne_true

namespace BufferScript

variable {hs : List Holding} (kind : PlatformKind) (page : UInt64)

/-- A granted opening changes no tally, and a refused one counts for its region. -/
theorem open_denials (j : RegionId) (L : UInt64) (m : Machine) :
    ∃ out m₁, ((kind.platform page).protect (.front j L) .readWrite).run m = (out, m₁) ∧
      m₁.log = m.log ∧ ∀ id, kind.view.denials id m₁.trace =
        kind.view.denials id m.trace + if out = .refused ∧ j = id then 1 else 0 := by
  obtain ⟨out, m₁, unseen, met, hrun, hlog, htrace, hunseen⟩ :=
    protect_showsAs kind page j L .readWrite m
  refine ⟨out, m₁, hrun, hlog, fun id => ?_⟩
  rw [htrace, View.denials_append, View.denials_append, View.denials_of_unseen hunseen,
    View.protecting_readWrite, View.denials_opening, Nat.zero_add]

end BufferScript

namespace Booked

variable {hs : List Holding}

/-- **An opening with its line is booked**, if the line of a refusal is. -/
theorem announced (kind : BufferScript.PlatformKind) (page : UInt64) {l : LogLine}
    (hl : l.denied? = some j)
    (hrefused : ∀ m m', Booked kind.view hs m →
      kind.view.denials j m'.trace = kind.view.denials j m.trace + 1 → m'.log = m.log ++ [l] →
      Tallied kind.view j m' ∧ ∀ h ∈ hs, h.region = j → abandonments j m'.log = []) :
    Preserves (Booked kind.view hs)
      (announced ((kind.platform page).protect (.front j L) .readWrite) l) := by
  intro m hB
  obtain ⟨out, m₁, hrun, hlog, hdenials⟩ := BufferScript.open_denials kind page j L m
  rw [run_announced, hrun]
  cases out with
  | granted =>
      refine ⟨fun id => (hB.tallied id).of_eq ?_ (by rw [hlog]) (by rw [hlog]), fun h hh => ?_⟩
      · rw [hdenials, if_neg (by simp)]
        rfl
      · rw [hlog]
        exact hB.kept h hh
  | refused =>
      have hother : ∀ id, j ≠ id → l.denied? ≠ some id := fun id hne e =>
        hne (Option.some.inj (hl.symm.trans e))
      have hmine := hrefused m { m₁ with log := m₁.log ++ [l] } hB
        (by rw [hdenials, if_pos ⟨rfl, rfl⟩]) (by rw [hlog])
      refine ⟨fun id => ?_, fun h hh => ?_⟩
      · by_cases hid : j = id
        · subst hid
          exact hmine.1
        · refine (hB.tallied id).of_eq ?_ ?_ ?_
          · rw [hdenials, if_neg fun hboth => hid hboth.2]
            rfl
          · rw [hlog]
            exact denialLines_concat_of_ne (hother id hid)
          · rw [hlog]
            exact abandonments_concat_of_ne (hother id hid)
      · by_cases hid : j = h.region
        · rw [← hid]
          exact hmine.2 h hh hid.symm
        · rw [hlog]
          exact (abandonments_concat_of_ne (hother h.region hid)).trans (hB.kept h hh)

/-- **A refused access** of a region that is held. -/
theorem grant (kind : BufferScript.PlatformKind) (page : UInt64) {h : Holding} (hh : h ∈ hs)
    (L : UInt64) :
    Preserves (Booked kind.view hs)
      (SealedPages.announced ((kind.platform page).protect (.front h.region L) .readWrite)
        (.grantRefused h.region)) :=
  announced kind page rfl fun _ _ hB hcount hlog => by
    have hkept := hB.kept h hh
    refine ⟨(hB.tallied h.region).grantRefused hkept hcount hlog, fun _ _ _ => ?_⟩
    rw [hlog, ← hkept]
    simp [abandonments, LogLine.abandons?]

/-- **A destruction that is refused**, where nothing else is asked of the region. -/
theorem reopen (kind : BufferScript.PlatformKind) (page : UInt64) (j : RegionId) (L : UInt64) :
    Preserves (Booked kind.view [])
      (SealedPages.announced ((kind.platform page).protect (.front j L) .readWrite)
        (.abandoned j L)) :=
  announced kind page rfl fun _ _ hB hcount hlog =>
    ⟨(hB.tallied j).abandoned hcount hlog, fun _ hh => by cases hh⟩

variable (kind : BufferScript.PlatformKind) (page : UInt64)

theorem accessing {h : Holding} (hh : h ∈ hs) :
    Accessing (Diagonal (Booked kind.view hs)) id Eq (kind.platform page) (kind.platform page)
      h.region :=
  have hkept := keptOn kind.view hs h.region
  hkept.primitives.accessing (hkept.primitives.services_of_kind kind page)
    (fun L => (grant kind page hh L).coupled) (fun n _ _ => hkept.copyIn n) hkept.copyOut

theorem disposing (j : RegionId) :
    Disposing (Diagonal (Booked kind.view [])) id (kind.platform page) (kind.platform page) j :=
  have hkept := keptOn kind.view [] j
  hkept.primitives.disposing (hkept.primitives.services_of_kind kind page)
    fun L => (reopen kind page j L).coupled

theorem creating (v : View) : Creating (Diagonal (Booked v [])) id (kind.platform page)
    (kind.platform page) :=
  (keptByMaking v []).originates.creating_of_kind kind page

end Booked

/-! ## §5. Steps. -/

/-- What buffers hold is not given up. -/
theorem Custody.booked {hs : List Holding} (c : Custody v hs m) (hT : ∀ id, Tallied v id m) :
    Booked v hs m :=
  ⟨hT, fun h hh => (c.held h hh).kept⟩

/-- The tallies alone, where no buffer is looked at. -/
theorem booked_nil (hT : ∀ id, Tallied v id m) : Booked v [] m :=
  ⟨hT, fun _ hh => by cases hh⟩

/-- What a slot holds is held by the slots. -/
theorem Slots.mem_holdings_of_mem_heldBy {s : Slots SealedBuffer} {k : Nat} {h : Holding}
    (hh : h ∈ heldBy (s.get? k)) : h ∈ s.holdings :=
  (s.holdings_perm k).mem_iff.2 (List.mem_append_left _ hh)

namespace BufferScript

/-- **Every step of a script of buffers keeps the tallies.** -/
theorem act_tallied (kind : PlatformKind) {s : Session} (k : Nat) (a : Action)
    (c : Custody kind.view s.slots.holdings m) (hT : ∀ id, Tallied kind.view id m) :
    ∀ id, Tallied kind.view id ((act kind s k a).run m).2 := by
  have hslot := (SealedBuffer.map_rename_id (s.slots.get? k)).symm
  -- an access asks that its region is not given up, and nothing else gives up a region
  have haccess : ∀ u : Use, (∀ h ∈ heldBy (s.slots.get? k),
      u.Needs (Diagonal (Booked kind.view s.slots.holdings)) id Eq (kind.platform s.page)
        (kind.platform s.page) h.region) →
      ∀ id, Tallied kind.view id ((act kind s k (.use u)).run m).2 := fun u hneeds =>
    ((useSlot_coupled likeness_eq (.same u) hslot hneeds).preserves m (c.booked hT)).tallied
  have hother : ∀ u : Use, (∀ h ∈ heldBy (s.slots.get? k),
      u.Needs (Diagonal (Booked kind.view [])) id Eq (kind.platform s.page)
        (kind.platform s.page) h.region) →
      ∀ id, Tallied kind.view id ((act kind s k (.use u)).run m).2 := fun u hneeds =>
    ((useSlot_coupled likeness_eq (.same u) hslot hneeds).preserves m (booked_nil hT)).tallied
  have hheld : ∀ h ∈ heldBy (s.slots.get? k), h ∈ s.slots.holdings := fun _ =>
    Slots.mem_holdings_of_mem_heldBy
  cases a with
  | create size =>
      have h := create_coupled (Booked.creating kind s.page kind.view) size hslot
        fun h _ => Booked.disposing kind s.page h.region
      exact (h.preserves m (booked_nil hT)).tallied
  | use u =>
      cases u with
      | write data => exact haccess _ fun h hh => Booked.accessing kind s.page (hheld h hh)
      | readInto len fill => exact haccess _ fun h hh => Booked.accessing kind s.page (hheld h hh)
      | read len => exact haccess _ fun h hh => Booked.accessing kind s.page (hheld h hh)
      | destroy => exact hother _ fun h _ => Booked.disposing kind s.page h.region
      | letGo => exact hother _ fun h _ => Booked.disposing kind s.page h.region
      | info => exact hother _ fun _ _ => trivial
      | describe long => exact hother _ fun _ _ => trivial
  | setPageSize value => exact hT
  | fault target places => exact fun id => (hT id).of_eq rfl rfl rfl
  | peek region first len => exact hT

/-- The tallies agree after everything was let go of. -/
theorem giveUp_tallied (kind : PlatformKind) (s : Session) (hT : ∀ id, Tallied kind.view id m) :
    ∀ id, Tallied kind.view id ((giveUp kind s).run m).2 :=
  ((letGoAll_coupled s.slots.values fun _ _ h _ =>
    Booked.disposing kind s.page h.region).preserves m (booked_nil hT)).tallied

end BufferScript

namespace HandleScript

/-- **Every step of a script of handles keeps the tallies.** -/
theorem act_tallied {vars : Variables} (step : Step)
    (c : Custody .systemCalls (Slots.holdings vars) m) (hT : ∀ id, Tallied .systemCalls id m) :
    ∀ id, Tallied .systemCalls id ((act vars step).run m).2 := by
  have haccess : ∀ step : Step,
      step.Needs (Diagonal (Booked .systemCalls (Slots.holdings vars))) Eq vars →
      ∀ id, Tallied .systemCalls id ((act vars step).run m).2 := fun step hneeds =>
    ((act_coupled likeness_eq (.same step) hneeds).preserves m (c.booked hT)).tallied
  have hother : ∀ step : Step, step.Needs (Diagonal (Booked .systemCalls [])) Eq vars →
      ∀ id, Tallied .systemCalls id ((act vars step).run m).2 := fun step hneeds =>
    ((act_coupled likeness_eq (.same step) hneeds).preserves m (booked_nil hT)).tallied
  have hheld : ∀ passed, ∀ h ∈ heldBy (lookUp vars passed), h ∈ Slots.holdings vars :=
    fun passed h hh => by
      cases passed with
      | none => cases hh
      | some k => exact Slots.mem_holdings_of_mem_heldBy hh
  -- handles are on the platform of the operating system
  have hdisposing := Booked.disposing .system 0
  cases step with
  | create slot size =>
      exact hother _ ⟨Booked.creating .system 0 _,
        fun _ _ => (Booked.note rfl).coupled, fun h _ => hdisposing h.region⟩
  | store passed data len =>
      exact haccess _ fun h hh => Booked.accessing .system 0 (hheld passed h hh)
  | retrieve passed len room fill =>
      exact haccess _ fun h hh => Booked.accessing .system 0 (hheld passed h hh)
  | destroy passed => exact hother _ fun h _ => hdisposing h.region
  | clear address => exact hother _ fun h _ => hdisposing h.region
  | getSize passed => exact hT
  | version => exact hT
  | codeText code => exact hT
  | fault target places => exact fun id => (hT id).of_eq rfl rfl rfl
  | peek region first len => exact hT

/-- The tallies agree after everything was destroyed. -/
theorem giveUp_tallied (vars : Variables) (hT : ∀ id, Tallied .systemCalls id m) :
    ∀ id, Tallied .systemCalls id ((giveUp vars).run m).2 :=
  ((destroyAll_coupled vars.values fun _ _ h _ =>
    Booked.disposing .system 0 h.region).preserves m (booked_nil hT)).tallied

end HandleScript

/-! ## §6. Whole runs. -/

namespace Scenario

/-- **After any steps every refused opening has its line.** -/
theorem tallied (σ : Scenario) : ∀ id, Tallied σ.view id σ.machine := by
  cases σ with
  | buffers kind page steps =>
      have hkeeps := (BufferScript.keeps_custody kind).and
        (P := fun m => ∀ id, Tallied kind.view id m)
        fun _ step _ c hT => BufferScript.act_tallied kind step.slot step.action c hT
      exact (Script.play_of_keeps hkeeps steps ⟨{ page }, {}⟩
        ⟨.start _, Tallied.start _⟩).1.2
  | handles steps =>
      have hkeeps := HandleScript.keeps_custody.and (P := fun m => ∀ id, Tallied .systemCalls id m)
        fun _ step _ c hT => HandleScript.act_tallied step c hT
      exact (Script.play_of_keeps hkeeps steps ⟨.empty, {}⟩ ⟨.start _, Tallied.start _⟩).1.2

/-- **And so it has after the end.** -/
theorem tallied_last (σ : Scenario) : ∀ id, Tallied σ.view id σ.last := by
  have hT := σ.tallied
  cases σ with
  | buffers kind page steps => exact BufferScript.giveUp_tallied kind _ hT
  | handles steps => exact HandleScript.giveUp_tallied _ hT

end Scenario

end SealedPages
