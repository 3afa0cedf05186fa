/-
  SealedPages.Proofs.Stretch
  ──────────────────────────
  **A STRETCH OF A RUN THAT IS ABOUT ONE REGION.**  Every operation works on the
  pages of one region.  `Stretch v j l m m'` says what a run from `m` to `m'` that
  works on region `j` does and does not do:

    * the calls on `j` that it makes, as the view `v` shows them, are a word of `l`;
    * it names no other region and changes no other region;
    * each of its moments is sound: what is touched is open, what is pinned,
      unpinned or handed back is zero, and secrets of `j` lie in pinned pages;
    * the warden reads it to its end;
    * it gives no region up.

  Stretches compose, and so do their languages.  A run that is about no region at
  all is `Idle`.

  Main statements:
    * `Stretch.trans`  — one stretch after another, with the product of languages;
    * `Stretch.story_of_ne` — the story of every other region stays as it was;
    * `Stretch.single` — one event is a stretch.
-/
import SealedPages.Machine
import SealedPages.Proofs.Lifecycle
import SealedPages.Proofs.Warden

namespace SealedPages

/-! ## §1. The story of a region. -/

/-- The length with which a log line gives a region up. -/
def LogLine.abandons? (id : RegionId) : LogLine → Option UInt64
  | abandoned region capacity => if region = id then some capacity else none
  | _ => none

/-- The lengths with which a log gives a region up. -/
def abandonments (id : RegionId) (log : List LogLine) : List UInt64 :=
  log.filterMap (·.abandons? id)

/-- Log lines that give no region up. -/
def Quiet (lines : List LogLine) : Prop :=
  ∀ line ∈ lines, ∀ id, line.abandons? id = none

theorem abandonments_append_of_quiet {lines : List LogLine} (h : Quiet lines) (id : RegionId)
    (log : List LogLine) : abandonments id (log ++ lines) = abandonments id log := by
  have hnil : lines.filterMap (·.abandons? id) = [] :=
    List.filterMap_eq_nil_iff.2 fun line hline => h line hline id
  unfold abandonments
  rw [List.filterMap_append, hnil, List.append_nil]

theorem Quiet.append {xs ys : List LogLine} (hx : Quiet xs) (hy : Quiet ys) : Quiet (xs ++ ys) := by
  intro line h
  rcases List.mem_append.1 h with h | h
  · exact hx line h
  · exact hy line h

theorem quiet_nil : Quiet [] := by
  intro line h
  cases h

theorem quiet_singleton {line : LogLine} (h : ∀ id, line.abandons? id = none) : Quiet [line] := by
  intro line' h'
  rw [List.mem_singleton.1 h']
  exact h

/-- What concerns one region: its state, the events that name it, and the log lines that
give it up. -/
structure Story where
  region : Option Region
  events : List Event
  abandoned : List UInt64

/-- The story of a region so far. -/
def Machine.story (m : Machine) (id : RegionId) : Story :=
  ⟨m.memory.find? id, eventsOn id m.trace, abandonments id m.log⟩

/-! ## §2. Sound moments. -/

/-- The bytes that an event touches; handing a region back touches none, but needs
the region to be open. -/
def Event.touched? : Event → Option Span
  | .touch t => some t.span
  | .system (.free id _) => some (.front id 0)
  | .service (.wipe s) => some s
  | .service (.release s _) => some s
  | _ => none

/-- The region that must be zero when an event meets it. -/
def Event.cleared? : Event → Option RegionId
  | .system (.mlock s _) => some s.region
  | .system (.munlock s _) => some s.region
  | .system (.madvise s .doDump _) => some s.region
  | .system (.free id _) => some id
  | .service (.lock s _) => some s.region
  | .service (.unlock s _) => some s.region
  | .service (.release s _) => some s.region
  | _ => none

/-- The number of nonzero bytes that an event reports. -/
def Event.residue? : Event → Option Nat
  | .system (.free _ k) => some k
  | .service (.release _ k) => some k
  | _ => none

/-- Whether an event pins pages. -/
def Event.pins : Event → Bool
  | .system (.mlock _ .granted) => true
  | .service (.lock _ .granted) => true
  | _ => false

/-- Whether an event lets pages go: it unpins them, or takes back the advice to leave
them out of core dumps. -/
def Event.unpins : Event → Bool
  | .system (.munlock _ _) => true
  | .system (.madvise _ .doDump _) => true
  | .service (.unlock _ _) => true
  | _ => false

/-- Words that let no pages go. -/
def keeping : Language Event :=
  {word | ∀ e ∈ word, e.unpins = false}

theorem one_le_keeping : 1 ≤ keeping := by
  intro word hword e he
  -- the only word of `1` is empty
  rw [show word = [] from hword] at he
  cases he

/-- Whether an event is a wipe of bytes. -/
def Event.wipes : Event → Bool
  | .touch (.wipe _) => true
  | _ => false

/-- A region of zeros. -/
def Region.IsZero (r : Region) : Prop :=
  ∀ b ∈ r.bytes, b = 0

/-- No byte of a region of zeros is counted. -/
theorem Region.IsZero.nonzero {r : Region} {mem : Memory} {id : RegionId} (hz : r.IsZero)
    (hr : mem.find? id = some r) : mem.nonzero id = 0 := by
  unfold Memory.nonzero
  rw [hr]
  exact List.countP_eq_zero.2 fun b hb => by simp [hz b hb]

/-- Every byte that an event touches lies in a live and open region. -/
def Moment.Permitted (x : Moment) : Prop :=
  ∀ s, x.event.touched? = some s →
    ∃ r, x.memory.live? s.region = some r ∧ r.protection = .readWrite ∧
      s.off.toNat + s.len.toNat ≤ r.bytes.length

/-- Pages are zero where an event pins, unpins or hands them back. -/
def Moment.Clean (x : Moment) : Prop :=
  (∀ id, x.event.cleared? = some id → ∃ r, x.memory.find? id = some r ∧ r.IsZero) ∧
    ∀ k, x.event.residue? = some k → k = 0

/-- Pages were pinned, as far as the view shows, and not let go of since. -/
def View.Pinned (v : View) (events : List Event) : Prop :=
  (∃ e ∈ events, v.shows e = true ∧ e.pins = true) ∧
    ∀ e ∈ events, v.shows e = true → e.unpins = false

/-- Once a region was wiped, what it holds apart from zeros is pinned. -/
def View.Sheltered (v : View) (events : List Event) (region : Option Region) : Prop :=
  (∃ e ∈ events, e.wipes = true) → ∀ r, region = some r → r.IsZero ∨ v.Pinned events

/-- A moment of a run on region `j` that came after `past`. -/
def Moment.Sound (v : View) (j : RegionId) (past : List Moment) (x : Moment) : Prop :=
  x.Permitted ∧ x.Clean ∧ v.Sheltered (eventsOn j past) (x.memory.find? j)

/-! ## §3. A property of every moment and its past. -/

/-- Each of the moments has the property `P` together with all that came before it. -/
def Throughout (P : List Moment → Moment → Prop) (past : List Moment) : List Moment → Prop
  | [] => True
  | x :: rest => P past x ∧ Throughout P (past ++ [x]) rest

theorem throughout_append {P : List Moment → Moment → Prop} {past xs ys : List Moment} :
    Throughout P past (xs ++ ys) ↔ Throughout P past xs ∧ Throughout P (past ++ xs) ys := by
  induction xs generalizing past with
  | nil => simp [Throughout]
  | cons x xs ih =>
      show P past x ∧ Throughout P (past ++ [x]) (xs ++ ys) ↔ _
      rw [ih, Throughout, List.append_assoc, and_assoc]
      rfl

/-- The property, moment by moment. -/
theorem throughout_iff {P : List Moment → Moment → Prop} {past xs : List Moment} :
    Throughout P past xs ↔ ∀ pre x post, xs = pre ++ x :: post → P (past ++ pre) x := by
  constructor
  · intro h pre x post e
    subst e
    exact (throughout_append.1 h).2.1
  · intro h
    induction xs generalizing past with
    | nil => exact trivial
    | cons x xs ih =>
        -- `x` joins the past of the moments after it
        have hx := h [] x xs rfl
        rw [List.append_nil] at hx
        refine ⟨hx, ih fun pre y post e => ?_⟩
        have hy := h (x :: pre) y post (by rw [e]; rfl)
        rwa [List.append_cons] at hy

/-! ## §4. Stretches. -/

/-- The moments `new` of a stretch on region `j`, which started on `m`. -/
structure Moments (v : View) (j : RegionId) (l : Language Event) (m m' : Machine)
    (new : List Moment) : Prop where
  trace : m'.trace = m.trace ++ new
  elsewhere : ∀ x ∈ new, ∀ id ≠ j,
    x.event.region? ≠ some id ∧ x.memory.find? id = m.memory.find? id
  calls : v.callsOn j new ∈ l
  sound : Throughout (Moment.Sound v j) m.trace new
  watched : m.memory.areas.watch new = some m'.memory.areas

/-- **A run from `m` to `m'` that works on region `j`.** -/
structure Stretch (v : View) (j : RegionId) (l : Language Event) (m m' : Machine) : Prop where
  moments : ∃ new, Moments v j l m m' new
  memory : ∀ id ≠ j, m'.memory.find? id = m.memory.find? id
  log : ∃ lines, m'.log = m.log ++ lines ∧ Quiet lines

namespace Stretch

variable {v : View} {j : RegionId} {l l' : Language Event} {m m₁ m' : Machine}

/-- Where only faults are used up, nothing happens. -/
theorem of_eq (hm : m'.memory = m.memory) (ht : m'.trace = m.trace) (hl : m'.log = m.log) :
    Stretch v j 1 m m' where
  moments := ⟨[], by rw [ht, List.append_nil], by simp, rfl, trivial, by rw [hm]; rfl⟩
  memory := fun id _ => by rw [hm]
  log := ⟨[], by rw [hl, List.append_nil], quiet_nil⟩

/-- **One stretch after another.** -/
theorem trans (a : Stretch v j l m m₁) (b : Stretch v j l' m₁ m') :
    Stretch v j (l * l') m m' := by
  obtain ⟨xs, hx⟩ := a.moments
  obtain ⟨ys, hy⟩ := b.moments
  obtain ⟨as, ha, hna⟩ := a.log
  obtain ⟨bs, hb, hnb⟩ := b.log
  refine ⟨⟨xs ++ ys, ?_, ?_, ?_, ?_, ?_⟩, ?_, ⟨as ++ bs, ?_, hna.append hnb⟩⟩
  · -- one record after the other
    rw [hy.trace, hx.trace, List.append_assoc]
  · intro x hmem id hid
    rcases List.mem_append.1 hmem with h | h
    · exact hx.elsewhere x h id hid
    · obtain ⟨hr, hf⟩ := hy.elsewhere x h id hid
      exact ⟨hr, hf.trans (a.memory id hid)⟩
  · -- the calls of the first part come before those of the second
    rw [View.callsOn_append]
    exact Language.append_mem_mul hx.calls hy.calls
  · -- the second part has the first one in its past
    have hsound := hy.sound
    rw [hx.trace] at hsound
    exact throughout_append.2 ⟨hx.sound, hsound⟩
  · rw [Warden.watch_append, hx.watched]
    exact hy.watched
  · intro id hid
    exact (b.memory id hid).trans (a.memory id hid)
  · rw [hb, ha, List.append_assoc]

/-- A stretch with a part after it that goes unseen. -/
theorem trans_unseen (a : Stretch v j l m m₁) (b : Stretch v j 1 m₁ m') : Stretch v j l m m' := by
  have h := a.trans b
  rwa [mul_one] at h

/-- A stretch with a part before it that goes unseen. -/
theorem unseen_trans (a : Stretch v j 1 m m₁) (b : Stretch v j l m₁ m') : Stretch v j l m m' := by
  have h := a.trans b
  rwa [one_mul] at h

/-- A stretch in a larger language. -/
theorem mono (h : l ≤ l') (a : Stretch v j l m m') : Stretch v j l' m m' := by
  obtain ⟨xs, hx⟩ := a.moments
  exact ⟨⟨xs, hx.trace, hx.elsewhere, h hx.calls, hx.sound, hx.watched⟩, a.memory, a.log⟩

/-- The record only grows. -/
theorem grows (a : Stretch v j l m m') : m.Grows m' := by
  obtain ⟨new, hn⟩ := a.moments
  obtain ⟨lines, hl, _⟩ := a.log
  exact ⟨⟨new, hn.trace.symm⟩, ⟨lines, hl.symm⟩⟩

/-- **The story of another region stays as it was.** -/
theorem story_of_ne (a : Stretch v j l m m') {id : RegionId} (hid : id ≠ j) :
    m'.story id = m.story id := by
  obtain ⟨new, hn⟩ := a.moments
  obtain ⟨lines, hl, hq⟩ := a.log
  have hnil : eventsOn id new = [] :=
    eventsOn_eq_nil fun x hx => (hn.elsewhere x hx id hid).1
  unfold Machine.story
  rw [a.memory id hid, hn.trace, eventsOn_append, hnil, List.append_nil, hl,
    abandonments_append_of_quiet hq]

/-- A stretch gives no region up. -/
theorem abandoned_eq (a : Stretch v j l m m') (id : RegionId) :
    (m'.story id).abandoned = (m.story id).abandoned := by
  obtain ⟨lines, hl, hq⟩ := a.log
  show abandonments id m'.log = _
  rw [hl, abandonments_append_of_quiet hq]
  rfl

/-- The calls of a stretch come after those that were made before. -/
theorem calls_mem (a : Stretch v j l m m') {past : Language Event}
    (h : v.callsOn j m.trace ∈ past) : v.callsOn j m'.trace ∈ past * l := by
  obtain ⟨new, hn⟩ := a.moments
  rw [hn.trace, View.callsOn_append]
  exact Language.append_mem_mul h hn.calls

/-- Pages that are pinned stay so through calls that let nothing go. -/
theorem pinned (a : Stretch v j l m m') (hl : l ≤ keeping)
    (h : v.Pinned (m.story j).events) : v.Pinned (m'.story j).events := by
  obtain ⟨new, hn⟩ := a.moments
  obtain ⟨⟨e, he, hpin⟩, hkept⟩ := h
  have hev : (m'.story j).events = (m.story j).events ++ eventsOn j new := by
    show eventsOn j m'.trace = _
    rw [hn.trace, eventsOn_append]
    rfl
  -- the pin lies in the past, and what came since lets nothing go
  rw [hev]
  refine ⟨⟨e, List.mem_append_left _ he, hpin⟩, fun e' he' hshown => ?_⟩
  rcases List.mem_append.1 he' with h | h
  · exact hkept e' h hshown
  · exact hl hn.calls e' (List.mem_filter.2 ⟨h, hshown⟩)

/-- A single event on region `j`, which met the memory `met`. -/
theorem single {e : Event} {met : Memory} (he : e.region? = some j)
    (ht : m'.trace = m.trace ++ [⟨met, e⟩]) (hlog : m'.log = m.log)
    (hmet : ∀ id ≠ j, met.find? id = m.memory.find? id)
    (hmem : ∀ id ≠ j, m'.memory.find? id = m.memory.find? id)
    (hcalls : [e].filter v.shows ∈ l) (hsound : Moment.Sound v j m.trace ⟨met, e⟩)
    (hwatch : m.memory.areas.step e = some m'.memory.areas) : Stretch v j l m m' where
  moments := by
    have hword : v.callsOn j [⟨met, e⟩] = [e].filter v.shows := by
      simp [View.callsOn, eventsOn, he]
    refine ⟨[⟨met, e⟩], ht, ?_, hword ▸ hcalls, ⟨hsound, trivial⟩, ?_⟩
    · intro x hx id hid
      rw [List.mem_singleton.1 hx]
      exact ⟨fun h => hid (Option.some.inj (h.symm.trans he)), hmet id hid⟩
    · show (m.memory.areas.step e).bind _ = _
      rw [hwatch]
      rfl
  memory := hmem
  log := ⟨[], by rw [hlog, List.append_nil], quiet_nil⟩

/-- A stretch after which a log line is written that gives no region up. -/
theorem noted (a : Stretch v j l m m') (line : LogLine) (h : ∀ id, line.abandons? id = none) :
    Stretch v j l m { m' with log := m'.log ++ [line] } := by
  obtain ⟨new, hn⟩ := a.moments
  obtain ⟨lines, hl, hq⟩ := a.log
  refine ⟨⟨new, hn.trace, hn.elsewhere, hn.calls, hn.sound, hn.watched⟩, a.memory,
    ⟨lines ++ [line], ?_, hq.append (quiet_singleton h)⟩⟩
  show m'.log ++ [line] = _
  rw [hl, List.append_assoc]

end Stretch

/-! ## §5. When a moment is sound. -/

section Sound

variable {v : View} {j : RegionId} {past : List Moment} {mem : Memory} {e : Event} {r : Region}

/-- Zeros need no shelter. -/
theorem View.Sheltered.of_isZero {events : List Event} (h : r.IsZero) :
    v.Sheltered events (some r) :=
  fun _ _ hr => Or.inl (Option.some.inj hr ▸ h)

/-- Pinned pages are a shelter. -/
theorem View.Sheltered.of_pinned {events : List Event} {region : Option Region}
    (h : v.Pinned events) : v.Sheltered events region :=
  fun _ _ _ => Or.inr h

/-- Pages that were never wiped hold no secret yet. -/
theorem View.Sheltered.of_not_wiped {events : List Event} {region : Option Region}
    (h : ∀ e ∈ events, e.wipes = false) : v.Sheltered events region :=
  fun ⟨e, he, hw⟩ => by
    rw [h e he] at hw
    cases hw

/-- A shelter lasts through events that neither wipe nor let go. -/
theorem View.Sheltered.append {events more : List Event} {region : Option Region}
    (h : v.Sheltered events region)
    (hmore : ∀ e ∈ more, e.wipes = false ∧ (v.shows e = true → e.unpins = false)) :
    v.Sheltered (events ++ more) region := by
  intro hwiped r hr
  obtain ⟨e, he, hw⟩ := hwiped
  -- none of the later events is a wipe, so the wipe is an earlier one
  have hold : e ∈ events := by
    rcases List.mem_append.1 he with h' | h'
    · exact h'
    · rw [(hmore e h').1] at hw
      cases hw
  refine (h ⟨e, hold, hw⟩ r hr).imp_right fun ⟨⟨p, hp, hpin⟩, hkept⟩ =>
    ⟨⟨p, List.mem_append_left _ hp, hpin⟩, fun e' he' hshown => ?_⟩
  rcases List.mem_append.1 he' with h' | h'
  · exact hkept e' h' hshown
  · exact (hmore e' h').2 hshown

/-- Where there is no region there is nothing to shelter. -/
theorem View.Sheltered.of_none {events : List Event} : v.Sheltered events none := by
  intro _ r hr
  cases hr

/-- An event that touches nothing and needs no zeros. -/
theorem Moment.sound_of_idle (hs : v.Sheltered (eventsOn j past) (mem.find? j))
    (ht : e.touched? = none) (hc : e.cleared? = none) (hk : e.residue? = none) :
    Moment.Sound v j past ⟨mem, e⟩ := by
  refine ⟨?_, ⟨?_, ?_⟩, hs⟩
  · intro s h
    cases ht.symm.trans h
  · intro id h
    cases hc.symm.trans h
  · intro k h
    cases hk.symm.trans h

/-- An event that touches nothing, and needs no other zeros than those of region `j`. -/
theorem Moment.sound_of_isZero (hr : mem.find? j = some r) (hz : r.IsZero)
    (ht : e.touched? = none) (hc : ∀ id, e.cleared? = some id → id = j) (hk : e.residue? = none) :
    Moment.Sound v j past ⟨mem, e⟩ := by
  refine ⟨?_, ⟨?_, ?_⟩, hr ▸ .of_isZero hz⟩
  · intro s h
    cases ht.symm.trans h
  · intro id h
    exact ⟨r, hc id h ▸ hr, hz⟩
  · intro k h
    cases hk.symm.trans h

/-- What a live and open region permits to be touched. -/
theorem Moment.permitted_of {s : Span} (hr : mem.find? s.region = some r) (hlive : r.live = true)
    (hopen : r.protection = .readWrite) (hlen : s.off.toNat + s.len.toNat ≤ r.bytes.length)
    (ht : e.touched? = some s) : Moment.Permitted ⟨mem, e⟩ := by
  intro s' h
  cases ht.symm.trans h
  refine ⟨r, ?_, hopen, hlen⟩
  show (mem.find? s.region).filter (·.live) = some r
  rw [hr]
  exact if_pos hlive

/-- An event that touches a part of region `j` and needs no zeros. -/
theorem Moment.sound_of_touch {s : Span} (hsj : s.region = j) (hr : mem.find? j = some r)
    (hlive : r.live = true) (hopen : r.protection = .readWrite)
    (hlen : s.off.toNat + s.len.toNat ≤ r.bytes.length)
    (hs : v.Sheltered (eventsOn j past) (some r)) (ht : e.touched? = some s)
    (hc : e.cleared? = none) (hk : e.residue? = none) : Moment.Sound v j past ⟨mem, e⟩ := by
  refine ⟨permitted_of (hsj ▸ hr) hlive hopen hlen ht, ⟨?_, ?_⟩, hr ▸ hs⟩
  · intro id h
    cases hc.symm.trans h
  · intro k h
    cases hk.symm.trans h

/-- An event that hands region `j` back, which is zero to its last byte. -/
theorem Moment.sound_of_handBack {L : UInt64} (hr : mem.find? j = some r) (hlive : r.live = true)
    (hopen : r.protection = .readWrite) (hL : L.toNat ≤ r.bytes.length) (hz : r.IsZero)
    (ht : e.touched? = some (.front j L)) (hc : e.cleared? = some j)
    (hk : e.residue? = some (mem.nonzero j)) : Moment.Sound v j past ⟨mem, e⟩ := by
  have hlen : (Span.front j L).off.toNat + (Span.front j L).len.toNat ≤ r.bytes.length := by
    simpa [Span.front] using hL
  refine ⟨permitted_of hr hlive hopen hlen ht, ⟨?_, ?_⟩, hr ▸ .of_isZero hz⟩
  · intro id h
    cases hc.symm.trans h
    exact ⟨r, hr, hz⟩
  · intro k h
    cases hk.symm.trans h
    exact hz.nonzero hr

end Sound

/-! ## §6. Runs that are about no region. -/

/-- **A run that leaves the memory alone and names no region.** -/
structure Idle (m m' : Machine) : Prop where
  memory : m'.memory = m.memory
  trace : ∃ new, m'.trace = m.trace ++ new ∧
    ∀ x ∈ new, x.memory = m.memory ∧ x.event.region? = none
  log : ∃ lines, m'.log = m.log ++ lines ∧ Quiet lines

/-- An event that names no region touches nothing and needs no zeros. -/
theorem Event.idle_of_region? {e : Event} (h : e.region? = none) :
    e.touched? = none ∧ e.cleared? = none ∧ e.residue? = none ∧
      ∀ g : Warden, g.step e = some g := by
  -- only a failed allocation and a question for the page size name none
  rcases e with c | c | t
  · cases c <;> simp_all [Event.region?, SystemCall.region?, Event.touched?, Event.cleared?,
      Event.residue?, Warden.step]
  · cases c <;> simp_all [Event.region?, ServiceCall.region?, Event.touched?, Event.cleared?,
      Event.residue?, Warden.step]
  · cases h

namespace Idle

variable {m m₁ m' : Machine}

/-- Where only faults change, nothing happens. -/
theorem of_eq (hm : m'.memory = m.memory) (ht : m'.trace = m.trace) (hl : m'.log = m.log) :
    Idle m m' where
  memory := hm
  trace := ⟨[], by rw [ht, List.append_nil], by simp⟩
  log := ⟨[], by rw [hl, List.append_nil], quiet_nil⟩

theorem trans (a : Idle m m₁) (b : Idle m₁ m') : Idle m m' := by
  obtain ⟨xs, hx, hxs⟩ := a.trace
  obtain ⟨ys, hy, hys⟩ := b.trace
  obtain ⟨as, ha, hna⟩ := a.log
  obtain ⟨bs, hb, hnb⟩ := b.log
  refine ⟨b.memory.trans a.memory, ⟨xs ++ ys, ?_, ?_⟩, ⟨as ++ bs, ?_, hna.append hnb⟩⟩
  · rw [hy, hx, List.append_assoc]
  · intro x h
    rcases List.mem_append.1 h with h | h
    · exact hxs x h
    · exact ⟨(hys x h).1.trans a.memory, (hys x h).2⟩
  · rw [hb, ha, List.append_assoc]

/-- An event that names no region. -/
theorem single {e : Event} (he : e.region? = none) (hm : m'.memory = m.memory)
    (ht : m'.trace = m.trace ++ [⟨m.memory, e⟩]) (hl : m'.log = m.log) : Idle m m' where
  memory := hm
  trace := ⟨[⟨m.memory, e⟩], ht, fun x h => by rw [List.mem_singleton.1 h]; exact ⟨rfl, he⟩⟩
  log := ⟨[], by rw [hl, List.append_nil], quiet_nil⟩

/-- A log line that gives no region up. -/
theorem note (line : LogLine) (h : ∀ id, line.abandons? id = none) :
    Idle m { m with log := m.log ++ [line] } where
  memory := rfl
  trace := ⟨[], (List.append_nil _).symm, by simp⟩
  log := ⟨[line], rfl, quiet_singleton h⟩

/-- The record only grows. -/
theorem grows (a : Idle m m') : m.Grows m' := by
  obtain ⟨new, ht, _⟩ := a.trace
  obtain ⟨lines, hl, _⟩ := a.log
  exact ⟨⟨new, ht.symm⟩, ⟨lines, hl.symm⟩⟩

/-- No story goes on. -/
theorem story_eq (a : Idle m m') (id : RegionId) : m'.story id = m.story id := by
  obtain ⟨new, ht, hnew⟩ := a.trace
  obtain ⟨lines, hl, hq⟩ := a.log
  have hnil : eventsOn id new = [] :=
    eventsOn_eq_nil fun x hx h => by cases h.symm.trans (hnew x hx).2
  unfold Machine.story
  rw [a.memory, ht, eventsOn_append, hnil, List.append_nil, hl, abandonments_append_of_quiet hq]

end Idle

end SealedPages
