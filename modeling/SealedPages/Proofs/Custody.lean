/-
  SealedPages.Proofs.Custody
  ──────────────────────────
  **WHO ANSWERS FOR A REGION.**  Between two operations every region is either held
  by exactly one buffer, or loose: not made yet, handed back, or given up.
  `Custody v hs m` says this of a machine `m` and the holdings `hs` of all buffers,
  with what is true of the region in each case, and that everything up to now was
  sound.

  Operations work on one region, so they are stretches.  Here is what a stretch
  does to the custody of all regions, by what becomes of its own.

  Main statements:
    * `resting_le_pinning` — pages at rest were pinned and not let go of;
    * `Custody.step` — custody after a stretch;
    * `Handover.keep`, `Handover.drop`, `Handover.giveUp`, `Handover.gain` — the region
      stays held, is handed back, is given up, or comes to be held.
-/
import SealedPages.Buffer.Basic
import SealedPages.Proofs.Services

namespace SealedPages

open Computability

variable {v : View} {j : RegionId} {L page : UInt64}

/-! ## §1. Words that pin. -/

/-- Words that pin pages and let none go. -/
def pinning : Language Event :=
  {word | (∃ e ∈ word, e.pins = true) ∧ word ∈ keeping}

theorem mul_le_keeping {l l' : Language Event} (h : l ≤ keeping) (h' : l' ≤ keeping) :
    l * l' ≤ keeping := by
  intro word hword e he
  obtain ⟨a, ha, b, hb, rfl⟩ := hword
  rcases List.mem_append.1 he with hm | hm
  · exact h ha e hm
  · exact h' hb e hm

theorem kstar_le_keeping {l : Language Event} (h : l ≤ keeping) : l∗ ≤ keeping := by
  intro word hword e he
  -- a word of the star is a row of words of `l`
  obtain ⟨words, rfl, hwords⟩ := hword
  obtain ⟨word, hword, hmem⟩ := List.mem_flatten.1 he
  exact h (hwords word hword) e hmem

theorem mul_le_pinning_left {l l' : Language Event} (h : l ≤ pinning) (h' : l' ≤ keeping) :
    l * l' ≤ pinning := by
  intro word hword
  refine ⟨?_, mul_le_keeping (fun a ha => (h ha).2) h' hword⟩
  obtain ⟨a, ha, b, hb, rfl⟩ := hword
  obtain ⟨e, he, hp⟩ := (h ha).1
  exact ⟨e, List.mem_append_left b he, hp⟩

theorem mul_le_pinning_right {l l' : Language Event} (h : l ≤ keeping) (h' : l' ≤ pinning) :
    l * l' ≤ pinning := by
  intro word hword
  refine ⟨?_, mul_le_keeping h (fun b hb => (h' hb).2) hword⟩
  obtain ⟨a, ha, b, hb, rfl⟩ := hword
  obtain ⟨e, he, hp⟩ := (h' hb).1
  exact ⟨e, List.mem_append_right a he, hp⟩

/-- A single call that lets nothing go. -/
theorem singleton_le_keeping {e : Event} (h : e.unpins = false) :
    ({[e]} : Language Event) ≤ keeping := by
  intro word hword e' he
  cases hword
  rw [List.mem_singleton.1 he, h]

theorem allocate_le_keeping : (v.spelling j L).allocate page ≤ keeping := by
  cases v <;> exact singleton_le_keeping rfl

theorem wipe_le_keeping : (v.spelling j L).wipe ≤ keeping := by
  cases v with
  | systemCalls => exact one_le_keeping
  | serviceCalls => exact singleton_le_keeping rfl

theorem protect_le_keeping (mode : Protection) (out : Verdict) :
    (v.spelling j L).protect mode out ≤ keeping := by
  cases v <;> exact singleton_le_keeping rfl

/-- A single call that pins. -/
theorem singleton_le_pinning {e : Event} (hp : e.pins = true) (hk : e.unpins = false) :
    ({[e]} : Language Event) ≤ pinning := by
  intro word hword
  cases hword
  exact ⟨⟨e, List.mem_singleton_self e, hp⟩, singleton_le_keeping hk rfl⟩

/-- A lock that is granted pins. -/
theorem lock_le_pinning : (v.spelling j L).lock .granted ≤ pinning := by
  cases v with
  | systemCalls =>
      -- the advice that follows, taken or not, lets nothing go
      refine mul_le_pinning_left (singleton_le_pinning rfl rfl) fun word hword => ?_
      obtain ⟨out, rfl⟩ := hword
      exact singleton_le_keeping rfl rfl
  | serviceCalls => exact singleton_le_pinning rfl rfl

/-- **Pages at rest were pinned, and not let go of since.** -/
theorem resting_le_pinning : (v.spelling j L).resting page ≤ pinning := by
  have haccess : (v.spelling j L).access ≤ keeping :=
    sup_le (protect_le_keeping _ _)
      (mul_le_keeping (protect_le_keeping _ _) (protect_le_keeping _ _))
  -- the lock is the one call that pins; all before and after it only has to let nothing go
  refine mul_le_pinning_left (mul_le_pinning_left ?_ (protect_le_keeping _ _))
    (kstar_le_keeping haccess)
  exact mul_le_pinning_right (mul_le_keeping allocate_le_keeping wipe_le_keeping) lock_le_pinning

/-- Whether pages are pinned can be read off the calls that are shown. -/
theorem View.Pinned.of_calls {events : List Event} (h : events.filter v.shows ∈ pinning) :
    v.Pinned events := by
  obtain ⟨⟨e, he, hp⟩, hkept⟩ := h
  obtain ⟨hmem, hshown⟩ := List.mem_filter.1 he
  exact ⟨⟨e, hmem, hshown, hp⟩, fun e' he' hs => hkept e' (List.mem_filter.2 ⟨he', hs⟩)⟩

/-! ## §2. Regions that are held, and regions that are not. -/

/-- A region at rest: live, closed, pinned, and as long as is known. -/
structure Region.Resting (r : Region) (L : UInt64) : Prop where
  live : r.live = true
  closed : r.protection = .noAccess
  pinned : r.pinned = true
  length : r.bytes.length = L.toNat

/-- Whether `L` bytes are a size that was asked for, rounded up to whole pages. -/
def RoundedUp (size page L : UInt64) : Prop :=
  size ≠ 0 ∧ roundUp size page = .ok (some L)

/-- **What a buffer knows of the region that it holds.** -/
structure Story.Held (v : View) (h : Holding) (s : Story) : Prop where
  region : ∃ r, s.region = some r ∧ r.Resting h.capacity
  mode : h.mode = .noAccess
  rounded : RoundedUp h.len h.pageSize h.capacity
  calls : s.events.filter v.shows ∈ (v.spelling h.region h.capacity).resting h.pageSize
  kept : s.abandoned = []

/-- **What is true of a region that no buffer holds.** -/
inductive Story.Loose (v : View) (id : RegionId) : Story → Prop
  | unmade : Loose v id ⟨none, [], []⟩
  | released {s : Story} {r : Region} {size page L : UInt64} (region : s.region = some r)
      (freed : r.live = false) (zero : r.IsZero) (rounded : RoundedUp size page L)
      (calls : s.events.filter v.shows ∈ (v.spelling id L).returned page)
      (kept : s.abandoned = []) : Loose v id s
  | givenUp {s : Story} {r : Region} {size page L : UInt64} (region : s.region = some r)
      (resting : r.Resting L) (rounded : RoundedUp size page L)
      (calls : s.events.filter v.shows ∈ (v.spelling id L).givenUp page)
      (abandoned : s.abandoned = [L]) : Loose v id s

/-- Pages that are given up were pinned as well. -/
theorem givenUp_le_pinning : (v.spelling j L).givenUp page ≤ pinning :=
  mul_le_pinning_left resting_le_pinning (protect_le_keeping _ _)

/-- What a buffer holds lies in pinned pages. -/
theorem Story.Held.pinned {h : Holding} {s : Story} (hs : s.Held v h) : v.Pinned s.events :=
  .of_calls (resting_le_pinning hs.calls)

theorem Story.Held.sheltered {h : Holding} {s : Story} (hs : s.Held v h) :
    v.Sheltered s.events s.region :=
  .of_pinned hs.pinned

theorem Story.Loose.sheltered {id : RegionId} {s : Story} (hs : s.Loose v id) :
    v.Sheltered s.events s.region := by
  cases hs with
  | unmade => exact .of_none
  | released region freed zero rounded calls kept =>
      rw [region]
      exact .of_isZero zero
  | givenUp region resting rounded calls abandoned =>
      exact .of_pinned (.of_calls (givenUp_le_pinning calls))

/-! ## §3. Custody. -/

/-- A moment that is sound on whichever region it is looked at. -/
def Moment.SoundAll (v : View) (past : List Moment) (x : Moment) : Prop :=
  ∀ id, Moment.Sound v id past x

/-- **Every region is held by exactly one buffer, or loose**, and up to now every
moment was sound and the warden content. -/
structure Custody (v : View) (hs : List Holding) (m : Machine) : Prop where
  distinct : (hs.map (·.region)).Nodup
  held : ∀ h ∈ hs, (m.story h.region).Held v h
  loose : ∀ id ∉ hs.map (·.region), (m.story id).Loose v id
  sound : Throughout (Moment.SoundAll v) [] m.trace
  watched : Warden.blank.watch m.trace = some m.memory.areas

/-- A run from `m` to `m'`, after which the buffers hold `hs`. -/
structure Handover (v : View) (m : Machine) (hs : List Holding) (m' : Machine) : Prop where
  custody : Custody v hs m'
  grows : m.Grows m'

variable {hs hs' rest : List Holding} {h h' : Holding} {m m₁ m' : Machine} {l : Language Event}

namespace Custody

/-- Before anything happens there is no region. -/
theorem start (v : View) : Custody v [] {} where
  distinct := List.nodup_nil
  held := by simp
  loose := fun id _ => by
    -- there are no regions, whichever number is asked for
    have hnone : (({} : Machine).memory.find? id) = none := by
      cases id <;> rfl
    show Story.Loose v id ⟨({} : Machine).memory.find? id, _, _⟩
    rw [hnone]
    exact .unmade
  sound := trivial
  watched := by
    refine congrArg some (funext fun id => ?_)
    cases id <;> rfl

/-- The order in which the holdings are listed does not matter. -/
theorem perm (c : Custody v hs m) (hp : hs.Perm hs') : Custody v hs' m where
  distinct := (hp.map _).nodup_iff.1 c.distinct
  held := fun h hmem => c.held h (hp.mem_iff.2 hmem)
  loose := fun id hid => c.loose id fun hmem => hid ((hp.map _).mem_iff.1 hmem)
  sound := c.sound
  watched := c.watched

/-- Whoever answers for a region, its secrets are sheltered. -/
theorem sheltered (c : Custody v hs m) (id : RegionId) :
    v.Sheltered (eventsOn id m.trace) (m.memory.find? id) := by
  by_cases hid : id ∈ hs.map (·.region)
  · obtain ⟨h, hmem, rfl⟩ := List.mem_map.1 hid
    exact (c.held h hmem).sheltered
  · exact (c.loose id hid).sheltered

/-- The moments of a stretch are sound on every region, not only on its own. -/
theorem sound_after (c : Custody v hs m) (a : Stretch v j l m m') :
    Throughout (Moment.SoundAll v) [] m'.trace := by
  obtain ⟨new, hn⟩ := a.moments
  rw [hn.trace]
  refine throughout_append.2 ⟨c.sound, throughout_iff.2 fun pre x post e id => ?_⟩
  have hx := throughout_iff.1 hn.sound pre x post e
  by_cases hid : id = j
  · subst hid
    exact hx
  · -- the other region is what it was before the stretch
    have hother : ∀ y ∈ pre ++ x :: post, y.event.region? ≠ some id ∧
        y.memory.find? id = m.memory.find? id := fun y hy => hn.elsewhere y (e ▸ hy) id hid
    refine ⟨hx.1, hx.2.1, ?_⟩
    have hnil : eventsOn id pre = [] :=
      eventsOn_eq_nil fun y hy => (hother y (List.mem_append_left _ hy)).1
    rw [(hother x (by simp)).2, List.nil_append, eventsOn_append, hnil, List.append_nil]
    exact c.sheltered id

/-- **Custody after a stretch**, if the holdings of its own region fit what this has
become and all others stay.  What follows the stretch may still write the log. -/
theorem step (c : Custody v hs m) (a : Stretch v j l m m₁) (hmemory : m'.memory = m₁.memory)
    (htrace : m'.trace = m₁.trace) (hstory : ∀ id ≠ j, m'.story id = m.story id)
    (hdistinct : (hs'.map (·.region)).Nodup)
    (hheld : ∀ h ∈ hs', h.region = j → (m'.story h.region).Held v h)
    (hloose : j ∉ hs'.map (·.region) → (m'.story j).Loose v j)
    (hothers : ∀ h, h.region ≠ j → (h ∈ hs' ↔ h ∈ hs)) : Custody v hs' m' where
  distinct := hdistinct
  held := fun h hmem => by
    by_cases hj : h.region = j
    · exact hheld h hmem hj
    · rw [hstory _ hj]
      exact c.held h ((hothers h hj).1 hmem)
  loose := fun id hid => by
    by_cases hj : id = j
    · subst hj
      exact hloose hid
    · rw [hstory id hj]
      refine c.loose id fun hmem => hid ?_
      obtain ⟨h, hh, rfl⟩ := List.mem_map.1 hmem
      exact List.mem_map.2 ⟨h, (hothers h hj).2 hh, rfl⟩
  sound := by
    rw [htrace]
    exact c.sound_after a
  watched := by
    obtain ⟨new, hn⟩ := a.moments
    rw [htrace, hmemory, hn.trace, Warden.watch_append, c.watched]
    exact hn.watched

/-- A region at the head of the holdings is none of the others. -/
theorem head_notMem (c : Custody v (h :: rest) m) : h.region ∉ rest.map (·.region) :=
  (List.nodup_cons.1 c.distinct).1

/-- Without one of the holdings, those of other regions are the same. -/
theorem mem_cons_of_ne {h₀ : Holding} (hne : h₀.region ≠ h.region) :
    h₀ ∈ h :: rest ↔ h₀ ∈ rest := by
  constructor
  · intro hmem
    rcases List.mem_cons.1 hmem with rfl | hr
    · exact absurd rfl hne
    · exact hr
  · exact List.mem_cons_of_mem h

/-- A number that is not made yet is not held. -/
theorem nextId_notMem (c : Custody v hs m) : m.memory.nextId ∉ hs.map (·.region) := by
  intro hmem
  obtain ⟨h, hh, hid⟩ := List.mem_map.1 hmem
  obtain ⟨r, hr, _⟩ := (c.held h hh).region
  have hnone := m.memory.find?_nextId
  rw [← hid] at hnone
  cases hnone.symm.trans hr

/-- Nothing was recorded about a number that is not made yet. -/
theorem eventsOn_nextId (c : Custody v hs m) : eventsOn m.memory.nextId m.trace = [] ∧
    (m.story m.memory.nextId).abandoned = [] := by
  -- nobody holds it, and a loose region that is not in memory was never made
  have hl := c.loose _ c.nextId_notMem
  have hnone : (m.story m.memory.nextId).region = none := m.memory.find?_nextId
  -- the story is named, so that it can be split into its cases
  generalize hs : m.story m.memory.nextId = s at hl hnone
  have hevents : (m.story m.memory.nextId).events = eventsOn m.memory.nextId m.trace := rfl
  rw [hs] at hevents
  cases hl with
  | unmade => exact ⟨hevents.symm, rfl⟩
  | released region => exact absurd (hnone.symm.trans region) (by simp)
  | givenUp region => exact absurd (hnone.symm.trans region) (by simp)

/-- Events name regions that were made. -/
theorem exists_region_of_event (c : Custody v hs m) {x : Moment} (hx : x ∈ m.trace) {id : RegionId}
    (hid : x.event.region? = some id) : ∃ r, m.memory.find? id = some r := by
  by_cases hmem : id ∈ hs.map (·.region)
  · obtain ⟨h, hh, rfl⟩ := List.mem_map.1 hmem
    obtain ⟨r, hr, _⟩ := (c.held h hh).region
    exact ⟨r, hr⟩
  · have hl := c.loose id hmem
    have hevent : x.event ∈ (m.story id).events :=
      List.mem_filter.2 ⟨List.mem_map.2 ⟨x, hx, rfl⟩, by simp [hid]⟩
    have hregion : (m.story id).region = m.memory.find? id := rfl
    generalize m.story id = s at hl hevent hregion
    cases hl with
    | unmade => cases hevent
    | released region => exact ⟨_, hregion.symm.trans region⟩
    | givenUp region => exact ⟨_, hregion.symm.trans region⟩

/-- Up to now, whenever pages were handed back they were zero. -/
theorem clean (c : Custody v hs m) : ∀ x ∈ m.trace, x.Clean := by
  intro x hx
  obtain ⟨pre, post, e⟩ := List.append_of_mem hx
  exact (throughout_iff.1 c.sound pre x post e 0).2.1

end Custody

/-! ## §4. What becomes of a region. -/

namespace Handover

theorem refl (c : Custody v hs m) : Handover v m hs m :=
  ⟨c, .refl m⟩

theorem trans (a : Handover v m hs m₁) (b : Handover v m₁ hs' m') : Handover v m hs' m' :=
  ⟨b.custody, a.grows.trans b.grows⟩

theorem perm (a : Handover v m hs m') (hp : hs.Perm hs') : Handover v m hs' m' :=
  ⟨a.custody.perm hp, a.grows⟩

/-- A run that is about no region hands nothing over. -/
theorem idle (c : Custody v hs m) (a : Idle m m') : Handover v m hs m' where
  custody := by
    obtain ⟨new, ht, hnew⟩ := a.trace
    refine ⟨c.distinct, fun h hh => a.story_eq _ ▸ c.held h hh, fun id hid =>
      a.story_eq _ ▸ c.loose id hid, ?_, ?_⟩
    · -- none of the new moments is about region `id`, so its past is the old one
      rw [ht]
      refine throughout_append.2 ⟨c.sound, throughout_iff.2 fun pre x post e id => ?_⟩
      have hx := hnew x (by rw [e]; simp)
      have hnil : eventsOn id pre = [] :=
        eventsOn_eq_nil fun y hy h => by cases h.symm.trans (hnew y (by rw [e]; simp [hy])).2
      obtain ⟨htouch, hclear, hresidue, _⟩ := Event.idle_of_region? hx.2
      refine Moment.sound_of_idle ?_ htouch hclear hresidue
      rw [hx.1, List.nil_append, eventsOn_append, hnil, List.append_nil]
      exact c.sheltered id
    · rw [ht, Warden.watch_append, c.watched, a.memory]
      exact Warden.watch_eq_self fun x hx => (Event.idle_of_region? (hnew x hx).2).2.2.2 _
  grows := a.grows

/-- **The region stays held.** -/
theorem keep (c : Custody v (h :: rest) m) (a : Stretch v h.region l m m')
    (hregion : h'.region = h.region) (hheld : (m'.story h'.region).Held v h') :
    Handover v m (h' :: rest) m' where
  custody := by
    refine c.step a rfl rfl (fun _ hid => a.story_of_ne hid) ?_ ?_
      (fun hnot => absurd (by simp [hregion]) hnot) ?_
    · have hd := c.distinct
      simpa [hregion] using hd
    · intro h₀ hmem hj
      rcases List.mem_cons.1 hmem with rfl | hr
      · exact hheld
      · exact absurd (List.mem_map.2 ⟨h₀, hr, hj⟩) c.head_notMem
    · intro h₀ hne
      rw [Custody.mem_cons_of_ne hne, Custody.mem_cons_of_ne (hregion ▸ hne)]
  grows := a.grows

/-- **The region goes loose.** -/
theorem drop (c : Custody v (h :: rest) m) (a : Stretch v h.region l m m')
    (hloose : (m'.story h.region).Loose v h.region) : Handover v m rest m' where
  custody := c.step a rfl rfl (fun _ hid => a.story_of_ne hid) (List.nodup_cons.1 c.distinct).2
    (fun h₀ hmem hj => absurd (List.mem_map.2 ⟨h₀, hmem, hj⟩) c.head_notMem) (fun _ => hloose)
    (fun _ hne => (Custody.mem_cons_of_ne hne).symm)
  grows := a.grows

/-- **The region goes loose with a last line in the log**: it is given up. -/
theorem giveUp (c : Custody v (h :: rest) m) (a : Stretch v h.region l m m₁)
    (hloose : Story.Loose v h.region
      ⟨(m₁.story h.region).region, (m₁.story h.region).events, [L]⟩) :
    Handover v m rest { m₁ with log := m₁.log ++ [.abandoned h.region L] } where
  custody := by
    -- the line counts for this region, and for no other
    have hline : ∀ id, abandonments id (m₁.log ++ [.abandoned h.region L]) =
        abandonments id m₁.log ++ if h.region = id then [L] else [] := fun id => by
      unfold abandonments
      rw [List.filterMap_append, List.filterMap_cons, List.filterMap_nil]
      unfold LogLine.abandons?
      split <;> simp_all
    have hkept : abandonments h.region m₁.log = [] :=
      (a.abandoned_eq h.region).trans (c.held h List.mem_cons_self).kept
    refine c.step a rfl rfl ?_ (List.nodup_cons.1 c.distinct).2
      (fun h₀ hmem hj => absurd (List.mem_map.2 ⟨h₀, hmem, hj⟩) c.head_notMem) (fun _ => ?_)
      (fun _ hne => (Custody.mem_cons_of_ne hne).symm)
    · intro id hid
      rw [← a.story_of_ne hid]
      show Story.mk _ _ (abandonments id (m₁.log ++ _)) = Story.mk _ _ _
      rw [hline, if_neg fun e => hid e.symm, List.append_nil]
    · show Story.Loose v h.region (Story.mk _ _ (abandonments h.region (m₁.log ++ _)))
      rw [hline, if_pos rfl, hkept]
      exact hloose
  grows := a.grows.trans ⟨List.prefix_rfl, List.prefix_append _ _⟩

/-- **A region that nobody held comes to be held.** -/
theorem gain (c : Custody v hs m) (hfree : h.region ∉ hs.map (·.region))
    (a : Stretch v h.region l m m') (hheld : (m'.story h.region).Held v h) :
    Handover v m (h :: hs) m' where
  custody := by
    refine c.step a rfl rfl (fun _ hid => a.story_of_ne hid)
      (List.nodup_cons.2 ⟨hfree, c.distinct⟩) ?_
      (fun hnot => absurd (by simp) hnot) (fun _ hne => Custody.mem_cons_of_ne hne)
    intro h₀ hmem hj
    rcases List.mem_cons.1 hmem with rfl | hr
    · exact hheld
    · exact absurd (List.mem_map.2 ⟨h₀, hr, hj⟩) hfree
  grows := a.grows

/-- A region that nobody held is loose again. -/
theorem pass (c : Custody v hs m) (hfree : j ∉ hs.map (·.region)) (a : Stretch v j l m m')
    (hloose : (m'.story j).Loose v j) : Handover v m hs m' where
  custody := c.step a rfl rfl (fun _ hid => a.story_of_ne hid) c.distinct
    (fun h₀ hmem hj => absurd (List.mem_map.2 ⟨h₀, hmem, hj⟩) hfree) (fun _ => hloose)
    (fun _ _ => Iff.rfl)
  grows := a.grows

end Handover

end SealedPages
