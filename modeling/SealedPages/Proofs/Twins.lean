/-
  SealedPages.Proofs.Twins
  ────────────────────────
  **MACHINES THAT DIFFER IN NUMBERS AND IN BYTES.**  Two runs do the same, but one of them
  may have made other regions in between, and what is written may differ.  Their machines
  are twins: the region `j` of the one is the region `ρ j` of the other, with the same
  protection and marks and with bytes that are alike, and since some point in the past both
  have recorded the same events and lines, up to `ρ`.

  One event tells of bytes: handing a region back reports how many of its bytes are not
  zero.  So the events of twins are compared with this number masked.  In a run it is
  always zero, and then the mask can be taken off.

  Main statements:
    * `Twin.unreserved`, `Twin.originates` — single steps keep machines twins, and with them
      all operations do;
    * `Twin.peek` — a look at the same region of twins;
    * `Twin.events_eq` — without the mask.
-/
import SealedPages.Proofs.PairedSessions

namespace SealedPages

/-! ## §1. Events, up to the residue that they report. -/

/-- The event, with no number of nonzero bytes. -/
def Event.masked : Event → Event
  | .system (.free id _)   => .system (.free id 0)
  | .service (.release s _) => .service (.release s 0)
  | e => e

/-- An event that reports zeros loses nothing. -/
theorem Event.masked_eq_self {e : Event} (h : ∀ k, e.residue? = some k → k = 0) : e.masked = e := by
  unfold masked
  split
  · rw [h _ rfl]
  · rw [h _ rfl]
  · rfl

theorem Event.residue?_rename (ρ : RegionId → RegionId) (e : Event) :
    (e.rename ρ).residue? = e.residue? := by
  rcases e with c | c | t
  · cases c <;> rfl
  · cases c <;> rfl
  · rfl

/-! ## §2. Twins. -/

/-- Two regions that differ in their bytes, and in these only as far as `S` allows. -/
structure Region.Alike (S : Bytes → Bytes → Prop) (r r' : Region) : Prop where
  align : r'.align = r.align
  bytes : S r.bytes r'.bytes
  protection : r'.protection = r.protection
  pinned : r'.pinned = r.pinned
  live : r'.live = r.live

theorem Region.Alike.refl {S : Bytes → Bytes → Prop} (hS : Likeness S) (r : Region) :
    Region.Alike S r r :=
  ⟨rfl, hS.refl _, rfl, rfl, rfl⟩

/-- **Twins**: the machines `m` and `n`, which have come from `m₀` and `n₀`. -/
structure Twin (S : Bytes → Bytes → Prop) (ρ : RegionId → RegionId) (m₀ n₀ m n : Machine) :
    Prop where
  faults : n.faults = m.faults
  regions : ∀ id, Option.Rel (Region.Alike S) (m.memory.find? id) (n.memory.find? (ρ id))
  /-- The numbers that are not given out are paired in order. -/
  coming : ∀ i, ρ (m.memory.nextId + i) = n.memory.nextId + i
  distinct : Function.Injective ρ
  trace : ∃ new new', m.trace = m₀.trace ++ new ∧ n.trace = n₀.trace ++ new' ∧
    new'.map (·.event.masked) = new.map fun x => (x.event.rename ρ).masked
  log : ∃ new, m.log = m₀.log ++ new ∧ n.log = n₀.log ++ new.map (·.rename ρ)

namespace Twin

variable {S : Bytes → Bytes → Prop} {ρ : RegionId → RegionId} {m₀ n₀ m n : Machine} {j : RegionId}

/-- A machine is its own twin. -/
theorem refl (hS : Likeness S) (m : Machine) : Twin S id m m m m := by
  refine ⟨rfl, fun i => ?_, fun _ => rfl, Function.injective_id, ⟨[], [], by simp⟩, ⟨[], by simp⟩⟩
  show Option.Rel _ (m.memory.find? i) (m.memory.find? i)
  cases m.memory.find? i with
  | none => exact .none
  | some r => exact .some (.refl hS r)

/-- Twins that nothing has happened to since. -/
theorem rebase (h : Twin S ρ m₀ n₀ m n) : Twin S ρ m n m n :=
  ⟨h.faults, h.regions, h.coming, h.distinct, ⟨[], [], by simp⟩, ⟨[], by simp⟩⟩

/-- A region of the one and its twin. -/
theorem find?_cases (h : Twin S ρ m₀ n₀ m n) (id : RegionId) :
    (m.memory.find? id = none ∧ n.memory.find? (ρ id) = none) ∨
    ∃ r r', m.memory.find? id = some r ∧ n.memory.find? (ρ id) = some r' ∧
      Region.Alike S r r' := by
  have hid := h.regions id
  generalize m.memory.find? id = o at hid
  generalize n.memory.find? (ρ id) = o' at hid
  cases hid with
  | none => exact Or.inl ⟨rfl, rfl⟩
  | some halike => exact Or.inr ⟨_, _, rfl, rfl, halike⟩

/-- What happens to the faults of both is the same. -/
theorem setFaults (h : Twin S ρ m₀ n₀ m n) (f : Faults → Faults) :
    Twin S ρ m₀ n₀ { m with faults := f m.faults } { n with faults := f n.faults } :=
  ⟨congrArg f h.faults, h.regions, h.coming, h.distinct, h.trace, h.log⟩

/-- Both record an event. -/
theorem record (h : Twin S ρ m₀ n₀ m n) (e e' : Event) (he : e'.masked = (e.rename ρ).masked)
    (met met' : Memory) :
    Twin S ρ m₀ n₀ { m with trace := m.trace ++ [⟨met, e⟩] }
      { n with trace := n.trace ++ [⟨met', e'⟩] } := by
  refine ⟨h.faults, h.regions, h.coming, h.distinct, ?_, h.log⟩
  obtain ⟨new, new', hm, hn, hnew⟩ := h.trace
  refine ⟨new ++ [⟨met, e⟩], new' ++ [⟨met', e'⟩], ?_, ?_, ?_⟩
  · rw [← List.append_assoc, ← hm]
  · rw [← List.append_assoc, ← hn]
  · rw [List.map_append, List.map_append, hnew]
    exact congrArg (_ ++ [·]) he

/-- Both write a line. -/
theorem note (h : Twin S ρ m₀ n₀ m n) (l : LogLine) :
    Twin S ρ m₀ n₀ { m with log := m.log ++ [l] } { n with log := n.log ++ [l.rename ρ] } := by
  refine ⟨h.faults, h.regions, h.coming, h.distinct, h.trace, ?_⟩
  obtain ⟨new, hm, hn⟩ := h.log
  refine ⟨new ++ [l], ?_, ?_⟩
  · rw [← List.append_assoc, ← hm]
  · rw [List.map_append, ← List.append_assoc, ← hn]
    rfl

/-- Both change a region in ways that keep it alike. -/
theorem update (h : Twin S ρ m₀ n₀ m n) {f g : Region → Region}
    (hfg : ∀ r r', Region.Alike S r r' → Region.Alike S (f r) (g r')) :
    Twin S ρ m₀ n₀ { m with memory := m.memory.update j f }
      { n with memory := n.memory.update (ρ j) g } := by
  refine ⟨h.faults, fun id => ?_, fun i => ?_, h.distinct, h.trace, h.log⟩
  · show Option.Rel _ ((m.memory.update j f).find? id) ((n.memory.update (ρ j) g).find? (ρ id))
    rw [Memory.find?_update, Memory.find?_update]
    by_cases hj : id = j
    · rw [if_pos hj, if_pos (congrArg ρ hj)]
      rcases h.find?_cases id with ⟨hm, hn⟩ | ⟨r, r', hm, hn, halike⟩
      · rw [hm, hn]
        exact .none
      · rw [hm, hn]
        exact .some (hfg _ _ halike)
    · rw [if_neg hj, if_neg fun e => hj (h.distinct e)]
      exact h.regions id
  · show ρ ((m.memory.update j f).nextId + i) = (n.memory.update (ρ j) g).nextId + i
    rw [Memory.nextId_update, Memory.nextId_update]
    exact h.coming i

/-- The next region of the one is the next region of the other. -/
theorem map_nextId (h : Twin S ρ m₀ n₀ m n) : ρ m.memory.nextId = n.memory.nextId :=
  h.coming 0

/-- Both make a region. -/
theorem grow (h : Twin S ρ m₀ n₀ m n) {r r' : Region} (hr : Region.Alike S r r') :
    Twin S ρ m₀ n₀ { m with memory := m.memory.grow r } { n with memory := n.memory.grow r' } := by
  refine ⟨h.faults, fun id => ?_, fun i => ?_, h.distinct, h.trace, h.log⟩
  · show Option.Rel _ ((m.memory.grow r).find? id) ((n.memory.grow r').find? (ρ id))
    by_cases hid : id = m.memory.nextId
    · rw [hid, h.map_nextId, Memory.find?_grow_self, Memory.find?_grow_self]
      exact .some hr
    · have hid' : ρ id ≠ n.memory.nextId := fun e => hid (h.distinct (e.trans h.map_nextId.symm))
      rw [Memory.find?_grow_of_ne _ _ hid, Memory.find?_grow_of_ne _ _ hid']
      exact h.regions id
  · show ρ ((m.memory.grow r).nextId + i) = (n.memory.grow r').nextId + i
    rw [Memory.nextId_grow, Memory.nextId_grow, Nat.add_assoc, Nat.add_assoc]
    exact h.coming (1 + i)

end Twin

/-! ## §3. Single steps. -/

namespace Twin

variable {S : Bytes → Bytes → Prop} {ρ : RegionId → RegionId} {m₀ n₀ m n : Machine} {j : RegionId}

theorem draw_coupled (t : Target) :
    Coupled (Twin S ρ m₀ n₀) Eq (Machine.draw t) (Machine.draw t) := by
  intro m n h
  refine ⟨?_, h.setFaults (·.tick t)⟩
  show m.faults.fires t = n.faults.fires t
  rw [h.faults]

theorem schedule_coupled (t : Target) (places : List Nat) :
    Coupled (Twin S ρ m₀ n₀) Eq (Machine.schedule t places) (Machine.schedule t places) :=
  fun _ _ h => ⟨rfl, h.setFaults (·.schedule t places)⟩

theorem recordedAlike (e : Event) : RecordedAlike (Twin S ρ m₀ n₀) e (e.rename ρ) :=
  fun m n _ _ _ h => ⟨rfl, h.record e _ rfl m.memory n.memory⟩

theorem note_coupled (l : LogLine) :
    Coupled (Twin S ρ m₀ n₀) Eq (Machine.note l) (Machine.note (l.rename ρ)) :=
  fun _ _ h => ⟨rfl, h.note l⟩

/-- A change of the same region that keeps it alike. -/
theorem update_coupled {f g : Region → Region}
    (hfg : ∀ r r', Region.Alike S r r' → Region.Alike S (f r) (g r')) :
    Coupled (Twin S ρ m₀ n₀) Eq (Machine.remember fun m => m.update j f)
      (Machine.remember fun n => n.update (ρ j) g) :=
  fun _ _ h => ⟨rfl, h.update hfg⟩

theorem isAligned_eq (h : Twin S ρ m₀ n₀ m n) (L : UInt64) :
    Kernel.isAligned (.front (ρ j) L) n.memory = Kernel.isAligned (.front j L) m.memory := by
  rcases h.find?_cases j with ⟨hm, hn⟩ | ⟨r, r', hm, hn, halike⟩
  · rw [Kernel.isAligned_of_find?_none (s := .front j L) hm,
      Kernel.isAligned_of_find?_none (s := .front (ρ j) L) hn]
  · rw [Kernel.isAligned_of_find? (s := .front j L) hm,
      Kernel.isAligned_of_find? (s := .front (ρ j) L) hn]
    unfold Region.alignedAt
    rw [halike.align]
    rfl

/-- What is read from the same part is alike. -/
theorem read_alike (hS : Likeness S) (h : Twin S ρ m₀ n₀ m n) (L : UInt64) :
    S (m.memory.read (.front j L)) (n.memory.read (.front (ρ j) L)) := by
  rcases h.find?_cases j with ⟨hm, hn⟩ | ⟨r, r', hm, hn, halike⟩
  · rw [Memory.read_of_find?_none (s := .front j L) hm,
      Memory.read_of_find?_none (s := .front (ρ j) L) hn]
    exact hS.refl _
  · rw [Memory.read_of_find? (s := .front j L) hm, Memory.read_of_find? (s := .front (ρ j) L) hn]
    exact hS.slice _ _ halike.bytes

theorem primitives (hS : Likeness S) (j : RegionId) : Primitives (Twin S ρ m₀ n₀) ρ j where
  draw := draw_coupled
  aligned h := h.isAligned_eq
  record _ _ := recordedAlike _
  recordFree m n h := ⟨rfl, h.record (.system (.free j (m.memory.nonzero j)))
    (.system (.free (ρ j) (n.memory.nonzero (ρ j)))) rfl _ _⟩
  recordRelease L m n h := ⟨rfl, h.record (.service (.release (.front j L) (m.memory.nonzero j)))
    (.service (.release (.front (ρ j) L) (n.memory.nonzero (ρ j)))) rfl _ _⟩
  note _ _ := note_coupled _
  setPinned _ := update_coupled fun _ _ h => ⟨h.align, h.bytes, h.protection, rfl, h.live⟩
  setProtection _ := update_coupled fun _ _ h => ⟨h.align, h.bytes, rfl, h.pinned, h.live⟩
  retire := update_coupled fun _ _ h => ⟨h.align, h.bytes, h.protection, h.pinned, rfl⟩
  wipe L := update_coupled fun r r' h => by
    refine ⟨h.align, ?_, h.protection, h.pinned, h.live⟩
    -- both are overwritten with as many zeros
    show S (Bytes.patch r.bytes 0 (List.replicate (min L.toNat (r.bytes.length - 0)) 0))
      (Bytes.patch r'.bytes 0 (List.replicate (min L.toNat (r'.bytes.length - 0)) 0))
    rw [hS.length h.bytes]
    exact hS.patch 0 h.bytes (hS.refl _)

/-- **Every single step keeps machines twins.** -/
theorem unreserved (hS : Likeness S) (j : RegionId) : Unreserved (Twin S ρ m₀ n₀) ρ S j where
  toPrimitives := primitives hS j
  recordAny _ := recordedAlike _
  noteAny _ := note_coupled _
  copyIn L data data' hdata m n h := by
    refine ⟨rfl, (h.record (.touch (.copyIn (.front j L))) _ rfl m.memory n.memory).update ?_⟩
    intro r r' hr
    exact ⟨hr.align, hS.patch _ hr.bytes hdata, hr.protection, hr.pinned, hr.live⟩
  copyOut L m n h := ⟨⟨h.read_alike hS L, m.memory.length_read_le _⟩,
    h.record (.touch (.copyOut (.front j L))) _ rfl m.memory n.memory⟩

/-- **Twins make their regions together.** -/
theorem originates (hS : Likeness S) : Originates (Twin S ρ m₀ n₀) ρ where
  draw := draw_coupled
  record {e} he := by
    have h : RecordedAlike (Twin S ρ m₀ n₀) e (e.rename ρ) := recordedAlike e
    rwa [e.rename_of_region? he] at h
  note {l} hl := by
    have h : Coupled (Twin S ρ m₀ n₀) Eq (Machine.note l) (Machine.note (l.rename ρ)) :=
      note_coupled l
    rwa [l.rename_of_region? hl] at h
  posixMemalign align L m n h := by
    have hfires : n.faults.fires .posixMemalign = m.faults.fires .posixMemalign := by
      rw [h.faults]
    have hdrawn := h.setFaults (·.tick .posixMemalign)
    rw [Kernel.run_posixMemalign, Kernel.run_posixMemalign, hfires]
    split
    · refine ⟨⟨congrArg some h.map_nextId.symm, fun _ _ => primitives hS _⟩, ?_⟩
      have hrecorded := hdrawn.record (.system (.posixMemalign align L (some m.memory.nextId)))
        (.system (.posixMemalign align L (some n.memory.nextId))) (by rw [← h.map_nextId]; rfl)
        m.memory n.memory
      exact hrecorded.grow (.refl hS _)
    · exact ⟨⟨rfl, by simp⟩, hdrawn.record (.system (.posixMemalign align L none)) _ rfl _ _⟩

/-! ## §4. What twins show. -/

/-- **A look at the same region** shows the same, up to its bytes. -/
theorem peek_alike (hS : Likeness S) (h : Twin S id m₀ n₀ m n) (region : RegionId)
    (first len : Nat) :
    n.memory.peek region first len = m.memory.peek region first len ∨
    ∃ content content', m.memory.peek region first len = .bytes content ∧
      n.memory.peek region first len = .bytes content' ∧ S content content' := by
  rcases h.find?_cases region with ⟨hm, hn⟩ | ⟨r, r', hm, hn, halike⟩
  · unfold Memory.peek
    rw [hm, show n.memory.find? region = none from hn]
    exact Or.inl rfl
  · have hn' : n.memory.find? region = some r' := hn
    rw [Memory.peek_of_find? hm, Memory.peek_of_find? hn', halike.live, hS.length halike.bytes]
    by_cases hlive : r.live = false
    · rw [if_pos hlive, if_pos hlive]
      exact Or.inl rfl
    · rw [if_neg hlive, if_neg hlive]
      by_cases hfits : first + len ≤ r.bytes.length
      · rw [if_pos hfits, if_pos hfits]
        exact Or.inr ⟨_, _, rfl, rfl, hS.slice _ _ halike.bytes⟩
      · rw [if_neg hfits, if_neg hfits]
        exact Or.inl rfl

/-- The same regions are live. -/
theorem liveIds_eq (h : Twin S id m₀ n₀ m n) : n.memory.liveIds = m.memory.liveIds := by
  have hlength : n.memory.regions.length = m.memory.regions.length :=
    Nat.succ.inj h.map_nextId.symm
  unfold Memory.liveIds
  rw [hlength]
  refine List.filter_congr fun i _ => ?_
  unfold Memory.live?
  rcases h.find?_cases i with ⟨hm, hn⟩ | ⟨r, r', hm, hn, halike⟩
  · rw [hm, show n.memory.find? i = none from hn]
  · rw [hm, show n.memory.find? i = some r' from hn, Option.isSome_filter, Option.isSome_filter]
    exact halike.live

/-- **Twins have recorded the same events**, where none reports a residue. -/
theorem events_eq (h : Twin S ρ m₀ n₀ m n) (hm : ∀ x ∈ m.trace, x.Clean)
    (hn : ∀ x ∈ n.trace, x.Clean) :
    (n.trace.drop n₀.trace.length).map (·.event) =
      (m.trace.drop m₀.trace.length).map (·.event.rename ρ) := by
  obtain ⟨new, new', htrace, htrace', hnew⟩ := h.trace
  rw [htrace, List.drop_left, htrace', List.drop_left]
  calc new'.map (·.event)
      = new'.map (·.event.masked) := by
        refine List.map_congr_left fun x hx => (Event.masked_eq_self ?_).symm
        exact (hn x (by simp [htrace', hx])).2
    _ = new.map fun x => (x.event.rename ρ).masked := hnew
    _ = new.map (·.event.rename ρ) := by
        refine List.map_congr_left fun x hx => Event.masked_eq_self fun k hk => ?_
        rw [Event.residue?_rename] at hk
        exact (hm x (by simp [htrace, hx])).2 k hk

/-- **Twins have written the same lines.** -/
theorem log_eq (h : Twin S ρ m₀ n₀ m n) :
    n.log.drop n₀.log.length = (m.log.drop m₀.log.length).map (·.rename ρ) := by
  obtain ⟨new, hm, hn⟩ := h.log
  rw [hm, hn, List.drop_left, List.drop_left]

end Twin

/-! ## §5. Steps of a script. -/

/-- **Two reports that tell the same**, up to the numbers of regions: their replies are
related by `Q`. -/
structure Report.Paired {α : Type} (ρ : RegionId → RegionId) (Q : α → α → Prop)
    (r r' : Report α) : Prop where
  reply : Q r.reply r'.reply
  events : r'.trace.map (·.event) = r.trace.map (·.event.rename ρ)
  log : r'.log = r.log.map (·.rename ρ)

namespace Script

variable {σ κ α : Type} {S : Bytes → Bytes → Prop} {ρ : RegionId → RegionId}
  {perform : σ → κ → MachineM (α × σ)} {Q : α → α → Prop} {T : σ → σ → Prop} {m n : Machine}

/-- **Two steps on twins are reported alike**, and leave twins. -/
theorem playStep_paired {s s' : σ} {k k' : κ} (h : Twin S ρ m n m n)
    (hstep : Coupled (Twin S ρ m n) (fun y y' => Q y.1 y'.1 ∧ T y.2 y'.2) (perform s k)
      (perform s' k'))
    (hm : ∀ x ∈ ((perform s k).run m).2.trace, x.Clean)
    (hn : ∀ x ∈ ((perform s' k').run n).2.trace, x.Clean) :
    Report.Paired ρ Q (playStep perform ⟨s, m⟩ k).1 (playStep perform ⟨s', n⟩ k').1 ∧
      T ((perform s k).run m).1.2 ((perform s' k').run n).1.2 ∧
      Twin S ρ m n ((perform s k).run m).2 ((perform s' k').run n).2 := by
  obtain ⟨⟨hreply, hsession⟩, htwin⟩ := hstep m n h
  exact ⟨⟨hreply, htwin.events_eq hm hn, htwin.log_eq⟩, hsession, htwin⟩

end Script

namespace BufferScript

variable {S : Bytes → Bytes → Prop} {ρ : RegionId → RegionId} {m₀ n₀ : Machine} {s s' : Session}

/-- Two answers that differ in the bytes that they show, at most. -/
structure Answer.Paired (S : Bytes → Bytes → Prop) (a a' : Answer) : Prop where
  reply : a.reply.Paired S a'.reply
  out : OutPaired S a.reply a.out a'.out
  status : a'.status = a.status

/-- **An operation on the same slot of twins**, as a step of a script. -/
theorem perform_coupled (hS : Likeness S) (kind : PlatformKind) {k : Nat} {a a' : Action}
    (ha : a.Paired S a') (hpage : s'.page = s.page)
    (hslot : s'.slots.get? k = (s.slots.get? k).map (·.rename ρ)) :
    Coupled (Twin S ρ m₀ n₀) (fun y y' => Answer.Paired S y.1 y'.1 ∧ Session.Moved ρ k s s' y.2 y'.2)
      (perform kind s ⟨k, a⟩) (perform kind s' ⟨k, a'⟩) := by
  have hact := act_coupled (R := Twin S ρ m₀ n₀) hS kind ha hpage hslot (Twin.originates hS)
    fun h _ => Twin.unreserved hS h.region
  unfold perform
  refine hact.bind fun y y' hy => ?_
  obtain ⟨hreply, hout, hmoved⟩ := hy
  refine .pure ⟨⟨hreply, hout, ?_⟩, hmoved⟩
  -- what a buffer shows of itself does not tell its region
  rw [hmoved.slot hslot, Option.map_map]
  exact Option.map_congr fun b _ => b.status_rename ρ

end BufferScript

end SealedPages
