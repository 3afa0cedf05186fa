/-
  SealedPages.Proofs.Warden
  ─────────────────────────
  **A STRICT LOOK AT A RUN.**  The warden reads the events of a run and knows of
  each region three things: its length, its protection, and whether it is live.
  Of the operating system it assumes only that

    * a fresh region is accessible,
    * a granted change of protection sets the protection,
    * a refused one leaves it as it was.

  It stops the run at the first touch or hand-back of a region that is not live,
  not open, or too short.

  Main statements:
    * `protection_of_watch` — the protection that the warden knows is the mode of
      the last granted change, or open where there was none;
    * `areas_*` — what each change of the memory is to the warden.
-/
import SealedPages.Trace
import Mathlib.Data.List.Induction
import Mathlib.Logic.Function.Basic

namespace SealedPages

/-! ## §1. What the warden knows. -/

/-- What is known of a region. -/
structure Area where
  length : Nat
  protection : Protection
  live : Bool

/-- Whether `len` bytes from `first` on may be touched. -/
def Area.admits (a : Area) (first len : Nat) : Bool :=
  a.live && decide (a.protection = .readWrite) && decide (first + len ≤ a.length)

/-- What is known of every region. -/
abbrev Warden := RegionId → Option Area

namespace Warden

/-- Nothing is made yet. -/
def blank : Warden :=
  fun _ => none

/-- Read an event, or stop the run at it. -/
def step (g : Warden) : Event → Option Warden
  -- a number is given out once
  | .system (.posixMemalign _ len (some id)) =>
      match g id with
      | none   => some (Function.update g id (some ⟨len.toNat, .readWrite, true⟩))
      | some _ => none
  -- no protection is set on what was never made
  | .system (.mprotect s mode .granted) =>
      match g s.region with
      | some a => some (Function.update g s.region (some { a with protection := mode }))
      | none   => none
  | .system (.free id _) =>
      match g id with
      | some a =>
          if a.admits 0 0 then some (Function.update g id (some { a with live := false })) else none
      | none   => none
  -- a touch changes nothing that is known
  | .touch t =>
      match g t.span.region with
      | some a => if a.admits t.span.off.toNat t.span.len.toNat then some g else none
      | none   => none
  | _ => some g

section

variable {g : Warden} {a : Area}

theorem step_posixMemalign (align len : UInt64) {id : RegionId} (h : g id = none) :
    g.step (.system (.posixMemalign align len (some id))) =
      some (Function.update g id (some ⟨len.toNat, .readWrite, true⟩)) := by
  simp only [step, h]

theorem step_mprotect {s : Span} (mode : Protection) (h : g s.region = some a) :
    g.step (.system (.mprotect s mode .granted)) =
      some (Function.update g s.region (some { a with protection := mode })) := by
  simp only [step, h]

theorem step_free {id : RegionId} (k : Nat) (h : g id = some a) (ha : a.admits 0 0 = true) :
    g.step (.system (.free id k)) =
      some (Function.update g id (some { a with live := false })) := by
  simp only [step, h, ha, if_true]

theorem step_touch {t : Touch} (h : g t.span.region = some a)
    (ha : a.admits t.span.off.toNat t.span.len.toNat = true) : g.step (.touch t) = some g := by
  simp only [step, h, ha, if_true]

end

/-- Read the events of a run. -/
def watch (g : Warden) : List Moment → Option Warden
  | [] => some g
  | x :: rest => (g.step x.event).bind fun g' => watch g' rest

theorem watch_append (g : Warden) (xs ys : List Moment) :
    g.watch (xs ++ ys) = (g.watch xs).bind fun g' => g'.watch ys := by
  induction xs generalizing g with
  | nil => rfl
  | cons x xs ih =>
      show (g.step x.event).bind (fun g' => g'.watch (xs ++ ys)) =
        ((g.step x.event).bind fun g' => g'.watch xs).bind fun g' => g'.watch ys
      cases g.step x.event with
      | none => rfl
      | some g' => exact ih g'

/-- Events that tell the warden nothing. -/
theorem watch_eq_self {g : Warden} {t : List Moment} (h : ∀ x ∈ t, g.step x.event = some g) :
    g.watch t = some g := by
  induction t with
  | nil => rfl
  | cons x rest ih =>
      show (g.step x.event).bind _ = _
      rw [h x List.mem_cons_self]
      exact ih fun y hy => h y (List.mem_cons_of_mem x hy)

end Warden

/-! ## §2. The last granted change of protection. -/

/-- The protection that an event sets on a region. -/
def Event.sets? (id : RegionId) : Event → Option Protection
  | .system (.mprotect s mode .granted) => if s.region = id then some mode else none
  | _ => none

/-- The protection of a region after a run: open when it is made, and then the mode
of the last granted change. -/
def protectionAfter (id : RegionId) (t : List Moment) : Protection :=
  ((t.filterMap (·.event.sets? id)).getLast?).getD .readWrite

theorem protectionAfter_snoc (id : RegionId) (t : List Moment) (x : Moment) :
    protectionAfter id (t ++ [x]) = (x.event.sets? id).getD (protectionAfter id t) := by
  unfold protectionAfter
  rw [List.filterMap_append]
  cases h : x.event.sets? id with
  | none => simp [h]
  | some mode => simp [h]

namespace Warden

/-- The protection that is known of a region; one that is not made yet would be open. -/
def protection (g : Warden) (id : RegionId) : Protection :=
  match g id with
  | some a => a.protection
  | none   => .readWrite

theorem protection_update_self (g : Warden) (id : RegionId) (a : Area) :
    protection (Function.update g id (some a)) id = a.protection := by
  simp [protection]

theorem protection_update_of_ne (g : Warden) {id other : RegionId} (a : Option Area)
    (h : id ≠ other) : protection (Function.update g other a) id = g.protection id := by
  unfold protection
  rw [Function.update_of_ne h]

/-- What one event does to the protection that is known. -/
theorem protection_step {g g' : Warden} {e : Event} (h : g.step e = some g') (id : RegionId) :
    g'.protection id = (e.sets? id).getD (g.protection id) := by
  unfold step at h
  split at h
  · -- a region is made, under a number that nothing was known of
    rename_i align len made
    split at h
    · rename_i hfresh
      cases h
      by_cases hid : id = made
      · subst hid
        have hopen : g.protection id = .readWrite := by
          unfold protection
          rw [hfresh]
        rw [protection_update_self]
        exact hopen.symm
      · exact protection_update_of_ne g _ hid
    · cases h
  · -- a change of protection is granted
    rename_i s mode
    split at h
    · cases h
      by_cases hid : id = s.region
      · subst hid
        rw [protection_update_self, Event.sets?, if_pos rfl]
        rfl
      · rw [protection_update_of_ne g _ hid, Event.sets?, if_neg fun e => hid e.symm]
        rfl
    · cases h
  · -- a region is handed back, with the protection it has
    rename_i made k
    split at h
    · rename_i a ha
      split at h
      · cases h
        by_cases hid : id = made
        · subst hid
          have hsame : g.protection id = a.protection := by
            unfold protection
            rw [ha]
          rw [protection_update_self]
          exact hsame.symm
        · exact protection_update_of_ne g _ hid
      · cases h
    · cases h
  · -- bytes are touched
    split at h
    · split at h
      · cases h
        rfl
      · cases h
    · cases h
  · -- nothing the warden looks at
    rename_i hnot _ _
    cases h
    have hsets : e.sets? id = none := by
      unfold Event.sets?
      split
      · exact absurd rfl (hnot _ _)
      · rfl
    rw [hsets]
    rfl

/-- **The protection that is known is the one that the calls have set.** -/
theorem protection_of_watch {t : List Moment} {g : Warden} (h : blank.watch t = some g)
    (id : RegionId) : g.protection id = protectionAfter id t := by
  induction t using List.reverseRecOn generalizing g with
  | nil =>
      cases h
      rfl
  | append_singleton t x ih =>
      rw [watch_append] at h
      obtain ⟨g₀, ht, hx⟩ := Option.bind_eq_some_iff.1 h
      obtain ⟨g₁, hstep, hg⟩ := Option.bind_eq_some_iff.1 hx
      cases hg
      rw [protectionAfter_snoc, protection_step hstep, ih ht]

end Warden

/-! ## §3. What a memory is to the warden. -/

/-- What is known of a region in memory. -/
def Region.area (r : Region) : Area :=
  ⟨r.bytes.length, r.protection, r.live⟩

namespace Memory

/-- What is known of the regions of a memory. -/
def areas (m : Memory) : Warden :=
  fun id => (m.find? id).map Region.area

theorem areas_grow (m : Memory) (r : Region) :
    (m.grow r).areas = Function.update m.areas m.nextId (some r.area) := by
  funext id
  by_cases h : id = m.nextId
  · subst h
    simp [areas, find?_grow_self]
  · rw [Function.update_of_ne h]
    unfold areas
    rw [find?_grow_of_ne m r h]

/-- A change of one region is known at its number alone. -/
theorem areas_update (m : Memory) (id : RegionId) (f : Region → Region) :
    (m.update id f).areas =
      Function.update m.areas id ((m.find? id).map fun r => (f r).area) := by
  funext other
  unfold areas
  rw [find?_update]
  by_cases h : other = id
  · subst h
    simp [Function.comp_def]
  · rw [if_neg h, Function.update_of_ne h]

/-- A change that keeps length, protection and liveness is not known at all. -/
theorem areas_update_of_area_eq (m : Memory) (id : RegionId) {f : Region → Region}
    (h : ∀ r, (f r).area = r.area) : (m.update id f).areas = m.areas := by
  rw [areas_update]
  simp only [h]
  exact Function.update_eq_self id m.areas

theorem areas_setPinned (m : Memory) (id : RegionId) (pinned : Bool) :
    (m.setPinned id pinned).areas = m.areas :=
  m.areas_update_of_area_eq id fun _ => rfl

theorem areas_wipe (m : Memory) (s : Span) : (m.wipe s).areas = m.areas :=
  m.areas_update_of_area_eq s.region fun r => by simp [Region.area]

theorem areas_write (m : Memory) (s : Span) (data : Bytes) : (m.write s data).areas = m.areas :=
  m.areas_update_of_area_eq s.region fun r => by simp [Region.area]

/-- What is known of a region that is found. -/
theorem areas_of_find? {m : Memory} {id : RegionId} {r : Region} (h : m.find? id = some r) :
    m.areas id = some r.area := by
  unfold areas
  rw [h]
  rfl

/-- A region that is known of can be changed. -/
theorem areas_update_of_find? {m : Memory} {id : RegionId} {r : Region} (f : Region → Region)
    (h : m.find? id = some r) :
    (m.update id f).areas = Function.update m.areas id (some (f r).area) := by
  rw [areas_update, h]
  rfl

end Memory

end SealedPages
