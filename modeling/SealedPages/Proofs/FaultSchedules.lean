/-
  SealedPages.Proofs.FaultSchedules
  ─────────────────────────────────
  **SCHEDULES OF FAULTS IN TWO RUNS.**  A schedule counts the calls of each target on its
  own, so a target that no fault is pending for does not count at all.  Two runs whose
  schedules differ can still be kept in step:

    * where they differ in the faults of best-effort calls only.  The others are essential,
      and they are counted by the other calls;
    * where the faults of calls are written as faults of the services that make the calls.
      A service makes exactly one call that can be made to fail.

  Main statements:
    * `Spares.fires_eq`, `Spares.tick_eq` — a target with no pending fault;
    * `fires_essential`, `essential_tick` — the faults of calls that decide something;
    * `Ported.fires_eq`, `Ported.tick` — calls and the services that make them.
-/
import SealedPages.Faults
import Mathlib.Data.List.Basic

namespace SealedPages

/-! ## §1. One target among others. -/

/-- A fault that comes closer stays the fault of its target. -/
theorem Fault.target_of_tick? {f f' : Fault} {t : Target} (h : f.tick? t = some f') :
    f'.target = f.target := by
  unfold tick? at h
  split at h
  · split at h
    · cases h
    · cases h
      rfl
  · cases h
    rfl

namespace Faults

/-- No fault of a target is pending. -/
def Spares (fs : Faults) (t : Target) : Prop :=
  ∀ f ∈ fs.pending, f.target ≠ t

variable {fs fs' : Faults} {t : Target}

theorem Spares.fires_eq (h : fs.Spares t) : fs.fires t = false := by
  rw [fires, Bool.eq_false_iff]
  intro hc
  exact h _ (List.contains_iff_mem.1 hc) rfl

/-- **Calls of a target that no fault is pending for** do not count. -/
theorem Spares.tick_eq (h : fs.Spares t) : fs.tick t = fs := by
  have hself : fs.pending.filterMap (fun f => f.tick? t) = fs.pending.filterMap some := by
    apply List.filterMap_congr
    intro f hf
    unfold Fault.tick?
    rw [if_neg (h f hf)]
  unfold tick
  rw [hself, List.filterMap_some]

/-- No call makes a fault of another target. -/
theorem mem_tick {f : Fault} (hf : f ∈ (fs.tick t).pending) :
    ∃ f₀ ∈ fs.pending, f.target = f₀.target := by
  obtain ⟨f₀, hf₀, htick⟩ := List.mem_filterMap.1 hf
  exact ⟨f₀, hf₀, Fault.target_of_tick? htick⟩

theorem Spares.tick (h : fs.Spares t) (u : Target) : (fs.tick u).Spares t := by
  intro f hf
  obtain ⟨f₀, hf₀, hsame⟩ := mem_tick hf
  rw [hsame]
  exact h f₀ hf₀

theorem Spares.schedule (h : fs.Spares t) {u : Target} (hu : u ≠ t) (places : List Nat) :
    (fs.schedule u places).Spares t := by
  intro f hf
  rcases List.mem_append.1 hf with hold | hnew
  · exact h f hold
  · obtain ⟨n, _, rfl⟩ := List.mem_map.1 hnew
    exact hu

end Faults

/-! ## §2. Faults of calls that decide something. -/

/-- Whether the verdict on a call is only logged. -/
def Target.isBestEffort : Target → Bool
  | madvise | munlock | unlock => true
  | _ => false

namespace Faults

/-- The faults of calls that decide something. -/
def essential (fs : Faults) : Faults :=
  ⟨fs.pending.filter fun f => !f.target.isBestEffort⟩

variable {t : Target}

theorem fires_essential (fs : Faults) (ht : t.isBestEffort = false) :
    fs.essential.fires t = fs.fires t := by
  rw [Bool.eq_iff_iff]
  simp only [fires, essential, List.contains_iff_mem, List.mem_filter]
  constructor
  · intro h
    exact h.1
  · intro h
    exact ⟨h, by simp [ht]⟩

/-- **A call counts for the essential faults** as it counts for all of them. -/
theorem essential_tick (fs : Faults) (t : Target) :
    (fs.tick t).essential = fs.essential.tick t := by
  apply congrArg Faults.mk
  show (fs.pending.filterMap _).filter _ = (fs.pending.filter _).filterMap _
  rw [List.filter_filterMap, List.filterMap_filter]
  apply List.filterMap_congr
  intro f _
  cases h : f.tick? t with
  | none => simp
  | some f' => simp [Option.filter, Fault.target_of_tick? h]

/-- **Calls that are best effort use up no essential fault.** -/
theorem essential_tick_of_isBestEffort (fs : Faults) (ht : t.isBestEffort = true) :
    (fs.tick t).essential = fs.essential := by
  rw [essential_tick]
  apply Spares.tick_eq
  intro f hf he
  have hkept := (List.mem_filter.1 hf).2
  rw [he, ht] at hkept
  cases hkept

theorem essential_schedule (fs : Faults) (t : Target) (places : List Nat) :
    (fs.schedule t places).essential =
      if t.isBestEffort then fs.essential else fs.essential.schedule t places := by
  unfold essential schedule
  rw [List.filter_append, List.filter_map]
  cases ht : t.isBestEffort with
  | true => simp [Function.comp_def, ht]
  | false => simp [Function.comp_def, ht]

end Faults

/-! ## §3. Faults of calls and faults of services. -/

/-- Whether a call is the one of some service that can be made to fail. -/
def Target.isServed : Target → Bool
  | posixMemalign | mlock | munlock | mprotect => true
  | _ => false

/-- The service that makes a call. -/
def Target.service : Target → Target
  | posixMemalign => allocate
  | mlock         => lock
  | munlock       => unlock
  | mprotect      => protect
  | t             => t

/-- No two calls are made by the same service. -/
theorem Target.service_eq_iff {t u : Target} (ht : t.isServed = true) (hu : u.isServed = true) :
    t.service = u.service ↔ t = u := by
  cases t <;> cases u <;> simp_all [isServed, service]

/-- A service is none of the calls. -/
theorem Target.isServed_service {t : Target} (ht : t.isServed = true) :
    t.service.isServed = false := by
  cases t <;> simp_all [isServed, service]

theorem Target.service_ne_madvise {t : Target} (ht : t.isServed = true) : t.service ≠ .madvise := by
  cases t <;> simp_all [isServed, service]

/-- The same fault, of the service. -/
def Fault.served (f : Fault) : Fault :=
  ⟨f.target.service, f.place⟩

theorem Fault.tick?_served {f : Fault} {t : Target} (hf : f.target.isServed = true)
    (ht : t.isServed = true) : f.served.tick? t.service = (f.tick? t).map Fault.served := by
  unfold tick?
  by_cases h : f.target = t
  · have h' : f.served.target = t.service := congrArg Target.service h
    rw [if_pos h, if_pos h']
    show (if f.place ≤ 1 then none else some _) = Option.map _ (if f.place ≤ 1 then none else some _)
    split
    · rfl
    · rfl
  · have h' : ¬ f.served.target = t.service := fun e => h ((Target.service_eq_iff hf ht).1 e)
    rw [if_neg h, if_neg h']
    rfl

namespace Faults

variable {fs fs' : Faults} {t : Target}

/-- **The faults `fs` of calls, and the faults `fs'` of the services that make them.** -/
structure Ported (fs fs' : Faults) : Prop where
  pending : fs'.pending = fs.pending.map Fault.served
  served : ∀ f ∈ fs.pending, f.target.isServed = true

namespace Ported

variable (h : fs.Ported fs')

include h

/-- A fault of a call fires where the one of its service does. -/
theorem fires_eq (ht : t.isServed = true) : fs'.fires t.service = fs.fires t := by
  rw [Bool.eq_iff_iff]
  simp only [fires, List.contains_iff_mem, h.pending, List.mem_map]
  constructor
  · intro hmem
    obtain ⟨f, hf, he⟩ := hmem
    obtain ⟨htarget, hplace⟩ := Fault.mk.inj he
    have htarget' := (Target.service_eq_iff (h.served f hf) ht).1 htarget
    rw [← htarget', ← hplace]
    exact hf
  · intro hmem
    exact ⟨⟨t, 1⟩, hmem, rfl⟩

theorem tick (ht : t.isServed = true) : (fs.tick t).Ported (fs'.tick t.service) where
  pending := by
    show fs'.pending.filterMap _ = (fs.pending.filterMap _).map _
    rw [h.pending, List.filterMap_map, List.map_filterMap]
    apply List.filterMap_congr
    intro f hf
    exact Fault.tick?_served (h.served f hf) ht
  served := by
    intro f hf
    obtain ⟨f₀, hf₀, hsame⟩ := mem_tick hf
    rw [hsame]
    exact h.served f₀ hf₀

theorem schedule (ht : t.isServed = true) (places : List Nat) :
    (fs.schedule t places).Ported (fs'.schedule t.service places) where
  pending := by
    simp only [Faults.schedule, h.pending, List.map_append, List.map_map]
    rfl
  served := by
    intro f hf
    rcases List.mem_append.1 hf with hold | hnew
    · exact h.served f hold
    · obtain ⟨n, _, rfl⟩ := List.mem_map.1 hnew
      exact ht

/-- Advice is never made to fail. -/
theorem spares_madvise : fs.Spares .madvise := by
  intro f hf he
  have hserved := h.served f hf
  rw [he] at hserved
  cases hserved

/-- No call of the second run is made to fail, only its services are. -/
theorem spares_call (ht : t.isServed = true ∨ t = .madvise) : fs'.Spares t := by
  intro f' hf' he
  rw [h.pending] at hf'
  obtain ⟨f, hf, rfl⟩ := List.mem_map.1 hf'
  have hserved := h.served f hf
  have htarget : f.target.service = t := he
  rcases ht with ht | rfl
  · rw [← htarget, Target.isServed_service hserved] at ht
    cases ht
  · exact Target.service_ne_madvise hserved htarget

end Ported

end Faults

end SealedPages
