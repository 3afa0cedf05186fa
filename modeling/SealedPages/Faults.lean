/-
  SealedPages.Faults
  ──────────────────
  **CALLS THAT ARE MADE TO FAIL.**  A fault names a call by its target and by
  its place among the coming calls of that target: 1 is the next one.  Every
  call of the target, whatever becomes of it, brings the target's faults one
  step closer; a fault at place 1 fires and is gone.

  Main statements:
    * `fires_tick_of_ne` — faults of one target say nothing about another.
-/

namespace SealedPages

/-- What a fault can be scheduled for: a call of the operating system, or a
service of a custom platform. -/
inductive Target where
  | posixMemalign
  | mlock
  | munlock
  | madvise
  | mprotect
  | allocate
  | lock
  | unlock
  | protect
  deriving DecidableEq

/-- A call that is to fail: the `place`-th coming call of `target`. -/
structure Fault where
  target : Target
  place : Nat
  deriving DecidableEq

/-- A fault after one call of `t`: one step closer if it is for `t`, and gone if
its place has come. -/
def Fault.tick? (f : Fault) (t : Target) : Option Fault :=
  if f.target = t then
    if f.place ≤ 1 then none else some ⟨f.target, f.place - 1⟩
  else some f

/-- The faults still to come. -/
structure Faults where
  pending : List Fault := []
  deriving DecidableEq

namespace Faults

/-- Add faults for a target, to those that are pending. -/
def schedule (fs : Faults) (t : Target) (places : List Nat) : Faults :=
  ⟨fs.pending ++ places.map fun n => ⟨t, n⟩⟩

/-- Whether the next call of a target is to fail. -/
def fires (fs : Faults) (t : Target) : Bool :=
  fs.pending.contains ⟨t, 1⟩

/-- The faults after one call of a target. -/
def tick (fs : Faults) (t : Target) : Faults :=
  ⟨fs.pending.filterMap fun f => f.tick? t⟩

/-- **A call of one target says nothing about another.** -/
theorem fires_tick_of_ne (fs : Faults) {t u : Target} (h : u ≠ t) :
    (fs.tick t).fires u = fs.fires u := by
  rw [Bool.eq_iff_iff]
  simp only [fires, tick, List.contains_iff_mem, List.mem_filterMap]
  constructor
  · rintro ⟨f, hf, ht⟩
    rw [Fault.tick?] at ht
    split at ht
    · rename_i hft
      split at ht
      · cases ht
      · exact absurd (Fault.mk.inj (Option.some.inj ht)).1 (fun e => h (e ▸ hft))
    · exact Option.some.inj ht ▸ hf
  · intro hf
    exact ⟨⟨u, 1⟩, hf, by simp [Fault.tick?, h]⟩

end Faults

end SealedPages
