/-
  SealedPages.Proofs.Lifecycle
  ────────────────────────────
  **THE LIFE OF A REGION, AS A LANGUAGE OF CALLS.**  The calls that name one
  region are read as a word over the events of a run.  Which words can occur is
  said by a regular expression, `Spelling.life`:

      made, then wiped, then
        pinning refused:   handed back
        pinning granted:
          closing refused: unpinned, handed back
          closing granted: any number of accesses, then an ending

  A `Spelling` says which calls stand for each of these actions.  There are two:
  in the calls of the operating system, and in the services of a platform.

  Main statements:
    * `life_eq_returned_add_givenUp` — a life is over with the region handed back,
      or with the region given up;
    * `resting_mul_access_le` — an access leaves the pages where the next one starts.
-/
import SealedPages.Trace
import Mathlib.Computability.Language
import Mathlib.Order.CompletePartialOrder
import Mathlib.Tactic.Abel

namespace SealedPages

open Computability

/-! ## §1. The region that an event names. -/

/-- The region that a call of the operating system names. -/
def SystemCall.region? : SystemCall → Option RegionId
  | posixMemalign _ _ made => made
  | mlock s _      => some s.region
  | munlock s _    => some s.region
  | madvise s _ _  => some s.region
  | mprotect s _ _ => some s.region
  | free id _      => some id

/-- The region that a call of a service names. -/
def ServiceCall.region? : ServiceCall → Option RegionId
  | pageSize _      => none
  | allocate _ made => made
  | release s _     => some s.region
  | lock s _        => some s.region
  | unlock s _      => some s.region
  | protect s _ _   => some s.region
  | wipe s          => some s.region

/-- The region that an event names. -/
def Event.region? : Event → Option RegionId
  | system c  => c.region?
  | service c => c.region?
  | touch t   => some t.span.region

/-- Whether a view shows an event. -/
def View.shows (v : View) (e : Event) : Bool :=
  (Event.text? v e).isSome

/-- The events of a run that name a region, in order. -/
def eventsOn (id : RegionId) (t : List Moment) : List Event :=
  (t.map (·.event)).filter fun e => e.region? == some id

/-- The calls of a run that name a region, as far as the view shows them. -/
def View.callsOn (v : View) (id : RegionId) (t : List Moment) : List Event :=
  (eventsOn id t).filter v.shows

theorem eventsOn_append (id : RegionId) (xs ys : List Moment) :
    eventsOn id (xs ++ ys) = eventsOn id xs ++ eventsOn id ys := by
  simp [eventsOn]

theorem View.callsOn_append (v : View) (id : RegionId) (xs ys : List Moment) :
    v.callsOn id (xs ++ ys) = v.callsOn id xs ++ v.callsOn id ys := by
  simp [callsOn, eventsOn_append]

/-- Events that name other regions leave no mark. -/
theorem eventsOn_eq_nil {id : RegionId} {t : List Moment}
    (h : ∀ x ∈ t, x.event.region? ≠ some id) : eventsOn id t = [] := by
  unfold eventsOn
  rw [List.filter_eq_nil_iff]
  intro e he
  obtain ⟨x, hx, rfl⟩ := List.mem_map.1 he
  simpa using h x hx

/-! ## §2. Spelling the actions on a region. -/

/-- The calls that stand for each action on one region of `L` bytes. -/
structure Spelling where
  /-- The region is made, under pages of a given size. -/
  allocate : UInt64 → Language Event
  wipe : Language Event
  lock : Verdict → Language Event
  unlock : Language Event
  protect : Protection → Verdict → Language Event
  release : Language Event

/-- A single call, whatever its verdict. -/
def eitherWay (call : Verdict → Event) : Language Event :=
  {word | ∃ v, word = [call v]}

/-- A single call, whatever it reports. -/
def reporting (call : Nat → Event) : Language Event :=
  {word | ∃ k, word = [call k]}

/-- The actions in the calls of the operating system.  Pinned pages get an advice,
and before they are unpinned it is taken back; wiping is no call. -/
def Spelling.system (id : RegionId) (L : UInt64) : Spelling where
  allocate page := {[.system (.posixMemalign page L (some id))]}
  wipe := 1
  lock
    | .granted => {[.system (.mlock (.front id L) .granted)]} *
        eitherWay fun v => .system (.madvise (.front id L) .dontDump v)
    | .refused => {[.system (.mlock (.front id L) .refused)]}
  unlock := (eitherWay fun v => .system (.madvise (.front id L) .doDump v)) *
    eitherWay fun v => .system (.munlock (.front id L) v)
  protect mode v := {[.system (.mprotect (.front id L) mode v)]}
  release := reporting fun k => .system (.free id k)

/-- The actions in the services of a platform: one for each. -/
def Spelling.services (id : RegionId) (L : UInt64) : Spelling where
  allocate _ := {[.service (.allocate L (some id))]}
  wipe := {[.service (.wipe (.front id L))]}
  lock v := {[.service (.lock (.front id L) v)]}
  unlock := eitherWay fun v => .service (.unlock (.front id L) v)
  protect mode v := {[.service (.protect (.front id L) mode v)]}
  release := reporting fun k => .service (.release (.front id L) k)

/-- The actions as a view shows them. -/
def View.spelling : View → RegionId → UInt64 → Spelling
  | systemCalls  => Spelling.system
  | serviceCalls => Spelling.services

/-! ## §3. The life of a region. -/

namespace Spelling

variable (w : Spelling) (page : UInt64)

/-- An access to closed pages: they do not open, or they open and close again. -/
def access : Language Event :=
  w.protect .readWrite .refused + w.protect .readWrite .granted * w.protect .noAccess .granted

/-- Open pages are wiped, unpinned and handed back. -/
def erasing : Language Event :=
  w.wipe * w.unlock * w.release

/-- The end of closed pages: they are opened and erased; or they do not open and are
given up; or an access opens them, cannot close them and erases them. -/
def ending : Language Event :=
  w.protect .readWrite .granted * w.erasing +
  w.protect .readWrite .refused +
  w.protect .readWrite .granted * w.protect .noAccess .refused * w.erasing

/-- **The life of a region**, from being made to the last call that names it. -/
def life : Language Event :=
  w.allocate page * w.wipe *
    (w.lock .refused * w.release +
     w.lock .granted *
      (w.protect .noAccess .refused * w.unlock * w.release +
       w.protect .noAccess .granted * w.access∗ * w.ending))

/-! ## §4. Parts of a life. -/

/-- A creation that succeeds: the pages end up zero, pinned and closed. -/
def opening : Language Event :=
  w.allocate page * w.wipe * w.lock .granted * w.protect .noAccess .granted

/-- The life so far of pages that are at rest. -/
def resting : Language Event :=
  w.opening page * w.access∗

/-- A life that is over with the region handed back. -/
def returned : Language Event :=
  -- a creation that failed to pin or to close
  w.allocate page * w.wipe * w.lock .refused * w.release +
  w.allocate page * w.wipe * w.lock .granted * w.protect .noAccess .refused *
    (w.unlock * w.release) +
  -- a buffer that was destroyed, or erased by an access that could not close
  w.resting page * (w.protect .readWrite .granted * w.erasing) +
  w.resting page * (w.protect .readWrite .granted * w.protect .noAccess .refused * w.erasing)

/-- A life that is over with the region given up. -/
def givenUp : Language Event :=
  w.resting page * w.protect .readWrite .refused

/-- **A life is over in one of two ways**: handed back, or given up. -/
theorem life_eq_returned_add_givenUp : w.life page = w.returned page + w.givenUp page := by
  unfold life returned givenUp resting opening ending
  -- multiplied out, both sides are the same five summands
  simp only [mul_add, mul_assoc]
  abel

/-- **After an access the pages are at rest again.** -/
theorem resting_mul_access_le : w.resting page * w.access ≤ w.resting page := by
  unfold resting
  rw [mul_assoc]
  exact mul_le_mul_right kstar_mul_le_kstar _

/-- A new buffer's pages are at rest. -/
theorem opening_le_resting : w.opening page ≤ w.resting page := by
  intro word h
  have hnil := Language.append_mem_mul h (Language.nil_mem_kstar w.access)
  rwa [List.append_nil] at hnil

end Spelling

end SealedPages
