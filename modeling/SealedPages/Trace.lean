/-
  SealedPages.Trace
  ─────────────────
  **WHAT HAPPENED TO THE PAGES, IN ORDER.**  Three kinds of event are kept:

    * `SystemCall`  — a call of the operating system, with its outcome;
    * `ServiceCall` — a call of a platform's service, with its outcome;
    * `Touch`       — bytes of a region copied in, copied out or wiped.

  A `Moment` is an event together with the memory that it met, so that a
  statement about "every wipe" or "every free" can speak of the region as it
  was right then.  A `View` chooses which events are written out.
-/
import SealedPages.Memory

namespace SealedPages

/-! ## §1. Events. -/

/-- How a call that can be refused ended. -/
inductive Verdict where
  | granted
  | refused
  deriving DecidableEq

/-- The advice on what a core dump holds. -/
inductive Advice where
  /-- Leave the pages out. -/
  | dontDump
  /-- Take the pages in again. -/
  | doDump
  deriving DecidableEq

/-- The number by which the operating system knows an advice. -/
def Advice.number : Advice → Nat
  | dontDump => 16
  | doDump   => 17

/-- A call of the operating system. -/
inductive SystemCall where
  /-- Ask for `len` bytes at a multiple of `align`; `made` is the new region. -/
  | posixMemalign (align len : UInt64) (made : Option RegionId)
  | mlock (span : Span) (verdict : Verdict)
  | munlock (span : Span) (verdict : Verdict)
  | madvise (span : Span) (advice : Advice) (verdict : Verdict)
  | mprotect (span : Span) (mode : Protection) (verdict : Verdict)
  /-- Hand a region back; `nonzero` of its bytes were not zero. -/
  | free (region : RegionId) (nonzero : Nat)
  deriving DecidableEq

/-- A call of a platform's service. -/
inductive ServiceCall where
  | pageSize (value : UInt64)
  | allocate (len : UInt64) (made : Option RegionId)
  /-- Hand a region back; `nonzero` of its bytes were not zero. -/
  | release (span : Span) (nonzero : Nat)
  | lock (span : Span) (verdict : Verdict)
  | unlock (span : Span) (verdict : Verdict)
  | protect (span : Span) (mode : Protection) (verdict : Verdict)
  | wipe (span : Span)
  deriving DecidableEq

/-- An access to the bytes of a region. -/
inductive Touch where
  | copyIn (span : Span)
  | copyOut (span : Span)
  | wipe (span : Span)
  deriving DecidableEq

/-- The part of a region that is touched. -/
def Touch.span : Touch → Span
  | copyIn s  => s
  | copyOut s => s
  | wipe s    => s

/-- Something that happened to the pages. -/
inductive Event where
  | system (call : SystemCall)
  | service (call : ServiceCall)
  | touch (touch : Touch)
  deriving DecidableEq

/-- An event and the memory that it met. -/
structure Moment where
  memory : Memory
  event : Event

/-! ## §2. Events in words. -/

/-- An address as it is written: the region, and how far into it. -/
def Span.address (s : Span) : String :=
  if s.off = 0 then s!"r{s.region}" else s!"r{s.region}+{s.off}"

def Verdict.text : Verdict → String
  | granted => "ok"
  | refused => "err"

def Protection.text : Protection → String
  | noAccess  => "none"
  | readWrite => "rw"

/-- What came of asking for a region. -/
def madeText : Option RegionId → String
  | some id => s!"r{id}"
  | none    => Verdict.refused.text

def SystemCall.text : SystemCall → String
  | posixMemalign align len made => s!"posix_memalign {align} {len} {madeText made}"
  | mlock s v      => s!"mlock {s.address} {s.len} {v.text}"
  | munlock s v    => s!"munlock {s.address} {s.len} {v.text}"
  | madvise s a v  => s!"madvise {s.address} {s.len} {a.number} {v.text}"
  | mprotect s m v => s!"mprotect {s.address} {s.len} {m.text} {v.text}"
  | free id k      => s!"free r{id} nonzero={k}"

def ServiceCall.text : ServiceCall → String
  | pageSize value    => s!"page_size {value}"
  | allocate len made => s!"allocate {len} {madeText made}"
  | release s k       => s!"release {s.address} {s.len} nonzero={k}"
  | lock s v          => s!"lock {s.address} {s.len} {v.text}"
  | unlock s v        => s!"unlock {s.address} {s.len} {v.text}"
  | protect s m v     => s!"protect {s.address} {s.len} {m.text} {v.text}"
  | wipe s            => s!"wipe {s.address} {s.len}"

/-! ## §3. Views. -/

/-- Which side of a platform is looked at. -/
inductive View where
  /-- The calls of the operating system. -/
  | systemCalls
  /-- The calls of the platform's services. -/
  | serviceCalls
  deriving DecidableEq

/-- The words for an event, where the view shows it. -/
def Event.text? : View → Event → Option String
  | .systemCalls,  .system c  => some c.text
  | .serviceCalls, .service c => some c.text
  | _, _ => none

/-- The events of a view, in words. -/
def View.texts (v : View) (moments : List Moment) : List String :=
  moments.filterMap fun m => m.event.text? v

end SealedPages
