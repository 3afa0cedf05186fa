/-
  SealedPages.Log
  ───────────────
  **LOG LINES.**  A line says what happened as a value; its level and its words
  are functions of it.  Where a region lies in memory is no part of a line: an
  address is written `<addr>`.

  A refusal is a warning, with two exceptions that are errors: the pages of a
  buffer could not be closed again after an access, and the pages of a buffer
  could not be opened to be wiped, so that they are given up.
-/
import SealedPages.Error
import SealedPages.Trace

namespace SealedPages

/-- How grave a log line is. -/
inductive Level where
  | error
  | warn
  | debug
  deriving DecidableEq

def Level.text : Level → String
  | error => "ERROR"
  | warn  => "WARN"
  | debug => "DEBUG"

/-- What a log line says. -/
inductive LogLine where
  /-- A buffer of `size` bytes was made from a region of `capacity` bytes. -/
  | created (region : RegionId) (size capacity : UInt64)
  | allocationRefused (capacity : UInt64)
  | lockRefused (region : RegionId) (capacity : UInt64)
  | unlockRefused (region : RegionId)
  /-- The pages of a new buffer could not be closed. -/
  | sealRefused (region : RegionId)
  /-- The pages could not be opened for an access. -/
  | grantRefused (region : RegionId)
  /-- The pages could not be closed after an access; the buffer is destroyed. -/
  | revokeRefused (region : RegionId)
  /-- The pages could not be opened to be wiped; they are given up. -/
  | abandoned (region : RegionId) (capacity : UInt64)
  | destroyed (region : RegionId)
  /-- An advice on core dumps was not taken. -/
  | adviceRefused (span : Span) (advice : Advice)
  /-- The C interface could not create a buffer. -/
  | handleRefused (size : UInt64) (error : BufferError)
  deriving DecidableEq

namespace LogLine

def level : LogLine → Level
  | created ..           => .debug
  | allocationRefused .. => .warn
  | lockRefused ..       => .warn
  | unlockRefused ..     => .warn
  | sealRefused ..       => .warn
  | grantRefused ..      => .warn
  | revokeRefused ..     => .error
  | abandoned ..         => .error
  | destroyed ..         => .debug
  | adviceRefused ..     => .warn
  | handleRefused ..     => .debug

def message : LogLine → String
  | created _ size capacity =>
      s!"created secure buffer of {size} bytes ({capacity} allocated) at <addr>"
  | allocationRefused capacity => s!"failed to allocate {capacity} bytes of secure memory"
  | lockRefused _ capacity => s!"failed to lock {capacity} bytes of secure memory in RAM"
  | unlockRefused _ => "failed to unlock secure memory at <addr>"
  | sealRefused _   => "failed to protect secure memory at <addr>"
  | grantRefused _  => "failed to unprotect secure memory at <addr>"
  | revokeRefused _ => "failed to restore protection of secure memory at <addr>, destroying"
  | abandoned _ capacity =>
      s!"failed to unprotect secure memory at <addr>, leaking {capacity} bytes"
  | destroyed _ => "destroyed secure buffer at <addr>"
  | adviceRefused s a => s!"madvise({a.number}) failed for {s.len} bytes at <addr>"
  | handleRefused size e => s!"lseco_create({size}) failed: {e}"

/-- The line as it is written. -/
def text (l : LogLine) : String :=
  s!"{l.level.text} {l.message}"

end LogLine

end SealedPages
