/-
  SealedPages.Version
  ───────────────────
  **THE VERSION OF THE LIBRARY,** which the C interface reports as well.
-/

namespace SealedPages

/-- The version of the library. -/
def version : String := "1.0.0"

end SealedPages
