/-!
# Numbers of reports

A `Sequence` hands out 0, 1, 2 and so on; after `2 ^ 64` numbers it starts again.
-/

set_option autoImplicit false

namespace ManagedAgent

/-- How many numbers have been handed out. -/
structure Sequence where
  issued : UInt64 := 0
  deriving DecidableEq, Inhabited

def Sequence.next (s : Sequence) : UInt64 × Sequence := (s.issued, ⟨s.issued + 1⟩)

end ManagedAgent
