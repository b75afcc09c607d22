/-!
# Urgent wake-ups of the exchange loop

A signal wakes the loop if it waits, and is stored otherwise. At most one signal is stored, so that
a waiting loop has at most two: the one that ends its wait, and one for the next.
-/

set_option autoImplicit false

namespace ManagedAgent

/-- Signals that the loop has not taken yet, and whether it waits for one. -/
structure Wakeup where
  waiting : Bool := false
  signals : Nat := 0
  deriving DecidableEq, Inhabited

namespace Wakeup

/-- A signal is there to be taken. -/
def isSignalled (w : Wakeup) : Bool := 0 < w.signals

def notify (w : Wakeup) : Wakeup :=
  { w with signals := min (w.signals + 1) (if w.waiting then 2 else 1) }

/-- The loop starts to wait. -/
def wait (w : Wakeup) : Wakeup := { w with waiting := true }

/-- The loop takes a signal, and waits no longer. -/
def take (w : Wakeup) : Wakeup := ⟨false, w.signals - 1⟩

/-- The loop stops waiting for another reason; a signal that it did not take stays stored. -/
def leave (w : Wakeup) : Wakeup := ⟨false, min w.signals 1⟩

end Wakeup

end ManagedAgent
