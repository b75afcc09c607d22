/-!
# A slot for one run at a time

A `Slot` lets one payload run and remembers at most one more, the newest that was offered
meanwhile. An offer of the payload that runs already clears the one that waits, since the newest
wish is then under way.

* `offer_idle`, `offer_busy` : an offer starts a run exactly when the slot is idle;
* `finish_finish` : after a waiting payload was taken over, none waits.
-/

set_option autoImplicit false

namespace ManagedAgent

inductive Slot (α : Type) where
  | idle
  | running (current : α)
  | runningThen (current waiting : α)
  deriving DecidableEq, Inhabited

namespace Slot
variable {α : Type}

def current? : Slot α → Option α
  | .idle => none
  | .running a => some a
  | .runningThen a _ => some a

/-- The payload that runs next. -/
def waiting? : Slot α → Option α
  | .runningThen _ b => some b
  | _ => none

/-- Offer a payload; the answer is the payload if a run of it has to start now. -/
def offer [DecidableEq α] (s : Slot α) (a : α) : Slot α × Option α :=
  match s.current? with
  | none => (.running a, some a)
  | some c => if c = a then (.running c, none) else (.runningThen c a, none)

/-- The run is over; the answer is the payload that runs next. -/
def finish (s : Slot α) : Slot α × Option α :=
  match s.waiting? with
  | some b => (.running b, some b)
  | none => (.idle, none)

theorem current?_eq_none {s : Slot α} : s.current? = none ↔ s = .idle := by
  cases s <;> simp [current?]

theorem offer_idle [DecidableEq α] {s : Slot α} (h : s.current? = none) (a : α) :
    s.offer a = (.running a, some a) := by
  rw [offer, h]

/-- While a payload runs, an offer waits, or clears what waits. -/
theorem offer_busy [DecidableEq α] {s : Slot α} {c : α} (h : s.current? = some c) (a : α) :
    s.offer a = (if c = a then .running c else .runningThen c a, none) := by
  rw [offer, h]
  dsimp only
  split <;> rfl

theorem finish_finish (s : Slot α) : s.finish.1.finish.2 = none := by
  cases s <;> rfl

end Slot

end ManagedAgent
