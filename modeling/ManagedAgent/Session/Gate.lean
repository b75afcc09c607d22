/-!
# A gate that one may pass at a time

Who finds the gate closed queues up. The gate is handed to those that queue in the order in which
they came.

* `enter_fst` : one gets in at once exactly when nobody is inside;
* `holder_exit` : the first in the queue is next.
-/

set_option autoImplicit false

namespace ManagedAgent

structure Gate (α : Type) where
  holder : Option α := none
  queue : List α := []
  deriving DecidableEq, Inhabited

namespace Gate
variable {α : Type}

/-- Get in or queue up. The answer says whether one is in. -/
def enter (g : Gate α) (a : α) : Bool × Gate α :=
  if g.holder.isNone then (true, { g with holder := some a })
  else (false, { g with queue := g.queue ++ [a] })

/-- Get out. The answer is who is in next. -/
def exit (g : Gate α) : Option α × Gate α :=
  match g.queue with
  | [] => (none, {})
  | a :: queue => (some a, ⟨some a, queue⟩)

/-- Get out, or give up the place in the queue. -/
def leave [DecidableEq α] (g : Gate α) (a : α) : Option α × Gate α :=
  if g.holder = some a then g.exit else (none, { g with queue := g.queue.filter (· ≠ a) })

theorem enter_fst (g : Gate α) (a : α) : (g.enter a).1 = g.holder.isNone := by
  unfold enter; split <;> rename_i h <;> simp [h]

theorem holder_exit (g : Gate α) : g.exit.2.holder = g.queue.head? := by
  unfold exit; cases g.queue <;> rfl

end Gate

end ManagedAgent
