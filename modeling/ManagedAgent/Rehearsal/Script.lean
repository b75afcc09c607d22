/-!
# Scripts

A script says in advance what will come, one entry each time; its last entry is repeated.

* `next_singleton` : the last entry stays;
* `isEmpty_next` : a script does not run out.
-/

set_option autoImplicit false

namespace ManagedAgent

structure Script (α : Type) where
  entries : List α := []
  deriving Inhabited

namespace Script
variable {α : Type}

/-- The next entry, and the script from then on. An empty script has none. -/
def next (s : Script α) : Option α × Script α :=
  match s.entries with
  | [] => (none, s)
  | [a] => (some a, s)
  | a :: rest => (some a, ⟨rest⟩)

theorem next_singleton (a : α) : (Script.mk [a]).next = (some a, ⟨[a]⟩) := rfl

theorem isEmpty_next (s : Script α) : s.next.2.entries.isEmpty = s.entries.isEmpty := by
  obtain ⟨entries⟩ := s
  match entries with
  | [] => rfl
  | [_] => rfl
  | _ :: _ :: _ => rfl

end Script

end ManagedAgent
