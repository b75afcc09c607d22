/-!
# Tables: the latest value per key

`get?_insert` and `get?_erase` say what a table holds after a change.
-/

set_option autoImplicit false

namespace ManagedAgent

/-- The latest value per key. -/
structure Table (κ α : Type) where
  entries : List (κ × α) := []
  deriving DecidableEq

namespace Table
variable {κ α : Type} [DecidableEq κ]

instance : Inhabited (Table κ α) := ⟨{}⟩

def get? (t : Table κ α) (k : κ) : Option α := t.entries.lookup k

/-- Put an entry in the place of the one with its key, or at the end. -/
def put (k : κ) (a : α) : List (κ × α) → List (κ × α)
  | [] => [(k, a)]
  | (k', a') :: rest => if k = k' then (k, a) :: rest else (k', a') :: put k a rest

def insert (t : Table κ α) (k : κ) (a : α) : Table κ α := ⟨put k a t.entries⟩

theorem lookup_put (k : κ) (a : α) (l : List (κ × α)) (q : κ) :
    (put k a l).lookup q = if q = k then some a else l.lookup q := by
  induction l with
  | nil =>
    by_cases h : q = k
    · simp [put, h]
    · simp [put, List.lookup_cons, beq_false_of_ne h, h]
  | cons x rest ih =>
    obtain ⟨k', a'⟩ := x
    unfold put
    by_cases hk : k = k'
    · subst hk
      by_cases h : q = k
      · simp [h]
      · simp [List.lookup_cons, beq_false_of_ne h, h]
    · rw [if_neg hk, List.lookup_cons, List.lookup_cons, ih]
      by_cases h : q = k'
      · subst h
        simp [Ne.symm hk]
      · simp [beq_false_of_ne h]

@[simp] theorem get?_insert (t : Table κ α) (k : κ) (a : α) (q : κ) :
    (t.insert k a).get? q = if q = k then some a else t.get? q :=
  lookup_put k a t.entries q

/-- Drop the entry of a key. -/
def erase (t : Table κ α) (k : κ) : Table κ α := ⟨t.entries.filter (·.1 ≠ k)⟩

theorem lookup_filter_ne (k : κ) (l : List (κ × α)) (q : κ) :
    (l.filter (·.1 ≠ k)).lookup q = if q = k then none else l.lookup q := by
  induction l with
  | nil => simp
  | cons x rest ih =>
    obtain ⟨k', a'⟩ := x
    by_cases hk : k' = k
    · subst hk
      rw [List.filter_cons_of_neg (by simp), ih, List.lookup_cons]
      by_cases h : q = k'
      · simp [h]
      · simp [h, beq_false_of_ne h]
    · rw [List.filter_cons_of_pos (by simpa using hk), List.lookup_cons, List.lookup_cons, ih]
      by_cases h : q = k'
      · subst h
        simp [hk]
      · simp [beq_false_of_ne h]

@[simp] theorem get?_erase (t : Table κ α) (k q : κ) :
    (t.erase k).get? q = if q = k then none else t.get? q :=
  lookup_filter_ne k t.entries q

@[simp] theorem get?_empty (q : κ) : ({} : Table κ α).get? q = none := rfl

end Table

end ManagedAgent
