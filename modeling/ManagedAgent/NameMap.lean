/-!
# Maps keyed by name, in name order

A `NameMap` holds its entries strictly sorted by name, so that two maps with the same content are
equal and a walk over `entries` is in name order. Names are compared by code point, which is also
the order of their UTF-8 bytes.

* `get?_insert` : what a map holds after an insertion;
* `insert` keeps the entries sorted (`insertEntry_sorted`).
-/

set_option autoImplicit false

namespace ManagedAgent

/-- A map from names to values, strictly sorted by name. -/
structure NameMap (α : Type) where
  entries : List (String × α)
  sorted : entries.Pairwise (fun a b => a.1 < b.1)
  deriving DecidableEq

namespace NameMap
variable {α : Type}

def empty : NameMap α := ⟨[], .nil⟩

instance : Inhabited (NameMap α) := ⟨empty⟩

def isEmpty (m : NameMap α) : Bool := m.entries.isEmpty

def size (m : NameMap α) : Nat := m.entries.length

def keys (m : NameMap α) : List String := m.entries.map (·.1)

def get? (m : NameMap α) (name : String) : Option α := m.entries.lookup name

/-- Put an entry at its place in a sorted list, replacing one of the same name. -/
def insertEntry (name : String) (value : α) : List (String × α) → List (String × α)
  | [] => [(name, value)]
  | (n, v) :: rest =>
    if name < n then (name, value) :: (n, v) :: rest
    else if name = n then (name, value) :: rest
    else (n, v) :: insertEntry name value rest

theorem mem_insertEntry {name : String} {value : α} {l : List (String × α)} {e : String × α}
    (h : e ∈ insertEntry name value l) : e = (name, value) ∨ e ∈ l := by
  induction l with
  | nil => simpa [insertEntry] using h
  | cons x rest ih =>
    obtain ⟨n, v⟩ := x
    unfold insertEntry at h
    split at h
    · simpa using h
    · split at h
      · rcases List.mem_cons.mp h with h | h
        · exact .inl h
        · exact .inr (List.mem_cons_of_mem _ h)
      · rcases List.mem_cons.mp h with h | h
        · exact .inr (h ▸ List.mem_cons_self)
        · exact (ih h).imp id (List.mem_cons_of_mem _)

/-- Two names are ordered one way, equal, or ordered the other way. -/
theorem lt_of_not_lt_of_ne {a b : String} (h : ¬ a < b) (hne : a ≠ b) : b < a :=
  Decidable.byContradiction fun h' =>
    hne (String.le_antisymm (String.not_lt.mp h') (String.not_lt.mp h))

theorem insertEntry_sorted (name : String) (value : α) {l : List (String × α)}
    (h : l.Pairwise (fun a b => a.1 < b.1)) :
    (insertEntry name value l).Pairwise (fun a b => a.1 < b.1) := by
  induction l with
  | nil => simp [insertEntry]
  | cons x rest ih =>
    obtain ⟨n, v⟩ := x
    obtain ⟨hx, hr⟩ := List.pairwise_cons.mp h
    unfold insertEntry
    split
    · rename_i hlt
      refine List.pairwise_cons.mpr ⟨fun e he => ?_, h⟩
      rcases List.mem_cons.mp he with he | he
      · exact he ▸ hlt
      · exact String.lt_trans hlt (hx e he)
    · rename_i hnlt
      split
      · rename_i heq
        exact List.pairwise_cons.mpr ⟨fun e he => heq ▸ hx e he, hr⟩
      · rename_i hne
        refine List.pairwise_cons.mpr ⟨fun e he => ?_, ih hr⟩
        rcases mem_insertEntry he with he | he
        · exact he ▸ lt_of_not_lt_of_ne hnlt hne
        · exact hx e he

def insert (m : NameMap α) (name : String) (value : α) : NameMap α :=
  ⟨insertEntry name value m.entries, insertEntry_sorted name value m.sorted⟩

/-- The map of a list of entries; of two entries of one name the later one counts. -/
def ofList (l : List (String × α)) : NameMap α :=
  l.foldl (fun m e => m.insert e.1 e.2) empty

theorem lookup_insertEntry (name : String) (value : α) (l : List (String × α)) (k : String) :
    (insertEntry name value l).lookup k = if k = name then some value else l.lookup k := by
  induction l with
  | nil =>
    by_cases h : k = name
    · simp [insertEntry, h]
    · simp [insertEntry, List.lookup_cons, h, beq_false_of_ne h]
  | cons x rest ih =>
    obtain ⟨n, v⟩ := x
    unfold insertEntry
    by_cases hk : k = name
    · subst hk
      split
      · simp
      · split
        · simp
        · rename_i hne
          rw [List.lookup_cons, beq_false_of_ne hne, ih]; simp
    · split
      · rw [List.lookup_cons, beq_false_of_ne hk]
      · split
        · rename_i heq
          subst heq
          simp [List.lookup_cons, beq_false_of_ne hk]
        · rw [List.lookup_cons, List.lookup_cons, ih, if_neg hk]

theorem lookup_eq_some_of_sorted {l : List (String × α)} (h : l.Pairwise (fun a b => a.1 < b.1))
    {k : String} {v : α} : l.lookup k = some v ↔ (k, v) ∈ l := by
  induction l with
  | nil => simp
  | cons x rest ih =>
    obtain ⟨n, w⟩ := x
    obtain ⟨hx, hr⟩ := List.pairwise_cons.mp h
    rw [List.lookup_cons, List.mem_cons, ← ih hr]
    by_cases hk : k = n
    · subst hk
      have hrest : rest.lookup k ≠ some v := fun he =>
        String.lt_irrefl k (hx (k, v) ((ih hr).mp he))
      simp [hrest, eq_comm]
    · simp [hk, beq_false_of_ne hk]

/-- The entries are the names with what the map holds for them. -/
theorem mem_entries {m : NameMap α} {k : String} {v : α} : (k, v) ∈ m.entries ↔ m.get? k = some v :=
  (lookup_eq_some_of_sorted m.sorted).symm

@[simp] theorem get?_insert (m : NameMap α) (name : String) (value : α) (k : String) :
    (m.insert name value).get? k = if k = name then some value else m.get? k :=
  lookup_insertEntry name value m.entries k

@[simp] theorem get?_empty (k : String) : (empty : NameMap α).get? k = none := rfl

end NameMap

end ManagedAgent
