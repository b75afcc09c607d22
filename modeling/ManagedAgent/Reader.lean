/-!
# Readers

A `Reader ε τ α` takes a value off the front of a list of items `τ` and hands back the rest, which
is never longer than the list. The first problem met ends the reading. Because the rest is known to
be no longer, whatever reads until nothing is left ends.

* `run_bind` : one reader after another;
* `length_rest_le` : reading never lengthens a list.
-/

set_option autoImplicit false

namespace ManagedAgent

/-- What is left of a list: no longer than the list. -/
abbrev Rest {τ : Type} (s : List τ) : Type := { r : List τ // r.length ≤ s.length }

/-- Takes a value off the front of a list. -/
def Reader (ε τ α : Type) : Type := (s : List τ) → Except ε (α × Rest s)

namespace Reader
variable {ε τ α β : Type}

/-- The result for a part of a list is one for the whole list. -/
def widen {r s : List τ} (h : r.length ≤ s.length) :
    Except ε (α × Rest r) → Except ε (α × Rest s)
  | .error e => .error e
  | .ok (a, t) => .ok (a, ⟨t.1, Nat.le_trans t.2 h⟩)

protected def pure (a : α) : Reader ε τ α := fun s => .ok (a, ⟨s, Nat.le_refl _⟩)

protected def bind (p : Reader ε τ α) (f : α → Reader ε τ β) : Reader ε τ β := fun s =>
  match p s with
  | .error e => .error e
  | .ok (a, r) => widen r.2 (f a r.1)

instance : Monad (Reader ε τ) where
  pure := Reader.pure
  bind := Reader.bind

def fail (e : ε) : Reader ε τ α := fun _ => .error e

/-- Read with `p`; the rest is forgotten to be a rest. -/
def run (p : Reader ε τ α) (s : List τ) : Except ε (α × List τ) :=
  match p s with
  | .error e => .error e
  | .ok (a, r) => .ok (a, r.1)

/-- The next item, left in place. -/
def peek : Reader ε τ (Option τ) := fun s => .ok (s.head?, ⟨s, Nat.le_refl _⟩)

/-- Drop the next item, if there is one. -/
def advance : Reader ε τ Unit := fun s => .ok ((), ⟨s.tail, by simp⟩)

/-- The next item, or the problem that there is none. -/
def nextOr (e : ε) : Reader ε τ τ
  | [] => .error e
  | b :: r => .ok (b, ⟨r, by simp⟩)

/-- The longest front of items that satisfy `p`. -/
def takeWhile (p : τ → Bool) : Reader ε τ (List τ) := fun s =>
  .ok (s.takeWhile p, ⟨s.dropWhile p, (List.dropWhile_suffix p).length_le⟩)

/-- Drop the longest front of items that satisfy `p`. -/
def dropWhile (p : τ → Bool) : Reader ε τ Unit := fun s =>
  .ok ((), ⟨s.dropWhile p, (List.dropWhile_suffix p).length_le⟩)

/-- Read item by item: `step` gets the state and the next item, and goes on with a new state or
ends with a value. It is the problem `e` when no item is left. -/
def loop {σ : Type} (e : ε) (step : σ → τ → Reader ε τ (σ ⊕ α)) (state : σ) : Reader ε τ α
  | [] => .error e
  | b :: r =>
    match step state b r with
    | .error e => .error e
    | .ok (.inr a, t) => .ok (a, ⟨t.1, Nat.le_succ_of_le t.2⟩)
    | .ok (.inl state, t) =>
      have ht : t.1.length < r.length + 1 := Nat.lt_succ_of_le t.2
      widen (Nat.le_of_lt ht) (loop e step state t.1)
  termination_by s => s.length
  decreasing_by exact Nat.lt_succ_of_le t.2

/-! ## The view `run` -/

@[simp] theorem run_pure (a : α) (s : List τ) : (pure a : Reader ε τ α).run s = .ok (a, s) := rfl

@[simp] theorem run_fail (e : ε) (s : List τ) : (fail e : Reader ε τ α).run s = .error e := rfl

theorem run_bind (p : Reader ε τ α) (f : α → Reader ε τ β) (s : List τ) :
    (p >>= f).run s = match p.run s with
      | .error e => .error e
      | .ok (a, r) => (f a).run r := by
  simp only [run, Bind.bind, Reader.bind]
  cases p s with
  | error e => rfl
  | ok x =>
    obtain ⟨a, r⟩ := x
    simp only
    cases f a r.1 with
    | error e => rfl
    | ok y => rfl

@[simp] theorem run_peek (s : List τ) : (peek : Reader ε τ _).run s = .ok (s.head?, s) := rfl

@[simp] theorem run_advance (s : List τ) : (advance : Reader ε τ _).run s = .ok ((), s.tail) := rfl

@[simp] theorem run_nextOr_nil (e : ε) : (nextOr e : Reader ε τ τ).run [] = .error e := rfl

@[simp] theorem run_nextOr_cons (e : ε) (b : τ) (r : List τ) :
    (nextOr e : Reader ε τ τ).run (b :: r) = .ok (b, r) := rfl

@[simp] theorem run_takeWhile (p : τ → Bool) (s : List τ) :
    (takeWhile p : Reader ε τ _).run s = .ok (s.takeWhile p, s.dropWhile p) := rfl

@[simp] theorem run_dropWhile (p : τ → Bool) (s : List τ) :
    (dropWhile p : Reader ε τ _).run s = .ok ((), s.dropWhile p) := rfl

/-- Reading never lengthens a list. -/
theorem length_rest_le (p : Reader ε τ α) {s r : List τ} {a : α} (h : p.run s = .ok (a, r)) :
    r.length ≤ s.length := by
  unfold run at h
  split at h
  · cases h
  · rename_i x y hp
    cases h
    exact y.2

end Reader

end ManagedAgent
