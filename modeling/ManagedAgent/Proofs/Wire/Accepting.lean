import ManagedAgent.Proofs.Wire.Document
import ManagedAgent.Proofs.Wire.Text

/-!
# What a reader accepts

`accept p s` is what the reader `p` gets from the front of `s` and what it leaves; which problem it
meets instead is forgotten. So readers are put together like computations that may fail, and that a
text is refused is an equation like any other.

* `accept_bind` : one reader after another;
* `Settles` : whether a token is accepted, and as what, does not depend on what follows it.
-/

set_option autoImplicit false

namespace ManagedAgent.Wire

/-- What may stand behind a value, blanks included. -/
def Closes (rest : Bytes) : Prop :=
  ∀ b ∈ rest.head?, Reader.isBlank b = true ∨ b = 0x2C ∨ b = 0x5D ∨ b = 0x7D

theorem closes_nil : Closes [] := nofun

theorem Closes.not_mem {rest : Bytes} (h : Closes rest) {b : UInt8} (hb : Reader.isBlank b = false)
    (hne : b ≠ 0x2C ∧ b ≠ 0x5D ∧ b ≠ 0x7D) : rest.head? ≠ some b := by
  intro hhead
  rcases h b hhead with hblank | rfl | rfl | rfl
  · rw [hb] at hblank
    cases hblank
  · exact hne.1 rfl
  · exact hne.2.1 rfl
  · exact hne.2.2 rfl

theorem isDigit_of_isBlank {b : UInt8} (h : Reader.isBlank b = true) : isDigit b = false := by
  unfold Reader.isBlank at h
  simp only [Bool.or_eq_true, beq_iff_eq] at h
  rcases h with ((rfl | rfl) | rfl) | rfl <;> rfl

theorem Closes.stops {rest : Bytes} (h : Closes rest) : Stops rest := by
  intro b hb
  rcases h b hb with hblank | rfl | rfl | rfl
  · exact isDigit_of_isBlank hblank
  all_goals rfl

/-- Behind a value come blanks, and then what closes it. -/
theorem Spaced.closes {x : UInt8} {xs : Bytes} {ts : List Bytes} {t : Bytes}
    (h : Spaced ((x :: xs) :: ts) t) (hx : x = 0x2C ∨ x = 0x5D ∨ x = 0x7D) (rest : Bytes) :
    Closes (t ++ rest) := by
  obtain ⟨blanks, s, rfl, hb, -⟩ := spaced_cons_iff.1 h
  intro b hmem
  cases blanks with
  | nil =>
    cases hmem
    exact .inr hx
  | cons c blanks =>
    cases hmem
    exact .inl (hb b List.mem_cons_self)

/-- What follows an element or member closes it. -/
theorem closes_remainder {close : UInt8} (hclose : close = 0x5D ∨ close = 0x7D)
    {xs : List (List Bytes)} {t : Bytes} (h : Spaced (remainder close xs) t) (rest : Bytes) :
    Closes (t ++ rest) := by
  cases xs with
  | nil => exact @Spaced.closes close [] _ _ h (.inr hclose) rest
  | cons x xs => exact @Spaced.closes 0x2C [] _ _ h (.inl rfl) rest

namespace Reader
variable {α β σ : Type}

/-- What is read, and the rest. -/
def accept (p : Reader α) (s : Bytes) : Option (α × Bytes) :=
  (ManagedAgent.Reader.run p s).toOption

theorem accept_of_run {p : Reader α} {s r : Bytes} {a : α}
    (h : ManagedAgent.Reader.run p s = .ok (a, r)) : accept p s = some (a, r) := by
  rw [accept, h]
  rfl

theorem accept_of_error {p : Reader α} {s : Bytes} {e : Failure}
    (h : ManagedAgent.Reader.run p s = .error e) : accept p s = none := by
  rw [accept, h]
  rfl

theorem accept_congr {p q : Reader α} {s r : Bytes}
    (h : ManagedAgent.Reader.run p s = ManagedAgent.Reader.run q r) : accept p s = accept q r := by
  rw [accept, h, accept]

theorem run_of_accept {p : Reader α} {s r : Bytes} {a : α} (h : accept p s = some (a, r)) :
    ManagedAgent.Reader.run p s = .ok (a, r) := by
  unfold accept at h
  cases hrun : ManagedAgent.Reader.run p s with
  | error e =>
    rw [hrun] at h
    cases h
  | ok x =>
    rw [hrun] at h
    cases h
    rfl

@[simp] theorem accept_pure (a : α) (s : Bytes) : accept (pure a : Reader α) s = some (a, s) := rfl

@[simp] theorem accept_fail (e : Failure) (s : Bytes) :
    accept (ManagedAgent.Reader.fail e : Reader α) s = none := rfl

@[simp] theorem accept_bind (p : Reader α) (f : α → Reader β) (s : Bytes) :
    accept (p >>= f) s = (accept p s).bind fun x => accept (f x.1) x.2 := by
  unfold accept
  rw [ManagedAgent.Reader.run_bind]
  cases ManagedAgent.Reader.run p s with
  | error e => rfl
  | ok x => rfl

@[simp] theorem accept_peek (s : Bytes) :
    accept (ManagedAgent.Reader.peek : Reader _) s = some (s.head?, s) := rfl

@[simp] theorem accept_advance (s : Bytes) :
    accept (ManagedAgent.Reader.advance : Reader _) s = some ((), s.tail) := rfl

/-- A byte that has been looked at is dropped. -/
theorem accept_advance_bind (f : Unit → Reader α) (b : UInt8) (s : Bytes) :
    accept (ManagedAgent.Reader.advance >>= f) (b :: s) = accept (f ()) s := by
  rw [accept_bind, accept_advance]
  rfl

@[simp] theorem accept_dropWhile (p : UInt8 → Bool) (s : Bytes) :
    accept (ManagedAgent.Reader.dropWhile p : Reader _) s = some ((), s.dropWhile p) := rfl

@[simp] theorem accept_next (b : UInt8) (r : Bytes) : accept next (b :: r) = some (b, r) := rfl

@[simp] theorem accept_discard (p : Reader α) (s : Bytes) :
    accept (discard p) s = (accept p s).map fun x => ((), x.2) := by
  show accept (p >>= fun _ => pure ()) s = _
  rw [accept_bind]
  cases accept p s <;> rfl

theorem accept_ite (c : Prop) [Decidable c] (p q : Reader α) (s : Bytes) :
    accept (if c then p else q) s = if c then accept p s else accept q s := by
  split <;> rfl

@[simp] theorem accept_orMismatch (o : Option α) (s : Bytes) :
    accept (orMismatch o) s = o.map (·, s) := by
  cases o <;> rfl

@[simp] theorem accept_expect (b c : UInt8) (r : Bytes) :
    accept (expect b) (c :: r) = if c = b then some ((), r) else none := by
  unfold expect
  rw [accept_bind, accept_next, Option.bind_some, accept_ite]
  simp only [beq_iff_eq, accept_pure, accept_fail]

theorem accept_peekToken_eq (s : Bytes) :
    accept peekToken s = some ((s.dropWhile isBlank).head?, s.dropWhile isBlank) := rfl

theorem accept_peekToken {blanks : Bytes} (hblanks : Blanks blanks) {b : UInt8}
    (hb : isBlank b = false) (r : Bytes) :
    accept peekToken (blanks ++ b :: r) = some (some b, b :: r) := by
  rw [accept_peekToken_eq, dropWhile_isBlank hblanks hb]
  rfl

theorem accept_expectToken {blanks : Bytes} (hblanks : Blanks blanks) {c : UInt8}
    (hc : isBlank c = false) (b : UInt8) (r : Bytes) :
    accept (expectToken b) (blanks ++ c :: r) = if c = b then some ((), r) else none := by
  unfold expectToken
  rw [accept_bind, accept_discard, accept_peekToken hblanks hc]
  exact accept_expect b c r

theorem accept_loop (step : σ → UInt8 → Reader (σ ⊕ α)) (state : σ) {blanks : Bytes}
    (hblanks : Blanks blanks) {b : UInt8} (hb : isBlank b = false) (r : Bytes) :
    accept (loop step state) (blanks ++ b :: r) =
      (accept (step state b) r).bind fun x =>
        match x.1 with
        | .inl state => accept (loop step state) x.2
        | .inr a => some (a, x.2) := by
  unfold accept
  rw [run_loop, dropWhile_isBlank hblanks hb]
  dsimp only
  cases ManagedAgent.Reader.run (step state b) r with
  | error e => rfl
  | ok x =>
    obtain ⟨state | a, t⟩ := x <;> rfl

/-! ## Readers of tokens -/

/-- The token is accepted or refused, whatever follows that may stand behind a value. -/
def Settles (p : Reader α) (t : Bytes) : Prop :=
  ∃ o : Option α, ∀ rest, Closes rest → accept p (t ++ rest) = o.map (·, rest)

def value (p : Reader α) (t : Bytes) : Option α := (accept p t).map (·.1)

theorem value_eq {p : Reader α} {t : Bytes} {o : Option α}
    (h : ∀ rest, Closes rest → accept p (t ++ rest) = o.map (·, rest)) : value p t = o := by
  have hnil := h [] closes_nil
  rw [List.append_nil] at hnil
  rw [value, hnil]
  cases o <;> rfl

theorem Settles.accept_eq {p : Reader α} {t rest : Bytes} (h : p.Settles t) (hrest : Closes rest) :
    accept p (t ++ rest) = (value p t).map (·, rest) := by
  obtain ⟨o, ho⟩ := h
  rw [ho rest hrest, value_eq ho]

end Reader

end ManagedAgent.Wire
