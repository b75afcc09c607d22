import ManagedAgent.Message.Attribute
import ManagedAgent.Reader

/-!
# Readers of texts

A text is a list of bytes. It is read in one pass, and the first problem met ends the reading with
a `Failure`. `loop` reads token by token, where blanks may stand before every token.
-/

set_option autoImplicit false

namespace ManagedAgent.Wire

/-- Why a text was refused. -/
inductive Failure where
  /-- The text ended too early. -/
  | truncated
  /-- The text is not well formed at this point. -/
  | malformed
  /-- The text is well formed so far, but says something else than was asked for. -/
  | mismatch
  deriving DecidableEq, Inhabited

/-- Takes a value off the front of a text. -/
abbrev Reader (α : Type) : Type := ManagedAgent.Reader Failure UInt8 α

namespace Reader
variable {α : Type}

/-- The next byte, which has to be there. -/
def next : Reader UInt8 := ManagedAgent.Reader.nextOr .truncated

/-- Space, tab, line feed and carriage return. -/
def isBlank (b : UInt8) : Bool := b == 0x20 || b == 0x09 || b == 0x0A || b == 0x0D

/-- The next byte that is not blank, left in place. -/
def peekToken : Reader (Option UInt8) := do
  ManagedAgent.Reader.dropWhile isBlank
  ManagedAgent.Reader.peek

/-- Read token by token: `step` gets the state and the first byte of the next token, and goes on
with a new state or ends with a value. -/
def loop {σ : Type} (step : σ → UInt8 → Reader (σ ⊕ α)) (state : σ) (s : Bytes) :
    Except Failure (α × Rest s) :=
  match hs : s.dropWhile isBlank with
  | [] => .error .truncated
  | b :: r =>
    have hr : r.length < s.length := by
      have := (List.dropWhile_suffix isBlank (l := s)).length_le
      rw [hs] at this
      exact this
    match step state b r with
    | .error e => .error e
    | .ok (.inr a, t) => .ok (a, ⟨t.1, by have := t.2; omega⟩)
    | .ok (.inl state, t) =>
      have ht : t.1.length < s.length := Nat.lt_of_le_of_lt t.2 hr
      ManagedAgent.Reader.widen (Nat.le_of_lt ht) (loop step state t.1)
  termination_by s.length

/-- The value, or a refusal of what it says. -/
def orMismatch : Option α → Reader α
  | some a => pure a
  | none => ManagedAgent.Reader.fail .mismatch

end Reader

end ManagedAgent.Wire
