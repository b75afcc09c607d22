import ManagedAgent.Gzip.Huffman
import Std.Data.HashMap

/-!
# Tokens: literal bytes, and copies of what came before

A text is said token by token. `Token.expand` adds what a token says to the text so far, which is
kept with its last byte first. `tokenize` says a text in tokens, with a copy wherever the next three
bytes have been seen before.
-/

set_option autoImplicit false

namespace ManagedAgent.Gzip

inductive Token where
  | literal (b : UInt8)
  /-- The next `length` bytes are those that stand `distance` before. -/
  | copy (distance length : Nat)
  deriving DecidableEq, Inhabited

/-- The first `n` bytes of `rest` followed by `period` over and over. -/
def cycle (period : Bytes) : (rest : Bytes) → (n : Nat) → Bytes
  | _, 0 => []
  | b :: rest, n + 1 => b :: cycle period rest n
  | [], n + 1 =>
    match period with
    | [] => []
    | b :: rest => b :: cycle period rest n

/-- The last `distance` bytes in their order; zeros stand before the start. -/
def window (history : Bytes) (distance : Nat) : Bytes :=
  ((history ++ List.replicate (distance - history.length) 0).take distance).reverse

/-- The `length` bytes that continue the text with what stands `distance` before. -/
def copied (history : Bytes) (distance length : Nat) : Bytes :=
  cycle (window history distance) [] length

namespace Token

/-- The bytes that a token says after this text. -/
def bytes (history : Bytes) : Token → Bytes
  | .literal b => [b]
  | .copy distance length => copied history distance length

/-- The text, last byte first, with what the token says. -/
def expand (history : Bytes) (t : Token) : Bytes := (t.bytes history).reverse ++ history

end Token

/-! ## Tokens of a text -/

def commonPrefix : Bytes → Bytes → Nat
  | a :: r, b :: s => if a = b then commonPrefix r s + 1 else 0
  | _, _ => 0

/-- The farthest place that can be copied from. -/
def maxDistance : Nat := 32768

/-- The longest copy. -/
def maxCopy : Nat := 258

/-- Where a sequence of three bytes was seen last. -/
abbrev Seen := Std.HashMap (UInt8 × UInt8 × UInt8) Nat

/-- A copy of at least three bytes that says the front of `rest`, if the place is not too far. -/
def copyAt (history rest : Bytes) (place : Nat) : Option (Nat × Nat) :=
  let distance := history.length - place
  let length := commonPrefix (copied history distance maxCopy) rest
  if place < history.length ∧ distance ≤ maxDistance ∧ 3 ≤ length then some (distance, length)
  else none

/-- The copy to say next, with what has been seen up to here. -/
def nextCopy (seen : Seen) (history rest : Bytes) : Option (Nat × Nat) × Seen :=
  match rest with
  | a :: b :: c :: _ =>
    (seen[(a, b, c)]? |>.bind (copyAt history rest), seen.insert (a, b, c) history.length)
  | _ => (none, seen)

/-- The tokens that say `rest` after `history`. -/
def tokenizeAfter (seen : Seen) (history : Bytes) : (rest : Bytes) → List Token
  | [] => []
  | b :: rest =>
    match nextCopy seen history (b :: rest) with
    | (none, seen) => .literal b :: tokenizeAfter seen (b :: history) rest
    | (some (distance, length), seen) =>
      let token := Token.copy distance length
      token :: tokenizeAfter seen (token.expand history) (rest.drop (length - 1))
  termination_by rest => rest.length
  decreasing_by all_goals simp only [List.length_drop, List.length_cons]; omega

def tokenize (text : Bytes) : List Token := tokenizeAfter {} [] text

end ManagedAgent.Gzip
