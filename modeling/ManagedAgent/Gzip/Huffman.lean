import ManagedAgent.Gzip.Bits

/-!
# Canonical prefix codes

A code is a tree whose leaves are symbols; the bits on the way to a leaf are the code word of its
symbol. A canonical code is given by the lengths of its words alone (`Tree.ofLengths`): shorter
words come first, and words of one length are in the order of their symbols.

* `read_word` : reading a word of the code gives its symbol back.
-/

set_option autoImplicit false

namespace ManagedAgent.Gzip

/-- A prefix code. -/
inductive Tree where
  /-- No word starts like this. -/
  | empty
  | leaf (symbol : Nat)
  | node (zero one : Tree)
  deriving DecidableEq, Inhabited

namespace Tree

/-- What is left of the words that start with this bit. -/
def child (b : Bool) : Tree → Tree
  | .node zero one => if b then one else zero
  | _ => .empty

/-- The symbol of the next word. -/
def read : Tree → BitReader Nat
  | .empty => Reader.fail .corrupt
  | .leaf symbol => pure symbol
  | .node zero one => do
    if ← Reader.nextOr .incomplete then one.read else zero.read

/-- The word of a symbol. -/
def word? (symbol : Nat) : Tree → Option Bits
  | .empty => none
  | .leaf s => if s = symbol then some [] else none
  | .node zero one =>
    match word? symbol zero with
    | some w => some (false :: w)
    | none => (word? symbol one).map (true :: ·)

theorem read_word {t : Tree} {symbol : Nat} {w : Bits} (h : t.word? symbol = some w) (rest : Bits) :
    Reader.run t.read (w ++ rest) = .ok (symbol, rest) := by
  induction t generalizing w with
  | empty => simp [word?] at h
  | leaf s =>
    simp only [word?, Option.ite_none_right_eq_some, Option.some.injEq] at h
    obtain ⟨rfl, rfl⟩ := h
    rfl
  | node zero one ih0 ih1 =>
    simp only [word?] at h
    split at h
    · rename_i v hv
      cases h
      simp [read, Reader.run_bind, ih0 hv]
    · obtain ⟨v, hv, rfl⟩ := Option.map_eq_some_iff.mp h
      simp [read, Reader.run_bind, ih1 hv]

/-! ## Canonical codes -/

/-- No word is longer. -/
def maxLength : Nat := 15

/-- Take words off the front of a list, sorted by length, until the place at `depth` is filled;
`fuel` is the number of levels below. -/
def build : (fuel depth : Nat) → List (Nat × Nat) → Tree × List (Nat × Nat)
  | _, _, [] => (.empty, [])
  | 0, _, words => (.empty, words)
  | fuel + 1, depth, (length, symbol) :: words =>
    if length = depth then (.leaf symbol, words)
    else
      let (zero, words) := build fuel (depth + 1) ((length, symbol) :: words)
      let (one, words) := build fuel (depth + 1) words
      (.node zero one, words)

/-- The lengths of the words with their symbols, shorter words first. A symbol of length zero has
no word. -/
def sortedWords (lengths : List Nat) : List (Nat × Nat) :=
  (lengths.zipIdx.filter (·.1 ≠ 0)).mergeSort fun a b => a.1 ≤ b.1

/-- The canonical code; the length of the word of a symbol stands at its place in the list. -/
def ofLengths (lengths : List Nat) : Tree := (build (maxLength + 1) 0 (sortedWords lengths)).1

/-- The share of all words of the longest length that start with a word of the code. -/
def share (lengths : List Nat) : Nat :=
  (lengths.filter (· ≠ 0)).foldl (fun n l => n + 1 <<< (maxLength - l)) 0

/-- Every sequence of bits starts with a word, and with one only. -/
def isFull (lengths : List Nat) : Bool := share lengths == 1 <<< maxLength

/-- A code of at most one word is good enough where nothing, or one symbol, is to be said. -/
def isFullOrTrivial (lengths : List Nat) : Bool :=
  isFull lengths || (lengths.filter (· ≠ 0)).length ≤ 1

end Tree

end ManagedAgent.Gzip
