/-!
# Punycode

A text as letters, digits and hyphens: its ASCII characters come first, and the places of the others
follow as differences, each a number in digits of base thirty-six of which the last is told by
being small. What is small depends on the differences before (`adapt`).
-/

set_option autoImplicit false

namespace ManagedAgent.Url.Punycode

/-- The letters stand for 0 to 25, the digits for 26 to 35. -/
def digit (n : Nat) : Char := if n < 26 then Char.ofNat (0x61 + n) else Char.ofNat (0x16 + n)

def digitValue? (c : Char) : Option Nat :=
  let n := c.toNat
  if 0x61 ≤ n && n ≤ 0x7A then some (n - 0x61)
  else if 0x41 ≤ n && n ≤ 0x5A then some (n - 0x41)
  else if 0x30 ≤ n && n ≤ 0x39 then some (n - 0x16)
  else none

/-- A digit at place `k` ends its number if it is below this. -/
def threshold (k bias : Nat) : Nat := min 26 (max 1 (k - bias))

theorem threshold_pos (k bias : Nat) : 1 ≤ threshold k bias := by unfold threshold; omega

/-- How often a number has to be divided by thirty-five, and what is left. -/
def scale (k delta : Nat) : Nat × Nat :=
  if delta ≤ 455 then (k, delta) else scale (k + 36) (delta / 35)
  termination_by delta
  decreasing_by omega

/-- The bias after a difference, where the text has `count` characters so far. -/
def adapt (delta count : Nat) (isFirst : Bool) : Nat :=
  let delta := if isFirst then delta / 700 else delta / 2
  let (k, delta) := scale 0 (delta + delta / count)
  k + 36 * delta / (delta + 38)

/-- The digits of a difference, from place `k` on. -/
def digits (bias k q : Nat) : List Char :=
  let t := threshold k bias
  if q < t then [digit q]
  else digit (t + (q - t) % (36 - t)) :: digits bias (k + 36) ((q - t) / (36 - t))
  termination_by q
  decreasing_by
    have h₁ := threshold_pos k bias
    have h₂ := Nat.div_le_self (q - threshold k bias) (36 - threshold k bias)
    omega

/-! ## Writing -/

structure Writer where
  delta : Nat := 0
  bias : Nat := 72
  /-- How many characters are written. -/
  written : Nat
  out : List Char := []

/-- Pass over a character on the search for those of code point `m`. -/
def pass (basic m : Nat) (w : Writer) (c : Char) : Writer :=
  if c.toNat < m then { w with delta := w.delta + 1 }
  else if c.toNat = m then
    { delta := 0
      bias := adapt w.delta (w.written + 1) (w.written == basic)
      written := w.written + 1
      out := w.out ++ digits w.bias 36 w.delta }
  else w

/-- Write the characters of code point `m`, where those below `n` are written. -/
def writePoint (text : List Char) (basic : Nat) (s : Nat × Writer) (m : Nat) : Nat × Writer :=
  let (n, w) := s
  let w := text.foldl (pass basic m) { w with delta := w.delta + (m - n) * (w.written + 1) }
  (m + 1, { w with delta := w.delta + 1 })

def encode (text : List Char) : List Char :=
  let basic := text.filter fun c => c.toNat < 128
  let points := ((text.filter fun c => 128 ≤ c.toNat).map Char.toNat).mergeSort.eraseReps
  let (_, w) := points.foldl (writePoint text basic.length) (128, { written := basic.length })
  basic ++ (if basic.isEmpty then [] else ['-']) ++ w.out

/-! ## Reading -/

structure Scan where
  point : Nat := 128
  place : Nat := 0
  bias : Nat := 72
  out : List Char
  /-- The number that is being read, with the weight and the place of its next digit. -/
  delta : Nat := 0
  weight : Nat := 1
  k : Nat := 36

/-- A code point that is a character. -/
def char? (n : Nat) : Option Char := if n.isValidChar then some (Char.ofNat n) else none

/-- Numbers stay below `2 ^ 32`. -/
def bounded? (n : Nat) : Option Nat := if n < UInt32.size then some n else none

/-- Take one more digit. -/
def Scan.step (s : Scan) (c : Char) : Option Scan := do
  let d ← digitValue? c
  let delta ← bounded? (s.delta + d * s.weight)
  let t := threshold s.k s.bias
  if d < t then
    let count := s.out.length + 1
    let place ← bounded? (s.place + delta)
    let point ← bounded? (s.point + place / count)
    let place := place % count
    some {
      point
      place := place + 1
      bias := adapt delta count (s.place == 0)
      out := s.out.insertIdx place (← char? point) }
  else
    some { s with delta, weight := ← bounded? (s.weight * (36 - t)), k := s.k + 36 }

/-- The text of a written text, if it is one. -/
def decode? (written : List Char) : Option (List Char) := do
  let reversed := written.reverse
  let tail := (reversed.takeWhile (· ≠ '-')).reverse
  let (basic, tail) ← match reversed.dropWhile (· ≠ '-') with
    | [] => some ([], tail)
    | [_] => none
    | _ :: basic => some (basic.reverse, tail)
  let s ← tail.foldlM Scan.step { out := basic }
  if s.k = 36 then some s.out else none

end ManagedAgent.Url.Punycode
