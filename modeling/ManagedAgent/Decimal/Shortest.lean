import ManagedAgent.Decimal.Double

/-!
# The shortest decimal that reads back

`Double.shortest d` gives digits and an exponent of ten. A decimal reads back as `d` when it lies in
the interval of reals that round to `d` (`Grid.holds`); its ends belong to it when the significand
is even. Of all grids `10 ^ k` the coarsest with a point in the interval is taken, and on it the
point nearest to `d`.

`Double.text` lays the digits out as a `Layout` says: positional in some range, there always with a
fraction, and otherwise with an exponent.
-/

set_option autoImplicit false

namespace ManagedAgent.Double

/-- A double's magnitude beside the grid of multiples of `10 ^ k`, all in one unit: the number is
`value`, the reals that round to it reach from `low` to `high`, and neighbours on the grid are
`step` apart. -/
structure Grid where
  value : Nat
  low : Nat
  high : Nat
  step : Nat
  closed : Bool

/-- The grid of `10 ^ k` around `significand · 2 ^ scale`. The lower neighbour of a power of two is
only half as far away as the upper one. -/
def grid (d : Double) (k : Int) : Grid :=
  let m := d.significand
  let q := d.scale - 2
  let unit := Nat.pow 10 (-k).toNat <<< q.toNat
  let below := if m = leadingOne ∧ 1 < d.exponentField then 4 * m - 1 else 4 * m - 2
  { value := 4 * m * unit, low := below * unit, high := (4 * m + 2) * unit
    step := Nat.pow 10 k.toNat <<< (-q).toNat, closed := m % 2 == 0 }

/-- The grid point with this index reads back. -/
def Grid.holds (g : Grid) (index : Nat) : Bool :=
  let p := index * g.step
  if g.closed then g.low ≤ p && p ≤ g.high else g.low < p && p < g.high

/-- The better of the two grid points around the value, if one of them reads back. -/
def Grid.pick (g : Grid) : Option Nat :=
  let lower := g.value / g.step
  let upper := lower + 1
  match g.holds lower && lower != 0, g.holds upper with
  | false, false => none
  | true, false => some lower
  | false, true => some upper
  | true, true =>
    let down := g.value - lower * g.step
    let up := upper * g.step - g.value
    some (if down < up || (down == up && lower % 2 == 0) then lower else upper)

/-- The first hit on the grids `10 ^ k`, `10 ^ (k - 1)`, and so on. -/
def firstHit (d : Double) : Nat → Int → Nat × Int
  | 0, k => (0, k)
  | n + 1, k =>
    match (d.grid k).pick with
    | some index => (index, k)
    | none => firstHit d n (k - 1)

/-- The shortest digits of a finite double and the exponent of their last place. -/
def shortest (d : Double) : Nat × Int :=
  if d.significand = 0 then (0, 0) else firstHit d 660 310

def digitsOf (n : Nat) : List Char := Nat.toDigits 10 n

/-- Digits with a point after the first `n`, which are all there. -/
def pointAfter (n : Nat) (digits : List Char) : List Char :=
  digits.take n ++ '.' :: digits.drop n

/-- Where positional notation begins and ends, by the exponent of the first digit, and whether a
positive exponent has a sign. -/
structure Layout where
  low : Int
  high : Int
  plus : Bool

/-- The layout of the wire format: positional from `0.00001` up to `10 ^ 16`. -/
def Layout.wire : Layout := ⟨-5, 16, true⟩

/-- The layout of displayed values: positional from `0.0001` up to `10 ^ 16`. -/
def Layout.display : Layout := ⟨-4, 16, false⟩

/-- The text of a magnitude, given its digits and the exponent of the last one. -/
def Layout.place (l : Layout) (digits : List Char) (k : Int) : List Char :=
  let e := k + digits.length - 1
  if 0 ≤ e ∧ e < l.high then
    if 0 ≤ k then digits ++ List.replicate k.toNat '0' ++ ['.', '0']
    else pointAfter (e + 1).toNat digits
  else if l.low ≤ e ∧ e < 0 then
    '0' :: '.' :: List.replicate (-e - 1).toNat '0' ++ digits
  else
    let head := if digits.length = 1 then digits else pointAfter 1 digits
    let sign := if e < 0 then ['-'] else if l.plus then ['+'] else []
    head ++ 'e' :: sign ++ digitsOf e.natAbs

/-- The text of a finite double: the fewest digits that read back. -/
def text (d : Double) (l : Layout) : List Char :=
  let (index, k) := d.shortest
  let magnitude := if index = 0 then ['0', '.', '0'] else l.place (digitsOf index) k
  if d.isNegative then '-' :: magnitude else magnitude

end ManagedAgent.Double
