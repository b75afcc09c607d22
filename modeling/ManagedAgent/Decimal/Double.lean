/-!
# Binary floating-point numbers of 64 bits, exactly

A `Double` is its bit pattern. A finite one is `± significand · 2 ^ scale` (`significand`, `scale`),
and all arithmetic here is on natural numbers.

* `Double.ofRatio` : the nearest double of a fraction, a tie going to the even significand, `none`
  beyond the largest;
* `Double.ofDecimal` : a double for `significand · 10 ^ exponent`, in two roundings.
-/

set_option autoImplicit false

namespace ManagedAgent

/-- A double, by its bits: sign, eleven bits of exponent, fifty-two bits of fraction. -/
structure Double where
  bits : UInt64
  deriving DecidableEq

namespace Double

instance : Inhabited Double := ⟨⟨0⟩⟩

/-- The leading one of a significand: two to the power of fifty-two. -/
def leadingOne : Nat := 0x10000000000000

def isNegative (d : Double) : Bool := 0x8000000000000000 ≤ d.bits.toNat

def exponentField (d : Double) : Nat := d.bits.toNat / leadingOne % 2048

def fractionField (d : Double) : Nat := d.bits.toNat % leadingOne

def isFinite (d : Double) : Bool := d.exponentField != 2047

/-- The significand, with its leading one unless the number is subnormal. -/
def significand (d : Double) : Nat :=
  if d.exponentField = 0 then d.fractionField else leadingOne + d.fractionField

/-- The power of two that the significand counts. -/
def scale (d : Double) : Int :=
  if d.exponentField = 0 then -1074 else (d.exponentField : Int) - 1075

/-- The double of a sign, a significand below `2 ^ 53` and a scale of at least `-1074`; below
`2 ^ 52` the scale is `-1074`. -/
def pack (negative : Bool) (significand : Nat) (scale : Int) : Double :=
  let sign := if negative then 0x8000000000000000 else 0
  let field := if significand < leadingOne then 0 else (scale + 1075).toNat
  ⟨UInt64.ofNat (sign + field * leadingOne + significand % leadingOne)⟩

def zero (negative : Bool) : Double := pack negative 0 (-1074)

/-- `num / den` scaled down by `2 ^ scale`, as a fraction. -/
def scaled (num den : Nat) (scale : Int) : Nat × Nat :=
  if 0 ≤ scale then (num, den <<< scale.toNat) else (num <<< (-scale).toNat, den)

/-- The quotient rounded to the nearest natural number, a tie going to the even one. -/
def roundDiv (num den : Nat) : Nat :=
  let floor := num / den
  let twice := 2 * (num % den)
  if den < twice || (den == twice && floor % 2 == 1) then floor + 1 else floor

/-- Pack a rounded significand; a carry out of the fifty-three bits raises the scale. Numbers
beyond the largest double have no double. -/
def ofRounded (negative : Bool) (significand : Nat) (scale : Int) : Option Double :=
  let (significand, scale) :=
    if significand = 2 * leadingOne then (leadingOne, scale + 1) else (significand, scale)
  if 971 < scale then none else some (pack negative significand scale)

/-- The double nearest to `± num / den`. -/
def ofRatio (negative : Bool) (num den : Nat) : Option Double :=
  if num = 0 then some (zero negative)
  else
    let guess := max ((num.log2 : Int) - den.log2 - 52) (-1074)
    let (n, d) := scaled num den guess
    let scale := if n / d < leadingOne then max (guess - 1) (-1074) else guess
    let (n, d) := scaled num den scale
    ofRounded negative (roundDiv n d) scale

/-- The double nearest to a natural number. -/
def nearest (negative : Bool) (n : Nat) : Double := (ofRatio negative n 1).getD default

/-! ## Decimals -/

def mul (negative : Bool) (a b : Double) : Option Double :=
  let (num, den) := scaled (a.significand * b.significand) 1 (-(a.scale + b.scale))
  ofRatio negative num den

def div (negative : Bool) (a b : Double) : Option Double :=
  let (num, den) := scaled a.significand b.significand (b.scale - a.scale)
  ofRatio negative num den

/-- The powers of ten up to `10 ^ 308` have a double. -/
def tenPower (n : Nat) : Double := nearest false (Nat.pow 10 n)

/-- Divide by `10 ^ 308` this many times, as long as something is left. -/
def lower : Nat → Double → Double
  | 0, d => d
  | n + 1, d =>
    if d.significand = 0 then d else lower n ((d.div false (tenPower 308)).getD default)

/-- A double for `± significand · 10 ^ exponent`. The significand is rounded to a double, and what
it is multiplied with or divided by is rounded as well, so that the result need not be the nearest
one. -/
def ofDecimal (negative : Bool) (significand : Nat) (exponent : Int) : Option Double :=
  let d := nearest false significand
  if 308 < exponent then if significand = 0 then some (zero negative) else none
  else if 0 ≤ exponent then d.mul negative (tenPower exponent.toNat)
  else
    let n := exponent.natAbs
    let times := (n - 1) / 308
    (lower times d).div negative (tenPower (n - 308 * times))

end Double

end ManagedAgent
