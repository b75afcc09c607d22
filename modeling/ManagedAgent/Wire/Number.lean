import ManagedAgent.Decimal.Shortest
import ManagedAgent.Wire.Reader

/-!
# Numbers

A number without fraction and exponent is an integer when it fits sixty-four bits, unsigned or
signed; every other number, and `-0`, is a double. A double beyond the largest one is refused.
`skipNumber` passes over a number of any size.

A double is read from as many digits as fit sixty-four bits, and by the rule of `Double.ofDecimal`.
It may differ from the double that was written.
-/

set_option autoImplicit false

namespace ManagedAgent.Wire

/-- A number as it was read. -/
inductive Number where
  | unsigned (n : UInt64)
  | negative (i : Int64)
  | double (d : Double)
  deriving DecidableEq, Inhabited

namespace Number

def toUInt64? : Number → Option UInt64
  | .unsigned n => some n
  | _ => none

def toInt64? : Number → Option Int64
  | .unsigned n => if n.toNat < 0x8000000000000000 then some (Int64.ofNat n.toNat) else none
  | .negative i => some i
  | .double _ => none

def toUInt32? : Number → Option UInt32
  | .unsigned n => if n.toNat < UInt32.size then some (UInt32.ofNat n.toNat) else none
  | _ => none

def toByte? : Number → Option UInt8
  | .unsigned n => if n.toNat < UInt8.size then some (UInt8.ofNat n.toNat) else none
  | _ => none

/-- Every number is good for a double. -/
def toDouble : Number → Double
  | .unsigned n => .nearest false n.toNat
  | .negative i => .nearest true i.toInt.natAbs
  | .double d => d

end Number

/-! ## Writing -/

def ascii (cs : List Char) : Bytes := cs.map fun c => UInt8.ofNat c.toNat

def writeNat (n : Nat) : Bytes := ascii (Nat.toDigits 10 n)

def writeInt (i : Int) : Bytes := if i < 0 then 0x2D :: writeNat i.natAbs else writeNat i.natAbs

def writeDouble (d : Double) : Bytes := ascii (d.text .wire)

/-! ## Reading -/

def isDigit (b : UInt8) : Bool := 0x30 ≤ b && b ≤ 0x39

def digitsValue (ds : Bytes) : Nat := ds.foldl (fun n d => n * 10 + (d.toNat - 0x30)) 0

/-- The digits before the point: a leading zero stands alone. -/
def readWhole : Reader Bytes := do
  let b ← Reader.next
  if b == 0x30 then
    if (← Reader.peek).any isDigit then Reader.fail .malformed else pure [b]
  else if isDigit b then return b :: (← Reader.takeWhile isDigit)
  else Reader.fail .malformed

/-- The digits after the point, of which there is at least one. -/
def readFraction : Reader Bytes := do
  let ds ← Reader.takeWhile isDigit
  if ds.isEmpty then Reader.fail (if (← Reader.peek).isSome then .malformed else .truncated)
  else pure ds

/-- A sign, if there is one: whether it is a minus. -/
def readSign : Reader Bool := do
  let b ← Reader.peek
  if b == some 0x2D || b == some 0x2B then Reader.advance
  return b == some 0x2D

/-- The exponent, after its letter. -/
def readExponent : Reader Int := do
  let minus ← readSign
  let b ← Reader.next
  if isDigit b then
    let n := digitsValue (b :: (← Reader.takeWhile isDigit))
    return if minus then -n else n
  else Reader.fail .malformed

/-- The number of an integer's sign and magnitude, if it fits. -/
def integer? (isNegative : Bool) (n : Nat) : Option Number :=
  if isNegative then if n ≠ 0 ∧ n ≤ 0x8000000000000000 then some (.negative (Int64.ofInt (-n))) else none
  else if n < UInt64.size then some (.unsigned (UInt64.ofNat n)) else none

/-- A number in parts: sign, digits before and after the point, exponent. -/
structure Parts where
  isNegative : Bool
  whole : Bytes
  fraction : Option Bytes
  exponent : Option Int

/-- Append digits to a number as long as it fits sixty-four bits. The answer says also which digits
are left. -/
def appendDigits (n : Nat) : Bytes → Nat × Bytes
  | [] => (n, [])
  | d :: ds =>
    let next := n * 10 + (d.toNat - 0x30)
    if next < UInt64.size then appendDigits next ds else (n, d :: ds)

/-- The digits as far as they fit, and the place of the last one. Digits before the point that do
not fit still count as places. -/
def Parts.decimal (p : Parts) : Nat × Int :=
  let fraction := p.fraction.getD []
  let (n, skipped) := appendDigits 0 p.whole
  let (significand, cut) := appendDigits n fraction
  (significand, p.exponent.getD 0 + skipped.length - (fraction.length - cut.length : Nat))

/-- What the parts say, unless it is beyond the largest double. -/
def Parts.value? (p : Parts) : Option Number :=
  match p.fraction, p.exponent, integer? p.isNegative (digitsValue p.whole) with
  | none, none, some n => some n
  | _, _, _ => (Double.ofDecimal p.isNegative p.decimal.1 p.decimal.2).map .double

/-- What is read with `p` behind a byte of this kind, if such a byte is next. -/
def readBehind {α : Type} (isMark : UInt8 → Bool) (p : Reader α) : Reader (Option α) := do
  if (← Reader.peek).any isMark then
    Reader.advance
    return some (← p)
  else return none

def readParts : Reader Parts := do
  let minus ← readBehind (· == 0x2D) (pure ())
  let whole ← readWhole
  let fraction ← readBehind (· == 0x2E) readFraction
  let exponent ← readBehind (fun b => b == 0x65 || b == 0x45) readExponent
  return { isNegative := minus.isSome, whole, fraction, exponent }

/-- A number, at its sign or first digit. -/
def readNumber : Reader Number := do
  match (← readParts).value? with
  | some n => pure n
  | none => Reader.fail .malformed

/-! ## Passing over -/

/-- The next byte, which has to be a digit; a text that ends here is malformed. -/
def skipDigit : Reader UInt8 := do
  let b ← Reader.peek
  Reader.advance
  match b.filter isDigit with
  | some b => pure b
  | none => Reader.fail .malformed

/-- Pass over a number, after its sign or first digit. A number that breaks off is malformed. -/
def skipNumber (first : UInt8) : Reader Unit := do
  let first ← if first == 0x2D then skipDigit else pure first
  if first == 0x30 then
    if (← Reader.peek).any isDigit then Reader.fail .malformed
  else Reader.dropWhile isDigit
  if (← Reader.peek) == some 0x2E then
    Reader.advance
    discard skipDigit
    Reader.dropWhile isDigit
  let b ← Reader.peek
  if b == some 0x65 || b == some 0x45 then
    Reader.advance
    discard readSign
    discard skipDigit
    Reader.dropWhile isDigit

end ManagedAgent.Wire
