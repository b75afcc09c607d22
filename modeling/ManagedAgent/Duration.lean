/-!
# Durations

Whole seconds and nanoseconds below one second. `Duration.text` prints a duration in the largest
unit of which there is at least one, with the fraction that is left and no zeros at its end.
-/

set_option autoImplicit false

namespace ManagedAgent

/-- A length of time: seconds, and nanoseconds below one second. -/
structure Duration where
  secs : UInt64
  nanos : Fin 1000000000
  deriving DecidableEq, Inhabited

namespace Duration

def zero : Duration := ⟨0, 0⟩

def ofSecs (secs : UInt64) : Duration := ⟨secs, 0⟩

def toNanos (d : Duration) : Nat := d.secs.toNat * 1000000000 + d.nanos.val

/-- The duration of that many nanoseconds; the seconds are counted modulo `2 ^ 64`. -/
def ofNanos (n : Nat) : Duration :=
  ⟨UInt64.ofNat (n / 1000000000), Fin.ofNat 1000000000 n⟩

def ofMillis (n : Nat) : Duration := ofNanos (n * 1000000)

/-- Seconds and any number of nanoseconds below `2 ^ 32`; what exceeds a second is carried, unless
the seconds overflow. -/
def normalize? (secs : UInt64) (nanos : UInt32) : Option Duration :=
  let n := secs.toNat * 1000000000 + nanos.toNat
  if n / 1000000000 < UInt64.size then some (ofNanos n) else none

def max (a b : Duration) : Duration := if a.toNanos ≤ b.toNanos then b else a

/-- The number of ticks of one millisecond that a wait of this length takes: no fewer than asked
for. -/
def ticks (d : Duration) : Nat := (d.toNanos + 999999) / 1000000

/-! ## The text of a duration -/

/-- The digits of a fraction with this many places, without zeros at the end. -/
def fractionDigits (places n : Nat) : List Char :=
  let digits := Nat.toDigits 10 n
  let padded := List.replicate (places - digits.length) '0' ++ digits
  (padded.reverse.dropWhile (· == '0')).reverse

/-- A number of a unit that has `10 ^ places` parts. -/
def unitText (whole part places : Nat) (unit : String) : String :=
  let fraction := if part = 0 then [] else '.' :: fractionDigits places part
  String.ofList (Nat.toDigits 10 whole ++ fraction) ++ unit

def text (d : Duration) : String :=
  let n := d.nanos.val
  if d.secs ≠ 0 then unitText d.secs.toNat n 9 "s"
  else if 1000000 ≤ n then unitText (n / 1000000) (n % 1000000) 6 "ms"
  else if 1000 ≤ n then unitText (n / 1000) (n % 1000) 3 "µs"
  else unitText n 0 0 "ns"

end Duration

end ManagedAgent
