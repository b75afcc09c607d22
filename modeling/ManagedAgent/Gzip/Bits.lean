import ManagedAgent.Message.Attribute
import ManagedAgent.Reader

/-!
# Streams of bits

Compressed data is a stream of bits, the least significant bit of each byte first. Numbers in it
have a fixed width and start with their least significant bit.
-/

set_option autoImplicit false

namespace ManagedAgent.Gzip

/-- Why compressed data was refused. -/
inductive Failure where
  /-- The container ends too early. -/
  | unexpectedEnd
  | invalidHeader
  | fieldTooLong
  /-- The data ends inside the compressed stream. -/
  | incomplete
  | corrupt
  | checksum
  deriving DecidableEq, Inhabited

def Failure.message : Failure → String
  | .unexpectedEnd => "unexpected end of file"
  | .invalidHeader => "invalid gzip header"
  | .fieldTooLong => "gzip header field too long"
  | .incomplete => "incomplete deflate stream"
  | .corrupt => "corrupt deflate stream"
  | .checksum => "corrupt gzip stream does not have a matching checksum"

abbrev Bits := List Bool

namespace Bits

/-- A number in `width` bits, the least significant one first. -/
def ofNat : (width : Nat) → Nat → Bits
  | 0, _ => []
  | width + 1, n => (n % 2 == 1) :: ofNat width (n / 2)

def toNat : Bits → Nat
  | [] => 0
  | b :: r => b.toNat + 2 * toNat r

def ofBytes (b : Bytes) : Bits := b.flatMap fun x => ofNat 8 x.toNat

/-- Pack bits into bytes; zeros fill the last byte up. -/
def toBytes : Bits → Bytes
  | [] => []
  | b :: r => UInt8.ofNat (toNat ((b :: r).take 8)) :: toBytes (r.drop 7)
  termination_by b => b.length
  decreasing_by simp only [List.length_drop, List.length_cons]; omega

@[simp] theorem length_ofNat (width n : Nat) : (ofNat width n).length = width := by
  induction width generalizing n with
  | zero => rfl
  | succ width ih => simp [ofNat, ih]

theorem toNat_isOdd (n : Nat) : (n % 2 == 1).toNat = n % 2 := by
  rcases Nat.mod_two_eq_zero_or_one n with h | h <;> simp [h]

theorem toNat_ofNat (width n : Nat) : toNat (ofNat width n) = n % (1 <<< width) := by
  rw [Nat.one_shiftLeft]
  induction width generalizing n with
  | zero => simp [ofNat, toNat, Nat.mod_one]
  | succ width ih => rw [ofNat, toNat, ih, toNat_isOdd, Nat.pow_succ', Nat.mod_mul]

end Bits

abbrev BitReader (α : Type) : Type := Reader Failure Bool α

namespace BitReader

def number : (width : Nat) → BitReader Nat
  | 0 => pure 0
  | width + 1 => do
    let b ← Reader.nextOr .incomplete
    return b.toNat + 2 * (← number width)

/-- Drop the bits up to the next whole byte, where the stream ends with a byte. -/
def align : BitReader Unit := fun s => .ok ((), ⟨s.drop (s.length % 8), by simp⟩)

def bytes : (count : Nat) → BitReader Bytes
  | 0 => pure []
  | count + 1 => do
    let b ← number 8
    return UInt8.ofNat b :: (← bytes count)

end BitReader

end ManagedAgent.Gzip
