import ManagedAgent.Gzip.Bits
import ManagedAgent.Proofs.Reader
import Mathlib.Algebra.Group.Nat.Defs

/-!
# Bits packed into bytes

Packing a stream of bits into bytes loses nothing: the bits of the bytes are the stream, with less
than one byte of zeros behind it.

* `ofBytes_toBytes` : unpacking undoes packing, up to that padding;
* `takes_number` : a number is read back from its bits.
-/

set_option autoImplicit false

namespace ManagedAgent.Gzip

namespace Bits

theorem toNat_lt (b : Bits) : toNat b < 2 ^ b.length := by
  induction b with
  | nil => exact Nat.one_pos
  | cons x r ih =>
    rw [toNat, List.length_cons, Nat.pow_succ]
    have := x.toNat_le
    omega

/-- A number of more bits than needed ends with zeros. -/
theorem ofNat_toNat {width : Nat} {b : Bits} (h : b.length ≤ width) :
    ofNat width (toNat b) = b ++ List.replicate (width - b.length) false := by
  induction width generalizing b with
  | zero => rw [List.eq_nil_of_length_eq_zero (Nat.le_zero.1 h)]; rfl
  | succ width ih =>
    cases b with
    | nil =>
      have := @ih [] (Nat.zero_le width)
      rw [show toNat [] = 0 from rfl, List.nil_append, List.length_nil, Nat.sub_zero] at this
      rw [show toNat [] = 0 from rfl, ofNat, this]
      rfl
    | cons x r =>
      have hmod : (toNat (x :: r) % 2 == 1) = x := by
        rw [toNat, Nat.add_mul_mod_self_left]
        cases x <;> rfl
      have hdiv : toNat (x :: r) / 2 = toNat r := by
        have := x.toNat_lt
        rw [toNat]
        omega
      rw [ofNat, hmod, hdiv, ih (Nat.le_of_succ_le_succ h), List.length_cons, Nat.add_sub_add_right,
        List.cons_append]

@[simp] theorem length_ofBytes (b : Bytes) : (ofBytes b).length = 8 * b.length := by
  induction b with
  | nil => rfl
  | cons x r ih =>
    rw [ofBytes, List.flatMap_cons, List.length_append, length_ofNat, ← ofBytes, ih, List.length_cons]
    omega

theorem ofBytes_append (a b : Bytes) : ofBytes (a ++ b) = ofBytes a ++ ofBytes b :=
  List.flatMap_append

/-- Unpacking undoes packing, up to less than a byte of zeros. -/
theorem ofBytes_toBytes (b : Bits) : ∃ n < 8, ofBytes (toBytes b) = b ++ List.replicate n false := by
  induction b using toBytes.induct with
  | case1 => exact ⟨0, by decide, by rw [toBytes]; rfl⟩
  | case2 x r ih =>
    have hbyte : ((x :: r).take 8).length ≤ 8 := by
      rw [List.length_take]
      exact Nat.min_le_left _ _
    have hlt : toNat ((x :: r).take 8) < UInt8.size :=
      Nat.lt_of_lt_of_le (toNat_lt _) (Nat.pow_le_pow_right (by decide) hbyte)
    rw [toBytes, ofBytes, List.flatMap_cons, ← ofBytes, UInt8.toNat_ofNat_of_lt' hlt,
      ofNat_toNat hbyte]
    rcases Nat.lt_or_ge r.length 7 with hr | hr
    · refine ⟨8 - (x :: r).length, by rw [List.length_cons]; omega, ?_⟩
      rw [List.drop_eq_nil_of_le (Nat.le_of_lt hr), toBytes, List.take_of_length_le (by
        rw [List.length_cons]; omega)]
      exact List.append_nil _
    · obtain ⟨n, hn, h⟩ := ih
      refine ⟨n, hn, ?_⟩
      have hlength : ((x :: r).take 8).length = 8 := by
        rw [List.length_take, List.length_cons]
        omega
      rw [h, hlength, Nat.sub_self, List.replicate_zero, List.append_nil, ← List.append_assoc,
        show r.drop 7 = (x :: r).drop 8 from rfl, List.take_append_drop]

end Bits

namespace BitReader

theorem takes_number (width n : Nat) : (number width).Takes (Bits.ofNat width n) (n % 2 ^ width) := by
  induction width generalizing n with
  | zero =>
    rw [Nat.pow_zero, Nat.mod_one]
    exact Reader.takes_pure 0
  | succ width ih =>
    have hvalue : n % 2 ^ (width + 1) = (n % 2 == 1).toNat + 2 * (n / 2 % 2 ^ width) := by
      rw [Bits.toNat_isOdd, ← Nat.mod_mul, ← Nat.pow_succ']
    rw [hvalue]
    refine Reader.Takes.bind (Reader.takes_nextOr Failure.incomplete (n % 2 == 1)) ?_
    exact (ih (n / 2)).map fun m => (n % 2 == 1).toNat + 2 * m

theorem takes_number_of_lt {width n : Nat} (h : n < 2 ^ width) :
    (number width).Takes (Bits.ofNat width n) n := by
  have htakes := takes_number width n
  rwa [Nat.mod_eq_of_lt h] at htakes

end BitReader

end ManagedAgent.Gzip
