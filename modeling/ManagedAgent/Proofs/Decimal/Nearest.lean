import ManagedAgent.Decimal.Shortest
import Mathlib.Algebra.Order.Field.Power
import Mathlib.Data.Nat.Log
import Mathlib.Tactic.FieldSimp
import Mathlib.Tactic.Linarith
import Mathlib.Tactic.Positivity
import Mathlib.Tactic.Ring
import Mathlib.Tactic.SplitIfs

/-!
# Rounding a fraction to the nearest double

`Within d x`: the magnitude `x` is among the rationals that round to `d`, as the grid of shortest
decimals has them. The nearest double of such a fraction is `d` itself.

* `isFinite_ofRatio`, `isFinite_ofDecimal` : no fraction and no decimal gives an infinity;
* `pack_self` : a finite double is packed from its sign, significand and scale;
* `ofRatio_of_within` : rounding finds `d` again.
-/

set_option autoImplicit false

namespace ManagedAgent.Double

/-! ## The fields of a packed double -/

/-- The field of the exponent in a packed double. -/
def packedExponent (m : Nat) (q : Int) : Nat := if m < leadingOne then 0 else (q + 1075).toNat

theorem packedExponent_lt {m : Nat} {q : Int} (hq : q ≤ 971) : packedExponent m q < 2047 := by
  unfold packedExponent
  split
  · decide
  · omega

theorem toNat_pack {negative : Bool} {m : Nat} {q : Int} (hq : q ≤ 971) :
    (pack negative m q).bits.toNat =
      (if negative then 0x8000000000000000 else 0) + packedExponent m q * leadingOne +
        m % leadingOne := by
  have hmod : m % 4503599627370496 < 4503599627370496 := Nat.mod_lt _ (by decide)
  have hfield := packedExponent_lt (m := m) hq
  show (UInt64.ofNat _).toNat = _
  rw [UInt64.toNat_ofNat', Nat.mod_eq_of_lt]
  · rfl
  · show _ + packedExponent m q * 4503599627370496 + m % 4503599627370496 < 18446744073709551616
    split <;> omega

theorem exponentField_pack {negative : Bool} {m : Nat} {q : Int} (hq : q ≤ 971) :
    (pack negative m q).exponentField = packedExponent m q := by
  have hmod : m % 4503599627370496 < 4503599627370496 := Nat.mod_lt _ (by decide)
  have hfield := packedExponent_lt (m := m) hq
  unfold exponentField
  rw [toNat_pack hq]
  show (_ + packedExponent m q * 4503599627370496 + m % 4503599627370496) / 4503599627370496 % 2048 = _
  split <;> omega

/-- A packed double is a number unless its scale is beyond the largest. -/
theorem isFinite_pack {negative : Bool} {m : Nat} {q : Int} (hq : q ≤ 971) :
    (pack negative m q).isFinite = true := by
  have hfield := packedExponent_lt (m := m) hq
  unfold isFinite
  rw [exponentField_pack hq]
  simp only [bne_iff_ne]
  omega

theorem isFinite_zero (negative : Bool) : (zero negative).isFinite = true :=
  isFinite_pack (by decide)

theorem isFinite_ofRounded {negative : Bool} {m : Nat} {q : Int} {d : Double}
    (h : ofRounded negative m q = some d) : d.isFinite = true := by
  unfold ofRounded at h
  split at h
  split at h
  · cases h
  · rename_i hq
    obtain rfl := Option.some.inj h
    exact isFinite_pack (by omega)

theorem isFinite_ofRatio {negative : Bool} {num den : Nat} {d : Double}
    (h : ofRatio negative num den = some d) : d.isFinite = true := by
  unfold ofRatio at h
  split at h
  · obtain rfl := Option.some.inj h
    exact isFinite_zero negative
  · exact isFinite_ofRounded h

theorem isFinite_nearest (negative : Bool) (n : Nat) : (nearest negative n).isFinite = true := by
  unfold nearest
  cases h : ofRatio negative n 1 with
  | none => rfl
  | some d => exact isFinite_ofRatio h

theorem isFinite_mul {negative : Bool} {a b d : Double} (h : a.mul negative b = some d) :
    d.isFinite = true := isFinite_ofRatio h

theorem isFinite_div {negative : Bool} {a b d : Double} (h : a.div negative b = some d) :
    d.isFinite = true := isFinite_ofRatio h

/-- No decimal is read as an infinity. -/
theorem isFinite_ofDecimal {negative : Bool} {significand : Nat} {exponent : Int} {d : Double}
    (h : ofDecimal negative significand exponent = some d) : d.isFinite = true := by
  unfold ofDecimal at h
  dsimp only at h
  split at h
  · split at h
    · obtain rfl := Option.some.inj h
      exact isFinite_zero negative
    · cases h
  · split at h
    · exact isFinite_mul h
    · exact isFinite_div h

/-! ## The parts of a finite double -/

theorem fractionField_lt (d : Double) : d.fractionField < leadingOne := Nat.mod_lt _ (by decide)

theorem exponentField_lt (d : Double) (h : d.isFinite = true) : d.exponentField < 2047 := by
  have hlt : d.exponentField < 2048 := Nat.mod_lt _ (by decide)
  have hne : d.exponentField ≠ 2047 := by simpa [isFinite] using h
  omega

theorem significand_lt (d : Double) : d.significand < 2 * leadingOne := by
  have := d.fractionField_lt
  unfold significand
  split <;> omega

/-- Below the leading one there are only the subnormal numbers, which all have the least scale. -/
theorem scale_of_significand_lt {d : Double} (h : d.significand < leadingOne) : d.scale = -1074 := by
  unfold significand at h
  unfold scale
  split at h
  · rename_i hzero
    rw [if_pos hzero]
  · omega

theorem neg_1074_le_scale (d : Double) : -1074 ≤ d.scale := by
  unfold scale
  split <;> omega

theorem scale_le {d : Double} (h : d.isFinite = true) : d.scale ≤ 971 := by
  have := d.exponentField_lt h
  unfold scale
  split <;> omega

theorem one_lt_exponentField {d : Double} (h : d.scale ≠ -1074) : 1 < d.exponentField := by
  unfold scale at h
  split at h
  · contradiction
  · omega

/-- A finite double is packed from its parts. -/
theorem pack_self {d : Double} (h : d.isFinite = true) :
    pack d.isNegative d.significand d.scale = d := by
  obtain ⟨bits⟩ := d
  have hlt : bits.toNat < 18446744073709551616 := bits.toNat_lt
  have hbits : (pack (isNegative ⟨bits⟩) (significand ⟨bits⟩) (scale ⟨bits⟩)).bits.toNat =
      bits.toNat := by
    rw [toNat_pack (scale_le h)]
    unfold packedExponent significand scale isNegative
    have hfraction := fractionField_lt ⟨bits⟩
    unfold exponentField fractionField leadingOne at *
    dsimp only at *
    simp only [decide_eq_true_eq]
    split_ifs <;> omega
  exact congrArg Double.mk (UInt64.toNat_inj.1 hbits)

/-! ## Rounding to a natural number -/

/-- A fraction no farther than a half from `r` is rounded to it; at a distance of a half only if `r`
is even. -/
theorem roundDiv_eq {num den r : Nat} (hlow : 2 * r * den ≤ 2 * num + den)
    (hhigh : 2 * num ≤ (2 * r + 1) * den)
    (hodd : r % 2 = 1 → 2 * r * den < 2 * num + den ∧ 2 * num < (2 * r + 1) * den)
    (hden : 0 < den) : roundDiv num den = r := by
  have hdiv : den * (num / den) + num % den = num := Nat.div_add_mod num den
  have hmod : num % den < den := Nat.mod_lt _ hden
  have hle : num / den ≤ r := by
    by_contra hlt
    have : (r + 1) * den ≤ den * (num / den) := by
      rw [Nat.mul_comm]
      exact Nat.mul_le_mul_left _ (by omega)
    have hexpand : (2 * r + 1) * den + den = 2 * ((r + 1) * den) := by ring
    omega
  have hge : r ≤ num / den + 1 := by
    by_contra hlt
    have : (num / den + 2) * den ≤ r * den := Nat.mul_le_mul_right _ (by omega)
    have hexpand : (num / den + 2) * den = den * (num / den) + 2 * den := by ring
    have hdouble : 2 * r * den = 2 * (r * den) := by ring
    omega
  unfold roundDiv
  dsimp only
  generalize num / den = f at *
  generalize num % den = t at *
  rcases Nat.eq_or_lt_of_le hle with rfl | hlt
  · have hexpand : (2 * f + 1) * den = 2 * (den * f) + den := by ring
    have hdouble : 2 * f * den = 2 * (den * f) := by ring
    rw [if_neg]
    simp only [Bool.or_eq_true, decide_eq_true_eq, Bool.and_eq_true, beq_iff_eq]
    omega
  · obtain rfl : r = f + 1 := by omega
    have hexpand : (2 * (f + 1) + 1) * den = 2 * (den * f) + 3 * den := by ring
    have hdouble : 2 * (f + 1) * den = 2 * (den * f) + 2 * den := by ring
    rw [if_pos]
    simp only [Bool.or_eq_true, decide_eq_true_eq, Bool.and_eq_true, beq_iff_eq]
    omega

theorem roundDiv_eq_of_rat {num den r : Nat} (hden : 0 < den)
    (hlow : (r : ℚ) - 1 / 2 ≤ num / den) (hhigh : (num : ℚ) / den ≤ r + 1 / 2)
    (hodd : r % 2 = 1 → (r : ℚ) - 1 / 2 < num / den ∧ (num : ℚ) / den < r + 1 / 2) :
    roundDiv num den = r := by
  have hpos : (0 : ℚ) < den := Nat.cast_pos.2 hden
  have low_iff : (r : ℚ) - 1 / 2 ≤ num / den ↔ 2 * r * den ≤ 2 * num + den := by
    rw [le_div_iff₀ hpos, ← Nat.cast_le (α := ℚ)]
    push_cast
    constructor <;> intro h <;> linarith
  have high_iff : (num : ℚ) / den ≤ r + 1 / 2 ↔ 2 * num ≤ (2 * r + 1) * den := by
    rw [div_le_iff₀ hpos, ← Nat.cast_le (α := ℚ)]
    push_cast
    constructor <;> intro h <;> linarith
  have low_iff' : (r : ℚ) - 1 / 2 < num / den ↔ 2 * r * den < 2 * num + den := by
    rw [lt_div_iff₀ hpos, ← Nat.cast_lt (α := ℚ)]
    push_cast
    constructor <;> intro h <;> linarith
  have high_iff' : (num : ℚ) / den < r + 1 / 2 ↔ 2 * num < (2 * r + 1) * den := by
    rw [div_lt_iff₀ hpos, ← Nat.cast_lt (α := ℚ)]
    push_cast
    constructor <;> intro h <;> linarith
  exact roundDiv_eq (low_iff.1 hlow) (high_iff.1 hhigh)
    (fun h => ⟨low_iff'.1 (hodd h).1, high_iff'.1 (hodd h).2⟩) hden

/-! ## The scale of a fraction -/

def firstScale (num den : Nat) : Int := max ((num.log2 : Int) - den.log2 - 52) (-1074)

def roundingScale (num den : Nat) : Int :=
  let (n, d) := scaled num den (firstScale num den)
  if n / d < leadingOne then max (firstScale num den - 1) (-1074) else firstScale num den

theorem ofRatio_eq {negative : Bool} {num den : Nat} (hnum : num ≠ 0) :
    ofRatio negative num den =
      ofRounded negative
        (roundDiv (scaled num den (roundingScale num den)).1
          (scaled num den (roundingScale num den)).2) (roundingScale num den) := by
  unfold ofRatio
  rw [if_neg hnum]
  rfl

theorem scaled_pos (num : Nat) {den : Nat} (hden : 0 < den) (s : Int) : 0 < (scaled num den s).2 := by
  unfold scaled
  split
  · show 0 < den <<< s.toNat
    rw [Nat.shiftLeft_eq]
    positivity
  · exact hden

theorem scaled_div (num : Nat) {den : Nat} (hden : 0 < den) (s : Int) :
    ((scaled num den s).1 : ℚ) / (scaled num den s).2 = (num : ℚ) / den / 2 ^ s := by
  have hne : (den : ℚ) ≠ 0 := Nat.cast_ne_zero.2 hden.ne'
  unfold scaled
  split
  · rename_i hs
    obtain ⟨n, rfl⟩ := Int.eq_ofNat_of_zero_le hs
    show (num : ℚ) / ((den <<< n : Nat) : ℚ) = num / den / 2 ^ (n : ℤ)
    rw [Nat.shiftLeft_eq, zpow_natCast]
    push_cast
    field_simp
  · rename_i hs
    obtain ⟨n, hn⟩ := Int.eq_ofNat_of_zero_le (show 0 ≤ -s by omega)
    obtain rfl : s = -(n : Int) := by omega
    show ((num <<< (-(-(n : Int))).toNat : Nat) : ℚ) / den = num / den / 2 ^ (-(n : ℤ))
    rw [Int.neg_neg, Int.toNat_natCast, Nat.shiftLeft_eq, zpow_neg, zpow_natCast]
    push_cast
    field_simp

/-- A fraction lies between the powers of two of its numerator and denominator. -/
theorem div_bounds_log2 {num den : Nat} (hnum : num ≠ 0) (hden : den ≠ 0) :
    (2 : ℚ) ^ ((num.log2 : ℤ) - den.log2 - 1) < num / den ∧
      (num : ℚ) / den < 2 ^ ((num.log2 : ℤ) - den.log2 + 1) := by
  have hpos : (0 : ℚ) < den := by positivity
  have hnlow : (2 : ℚ) ^ (num.log2 : ℤ) ≤ num := by
    rw [zpow_natCast]
    exact_mod_cast Nat.log2_self_le hnum
  have hnhigh : (num : ℚ) < 2 ^ ((num.log2 : ℤ) + 1) := by
    have : num < 2 ^ (num.log2 + 1) := Nat.lt_log2_self
    exact_mod_cast this
  have hdlow : (2 : ℚ) ^ (den.log2 : ℤ) ≤ den := by
    rw [zpow_natCast]
    exact_mod_cast Nat.log2_self_le hden
  have hdhigh : (den : ℚ) < 2 ^ ((den.log2 : ℤ) + 1) := by
    have : den < 2 ^ (den.log2 + 1) := Nat.lt_log2_self
    exact_mod_cast this
  constructor
  · rw [lt_div_iff₀ hpos]
    calc (2 : ℚ) ^ ((num.log2 : ℤ) - den.log2 - 1) * den
        < 2 ^ ((num.log2 : ℤ) - den.log2 - 1) * 2 ^ ((den.log2 : ℤ) + 1) := by gcongr
      _ = 2 ^ (num.log2 : ℤ) := by rw [← zpow_add₀ two_ne_zero]; congr 1; ring
      _ ≤ num := hnlow
  · rw [div_lt_iff₀ hpos]
    calc (num : ℚ) < 2 ^ ((num.log2 : ℤ) + 1) := hnhigh
      _ = 2 ^ ((num.log2 : ℤ) - den.log2 + 1) * 2 ^ (den.log2 : ℤ) := by
        rw [← zpow_add₀ two_ne_zero]; congr 1; ring
      _ ≤ 2 ^ ((num.log2 : ℤ) - den.log2 + 1) * den := by gcongr

/-- The scale has the fraction below fifty-three bits, and of fifty-three bits unless it is the least
one. -/
structure FitsScale (x : ℚ) (s : Int) : Prop where
  least : -1074 ≤ s
  lt : x < 2 ^ (53 + s)
  le : s ≠ -1074 → 2 ^ (52 + s) ≤ x

theorem fitsScale_roundingScale {num den : Nat} (hnum : num ≠ 0) (hden : den ≠ 0) :
    FitsScale ((num : ℚ) / den) (roundingScale num den) := by
  obtain ⟨hlow, hhigh⟩ := div_bounds_log2 hnum hden
  have hpos : 0 < den := Nat.pos_of_ne_zero hden
  have hstart : (num : ℚ) / den < 2 ^ (53 + firstScale num den) := by
    refine hhigh.trans_le (zpow_le_zpow_right₀ one_le_two ?_)
    unfold firstScale
    omega
  have hfloor : (scaled num den (firstScale num den)).1 / (scaled num den (firstScale num den)).2 <
      leadingOne ↔ (num : ℚ) / den < 2 ^ (52 + firstScale num den) := by
    have hd := scaled_pos num hpos (firstScale num den)
    have hcast : (0 : ℚ) < ((scaled num den (firstScale num den)).2 : ℚ) := Nat.cast_pos.2 hd
    rw [Nat.div_lt_iff_lt_mul hd, ← Nat.cast_lt (α := ℚ), Nat.cast_mul, ← div_lt_iff₀ hcast,
      scaled_div num hpos, div_lt_iff₀ (by positivity), zpow_add₀ two_ne_zero]
    norm_num [leadingOne]
  unfold roundingScale
  dsimp only
  split
  · rename_i hlt
    have hx := hfloor.1 hlt
    refine ⟨by omega, hx.trans_le (zpow_le_zpow_right₀ one_le_two (by omega)), fun hne => ?_⟩
    refine le_trans (zpow_le_zpow_right₀ one_le_two ?_) hlow.le
    unfold firstScale at hne ⊢
    omega
  · rename_i hge
    refine ⟨by unfold firstScale; omega, hstart, fun _ => not_lt.1 fun hlt => hge (hfloor.2 hlt)⟩

/-! ## The fractions that round to a double -/

/-- The least of the reals that round to a double, as a multiple of its last place: the lower
neighbour of a power of two is only half as far away as the upper one. -/
def lowEnd (d : Double) : ℚ :=
  if d.significand = leadingOne ∧ 1 < d.exponentField then d.significand - 1 / 4
  else d.significand - 1 / 2

/-- The magnitude is among those that round to the double; the ends are if the significand is
even. -/
structure Within (d : Double) (x : ℚ) : Prop where
  low : d.lowEnd ≤ x / 2 ^ d.scale
  high : x / 2 ^ d.scale ≤ d.significand + 1 / 2
  odd : d.significand % 2 = 1 → d.lowEnd < x / 2 ^ d.scale ∧ x / 2 ^ d.scale < d.significand + 1 / 2

theorem half_le_lowEnd (d : Double) : (d.significand : ℚ) - 1 / 2 ≤ d.lowEnd := by
  unfold lowEnd
  split <;> linarith

theorem significand_le (d : Double) : (d.significand : ℚ) ≤ 2 ^ 53 - 1 := by
  have h : d.significand + 1 ≤ 2 ^ 53 := d.significand_lt
  have : ((d.significand + 1 : Nat) : ℚ) ≤ 2 ^ 53 := by exact_mod_cast h
  push_cast at this
  linarith

/-- A fraction that rounds to a double fits its scale, or comes to a power of two from below. -/
theorem scale_of_within {d : Double} {x : ℚ} {s : Int} (h : d.Within x) (hs : FitsScale x s) :
    s = d.scale ∨ s = d.scale - 1 ∧ d.significand = leadingOne ∧
      (d.significand : ℚ) - 1 / 4 ≤ x / 2 ^ d.scale := by
  have hpow : (0 : ℚ) < 2 ^ d.scale := by positivity
  have hlow := d.half_le_lowEnd.trans h.low
  rcases lt_trichotomy s d.scale with hlt | heq | hgt
  · -- The scale is not the least, so that the double is normal.
    have hscale : d.scale ≠ -1074 := by
      have := hs.least
      omega
    have hnormal : leadingOne ≤ d.significand := not_lt.1 fun h => hscale (scale_of_significand_lt h)
    have hx : x / 2 ^ d.scale < 2 ^ (53 + s - d.scale) := by
      rw [div_lt_iff₀ hpow, ← zpow_add₀ two_ne_zero]
      exact hs.lt.trans_le (le_of_eq (by congr 1; ring))
    have hx' : x / 2 ^ d.scale < 2 ^ 52 := by
      refine hx.trans_le ?_
      rw [← zpow_natCast]
      exact zpow_le_zpow_right₀ one_le_two (by omega)
    have hone : d.significand = leadingOne := by
      have hcast : (leadingOne : ℚ) = 2 ^ 52 := by norm_num [leadingOne]
      have : (d.significand : ℚ) < (leadingOne : ℚ) + 1 := by linarith
      have : d.significand < leadingOne + 1 := by exact_mod_cast this
      omega
    have hend : (d.significand : ℚ) - 1 / 4 ≤ x / 2 ^ d.scale := by
      have := h.low
      unfold lowEnd at this
      rwa [if_pos ⟨hone, one_lt_exponentField hscale⟩] at this
    refine .inr ⟨?_, hone, hend⟩
    by_contra hne
    have : x / 2 ^ d.scale < 2 ^ 51 := by
      refine hx.trans_le ?_
      rw [← zpow_natCast]
      exact zpow_le_zpow_right₀ one_le_two (by omega)
    rw [hone] at hend
    norm_num [leadingOne] at hend
    linarith
  · exact .inl heq
  · have hx : (2 : ℚ) ^ 53 ≤ x / 2 ^ d.scale := by
      have := d.neg_1074_le_scale
      rw [le_div_iff₀ hpow]
      refine le_trans ?_ (hs.le (by omega))
      rw [← zpow_natCast, ← zpow_add₀ two_ne_zero]
      exact zpow_le_zpow_right₀ one_le_two (by push_cast; omega)
    have := h.high
    have := d.significand_le
    linarith

theorem ofRounded_self {d : Double} (h : d.isFinite = true) (negative : Bool) :
    ofRounded negative d.significand d.scale = some (pack negative d.significand d.scale) := by
  have hlt := d.significand_lt
  have hle := scale_le h
  unfold ofRounded
  rw [if_neg (by omega)]
  dsimp only
  rw [if_neg (by omega)]

/-- **Rounding finds the double again.** -/
theorem ofRatio_of_within {d : Double} (hd : d.isFinite = true) {num den : Nat} (hnum : num ≠ 0)
    (hden : den ≠ 0) (h : d.Within ((num : ℚ) / den)) (negative : Bool) :
    ofRatio negative num den = some (pack negative d.significand d.scale) := by
  have hpos : 0 < den := Nat.pos_of_ne_zero hden
  have hround := scaled_pos num hpos (roundingScale num den)
  have hquot := scaled_div num hpos (roundingScale num den)
  rw [ofRatio_eq hnum]
  rcases scale_of_within h (fitsScale_roundingScale hnum hden) with hs | ⟨hs, hone, hend⟩
  · rw [hs] at hround hquot ⊢
    have hm : roundDiv (scaled num den d.scale).1 (scaled num den d.scale).2 = d.significand := by
      refine roundDiv_eq_of_rat hround ?_ ?_ fun hodd => ?_
      · rw [hquot]
        exact d.half_le_lowEnd.trans h.low
      · rw [hquot]
        exact h.high
      · rw [hquot]
        exact ⟨d.half_le_lowEnd.trans_lt (h.odd hodd).1, (h.odd hodd).2⟩
    rw [hm]
    exact ofRounded_self hd negative
  · -- Rounding carries out of the fifty-three bits.
    have hlt := (fitsScale_roundingScale hnum hden).lt
    rw [hs] at hround hquot hlt ⊢
    have htwice : (num : ℚ) / den / 2 ^ (d.scale - 1) = 2 * ((num : ℚ) / den / 2 ^ d.scale) := by
      rw [zpow_sub_one₀ two_ne_zero]
      field_simp
    have hbelow : (num : ℚ) / den / 2 ^ (d.scale - 1) < 2 ^ 53 := by
      rw [div_lt_iff₀ (by positivity), ← zpow_natCast, ← zpow_add₀ two_ne_zero]
      exact hlt
    have hm : roundDiv (scaled num den (d.scale - 1)).1 (scaled num den (d.scale - 1)).2 =
        2 * leadingOne := by
      refine roundDiv_eq_of_rat hround ?_ ?_ fun hodd => absurd hodd (by decide)
      · rw [hquot, htwice]
        rw [hone] at hend
        norm_num [leadingOne] at hend ⊢
        linarith
      · rw [hquot]
        norm_num [leadingOne] at hbelow ⊢
        linarith
    have hself := ofRounded_self hd negative
    rw [hone] at hself ⊢
    unfold ofRounded at hself ⊢
    rw [if_neg (by decide)] at hself
    rw [hm, if_pos rfl]
    dsimp only at hself ⊢
    rwa [Int.sub_add_cancel]

end ManagedAgent.Double
