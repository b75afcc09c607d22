import ManagedAgent.Proofs.Decimal.Nearest

/-!
# Rounding keeps the order

A larger fraction has no smaller double, so that a product or a quotient of doubles has a double
whenever a larger one has. A decimal is rounded twice. How far this leads up is tested once for each
power of ten, at the largest significand that comes with it.

* `ofRatio_mono` : what lies below a fraction with a double has one, and it is no larger;
* `exists_ofDecimal` : decimals up to half a place below the largest double have a double;
* `ofDecimal_of_within` : a decimal of few digits is rounded only once.
-/

set_option autoImplicit false

namespace ManagedAgent.Double

def magnitude (d : Double) : ℚ := d.significand * 2 ^ d.scale

theorem magnitude_nonneg (d : Double) : 0 ≤ d.magnitude :=
  mul_nonneg (Nat.cast_nonneg _) (zpow_nonneg (by norm_num) _)

theorem magnitude_lt {d : Double} (h : d.isFinite = true) : d.magnitude < 2 ^ (1024 : ℤ) :=
  calc d.magnitude < 2 ^ (53 : ℤ) * 2 ^ d.scale := by
        have := d.significand_le
        unfold magnitude
        gcongr
        rw [zpow_ofNat]
        linarith
    _ ≤ 2 ^ (53 : ℤ) * 2 ^ (971 : ℤ) := by
        have := zpow_le_zpow_right₀ (one_le_two (α := ℚ)) (scale_le h)
        gcongr
    _ = 2 ^ (1024 : ℤ) := by rw [← zpow_add₀ two_ne_zero]; rfl

/-! ## Rounded significands -/

theorem div_le_roundDiv (num den : Nat) : num / den ≤ roundDiv num den := by
  unfold roundDiv
  dsimp only
  split <;> omega

theorem roundDiv_le (num den : Nat) : roundDiv num den ≤ num / den + 1 := by
  unfold roundDiv
  dsimp only
  split <;> omega

theorem roundDiv_mono {num den num' den' : Nat} (hden : 0 < den) (hden' : 0 < den')
    (h : num * den' ≤ num' * den) : roundDiv num den ≤ roundDiv num' den' := by
  have hdiv : den * (num / den) + num % den = num := Nat.div_add_mod num den
  have hdiv' : den' * (num' / den') + num' % den' = num' := Nat.div_add_mod num' den'
  have hfloor : num / den ≤ num' / den' := by
    rw [Nat.le_div_iff_mul_le hden']
    refine Nat.le_of_mul_le_mul_right (c := den) ?_ hden
    calc num / den * den' * den = num / den * den * den' := Nat.mul_right_comm _ _ _
      _ ≤ num * den' := Nat.mul_le_mul_right _ (Nat.div_mul_le_self num den)
      _ ≤ num' * den := h
  rcases Nat.lt_or_eq_of_le hfloor with hlt | heq
  · exact (roundDiv_le num den).trans
      ((Nat.succ_le_of_lt hlt).trans (div_le_roundDiv num' den'))
  · -- The floors are the same, so that the remainders decide.
    have hmod : num % den * den' ≤ num' % den' * den := by
      rw [← hdiv, ← hdiv', ← heq] at h
      have hswap : den * (num / den) * den' = den' * (num / den) * den := by ring
      rw [Nat.add_mul, Nat.add_mul, hswap] at h
      omega
    have hup : den ≤ 2 * (num % den) → den' ≤ 2 * (num' % den') := by
      intro hle
      refine Nat.le_of_mul_le_mul_right (c := den) ?_ hden
      calc den' * den ≤ 2 * (num % den) * den' := by
            rw [Nat.mul_comm]
            exact Nat.mul_le_mul_right _ hle
        _ ≤ 2 * (num' % den') * den := by
            rw [Nat.mul_assoc, Nat.mul_assoc]
            exact Nat.mul_le_mul_left _ hmod
    have habove : den < 2 * (num % den) → den' < 2 * (num' % den') := by
      intro hlt
      refine Nat.lt_of_mul_lt_mul_right (a := den) ?_
      calc den' * den < 2 * (num % den) * den' := by
            rw [Nat.mul_comm]
            exact Nat.mul_lt_mul_of_pos_right hlt hden'
        _ ≤ 2 * (num' % den') * den := by
            rw [Nat.mul_assoc, Nat.mul_assoc]
            exact Nat.mul_le_mul_left _ hmod
    unfold roundDiv
    dsimp only
    rw [heq]
    simp only [Bool.or_eq_true, decide_eq_true_eq, Bool.and_eq_true, beq_iff_eq]
    split <;> split <;> omega

/-- A rounded significand and its scale. All fifty-three bits are used unless the scale is the least
one; the significand may be the one that carries. -/
structure Rounded (m : Nat) (q : Int) : Prop where
  least : -1074 ≤ q
  le : m ≤ 2 * leadingOne
  full : q ≠ -1074 → leadingOne ≤ m

theorem magnitude_pack {negative : Bool} {m : Nat} {q : Int} (h : Rounded m q)
    (hm : m < 2 * leadingOne) (hq : q ≤ 971) : (pack negative m q).magnitude = m * 2 ^ q := by
  have hleast := h.least
  have hfull := h.full
  have hfield : (pack negative m q).exponentField = packedExponent m q := exponentField_pack hq
  have hmod : m % leadingOne < leadingOne := Nat.mod_lt _ (by decide)
  have hfraction : (pack negative m q).fractionField = m % leadingOne := by
    unfold fractionField
    rw [toNat_pack hq]
    unfold leadingOne at hmod ⊢
    split <;> omega
  unfold magnitude significand scale
  rw [hfield, hfraction]
  unfold packedExponent
  by_cases hlt : m < leadingOne
  · rw [if_pos hlt, if_pos rfl, if_pos rfl, Nat.mod_eq_of_lt hlt]
    obtain rfl : q = -1074 := by
      by_contra hne
      exact absurd (hfull hne) (by omega)
    rfl
  · have hne : (q + 1075).toNat ≠ 0 := by omega
    have hadd : leadingOne + m % leadingOne = m := by
      unfold leadingOne at *
      omega
    rw [if_neg hlt, if_neg hne, if_neg hne, hadd]
    congr 2
    omega

theorem magnitude_ofRounded {negative : Bool} {m : Nat} {q : Int} {d : Double} (h : Rounded m q)
    (hd : ofRounded negative m q = some d) : d.magnitude = m * 2 ^ q := by
  have hleast := h.least
  have hle := h.le
  unfold ofRounded at hd
  by_cases hcarry : m = 2 * leadingOne
  · rw [if_pos hcarry] at hd
    dsimp only at hd
    split at hd
    · cases hd
    · obtain rfl := Option.some.inj hd
      rw [magnitude_pack ⟨by omega, by decide, fun _ => le_rfl⟩ (by decide) (by omega), hcarry,
        zpow_add_one₀ two_ne_zero]
      push_cast
      ring
  · rw [if_neg hcarry] at hd
    dsimp only at hd
    split at hd
    · cases hd
    · obtain rfl := Option.some.inj hd
      exact magnitude_pack h (by omega) (by omega)

theorem exists_ofRounded {m : Nat} {q : Int} (h : Rounded m q)
    (hlt : (m : ℚ) * 2 ^ q < 2 ^ (1024 : ℤ)) (negative : Bool) :
    ∃ d, ofRounded negative m q = some d := by
  have hscale {n : Nat} {i : ℤ} (hn : (2 : ℚ) ^ i = n) (hle : n ≤ m) : i + q < 1024 := by
    refine (zpow_lt_zpow_iff_right₀ (one_lt_two (α := ℚ))).1 (lt_of_le_of_lt ?_ hlt)
    rw [zpow_add₀ two_ne_zero, hn]
    have : (n : ℚ) ≤ m := by exact_mod_cast hle
    gcongr
  unfold ofRounded
  by_cases hcarry : m = 2 * leadingOne
  · have := hscale (n := 2 * leadingOne) (i := 53) (by norm_num [leadingOne]) hcarry.ge
    rw [if_pos hcarry]
    dsimp only
    rw [if_neg (by omega)]
    exact ⟨_, rfl⟩
  · rw [if_neg hcarry]
    dsimp only
    rw [if_neg fun hq => ?_]
    · exact ⟨_, rfl⟩
    · have := hscale (n := leadingOne) (i := 52) (by norm_num [leadingOne]) (h.full (by omega))
      omega

/-! ## Fractions -/

def rounding (num den : Nat) : Nat :=
  roundDiv (scaled num den (roundingScale num den)).1 (scaled num den (roundingScale num den)).2

section Fractions
variable {num den num' den' : Nat}

theorem rounded_rounding (hnum : num ≠ 0) (hden : den ≠ 0) :
    Rounded (rounding num den) (roundingScale num den) := by
  have hpos := scaled_pos num (Nat.pos_of_ne_zero hden) (roundingScale num den)
  have hcast : (0 : ℚ) < ((scaled num den (roundingScale num den)).2 : ℚ) := Nat.cast_pos.2 hpos
  have hquot := scaled_div num (Nat.pos_of_ne_zero hden) (roundingScale num den)
  obtain ⟨hleast, hlt, hle⟩ := fitsScale_roundingScale hnum hden
  have hfloor := div_le_roundDiv (scaled num den (roundingScale num den)).1
    (scaled num den (roundingScale num den)).2
  have hceil := roundDiv_le (scaled num den (roundingScale num den)).1
    (scaled num den (roundingScale num den)).2
  refine ⟨hleast, hceil.trans ?_, fun hne => le_trans ?_ hfloor⟩
  · refine Nat.succ_le_of_lt ((Nat.div_lt_iff_lt_mul hpos).2 ?_)
    rw [← Nat.cast_lt (α := ℚ), Nat.cast_mul, ← div_lt_iff₀ hcast, hquot,
      div_lt_iff₀ (by positivity)]
    refine hlt.trans_le (le_of_eq ?_)
    rw [zpow_add₀ two_ne_zero]
    norm_num [leadingOne]
  · refine (Nat.le_div_iff_mul_le hpos).2 ?_
    rw [← Nat.cast_le (α := ℚ), Nat.cast_mul, ← le_div_iff₀ hcast, hquot,
      le_div_iff₀ (by positivity)]
    refine le_trans (le_of_eq ?_) (hle hne)
    rw [zpow_add₀ two_ne_zero]
    norm_num [leadingOne]

theorem rounding_mono (hnum : num ≠ 0) (hden : den ≠ 0) (hnum' : num' ≠ 0) (hden' : den' ≠ 0)
    (h : (num : ℚ) / den ≤ num' / den') :
    (rounding num den : ℚ) * 2 ^ roundingScale num den ≤
      rounding num' den' * 2 ^ roundingScale num' den' := by
  have hfits := fitsScale_roundingScale hnum hden
  have hfits' := fitsScale_roundingScale hnum' hden'
  have hround := rounded_rounding hnum hden
  have hround' := rounded_rounding hnum' hden'
  have hscale : roundingScale num den ≤ roundingScale num' den' := by
    by_contra hlt
    have hleast := hfits'.least
    have := (zpow_lt_zpow_iff_right₀ (one_lt_two (α := ℚ))).1
      (((hfits.le (by omega)).trans h).trans_lt hfits'.lt)
    omega
  rcases eq_or_lt_of_le hscale with heq | hlt
  · -- The same scale: it is up to the significands.
    have hpos := scaled_pos num (Nat.pos_of_ne_zero hden) (roundingScale num den)
    have hpos' := scaled_pos num' (Nat.pos_of_ne_zero hden') (roundingScale num den)
    have hle : rounding num den ≤ rounding num' den' := by
      unfold rounding
      rw [← heq]
      refine roundDiv_mono hpos hpos' ?_
      rw [← Nat.cast_le (α := ℚ), Nat.cast_mul, Nat.cast_mul,
        ← div_le_div_iff₀ (Nat.cast_pos.2 hpos) (Nat.cast_pos.2 hpos'),
        scaled_div num (Nat.pos_of_ne_zero hden), scaled_div num' (Nat.pos_of_ne_zero hden')]
      gcongr
    rw [heq]
    gcongr
  · -- A larger scale leaves room for all the bits of the smaller one.
    have hleast := hround.least
    have htop : (rounding num den : ℚ) ≤ 2 * leadingOne := by exact_mod_cast hround.le
    have hbottom : (leadingOne : ℚ) ≤ rounding num' den' := by
      exact_mod_cast hround'.full (by omega)
    have hstep := zpow_le_zpow_right₀ (one_le_two (α := ℚ)) (Int.add_one_le_of_lt hlt)
    calc (rounding num den : ℚ) * 2 ^ roundingScale num den
        ≤ 2 * leadingOne * 2 ^ roundingScale num den := by gcongr
      _ = leadingOne * 2 ^ (roundingScale num den + 1) := by
        rw [zpow_add_one₀ two_ne_zero]
        ring
      _ ≤ rounding num' den' * 2 ^ roundingScale num' den' := by gcongr

theorem magnitude_zero (negative : Bool) : (zero negative).magnitude = 0 := by
  cases negative <;> exact mul_eq_zero_of_left (by norm_cast) _

/-- **A smaller fraction has no larger double.** -/
theorem ofRatio_mono {negative' : Bool} {d' : Double} (hden : den ≠ 0) (hden' : den' ≠ 0)
    (h : (num : ℚ) / den ≤ num' / den') (hd' : ofRatio negative' num' den' = some d')
    (negative : Bool) :
    ∃ d, ofRatio negative num den = some d ∧ d.magnitude ≤ d'.magnitude := by
  by_cases hnum : num = 0
  · refine ⟨zero negative, if_pos hnum, ?_⟩
    rw [magnitude_zero]
    exact d'.magnitude_nonneg
  · have hnum' : num' ≠ 0 := by
      rintro rfl
      have : (0 : ℚ) < num / den := by positivity
      rw [Nat.cast_zero, zero_div] at h
      exact absurd h (not_le.2 this)
    have hlt := magnitude_lt (isFinite_ofRatio hd')
    rw [ofRatio_eq hnum'] at hd'
    have hvalue' := magnitude_ofRounded (rounded_rounding hnum' hden') hd'
    have hle := rounding_mono hnum hden hnum' hden' h
    rw [← hvalue'] at hle
    obtain ⟨d, hd⟩ := exists_ofRounded (rounded_rounding hnum hden) (hle.trans_lt hlt) negative
    refine ⟨d, (ofRatio_eq hnum).trans hd, ?_⟩
    rw [magnitude_ofRounded (rounded_rounding hnum hden) hd]
    exact hle

end Fractions

/-! ## Products and quotients -/

section Arithmetic
variable {a b a' b' : Double}

theorem scaled_ne_zero (num : Nat) {den : Nat} (hden : den ≠ 0) (s : Int) :
    (scaled num den s).2 ≠ 0 :=
  (scaled_pos num (Nat.pos_of_ne_zero hden) s).ne'

theorem scaled_mul (a b : Double) :
    ((scaled (a.significand * b.significand) 1 (-(a.scale + b.scale))).1 : ℚ) /
      (scaled (a.significand * b.significand) 1 (-(a.scale + b.scale))).2 =
        a.magnitude * b.magnitude := by
  rw [scaled_div _ Nat.one_pos, zpow_neg, div_inv_eq_mul, zpow_add₀ two_ne_zero]
  unfold magnitude
  push_cast
  ring

theorem scaled_quotient (a : Double) (hb : b.significand ≠ 0) :
    ((scaled a.significand b.significand (b.scale - a.scale)).1 : ℚ) /
      (scaled a.significand b.significand (b.scale - a.scale)).2 = a.magnitude / b.magnitude := by
  have hne : (b.significand : ℚ) ≠ 0 := Nat.cast_ne_zero.2 hb
  rw [scaled_div _ (Nat.pos_of_ne_zero hb), zpow_sub₀ two_ne_zero]
  unfold magnitude
  field_simp

theorem mul_eq (negative : Bool) (a b : Double) :
    a.mul negative b =
      ofRatio negative (scaled (a.significand * b.significand) 1 (-(a.scale + b.scale))).1
        (scaled (a.significand * b.significand) 1 (-(a.scale + b.scale))).2 := rfl

theorem div_eq (negative : Bool) (a b : Double) :
    a.div negative b =
      ofRatio negative (scaled a.significand b.significand (b.scale - a.scale)).1
        (scaled a.significand b.significand (b.scale - a.scale)).2 := rfl

/-- A product below another one that has a double has one, too. -/
theorem exists_mul {negative' : Bool} {d' : Double}
    (h : a.magnitude * b.magnitude ≤ a'.magnitude * b'.magnitude)
    (hd' : a'.mul negative' b' = some d') (negative : Bool) :
    ∃ d, a.mul negative b = some d := by
  rw [mul_eq] at hd' ⊢
  rw [← scaled_mul, ← scaled_mul] at h
  obtain ⟨d, hd, -⟩ := ofRatio_mono (scaled_ne_zero _ Nat.one_ne_zero _)
    (scaled_ne_zero _ Nat.one_ne_zero _) h hd' negative
  exact ⟨d, hd⟩

/-- A quotient below a natural number that has a double has one, too. -/
theorem exists_div {n : Nat} {negative' : Bool} {d' : Double} (hb : b.significand ≠ 0)
    (h : a.magnitude / b.magnitude ≤ n) (hd' : ofRatio negative' n 1 = some d') (negative : Bool) :
    ∃ d, a.div negative b = some d ∧ d.magnitude ≤ d'.magnitude := by
  rw [← scaled_quotient a hb, ← div_one (n : ℚ), ← Nat.cast_one] at h
  rw [div_eq]
  exact ofRatio_mono (scaled_ne_zero _ hb _) Nat.one_ne_zero h hd' negative

end Arithmetic

/-! ## Decimals -/

def one : Double := pack false leadingOne (-52)

theorem ofRatio_one : ofRatio false 1 1 = some one := by decide +kernel

theorem magnitude_one : one.magnitude = 1 := by
  unfold one
  rw [magnitude_pack ⟨by decide, by decide, fun _ => le_rfl⟩ (by decide) (by decide)]
  norm_num [leadingOne]

def twoPow64 : Double := pack false leadingOne 12

theorem ofRatio_twoPow64 : ofRatio false (2 ^ 64) 1 = some twoPow64 := by decide +kernel

theorem magnitude_twoPow64 : twoPow64.magnitude = (2 ^ 64 : Nat) := by
  unfold twoPow64
  rw [magnitude_pack ⟨by decide, by decide, fun _ => le_rfl⟩ (by decide) (by decide)]
  norm_num [leadingOne]

theorem nearest_eq_of_ofRatio {negative : Bool} {n : Nat} {d : Double}
    (h : ofRatio negative n 1 = some d) : nearest negative n = d := by
  unfold nearest
  rw [h]
  rfl

/-- Among the natural numbers that have a double, rounding keeps the order. -/
theorem exists_nearest {m n : Nat} {negative' : Bool} {d' : Double} (h : m ≤ n)
    (hd' : ofRatio negative' n 1 = some d') (negative : Bool) :
    ofRatio negative m 1 = some (nearest negative m) ∧
      (nearest negative m).magnitude ≤ d'.magnitude := by
  have hcast : ((m : Nat) : ℚ) / (1 : Nat) ≤ (n : Nat) / (1 : Nat) := by
    have : (m : ℚ) ≤ n := by exact_mod_cast h
    simpa using this
  obtain ⟨d, hd, hle⟩ := ofRatio_mono Nat.one_ne_zero Nat.one_ne_zero hcast hd' negative
  rw [nearest_eq_of_ofRatio hd]
  exact ⟨hd, hle⟩

theorem isSome_ofRatio_ten : ∀ n < 309, (ofRatio false (Nat.pow 10 n) 1).isSome = true := by
  decide +kernel

theorem one_le_tenPower {n : Nat} (h : n ≤ 308) : 1 ≤ (tenPower n).magnitude := by
  obtain ⟨d, hd⟩ := Option.isSome_iff_exists.1 (isSome_ofRatio_ten n (Nat.lt_succ_of_le h))
  have hone := (exists_nearest (Nat.one_le_pow n 10 (by decide)) hd false).2
  rw [nearest_eq_of_ofRatio ofRatio_one, magnitude_one] at hone
  rwa [tenPower, nearest_eq_of_ofRatio hd]

theorem significand_tenPower {n : Nat} (h : n ≤ 308) : (tenPower n).significand ≠ 0 := by
  intro hzero
  have hone := one_le_tenPower h
  unfold magnitude at hone
  rw [hzero, Nat.cast_zero, zero_mul] at hone
  norm_num at hone

/-- Dividing by a power of ten stays below two to the power of sixty-four. -/
theorem exists_div_tenPower {d : Double} (h : d.magnitude ≤ twoPow64.magnitude) {n : Nat}
    (hn : n ≤ 308) (negative : Bool) :
    ∃ d', d.div negative (tenPower n) = some d' ∧ d'.magnitude ≤ twoPow64.magnitude := by
  refine exists_div (significand_tenPower hn) ?_ ofRatio_twoPow64 negative
  exact (div_le_self d.magnitude_nonneg (one_le_tenPower hn)).trans (h.trans_eq magnitude_twoPow64)

theorem lower_le (n : Nat) {d : Double} (h : d.magnitude ≤ twoPow64.magnitude) :
    (lower n d).magnitude ≤ twoPow64.magnitude := by
  induction n generalizing d with
  | zero => exact h
  | succ n ih =>
    obtain ⟨d', hd', hle⟩ := exists_div_tenPower h le_rfl false
    unfold lower
    split
    · exact h
    · rw [hd']
      exact ih hle

/-- Half a place below the largest double. -/
@[irreducible]
def safe : Nat := (2 ^ 54 - 3) * 2 ^ 970

theorem safe_lt : safe < 10 ^ 309 := by decide +kernel

theorem cast_safe : (safe : ℚ) = (2 ^ 54 - 3) * 2 ^ (970 : ℤ) := by
  have hfront : ((2 ^ 54 - 3 : Nat) : ℚ) = 2 ^ 54 - 3 := by norm_num
  unfold safe
  rw [Nat.cast_mul, hfront, Nat.cast_pow, zpow_ofNat, Nat.cast_ofNat]

/-- What rounds to a double is safe, unless it is the largest double. -/
theorem le_safe_of_within {d : Double} (hd : d.isFinite = true)
    (hne : ¬ (d.significand = 2 * leadingOne - 1 ∧ d.scale = 971)) {x : ℚ} (h : d.Within x) :
    x ≤ safe := by
  have hhigh := h.high
  have hscale := scale_le hd
  have hsignificand := d.significand_le
  rw [div_le_iff₀ (by positivity)] at hhigh
  refine hhigh.trans (le_trans ?_ cast_safe.ge)
  rcases eq_or_lt_of_le hscale with heq | hlt
  · have hless : d.significand + 2 ≤ 2 * leadingOne := by
      have := d.significand_lt
      omega
    have hcast : (d.significand : ℚ) + 2 ≤ 2 ^ 53 := by
      have : ((d.significand + 2 : Nat) : ℚ) ≤ ((2 * leadingOne : Nat) : ℚ) := Nat.cast_le.2 hless
      norm_num [leadingOne] at this ⊢
      linarith
    rw [heq, show (971 : ℤ) = 970 + 1 by rfl, zpow_add_one₀ two_ne_zero, mul_comm _ (2 : ℚ),
      ← mul_assoc]
    gcongr
    linarith
  · have hstep := zpow_le_zpow_right₀ (one_le_two (α := ℚ)) (show d.scale ≤ 970 by omega)
    calc ((d.significand : ℚ) + 1 / 2) * 2 ^ d.scale
        ≤ (2 ^ 54 - 3) * 2 ^ d.scale := by gcongr; linarith
      _ ≤ (2 ^ 54 - 3) * 2 ^ (970 : ℤ) := mul_le_mul_of_nonneg_left hstep (by norm_num)

/-- The largest significand of sixty-four bits that stays with this power of ten up to `safe`. -/
def safeSignificand (n : Nat) : Nat := min (safe / 10 ^ n) (2 ^ 64 - 1)

/-- The two roundings do not lead beyond the largest double. -/
theorem isSome_mul_safeSignificand :
    ∀ n < 309, ((nearest false (safeSignificand n)).mul false (tenPower n)).isSome = true := by
  decide +kernel

/-- A natural number times a power of ten needs as many places. -/
theorem exponent_lt {m n k : Nat} {e : Int} (hm : m ≠ 0) (h : (m : ℚ) * 10 ^ e ≤ n)
    (hn : n < 10 ^ k) : e < k := by
  have hone : (1 : ℚ) ≤ m := by exact_mod_cast Nat.pos_of_ne_zero hm
  refine (zpow_lt_zpow_iff_right₀ (show (1 : ℚ) < 10 by norm_num)).1 ?_
  calc (10 : ℚ) ^ e = 1 * 10 ^ e := (one_mul _).symm
    _ ≤ m * 10 ^ e := by gcongr
    _ ≤ n := h
    _ < 10 ^ (k : ℤ) := by
      rw [zpow_natCast]
      exact_mod_cast hn

/-- **Decimals up to half a place below the largest double have a double.** -/
theorem exists_ofDecimal {significand : Nat} {exponent : Int} (hlt : significand < 2 ^ 64)
    (h : (significand : ℚ) * 10 ^ exponent ≤ safe) (negative : Bool) :
    ∃ d, ofDecimal negative significand exponent = some d := by
  obtain ⟨hratio, hle⟩ := exists_nearest hlt.le ofRatio_twoPow64 false
  unfold ofDecimal
  dsimp only
  by_cases hbig : 308 < exponent
  · have hzero : significand = 0 := by
      by_contra hne
      have := exponent_lt hne h safe_lt
      omega
    rw [if_pos hbig, if_pos hzero]
    exact ⟨_, rfl⟩
  · rw [if_neg hbig]
    by_cases hsign : 0 ≤ exponent
    · rw [if_pos hsign]
      obtain ⟨n, rfl⟩ := Int.eq_ofNat_of_zero_le hsign
      rw [Int.toNat_natCast]
      have hmost : significand ≤ safeSignificand n := by
        refine le_min ((Nat.le_div_iff_mul_le (by positivity)).2 ?_) (by omega)
        rw [zpow_natCast] at h
        exact_mod_cast h
      obtain ⟨d, hd⟩ := Option.isSome_iff_exists.1 (isSome_mul_safeSignificand n (by omega))
      obtain ⟨hsafe, -⟩ := exists_nearest (n := 2 ^ 64) (m := safeSignificand n)
        ((min_le_right _ _).trans (by decide)) ofRatio_twoPow64 false
      have hnearest := (exists_nearest hmost hsafe false).2
      exact exists_mul (mul_le_mul_of_nonneg_right hnearest (tenPower n).magnitude_nonneg) hd negative
    · rw [if_neg hsign]
      obtain ⟨d, hd, -⟩ := exists_div_tenPower (lower_le ((exponent.natAbs - 1) / 308) hle)
        (n := exponent.natAbs - 308 * ((exponent.natAbs - 1) / 308)) (by omega) negative
      exact ⟨d, hd⟩

/-! ## Decimals of few digits -/

/-- A natural number of at most fifty-three bits is a double. -/
theorem magnitude_nearest {n : Nat} (h : n < 2 ^ 53) : (nearest false n).magnitude = n := by
  by_cases hn : n = 0
  · subst hn
    rw [nearest_eq_of_ofRatio (if_pos rfl), magnitude_zero, Nat.cast_zero]
  · have hscale : roundingScale n 1 ≤ 0 := by
      obtain ⟨-, -, hle⟩ := fitsScale_roundingScale hn Nat.one_ne_zero
      by_contra hpos
      have hlow := hle (by omega)
      have htop : (n : ℚ) / (1 : Nat) < 2 ^ (53 : ℤ) := by
        rw [Nat.cast_one, div_one]
        exact_mod_cast h
      have := (zpow_lt_zpow_iff_right₀ (one_lt_two (α := ℚ))).1 (hlow.trans_lt htop)
      omega
    have hone : (scaled n 1 (roundingScale n 1)).2 = 1 := by
      unfold scaled
      split
      · rw [show roundingScale n 1 = 0 by omega]
        rfl
      · rfl
    have hexact : rounding n 1 = (scaled n 1 (roundingScale n 1)).1 := by
      unfold rounding roundDiv
      rw [hone, Nat.div_one, Nat.mod_one]
      rfl
    have hvalue : (rounding n 1 : ℚ) * 2 ^ roundingScale n 1 = n := by
      have hquot := scaled_div n Nat.one_pos (roundingScale n 1)
      rw [hone, Nat.cast_one, div_one, div_one] at hquot
      rw [hexact, hquot]
      field_simp
    have hratio := (exists_nearest (h.le.trans (by decide)) ofRatio_twoPow64 false).1
    rw [ofRatio_eq hn] at hratio
    exact (magnitude_ofRounded (rounded_rounding hn Nat.one_ne_zero) hratio).trans hvalue

/-- Below ten to the power of sixteen nothing is lost before the digits are divided by a power of
ten. -/
theorem ofDecimal_of_within {d : Double} (hd : d.isFinite = true) {m n : Nat} (hm : m ≠ 0)
    (hlt : m < 10 ^ 15) (hn : n ≠ 0) (hle : n ≤ 15)
    (h : d.Within ((m : ℚ) * 10 ^ (-(n : Int)))) : ofDecimal d.isNegative m (-n) = some d := by
  have hten : (tenPower n).magnitude = 10 ^ n := by
    have := magnitude_nearest (n := Nat.pow 10 n)
      ((Nat.pow_le_pow_right (by decide) hle).trans_lt (by decide))
    rw [tenPower, this]
    exact Nat.cast_pow 10 n
  have hdigits := magnitude_nearest (hlt.trans (by decide : 10 ^ 15 < 2 ^ 53))
  have hne := significand_tenPower (n := n) (by omega)
  have hquot := scaled_quotient (nearest false m) hne
  rw [hdigits, hten, ← zpow_natCast, div_eq_mul_inv (m : ℚ), ← zpow_neg] at hquot
  have hnum : (scaled (nearest false m).significand (tenPower n).significand
      ((tenPower n).scale - (nearest false m).scale)).1 ≠ 0 := by
    intro hzero
    rw [hzero, Nat.cast_zero, zero_div] at hquot
    have : (0 : ℚ) < m * 10 ^ (-(n : Int)) := by positivity
    exact absurd hquot this.ne
  have hread := ofRatio_of_within hd hnum (scaled_ne_zero _ hne _) (hquot ▸ h) d.isNegative
  rw [pack_self hd, ← div_eq] at hread
  unfold ofDecimal
  dsimp only
  rw [if_neg (by omega), if_neg (by omega), Int.natAbs_neg, Int.natAbs_natCast,
    Nat.div_eq_of_lt (by omega : n - 1 < 308)]
  exact hread

end ManagedAgent.Double
