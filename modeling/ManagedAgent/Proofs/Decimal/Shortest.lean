import ManagedAgent.Proofs.Decimal.Nearest

/-!
# The shortest decimal of a double reads back

Each grid of powers of ten has its points tested against the interval of a double, and the test is
exact (`holds_iff_within`). The finest grid that is tried has a point in every such interval, so the
search ends with a hit.

* `holds_iff_within` : a point that passes the test of a grid rounds to the double;
* `within_shortest` : so does the shortest decimal.
-/

set_option autoImplicit false

namespace ManagedAgent.Double

/-! ## Grids -/

theorem grid_unit_pos (d : Double) (k : Int) :
    0 < Nat.pow 10 (-k).toNat <<< (d.scale - 2).toNat := by
  rw [Nat.shiftLeft_eq]
  exact Nat.mul_pos (Nat.pow_pos (by decide)) (Nat.pow_pos (by decide))

/-- A power with a natural exponent on one side or the other is one with an integer exponent. -/
theorem zpow_eq_div_toNat (b : ℚ) (hb : b ≠ 0) (k : Int) :
    b ^ k = b ^ k.toNat / b ^ (-k).toNat := by
  rw [← zpow_natCast, ← zpow_natCast, ← zpow_sub₀ hb]
  congr 1
  omega

theorem grid_step (d : Double) (k : Int) :
    ((d.grid k).step : ℚ) =
      10 ^ k / 2 ^ (d.scale - 2) * (Nat.pow 10 (-k).toNat <<< (d.scale - 2).toNat : Nat) := by
  have hten := zpow_eq_div_toNat 10 (by norm_num) k
  have htwo := zpow_eq_div_toNat 2 (by norm_num) (d.scale - 2)
  show ((Nat.pow 10 k.toNat <<< (-(d.scale - 2)).toNat : Nat) : ℚ) = _
  rw [hten, htwo, Nat.shiftLeft_eq, Nat.shiftLeft_eq, Nat.pow_eq, Nat.pow_eq]
  push_cast
  field_simp

theorem grid_low (d : Double) (hm : d.significand ≠ 0) (k : Int) :
    ((d.grid k).low : ℚ) =
      4 * d.lowEnd * (Nat.pow 10 (-k).toNat <<< (d.scale - 2).toNat : Nat) := by
  have hpos : 1 ≤ d.significand := Nat.pos_of_ne_zero hm
  unfold grid lowEnd
  dsimp only
  push_cast
  congr 1
  split_ifs
  · rw [Nat.cast_sub (by omega)]
    push_cast
    ring
  · rw [Nat.cast_sub (by omega)]
    push_cast
    ring

theorem grid_high (d : Double) (k : Int) :
    ((d.grid k).high : ℚ) =
      4 * (d.significand + 1 / 2) * (Nat.pow 10 (-k).toNat <<< (d.scale - 2).toNat : Nat) := by
  unfold grid
  dsimp only
  push_cast
  ring

/-- The test of a grid point is exact. -/
theorem holds_iff_within {d : Double} (hm : d.significand ≠ 0) (k : Int) (index : Nat) :
    (d.grid k).holds index = true ↔ d.Within ((index : ℚ) * 10 ^ k) := by
  have hunit : (0 : ℚ) < (Nat.pow 10 (-k).toNat <<< (d.scale - 2).toNat : Nat) :=
    Nat.cast_pos.2 (d.grid_unit_pos k)
  have hpoint : ((index * (d.grid k).step : Nat) : ℚ) =
      4 * ((index : ℚ) * 10 ^ k / 2 ^ d.scale) *
        (Nat.pow 10 (-k).toNat <<< (d.scale - 2).toNat : Nat) := by
    rw [Nat.cast_mul, grid_step, zpow_sub₀ two_ne_zero]
    norm_num
    field_simp
  have low_le : (d.grid k).low ≤ index * (d.grid k).step ↔
      d.lowEnd ≤ (index : ℚ) * 10 ^ k / 2 ^ d.scale := by
    rw [← Nat.cast_le (α := ℚ), hpoint, grid_low d hm, mul_le_mul_iff_left₀ hunit]
    constructor <;> intro h <;> linarith
  have low_lt : (d.grid k).low < index * (d.grid k).step ↔
      d.lowEnd < (index : ℚ) * 10 ^ k / 2 ^ d.scale := by
    rw [← Nat.cast_lt (α := ℚ), hpoint, grid_low d hm, mul_lt_mul_iff_left₀ hunit]
    constructor <;> intro h <;> linarith
  have le_high : index * (d.grid k).step ≤ (d.grid k).high ↔
      (index : ℚ) * 10 ^ k / 2 ^ d.scale ≤ d.significand + 1 / 2 := by
    rw [← Nat.cast_le (α := ℚ), hpoint, grid_high, mul_le_mul_iff_left₀ hunit]
    constructor <;> intro h <;> linarith
  have lt_high : index * (d.grid k).step < (d.grid k).high ↔
      (index : ℚ) * 10 ^ k / 2 ^ d.scale < d.significand + 1 / 2 := by
    rw [← Nat.cast_lt (α := ℚ), hpoint, grid_high, mul_lt_mul_iff_left₀ hunit]
    constructor <;> intro h <;> linarith
  have hclosed : (d.grid k).closed = true ↔ d.significand % 2 = 0 := by
    show (d.significand % 2 == 0) = true ↔ _
    exact beq_iff_eq
  unfold Grid.holds
  dsimp only
  by_cases heven : d.significand % 2 = 0
  · rw [if_pos (hclosed.2 heven), Bool.and_eq_true, decide_eq_true_iff, decide_eq_true_iff, low_le,
      le_high]
    exact ⟨fun h => ⟨h.1, h.2, fun hodd => by omega⟩, fun h => ⟨h.low, h.high⟩⟩
  · rw [if_neg (fun h => heven (hclosed.1 h)), Bool.and_eq_true, decide_eq_true_iff,
      decide_eq_true_iff, low_lt, lt_high]
    exact ⟨fun h => ⟨h.1.le, h.2.le, fun _ => h⟩, fun h => h.odd (by omega)⟩

/-- A point that is picked is in the interval, and not zero. -/
theorem holds_of_pick {g : Grid} {index : Nat} (h : g.pick = some index) :
    g.holds index = true ∧ index ≠ 0 := by
  unfold Grid.pick at h
  dsimp only at h
  split at h
  · cases h
  · rename_i hlower _
    obtain rfl := Option.some.inj h
    simpa using hlower
  · rename_i hupper
    obtain rfl := Option.some.inj h
    exact ⟨hupper, Nat.succ_ne_zero _⟩
  · rename_i hlower hupper
    obtain rfl := Option.some.inj h
    split
    · simpa using hlower
    · exact ⟨hupper, Nat.succ_ne_zero _⟩

/-- A grid that is finer than a quarter of the last place has a point in the interval. -/
theorem pick_of_step_le {d : Double} (hm : d.significand ≠ 0) {k : Int}
    (hstep : (d.grid k).step ≤ Nat.pow 10 (-k).toNat <<< (d.scale - 2).toNat) :
    ∃ index, (d.grid k).pick = some index := by
  have hpos : 0 < (d.grid k).step := by
    show 0 < Nat.pow 10 k.toNat <<< (-(d.scale - 2)).toNat
    rw [Nat.shiftLeft_eq]
    exact Nat.mul_pos (Nat.pow_pos (by decide)) (Nat.pow_pos (by decide))
  have hunit := d.grid_unit_pos k
  have hvalue : (d.grid k).value =
      4 * d.significand * (Nat.pow 10 (-k).toNat <<< (d.scale - 2).toNat) := rfl
  have hhigh : (d.grid k).high =
      (4 * d.significand + 2) * (Nat.pow 10 (-k).toNat <<< (d.scale - 2).toNat) := rfl
  have hlow : (d.grid k).low ≤
      (4 * d.significand - 1) * (Nat.pow 10 (-k).toNat <<< (d.scale - 2).toNat) := by
    unfold grid
    dsimp only
    refine Nat.mul_le_mul_right _ ?_
    split <;> omega
  generalize Nat.pow 10 (-k).toNat <<< (d.scale - 2).toNat = unit at *
  have hdiv := Nat.div_add_mod (d.grid k).value (d.grid k).step
  have hmod := Nat.mod_lt (d.grid k).value hpos
  rw [Nat.mul_comm] at hdiv
  have hsplit : 4 * d.significand * unit = (4 * d.significand - 1) * unit + unit := by
    rw [← Nat.succ_mul]
    congr 1
    omega
  have hadd : (4 * d.significand + 2) * unit = 4 * d.significand * unit + 2 * unit := by ring
  have hholds : (d.grid k).holds ((d.grid k).value / (d.grid k).step) = true := by
    unfold Grid.holds
    dsimp only
    split <;> simp only [Bool.and_eq_true, decide_eq_true_eq] <;> omega
  have hne : (d.grid k).value / (d.grid k).step ≠ 0 := by
    intro hzero
    have hbig : unit ≤ (4 * d.significand - 1) * unit := Nat.le_mul_of_pos_left _ (by omega)
    rw [hzero] at hdiv
    omega
  unfold Grid.pick
  dsimp only
  rw [hholds, Bool.true_and, bne_iff_ne.2 hne]
  cases (d.grid k).holds ((d.grid k).value / (d.grid k).step + 1) <;> exact ⟨_, rfl⟩

/-! ## The search -/

theorem firstHit_spec (d : Double) (n : Nat) (k : Int)
    (h : ∃ j < n, ∃ index, (d.grid (k - (j : Nat))).pick = some index) :
    ∃ j < n, (d.grid (k - (j : Nat))).pick = some (firstHit d n k).1 ∧
      (firstHit d n k).2 = k - (j : Nat) := by
  induction n generalizing k with
  | zero =>
    obtain ⟨j, hj, -⟩ := h
    exact absurd hj (Nat.not_lt_zero j)
  | succ n ih =>
    unfold firstHit
    split
    · rename_i index hpick
      exact ⟨0, Nat.succ_pos n, by simpa using hpick, by simp⟩
    · rename_i hnone
      obtain ⟨j, hj, index, hpick⟩ := h
      obtain ⟨i, rfl⟩ : ∃ i, j = i + 1 := by
        cases j with
        | zero =>
          rw [Nat.cast_zero, Int.sub_zero, hnone] at hpick
          cases hpick
        | succ i => exact ⟨i, rfl⟩
      have hshift (i : Nat) : k - ((i + 1 : Nat) : Int) = k - 1 - (i : Int) := by
        push_cast
        ring
      rw [hshift] at hpick
      obtain ⟨i', hi', hfound, hk⟩ := ih (k - 1) ⟨i, by omega, index, hpick⟩
      exact ⟨i' + 1, by omega, by rw [hshift]; exact hfound, by rw [hshift]; exact hk⟩

/-- Thirteen places in base two are fewer than four places in base ten. -/
theorem two_pow_le_ten_pow {m n : Nat} (h : m ≤ 13 * (n / 4)) : 2 ^ m ≤ 10 ^ n :=
  calc 2 ^ m ≤ 2 ^ (13 * (n / 4)) := Nat.pow_le_pow_right (by decide) h
    _ = (2 ^ 13) ^ (n / 4) := Nat.pow_mul 2 13 (n / 4)
    _ ≤ (10 ^ 4) ^ (n / 4) := Nat.pow_le_pow_left (by decide) _
    _ = 10 ^ (4 * (n / 4)) := (Nat.pow_mul 10 4 (n / 4)).symm
    _ ≤ 10 ^ n := Nat.pow_le_pow_right (by decide) (Nat.mul_div_le n 4)

theorem grid_step_le (d : Double) {n : Nat} (hn : 1076 ≤ 13 * (n / 4)) :
    (d.grid (-n)).step ≤ Nat.pow 10 (-(-(n : Int))).toNat <<< (d.scale - 2).toNat := by
  have hscale := d.neg_1074_le_scale
  show Nat.pow 10 (-(n : Int)).toNat <<< (-(d.scale - 2)).toNat ≤ _
  rw [Nat.shiftLeft_eq, Nat.shiftLeft_eq, Int.neg_neg, Int.toNat_natCast, Int.toNat_neg_natCast]
  calc Nat.pow 10 0 * 2 ^ (-(d.scale - 2)).toNat
      = 2 ^ (-(d.scale - 2)).toNat := Nat.one_mul _
    _ ≤ 10 ^ n := two_pow_le_ten_pow (by omega)
    _ ≤ Nat.pow 10 n * 2 ^ (d.scale - 2).toNat := Nat.le_mul_of_pos_right _ (Nat.pow_pos (by decide))

/-- **The shortest decimal is among the fractions that round to the double.** -/
theorem within_shortest {d : Double} (hm : d.significand ≠ 0) :
    d.shortest.1 ≠ 0 ∧ d.Within ((d.shortest.1 : ℚ) * 10 ^ d.shortest.2) := by
  have hpick : ∃ j < 660, ∃ index, (d.grid (310 - (j : Nat))).pick = some index := by
    refine ⟨659, by decide, ?_⟩
    rw [show (310 : Int) - (659 : Nat) = -((349 : Nat) : Int) by decide]
    exact pick_of_step_le hm (d.grid_step_le (by decide))
  obtain ⟨j, -, hfound, hk⟩ := firstHit_spec d 660 310 hpick
  have hshortest : d.shortest = firstHit d 660 310 := by
    unfold shortest
    rw [if_neg hm]
  obtain ⟨hholds, hne⟩ := holds_of_pick hfound
  rw [hshortest, hk]
  exact ⟨hne, (holds_iff_within hm _ _).1 hholds⟩

/-! ## Reading a decimal -/

theorem two_zpow_le_ten_zpow : (2 : ℚ) ^ (1079 : ℤ) ≤ 10 ^ (332 : ℤ) := by
  have h (m n : Nat) (hle : m ≤ 13 * (n / 4)) : (2 : ℚ) ^ (m : ℤ) ≤ 10 ^ (n : ℤ) := by
    rw [zpow_natCast, zpow_natCast]
    exact_mod_cast two_pow_le_ten_pow hle
  exact h 1079 332 (by decide)

theorem ten_zpow_le_two_zpow : (10 : ℚ) ^ (-332 : ℤ) ≤ 2 ^ (-1079 : ℤ) := by
  rw [zpow_neg, zpow_neg]
  exact inv_anti₀ (by positivity) two_zpow_le_ten_zpow

/-- The magnitudes that round to a finite double other than zero. -/
theorem bounds_of_within {d : Double} (hd : d.isFinite = true) (hm : d.significand ≠ 0) {x : ℚ}
    (h : d.Within x) : (2 : ℚ) ^ (-1075 : ℤ) ≤ x ∧ x < 2 ^ (1024 : ℤ) := by
  have hpow : (0 : ℚ) < 2 ^ d.scale := by positivity
  have hleast := zpow_le_zpow_right₀ (one_le_two (α := ℚ)) d.neg_1074_le_scale
  have hmost := zpow_le_zpow_right₀ (one_le_two (α := ℚ)) (scale_le hd)
  constructor
  · have hone : (1 : ℚ) ≤ d.significand := by exact_mod_cast Nat.pos_of_ne_zero hm
    have hlow := d.half_le_lowEnd.trans h.low
    rw [le_div_iff₀ hpow] at hlow
    calc (2 : ℚ) ^ (-1075 : ℤ) = 1 / 2 * 2 ^ (-1074 : ℤ) := by
          rw [show (-1075 : ℤ) = -1074 - 1 by rfl, zpow_sub_one₀ two_ne_zero]
          ring
      _ ≤ 1 / 2 * 2 ^ d.scale := by linarith
      _ ≤ (d.significand - 1 / 2) * 2 ^ d.scale := by gcongr; linarith
      _ ≤ x := hlow
  · have hhigh := h.high
    have hlt := d.significand_le
    rw [div_le_iff₀ hpow] at hhigh
    calc x ≤ (d.significand + 1 / 2) * 2 ^ d.scale := hhigh
      _ < 2 ^ (53 : ℤ) * 2 ^ d.scale := by
        gcongr
        rw [zpow_ofNat]
        linarith
      _ ≤ 2 ^ (53 : ℤ) * 2 ^ (971 : ℤ) := by gcongr
      _ = 2 ^ (1024 : ℤ) := by rw [← zpow_add₀ two_ne_zero]; rfl

/-- What rounds to a finite double is neither too large nor too small for its decimal places to be
looked at. -/
theorem places_of_within {d : Double} (hd : d.isFinite = true) (hm : d.significand ≠ 0)
    {digits count : Nat} {e : Int} (hlow : 10 ^ count ≤ 10 * digits) (hhigh : digits < 10 ^ count)
    (h : d.Within ((digits : ℚ) * 10 ^ e)) : -400 ≤ e + count ∧ e + count ≤ 400 := by
  have hten : (1 : ℚ) < 10 := by norm_num
  obtain ⟨hfloor, hceil⟩ := bounds_of_within hd hm h
  have hplaces : (10 : ℚ) ^ (e + count) = 10 ^ count * 10 ^ e := by
    rw [zpow_add₀ (by norm_num), zpow_natCast, mul_comm]
  constructor
  · have hdigits : (digits : ℚ) < 10 ^ count := by exact_mod_cast hhigh
    have hend : (10 : ℚ) ^ (-332 : ℤ) < 10 ^ (e + count) :=
      calc (10 : ℚ) ^ (-332 : ℤ) ≤ 2 ^ (-1079 : ℤ) := ten_zpow_le_two_zpow
        _ ≤ 2 ^ (-1075 : ℤ) := zpow_le_zpow_right₀ one_le_two (by decide)
        _ ≤ digits * 10 ^ e := hfloor
        _ < 10 ^ count * 10 ^ e := by gcongr
        _ = 10 ^ (e + count) := hplaces.symm
    have := (zpow_lt_zpow_iff_right₀ hten).1 hend
    omega
  · have hdigits : (10 : ℚ) ^ count ≤ 10 * digits := by exact_mod_cast hlow
    have hend : (10 : ℚ) ^ (e + count) < 10 ^ (333 : ℤ) :=
      calc (10 : ℚ) ^ (e + count) = 10 ^ count * 10 ^ e := hplaces
        _ ≤ 10 * digits * 10 ^ e := by gcongr
        _ = 10 * (digits * 10 ^ e) := mul_assoc _ _ _
        _ < 10 * 2 ^ (1024 : ℤ) := by gcongr
        _ ≤ 10 * 2 ^ (1079 : ℤ) := by
          have := zpow_le_zpow_right₀ (one_le_two (α := ℚ)) (show (1024 : ℤ) ≤ 1079 by decide)
          gcongr
        _ ≤ 10 * 10 ^ (332 : ℤ) := by gcongr; exact two_zpow_le_ten_zpow
        _ = 10 ^ (333 : ℤ) := by
          rw [show (333 : ℤ) = 332 + 1 by rfl, zpow_add_one₀ (by norm_num), mul_comm]
    have := (zpow_lt_zpow_iff_right₀ hten).1 hend
    omega

end ManagedAgent.Double
