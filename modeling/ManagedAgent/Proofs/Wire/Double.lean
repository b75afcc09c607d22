import ManagedAgent.Proofs.Decimal.Order
import ManagedAgent.Proofs.Decimal.Shortest
import ManagedAgent.Proofs.Wire.Scalar

/-!
# What a written double is read as

A double is written with its shortest digits, and `Parts.ofDecimal` has them as the parts of a number:
the layout moves the point, but the digits and their place stay the same. What is read of them need
not be the double that was written. It is a double in any case: reading rounds no decimal in the
interval of a double beyond the largest one.

* `reread` : the double that is read;
* `Parts.Shortens.exists_value?` : what is left of a written double is small enough for a double;
* `readsAs_double` : a finite double is read as `reread` says;
* `reread_of_length_le` : a double of at most sixteen characters without exponent is read back.
-/

set_option autoImplicit false

namespace ManagedAgent.Wire

open ManagedAgent.Wire.Reader

/-! ## Digits that fit sixty-four bits -/

theorem digitsValue_concat (ds : Bytes) (d : UInt8) :
    digitsValue (ds ++ [d]) = digitsValue ds * 10 + (d.toNat - 0x30) := by
  rw [digitsValue_append, show digitsValue [d] = d.toNat - 0x30 by simp [digitsValue]]
  rfl

/-- Digits are appended from the front, and the number stays below sixty-four bits. -/
theorem appendDigits_spec (front ds : Bytes) (h : digitsValue front < UInt64.size) :
    ∃ taken, ds = taken ++ (appendDigits (digitsValue front) ds).2 ∧
      (appendDigits (digitsValue front) ds).1 = digitsValue (front ++ taken) ∧
      digitsValue (front ++ taken) < UInt64.size := by
  induction ds generalizing front with
  | nil => exact ⟨[], rfl, by rw [List.append_nil]; rfl, by rwa [List.append_nil]⟩
  | cons d ds ih =>
    unfold appendDigits
    dsimp only
    rw [← digitsValue_concat]
    split
    · rename_i hlt
      obtain ⟨taken, hds, hvalue, hfits⟩ := ih (front ++ [d]) hlt
      rw [List.append_assoc] at hvalue hfits
      exact ⟨d :: taken, congrArg (d :: ·) hds, hvalue, hfits⟩
    · exact ⟨[], rfl, by rw [List.append_nil], by rwa [List.append_nil]⟩

/-- Nineteen digits always fit. -/
theorem appendDigits_of_length_le (front ds : Bytes) (hdigits : Digits (front ++ ds))
    (h : (front ++ ds).length ≤ 19) :
    appendDigits (digitsValue front) ds = (digitsValue (front ++ ds), []) := by
  induction ds generalizing front with
  | nil => rw [List.append_nil]; rfl
  | cons d ds ih =>
    have hassoc : front ++ d :: ds = front ++ [d] ++ ds := by rw [List.append_assoc]; rfl
    rw [hassoc] at hdigits h ⊢
    have hfront : digitsValue (front ++ [d]) < UInt64.size := by
      refine (digitsValue_lt (digits_append.1 hdigits).1).trans_le ?_
      rw [List.length_append] at h
      exact (Nat.pow_le_pow_right (by decide) (by omega)).trans (by decide : 10 ^ 19 ≤ UInt64.size)
    unfold appendDigits
    dsimp only
    rw [← digitsValue_concat, if_pos hfront]
    exact ih (front ++ [d]) hdigits h

/-! ## Parts of a decimal -/

def Parts.digits (p : Parts) : Bytes := p.whole ++ p.fraction.getD []

def Parts.place (p : Parts) : Int := p.exponent.getD 0 - (p.fraction.getD []).length

theorem Parts.WellFormed.digits {p : Parts} (h : p.WellFormed) : Digits p.digits := by
  obtain ⟨b, more, -, hwhole, -⟩ := h.whole
  refine digits_append.2 ⟨hwhole, ?_⟩
  cases hf : p.fraction with
  | none => exact nofun
  | some f => exact (h.fraction f hf).2

/-- The digits before the point are all read, and those behind it as far as they fit. -/
theorem Parts.decimal_eq {p : Parts} (hp : p.WellFormed) (h : p.whole.length ≤ 19) :
    ∃ taken cut, p.fraction.getD [] = taken ++ cut ∧
      p.decimal = (digitsValue (p.whole ++ taken), p.exponent.getD 0 - taken.length) ∧
      digitsValue (p.whole ++ taken) < UInt64.size := by
  have hwhole : appendDigits 0 p.whole = (digitsValue p.whole, []) :=
    appendDigits_of_length_le [] p.whole (digits_append.1 hp.digits).1 h
  have hfits : digitsValue p.whole < UInt64.size :=
    (digitsValue_lt (digits_append.1 hp.digits).1).trans_le
      ((Nat.pow_le_pow_right (by decide) h).trans (by decide))
  obtain ⟨taken, hfraction, hvalue, hlt⟩ := appendDigits_spec p.whole (p.fraction.getD []) hfits
  refine ⟨taken, _, hfraction, ?_, hlt⟩
  have hlength := congrArg List.length hfraction
  rw [List.length_append] at hlength
  unfold Parts.decimal
  dsimp only
  rw [hwhole]
  dsimp only
  rw [hvalue, List.length_nil]
  congr 1
  omega

/-- Few digits are all read. -/
theorem Parts.decimal_of_length_le {p : Parts} (hp : p.WellFormed) (h : p.digits.length ≤ 19) :
    p.decimal = (digitsValue p.digits, p.place) := by
  have hlength : p.whole.length ≤ 19 := by
    unfold Parts.digits at h
    rw [List.length_append] at h
    omega
  have hwhole : appendDigits 0 p.whole = (digitsValue p.whole, []) :=
    appendDigits_of_length_le [] p.whole (digits_append.1 hp.digits).1 hlength
  have hfraction := appendDigits_of_length_le p.whole (p.fraction.getD []) hp.digits h
  unfold Parts.decimal Parts.place Parts.digits
  dsimp only
  rw [hwhole]
  dsimp only
  rw [hfraction]
  simp

/-- Digits that are left out make a number smaller. -/
theorem Parts.decimal_le {p : Parts} (hp : p.WellFormed) (h : p.whole.length ≤ 19) :
    (p.decimal.1 : ℚ) * 10 ^ p.decimal.2 ≤ digitsValue p.digits * 10 ^ p.place := by
  obtain ⟨taken, cut, hfraction, hdecimal, -⟩ := p.decimal_eq hp h
  have hplace : p.exponent.getD 0 - taken.length = cut.length + p.place := by
    have hlength := congrArg List.length hfraction
    rw [List.length_append] at hlength
    unfold Parts.place
    omega
  have hvalue : digitsValue (p.whole ++ taken) * 10 ^ cut.length ≤ digitsValue p.digits := by
    unfold Parts.digits
    rw [hfraction, ← List.append_assoc, digitsValue_append (p.whole ++ taken)]
    exact Nat.le_add_right _ _
  have hcast : (digitsValue (p.whole ++ taken) : ℚ) * 10 ^ cut.length ≤ digitsValue p.digits := by
    exact_mod_cast hvalue
  rw [hdecimal, hplace, zpow_add₀ (by norm_num), zpow_natCast, ← mul_assoc]
  gcongr

/-- With a point or an exponent the parts are a double. -/
theorem Parts.value?_of_parted {p : Parts} (h : p.fraction.isSome ∨ p.exponent.isSome) :
    p.value? = (Double.ofDecimal p.isNegative p.decimal.1 p.decimal.2).map .double := by
  unfold Parts.value?
  split
  · rename_i hfraction hexponent _
    rw [hfraction, hexponent] at h
    simp at h
  · rfl

/-- The parts that the wire layout has for the digits of `n`, the last one in place `k`. -/
def Parts.ofDecimal (isNegative : Bool) (n : Nat) (k : Int) : Parts :=
  let cs := Double.digitsOf n
  let e := k + cs.length - 1
  if 0 ≤ e ∧ e < Double.Layout.wire.high then
    if 0 ≤ k then ⟨isNegative, ascii (cs ++ List.replicate k.toNat '0'), some [0x30], none⟩
    else ⟨isNegative, ascii (cs.take (e + 1).toNat), some (ascii (cs.drop (e + 1).toNat)), none⟩
  else if Double.Layout.wire.low ≤ e ∧ e < 0 then
    ⟨isNegative, [0x30], some (ascii (List.replicate (-e - 1).toNat '0' ++ cs)), none⟩
  else
    ⟨isNegative, ascii (cs.take 1), if cs.length = 1 then none else some (ascii (cs.drop 1)), some e⟩

theorem ascii_append (s t : List Char) : ascii (s ++ t) = ascii s ++ ascii t := List.map_append

theorem ascii_zeros (i : Nat) : ascii (List.replicate i '0') = List.replicate i 0x30 := by
  unfold ascii
  rw [List.map_replicate]
  rfl

theorem ascii_exponent (e : Int) :
    ascii ('e' :: ((if e < 0 then ['-'] else if Double.Layout.wire.plus then ['+'] else []) ++
        Double.digitsOf e.natAbs)) = 0x65 :: writeExponent e := by
  unfold writeExponent
  split <;> rfl

/-- The layout writes these parts. -/
theorem write_ofDecimal (isNegative : Bool) (n : Nat) (k : Int) :
    (Parts.ofDecimal isNegative n k).write = (if isNegative then [0x2D] else []) ++
      ascii (Double.Layout.wire.place (Double.digitsOf n) k) := by
  unfold Parts.ofDecimal Double.Layout.place Parts.write
  dsimp only
  by_cases hpositional : 0 ≤ k + ((Double.digitsOf n).length : Int) - 1 ∧
      k + ((Double.digitsOf n).length : Int) - 1 < Double.Layout.wire.high
  · rw [if_pos hpositional, if_pos hpositional]
    by_cases hk : 0 ≤ k
    · rw [if_pos hk, if_pos hk, ascii_append, ascii_append, ascii_append]
      simp only [List.append_assoc, List.append_nil, Option.elim_some, Option.elim_none]
      rfl
    · rw [if_neg hk, if_neg hk, Double.pointAfter, ascii_append]
      simp only [List.append_assoc, List.append_nil, Option.elim_some, Option.elim_none]
      rfl
  · rw [if_neg hpositional, if_neg hpositional]
    by_cases hsmall : Double.Layout.wire.low ≤ k + ((Double.digitsOf n).length : Int) - 1 ∧
        k + ((Double.digitsOf n).length : Int) - 1 < 0
    · rw [if_pos hsmall, if_pos hsmall]
      simp only [List.append_assoc, List.append_nil, Option.elim_some, Option.elim_none]
      rfl
    · rw [if_neg hsmall, if_neg hsmall]
      simp only [Option.elim_some, List.append_assoc]
      rw [ascii_append, List.cons_append, ascii_exponent]
      by_cases hone : (Double.digitsOf n).length = 1
      · rw [if_pos hone, if_pos hone, List.take_of_length_le (by omega)]
        rfl
      · rw [if_neg hone, if_neg hone, Double.pointAfter, ascii_append, List.append_assoc]
        rfl

/-- These parts are written and stand for `n` in place `k`. -/
structure Parts.Denotes (p : Parts) (n : Nat) (k : Int) : Prop where
  wellFormed : p.WellFormed
  parted : p.fraction.isSome ∨ p.exponent.isSome
  value : (digitsValue p.digits : ℚ) * 10 ^ p.place = n * 10 ^ k

theorem Parts.denotes_of_digits {p : Parts} {n : Nat} {k : Int} (hp : p.WellFormed)
    (hparted : p.fraction.isSome ∨ p.exponent.isSome) (hdigits : digitsValue p.digits = n)
    (hplace : p.place = k) : p.Denotes n k := by
  refine ⟨hp, hparted, ?_⟩
  rw [hdigits, hplace]

theorem Leads.isWhole {ds : Bytes} (h : Leads ds) (hds : Digits ds) : IsWhole ds := by
  obtain ⟨b, more, rfl, -, hne⟩ := h
  exact ⟨b, more, rfl, hds, fun hzero => absurd hzero hne⟩

/-- A point after the first `i` digits. -/
theorem denotes_point (isNegative : Bool) (exponent : Option Int) {n i : Nat} (hn : n ≠ 0) (hi : 0 < i)
    (hlt : i < (Double.digitsOf n).length) :
    Parts.Denotes ⟨isNegative, ascii ((Double.digitsOf n).take i),
      some (ascii ((Double.digitsOf n).drop i)), exponent⟩ n
      (exponent.getD 0 - ((Double.digitsOf n).length - i)) := by
  have hsplit : ascii ((Double.digitsOf n).take i) ++ ascii ((Double.digitsOf n).drop i) =
      writeNat n := by
    rw [← ascii_append, List.take_append_drop]
    rfl
  have hlead := leads_writeNat hn
  have hfirst : Leads (ascii ((Double.digitsOf n).take i)) := by
    obtain ⟨b, more, heq, hb⟩ := hlead
    cases htake : ascii ((Double.digitsOf n).take i) with
    | nil =>
      have hlength := congrArg List.length htake
      rw [ascii, List.length_map, List.length_take, List.length_nil] at hlength
      omega
    | cons c cs =>
      rw [htake, heq] at hsplit
      obtain ⟨rfl, -⟩ := List.cons.inj hsplit
      exact ⟨c, cs, rfl, hb⟩
  obtain ⟨htaken, hdropped⟩ := digits_append.1 (hsplit ▸ digits_writeNat n)
  refine Parts.denotes_of_digits ⟨hfirst.isWhole htaken, ?_⟩ (.inl rfl) ?_ ?_
  · rintro f ⟨⟩
    refine ⟨fun hnil => ?_, hdropped⟩
    have hlength := congrArg List.length hnil
    rw [ascii, List.length_map, List.length_drop, List.length_nil] at hlength
    omega
  · unfold Parts.digits
    rw [Option.getD_some, hsplit, digitsValue_writeNat]
  · unfold Parts.place
    simp only [Option.getD_some, ascii, List.length_map, List.length_drop]
    omega

/-- Zeros, a point and one more zero behind the digits. -/
theorem denotes_zeros_behind (isNegative : Bool) {n : Nat} (hn : n ≠ 0) (i : Nat) :
    Parts.Denotes ⟨isNegative, writeNat n ++ List.replicate i 0x30, some [0x30], none⟩ n i := by
  have hwhole : Leads (writeNat n ++ List.replicate i 0x30) := (leads_writeNat hn).append _
  have hdigits (j : Nat) : Digits (writeNat n ++ List.replicate j 0x30) :=
    digits_append.2 ⟨digits_writeNat n, digits_zeros j⟩
  have hall : Parts.digits ⟨isNegative, writeNat n ++ List.replicate i 0x30, some [0x30], none⟩ =
      writeNat n ++ List.replicate (i + 1) 0x30 := by
    show _ ++ [0x30] = _
    rw [List.replicate_succ', List.append_assoc]
  refine ⟨⟨hwhole.isWhole (hdigits i), ?_⟩, .inl rfl, ?_⟩
  · rintro f ⟨⟩
    exact ⟨nofun, digits_zeros 1⟩
  · rw [hall, digitsValue_append, digitsValue_zeros, digitsValue_writeNat, List.length_replicate]
    show (_ : ℚ) * 10 ^ ((0 : Int) - 1) = _
    rw [zpow_natCast]
    push_cast
    norm_num
    ring

/-- A zero, a point and more zeros in front of the digits. -/
theorem denotes_zeros_before (isNegative : Bool) (n i : Nat) :
    Parts.Denotes ⟨isNegative, [0x30], some (List.replicate i 0x30 ++ writeNat n), none⟩ n
      (-(i + (writeNat n).length : Nat)) := by
  refine Parts.denotes_of_digits ⟨isWhole_zero, ?_⟩ (.inl rfl) ?_ ?_
  · rintro f ⟨⟩
    obtain ⟨b, more, heq, -⟩ := isWhole_writeNat n
    exact ⟨heq ▸ List.append_ne_nil_of_right_ne_nil _ (List.cons_ne_nil b more),
      digits_append.2 ⟨digits_zeros i, digits_writeNat n⟩⟩
  · show digitsValue (List.replicate (i + 1) 0x30 ++ writeNat n) = n
    rw [digitsValue_append, digitsValue_zeros, digitsValue_writeNat, Nat.zero_mul, Nat.zero_add]
  · unfold Parts.place
    simp only [Option.getD_none, Option.getD_some, List.length_append, List.length_replicate]
    omega

/-- The digits and an exponent. -/
theorem denotes_exponent (isNegative : Bool) (n : Nat) (k : Int) :
    Parts.Denotes ⟨isNegative, writeNat n, none, some k⟩ n k := by
  refine Parts.denotes_of_digits ⟨isWhole_writeNat n, nofun⟩ (.inr rfl) ?_ ?_
  · unfold Parts.digits
    rw [Option.getD_none, List.append_nil, digitsValue_writeNat]
  · unfold Parts.place
    simp only [Option.getD_none, Option.getD_some, List.length_nil]
    omega

/-- The layout keeps the digits and their place. -/
theorem denotes_ofDecimal (isNegative : Bool) {n : Nat} (hn : n ≠ 0) (k : Int) :
    (Parts.ofDecimal isNegative n k).Denotes n k := by
  have hwrite : ascii (Double.digitsOf n) = writeNat n := rfl
  have hlength : 0 < (Double.digitsOf n).length := Nat.length_toDigits_pos
  unfold Parts.ofDecimal
  dsimp only
  split
  · split
    · rename_i hk
      obtain ⟨j, rfl⟩ := Int.eq_ofNat_of_zero_le hk
      rw [ascii_append, ascii_zeros, hwrite, Int.toNat_natCast]
      exact denotes_zeros_behind isNegative hn j
    · rename_i hpositional _
      have h := denotes_point isNegative none hn
        (i := (k + ((Double.digitsOf n).length : Int) - 1 + 1).toNat) (by omega) (by omega)
      convert h using 1
      simp only [Option.getD_none]
      omega
  · split
    · rename_i hsmall
      rw [ascii_append, ascii_zeros, hwrite]
      have h := denotes_zeros_before isNegative n
        (-(k + ((Double.digitsOf n).length : Int) - 1) - 1).toNat
      convert h using 1
      have : (writeNat n).length = (Double.digitsOf n).length := by
        rw [← hwrite, ascii, List.length_map]
      omega
    · by_cases hone : (Double.digitsOf n).length = 1
      · rw [if_pos hone, List.take_of_length_le (by omega), hwrite]
        convert denotes_exponent isNegative n k using 3
        omega
      · rw [if_neg hone]
        have h := denotes_point isNegative
          (some (k + ((Double.digitsOf n).length : Int) - 1)) hn (i := 1) (by omega)
          (by omega)
        convert h using 1
        simp only [Option.getD_some]
        omega

/-! ## Doubles cut short -/

/-- Parts with few digits before the point and an exponent that is not too large. -/
structure Parts.Modest (p : Parts) : Prop where
  whole : p.whole.length ≤ 16
  exponent : ∀ e ∈ p.exponent, e.natAbs ≤ 1000

theorem modest_zero (isNegative : Bool) (fraction : Option Bytes) :
    Parts.Modest ⟨isNegative, [0x30], fraction, none⟩ :=
  ⟨Nat.le_of_ble_eq_true rfl, nofun⟩

theorem modest_ofDecimal (isNegative : Bool) {n : Nat} {k : Int}
    (h : -400 ≤ k + (Double.digitsOf n).length ∧ k + (Double.digitsOf n).length ≤ 400) :
    (Parts.ofDecimal isNegative n k).Modest := by
  have hhigh : Double.Layout.wire.high = 16 := rfl
  unfold Parts.ofDecimal
  dsimp only
  split
  · rename_i hpositional
    split
    · refine ⟨?_, nofun⟩
      simp only [ascii, List.length_map, List.length_append, List.length_replicate]
      omega
    · refine ⟨?_, nofun⟩
      simp only [ascii, List.length_map, List.length_take]
      omega
  · split
    · exact modest_zero isNegative _
    · refine ⟨?_, ?_⟩
      · simp only [ascii, List.length_map, List.length_take]
        omega
      · rintro _ ⟨⟩
        omega

theorem ten_pow_le_safe : 10 ^ 300 ≤ Double.safe := by decide +kernel

/-- Decimals that are not too large have a number. -/
theorem Parts.exists_value? {p : Parts} (hp : p.WellFormed) (hwhole : p.whole.length ≤ 16)
    (h : p.exponent.getD 0 ≤ 200) : ∃ n, p.value? = some n := by
  obtain ⟨taken, cut, hfraction, hdecimal, hlt⟩ := p.decimal_eq hp (by omega)
  have hdigits : Digits (p.whole ++ taken) := by
    have hall := hp.digits
    unfold Parts.digits at hall
    rw [hfraction, ← List.append_assoc] at hall
    exact (digits_append.1 hall).1
  have hvalue : (digitsValue (p.whole ++ taken) : ℚ) * 10 ^ (p.exponent.getD 0 - taken.length) ≤
      Double.safe := by
    have hbound : (digitsValue (p.whole ++ taken) : ℚ) < 10 ^ (p.whole ++ taken).length := by
      exact_mod_cast digitsValue_lt hdigits
    have hcast : ((10 ^ 300 : Nat) : ℚ) ≤ Double.safe := Nat.cast_le.2 ten_pow_le_safe
    refine le_trans ?_ hcast
    calc (digitsValue (p.whole ++ taken) : ℚ) * 10 ^ (p.exponent.getD 0 - taken.length)
        ≤ 10 ^ (p.whole ++ taken).length * 10 ^ (p.exponent.getD 0 - taken.length) := by gcongr
      _ = 10 ^ (p.whole.length + p.exponent.getD 0) := by
        rw [← zpow_natCast, ← zpow_add₀ (by norm_num), List.length_append]
        congr 1
        push_cast
        ring
      _ ≤ 10 ^ (300 : ℤ) := zpow_le_zpow_right₀ (by norm_num) (by omega)
      _ = ((10 ^ 300 : Nat) : ℚ) := by rw [zpow_ofNat, Nat.cast_pow, Nat.cast_ofNat]
  obtain ⟨d, hd⟩ := Double.exists_ofDecimal hlt hvalue p.isNegative
  unfold Parts.value?
  split
  · exact ⟨_, rfl⟩
  · rw [hdecimal, hd]
    exact ⟨.double d, rfl⟩

/-- What is left of a written double is small enough for a double. -/
theorem Parts.Shortens.exists_value? {p p' : Parts} (h : p.Shortens p') (hp : p.Modest) :
    ∃ n, p'.value? = some n := by
  have hlength : p'.whole.length ≤ p.whole.length := by
    rcases h.whole with heq | hcut
    · rw [heq]
    · exact Nat.le_of_lt hcut.length_lt
  have hexponent : p'.exponent.getD 0 ≤ 100 := by
    cases he : p'.exponent with
    | none => decide
    | some e' =>
      obtain ⟨e, hmem, hle⟩ := h.exponent e' he
      have := hp.exponent e hmem
      show e' ≤ 100
      omega
  have := hp.whole
  exact Parts.exists_value? h.wellFormed (by omega) (by omega)

/-! ## Written doubles -/

def Parts.ofDouble (d : Double) : Parts :=
  if d.shortest.1 = 0 then ⟨d.isNegative, [0x30], some [0x30], none⟩
  else Parts.ofDecimal d.isNegative d.shortest.1 d.shortest.2

theorem write_ofDouble (d : Double) : (Parts.ofDouble d).write = writeDouble d := by
  unfold Parts.ofDouble writeDouble Double.text
  dsimp only
  split
  · cases d.isNegative <;> rfl
  · rw [write_ofDecimal]
    cases d.isNegative <;> rfl

theorem isNegative_ofDouble (d : Double) : (Parts.ofDouble d).isNegative = d.isNegative := by
  unfold Parts.ofDouble Parts.ofDecimal
  dsimp only
  split_ifs <;> rfl

/-- The parts of a double other than zero stand for a decimal that rounds to it. -/
theorem denotes_ofDouble {d : Double} (hm : d.significand ≠ 0) :
    ∃ n k, n ≠ 0 ∧ (Parts.ofDouble d).Denotes n k ∧ d.Within ((n : ℚ) * 10 ^ k) := by
  obtain ⟨hne, hwithin⟩ := Double.within_shortest hm
  refine ⟨d.shortest.1, d.shortest.2, hne, ?_, hwithin⟩
  unfold Parts.ofDouble
  rw [if_neg hne]
  exact denotes_ofDecimal d.isNegative hne d.shortest.2

theorem ofDouble_zero {d : Double} (hm : d.significand = 0) :
    Parts.ofDouble d = ⟨d.isNegative, [0x30], some [0x30], none⟩ := by
  unfold Parts.ofDouble Double.shortest
  rw [if_pos hm, if_pos rfl]

theorem wellFormed_ofDouble (d : Double) : (Parts.ofDouble d).WellFormed := by
  by_cases hm : d.significand = 0
  · rw [ofDouble_zero hm]
    refine ⟨isWhole_zero, ?_⟩
    rintro f ⟨⟩
    exact ⟨nofun, digits_zeros 1⟩
  · obtain ⟨n, k, -, h, -⟩ := denotes_ofDouble hm
    exact h.wellFormed

theorem parted_ofDouble (d : Double) :
    (Parts.ofDouble d).fraction.isSome ∨ (Parts.ofDouble d).exponent.isSome := by
  by_cases hm : d.significand = 0
  · rw [ofDouble_zero hm]
    exact .inl rfl
  · obtain ⟨n, k, -, h, -⟩ := denotes_ofDouble hm
    exact h.parted

theorem modest_ofDouble {d : Double} (hd : d.isFinite = true) : (Parts.ofDouble d).Modest := by
  by_cases hm : d.significand = 0
  · rw [ofDouble_zero hm]
    exact modest_zero _ _
  · obtain ⟨hne, hwithin⟩ := Double.within_shortest hm
    have hlow := (leads_writeNat hne).le_digitsValue
    have hhigh := digitsValue_lt (digits_writeNat d.shortest.1)
    have hlength : (writeNat d.shortest.1).length = (Double.digitsOf d.shortest.1).length :=
      List.length_map _
    rw [digitsValue_writeNat, hlength] at hlow hhigh
    unfold Parts.ofDouble
    rw [if_neg hne]
    exact modest_ofDecimal d.isNegative (Double.places_of_within hd hm hlow hhigh hwithin)

/-- Beside the largest double the two roundings have to be tested. -/
theorem isSome_value?_largest (isNegative : Bool) :
    (Parts.ofDouble (Double.pack isNegative (2 * Double.leadingOne - 1) 971)).value?.isSome =
      true := by
  cases isNegative <;> decide +kernel

theorem isSome_value?_ofDouble {d : Double} (hd : d.isFinite = true) :
    (Parts.ofDouble d).value?.isSome = true := by
  by_cases hm : d.significand = 0
  · rw [ofDouble_zero hm]
    cases d.isNegative <;> rfl
  · by_cases hlargest : d.significand = 2 * Double.leadingOne - 1 ∧ d.scale = 971
    · have hsome := isSome_value?_largest d.isNegative
      rwa [← hlargest.1, ← hlargest.2, Double.pack_self hd] at hsome
    · obtain ⟨n, k, -, h, hwithin⟩ := denotes_ofDouble hm
      have hwhole : (Parts.ofDouble d).whole.length ≤ 19 :=
        (modest_ofDouble hd).whole.trans (by decide)
      obtain ⟨taken, cut, -, hdecimal, hlt⟩ := Parts.decimal_eq h.wellFormed hwhole
      have hvalue := Parts.decimal_le h.wellFormed hwhole
      rw [h.value] at hvalue
      obtain ⟨d', hd'⟩ := Double.exists_ofDecimal (congrArg Prod.fst hdecimal ▸ hlt)
        (hvalue.trans (Double.le_safe_of_within hd hlargest hwithin)) (Parts.ofDouble d).isNegative
      rw [Parts.value?_of_parted h.parted, hd']
      rfl

/-- A written double is read as a double. -/
theorem exists_value?_ofDouble {d : Double} (hd : d.isFinite = true) :
    ∃ d', (Parts.ofDouble d).value? = some (.double d') := by
  obtain ⟨n, hn⟩ := Option.isSome_iff_exists.1 (isSome_value?_ofDouble hd)
  rw [Parts.value?_of_parted (parted_ofDouble d)] at hn
  obtain ⟨d', -, rfl⟩ := Option.map_eq_some_iff.1 hn
  exact ⟨d', (Parts.value?_of_parted (parted_ofDouble d)).trans hn⟩

/-! ## Reading doubles -/

/-- What a double is read as when it has been written. -/
def reread (d : Double) : Double :=
  match Codec.double.toCodec.decode (writeDouble d) with
  | .ok d' => d'
  | .error _ => d

theorem readsAs_of_value? {height : Nat} {d d' : Double} (hd : d.isFinite = true)
    (h : (Parts.ofDouble d).value? = some (.double d')) :
    Codec.double.toCodec.ReadsAs height d d' := by
  have hp := wellFormed_ofDouble d
  have hwrite := write_ofDouble d
  refine Codec.readsAs_number (n := .double d') ?_ ?_ rfl ?_
  · exact hwrite ▸ opensNumber_write hp
  · exact hwrite ▸ reads_readNumber hp h
  · rw [← hwrite]
    refine fades_readNumber hp fun p' hp' => ?_
    obtain ⟨n, hn⟩ := hp'.exists_value? (modest_ofDouble hd)
    exact ⟨n, ⟨n.toDouble, rfl⟩, hn⟩

theorem reread_of_value? {d d' : Double} (hd : d.isFinite = true)
    (h : (Parts.ofDouble d).value? = some (.double d')) : reread d = d' := by
  have hreads : Codec.double.toCodec.ReadsAs 0 d d' := readsAs_of_value? hd h
  have hdecode := Codec.decode_write hreads (by decide)
  change Codec.double.toCodec.decode (writeDouble d) = .ok d' at hdecode
  unfold reread
  rw [hdecode]

/-- A finite double is read, if not always back. -/
theorem Codec.readsAs_double {height : Nat} {d : Double} (h : d.isFinite = true) :
    double.toCodec.ReadsAs height d (reread d) := by
  obtain ⟨d', hd'⟩ := exists_value?_ofDouble h
  rw [reread_of_value? h hd']
  exact readsAs_of_value? h hd'

theorem value?_zero (isNegative : Bool) :
    Parts.value? ⟨isNegative, [0x30], some [0x30], none⟩ =
      some (.double (Double.zero isNegative)) := by
  cases isNegative <;> decide +kernel

/-! ## Few digits -/

/-- Written without an exponent, a double has its point. -/
theorem Parts.exists_fraction {p : Parts} (h : p.fraction.isSome ∨ p.exponent.isSome)
    (hplain : 0x65 ∉ p.write) : ∃ f, p.fraction = some f ∧ p.exponent = none := by
  have hnone : p.exponent = none := by
    cases he : p.exponent with
    | none => rfl
    | some e =>
      refine absurd (List.mem_append_right _ ?_) hplain
      rw [he]
      exact List.mem_cons_self
  rcases h with hsome | hsome
  · obtain ⟨f, hf⟩ := Option.isSome_iff_exists.1 hsome
    exact ⟨f, hf, hnone⟩
  · rw [hnone] at hsome
    cases hsome

/-- The point takes a character beside the digits. -/
theorem Parts.length_digits_lt {p : Parts} {f : Bytes} (hf : p.fraction = some f) :
    p.digits.length < p.write.length := by
  unfold Parts.digits Parts.write
  rw [hf]
  simp only [Option.getD_some, Option.elim_some, List.length_append, List.length_cons]
  omega

theorem Parts.Denotes.digitsValue_ne_zero {p : Parts} {n : Nat} {k : Int} (h : p.Denotes n k)
    (hn : n ≠ 0) : digitsValue p.digits ≠ 0 := by
  intro hzero
  have hvalue := h.value
  rw [hzero, Nat.cast_zero, zero_mul] at hvalue
  have : (0 : ℚ) < n * 10 ^ k := by positivity
  exact absurd hvalue this.ne

/-- **Doubles of few digits are read back**: those that take at most sixteen characters, none of
them for an exponent. -/
theorem reread_of_length_le {d : Double} (hd : d.isFinite = true)
    (hlength : (writeDouble d).length ≤ 16) (hplain : 0x65 ∉ writeDouble d) : reread d = d := by
  refine reread_of_value? hd ?_
  by_cases hm : d.significand = 0
  · have hself := Double.pack_self hd
    rw [hm, Double.scale_of_significand_lt (hm ▸ by decide)] at hself
    rw [ofDouble_zero hm, value?_zero]
    exact congrArg (some ∘ Number.double) hself
  · obtain ⟨n, k, hn, h, hwithin⟩ := denotes_ofDouble hm
    rw [← write_ofDouble] at hlength hplain
    obtain ⟨f, hf, he⟩ := Parts.exists_fraction h.parted hplain
    have hshort : (Parts.ofDouble d).digits.length ≤ 15 := by
      have := Parts.length_digits_lt hf
      omega
    have hplace : (Parts.ofDouble d).place = -(f.length : Int) := by
      unfold Parts.place
      rw [hf, he]
      exact Int.zero_sub _
    have hfraction : f.length ≤ (Parts.ofDouble d).digits.length := by
      unfold Parts.digits
      rw [hf, List.length_append]
      exact Nat.le_add_left _ _
    have hvalue := h.value
    rw [hplace] at hvalue
    have hread := Double.ofDecimal_of_within hd (h.digitsValue_ne_zero hn)
      ((digitsValue_lt h.wellFormed.digits).trans_le (Nat.pow_le_pow_right (by decide) hshort))
      (List.length_pos_iff.2 (h.wellFormed.fraction f hf).1).ne' (hfraction.trans hshort)
      (hvalue ▸ hwithin)
    rw [Parts.value?_of_parted h.parted,
      Parts.decimal_of_length_le h.wellFormed (hshort.trans (by decide)), hplace,
      isNegative_ofDouble, hread]
    rfl

end ManagedAgent.Wire
