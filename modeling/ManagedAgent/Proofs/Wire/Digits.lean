import Mathlib.Tactic.Ring
import ManagedAgent.Proofs.Wire.Number

/-!
# The value of decimal digits

* `digitsValue_append`, `digitsValue_lt`, `Leads.le_digitsValue` : where digits stand, and how many
  there are, bounds their value;
* `digitsValue_of_cut` : every digit that is cut off divides the value by ten.
-/

set_option autoImplicit false

namespace ManagedAgent.Wire

theorem isDigit_iff {b : UInt8} : isDigit b = true ↔ 0x30 ≤ b.toNat ∧ b.toNat ≤ 0x39 := by
  unfold isDigit
  rw [Bool.and_eq_true, decide_eq_true_iff, decide_eq_true_iff, UInt8.le_iff_toNat_le,
    UInt8.le_iff_toNat_le]
  rfl

theorem foldl_digits (ds : Bytes) (n : Nat) :
    ds.foldl (fun n d => n * 10 + (d.toNat - 0x30)) n = n * 10 ^ ds.length + digitsValue ds := by
  unfold digitsValue
  induction ds generalizing n with
  | nil => simp
  | cons d ds ih =>
    rw [List.foldl_cons, List.foldl_cons, ih, ih (0 * 10 + _), List.length_cons, Nat.pow_succ]
    ring

theorem digitsValue_append (ds es : Bytes) :
    digitsValue (ds ++ es) = digitsValue ds * 10 ^ es.length + digitsValue es := by
  show (ds ++ es).foldl _ 0 = _
  rw [List.foldl_append, foldl_digits]
  rfl

theorem digitsValue_zeros (n : Nat) : digitsValue (List.replicate n 0x30) = 0 := by
  induction n with
  | zero => rfl
  | succ n ih =>
    rw [List.replicate_succ, ← List.singleton_append, digitsValue_append, ih,
      show digitsValue [0x30] = 0 from rfl, Nat.zero_mul]

theorem digitsValue_lt {ds : Bytes} (h : Digits ds) : digitsValue ds < 10 ^ ds.length := by
  induction ds with
  | nil => decide
  | cons d ds ih =>
    have hd := (isDigit_iff.1 (h d List.mem_cons_self)).2
    have hone : digitsValue [d] = d.toNat - 0x30 := by simp [digitsValue]
    have := ih fun b hb => h b (List.mem_cons_of_mem _ hb)
    rw [← List.singleton_append, digitsValue_append, hone, List.length_append, List.length_singleton,
      Nat.add_comm 1, Nat.pow_succ]
    have : (d.toNat - 0x30) * 10 ^ ds.length ≤ 9 * 10 ^ ds.length :=
      Nat.mul_le_mul_right _ (by omega)
    omega

/-- Digits that do not begin with a zero. -/
def Leads (ds : Bytes) : Prop := ∃ b more, ds = b :: more ∧ isDigit b = true ∧ b ≠ 0x30

theorem Leads.le_digitsValue {ds : Bytes} (h : Leads ds) : 10 ^ ds.length ≤ 10 * digitsValue ds := by
  obtain ⟨b, more, rfl, hb, hne⟩ := h
  have hone : digitsValue [b] = b.toNat - 0x30 := by simp [digitsValue]
  have hpos : 1 ≤ b.toNat - 0x30 := by
    have := (isDigit_iff.1 hb).1
    have : b.toNat ≠ 0x30 := fun h => hne (UInt8.toNat_inj.1 h)
    omega
  rw [← List.singleton_append, digitsValue_append, hone, List.length_append, List.length_singleton,
    Nat.add_comm 1, Nat.pow_succ]
  have : 1 * 10 ^ more.length ≤ (b.toNat - 0x30) * 10 ^ more.length := Nat.mul_le_mul_right _ hpos
  omega

theorem Leads.append {ds : Bytes} (h : Leads ds) (es : Bytes) : Leads (ds ++ es) := by
  obtain ⟨b, more, rfl, hb⟩ := h
  exact ⟨b, more ++ es, rfl, hb⟩

theorem leads_writeNat {n : Nat} (hn : n ≠ 0) : Leads (writeNat n) := by
  obtain ⟨b, more, heq, hdigits, hzero⟩ := isWhole_writeNat n
  rw [heq]
  refine ⟨b, more, rfl, (heq ▸ digits_writeNat n) b List.mem_cons_self, fun h => ?_⟩
  have hvalue := digitsValue_writeNat n
  rw [heq, h, hzero h] at hvalue
  exact hn hvalue.symm

/-! ## Digits cut short -/

theorem Digits.of_cut {q ds : Bytes} (h : Digits ds) (hq : Cut q ds) : Digits q := by
  obtain ⟨es, -, rfl⟩ := hq
  exact (digits_append.1 h).1

theorem IsWhole.of_cut {q ds : Bytes} (h : IsWhole ds) (hq : Cut q ds) (hne : q ≠ []) :
    IsWhole q := by
  obtain ⟨b, more, rfl, hdigits, hzero⟩ := h
  have hdq := hdigits.of_cut hq
  rcases hq.cons_cases with rfl | ⟨q', rfl, hq'⟩
  · exact absurd rfl hne
  · refine ⟨b, q', rfl, hdq, fun hb => ?_⟩
    rw [hzero hb] at hq'
    exact absurd hq' (not_cut_nil q')

theorem Leads.of_cut {q ds : Bytes} (h : Leads ds) (hq : Cut q ds) (hne : q ≠ []) : Leads q := by
  obtain ⟨b, more, rfl, hb⟩ := h
  rcases hq.cons_cases with rfl | ⟨q', rfl, -⟩
  · exact absurd rfl hne
  · exact ⟨b, q', rfl, hb⟩

theorem Leads.digitsValue_ne_zero {ds : Bytes} (h : Leads ds) : digitsValue ds ≠ 0 := by
  have hle := h.le_digitsValue
  have hpos : 0 < 10 ^ ds.length := Nat.pow_pos (by decide)
  omega

theorem digitsValue_of_cut {q ds : Bytes} (h : Cut q ds) :
    10 * digitsValue q ≤ digitsValue ds := by
  obtain ⟨es, hes, rfl⟩ := h
  obtain ⟨e, es, rfl⟩ := List.exists_cons_of_ne_nil hes
  have hpow : 10 * digitsValue q * 1 ≤ 10 * digitsValue q * 10 ^ es.length :=
    Nat.mul_le_mul_left _ (Nat.pow_pos (by decide))
  have hassoc : digitsValue q * 10 ^ (es.length + 1) = 10 * digitsValue q * 10 ^ es.length := by
    ring
  rw [digitsValue_append, List.length_cons, hassoc]
  omega

end ManagedAgent.Wire
