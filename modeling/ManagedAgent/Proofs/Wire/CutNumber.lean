import ManagedAgent.Proofs.Wire.Digits
import ManagedAgent.Proofs.Wire.Fading

/-!
# Numbers that are cut short

A number may be cut so that a number is left. Then its parts are those of the whole number, or fronts
of them: `Parts.Shortens`.

* `fades_readParts` : a number in parts that is cut short;
* `fades_writeNat`, `fades_writeInt_neg` : of an integer no greater one is left.
-/

set_option autoImplicit false

namespace ManagedAgent.Wire

open ManagedAgent.Wire.Reader
open ManagedAgent.Reader (run_bind_of_ok)

/-! ## Parts -/

theorem fades_readWhole {ds : Bytes} (h : IsWhole ds) :
    readWhole.Fades ds fun w => IsWhole w ∧ Cut w ds := by
  intro q hq
  by_cases hne : q = []
  · subst hne
    exact .inl rfl
  · have hw := h.of_cut hq hne
    have hrun := run_readWhole hw (nofun : Stops [])
    rw [List.append_nil] at hrun
    exact .inr ⟨q, ⟨hw, hq⟩, hrun⟩

theorem fades_readFraction {ds : Bytes} (h : Digits ds) :
    readFraction.Fades ds fun f => f ≠ [] ∧ Digits f := by
  intro q hq
  by_cases hne : q = []
  · subst hne
    exact .inl rfl
  · have hrun := run_readFraction hne (h.of_cut hq) (nofun : Stops [])
    rw [List.append_nil] at hrun
    exact .inr ⟨q, ⟨hne, h.of_cut hq⟩, hrun⟩

/-- At least one digit of an exponent is cut off. -/
theorem fades_readExponent (e : Int) :
    readExponent.Fades (writeExponent e) fun e' => 10 * e' ≤ e.natAbs := by
  intro q hq
  rcases hq.cons_cases with rfl | ⟨ds, rfl, hds⟩
  · exact .inl rfl
  · by_cases hne : ds = []
    · subst hne
      by_cases he : e < 0
      · rw [if_pos he]
        exact .inl rfl
      · rw [if_neg he]
        exact .inl rfl
    · have hrun := run_readExponent_digits (b := if e < 0 then 0x2D else 0x2B)
        (by split <;> simp) hne ((digits_writeNat _).of_cut hds) (nofun : Stops [])
      rw [List.append_nil] at hrun
      have hvalue := digitsValue_of_cut hds
      rw [digitsValue_writeNat] at hvalue
      refine .inr ⟨_, ?_, hrun⟩
      split <;> omega

/-- Behind a mark that may be missing. -/
theorem fades_readBehind {α : Type} {isMark : UInt8 → Bool} {p : Reader α} {b : UInt8} {s : Bytes}
    {P : α → Prop} (hb : isMark b = true) (h : p.Fades s P) :
    (readBehind isMark p).Fades (b :: s) fun o => ∀ a ∈ o, P a := by
  intro q hq
  rcases hq.cons_cases with rfl | ⟨q', rfl, hq'⟩
  · exact .inr ⟨none, nofun, run_readBehind_none nofun⟩
  · rcases h hq' with hrun | ⟨a, ha, hrun⟩
    · refine .inl ?_
      unfold readBehind
      rw [run_bind_of_ok (ManagedAgent.Reader.run_peek _), if_pos (by simpa using hb),
        run_bind_of_ok (ManagedAgent.Reader.run_advance _), List.tail_cons]
      exact run_bind_of_error hrun
    · refine .inr ⟨some a, ?_, run_readBehind_some hb hrun⟩
      rintro _ ⟨⟩
      exact ha

structure Parts.Shortens (p p' : Parts) : Prop where
  wellFormed : p'.WellFormed
  isNegative : p'.isNegative = p.isNegative
  whole : p'.whole = p.whole ∨ Cut p'.whole p.whole
  fraction : p.fraction = none → p'.fraction = none
  exponent : ∀ e' ∈ p'.exponent, ∃ e ∈ p.exponent, 10 * e' ≤ e.natAbs

theorem fades_readBehind_exponent (exponent : Option Int) :
    (readBehind (fun b => b == 0x65 || b == 0x45) readExponent).Fades
      (exponent.elim [] (0x65 :: writeExponent ·))
      fun e => ∀ e' ∈ e, ∃ e ∈ exponent, 10 * e' ≤ e.natAbs := by
  cases exponent with
  | none => exact fades_nil _ _
  | some e =>
    refine (fades_readBehind rfl (fades_readExponent e)).mono fun o ho e' he' => ?_
    exact ⟨e, rfl, ho e' he'⟩

theorem fades_readBehind_fraction {fraction : Option Bytes}
    (h : ∀ f ∈ fraction, f ≠ [] ∧ Digits f) :
    (readBehind (· == 0x2E) readFraction).Fades (fraction.elim [] (0x2E :: ·))
      fun f => (∀ d ∈ f, d ≠ [] ∧ Digits d) ∧ (fraction = none → f = none) := by
  cases fraction with
  | none => exact fades_nil _ _
  | some f =>
    exact (fades_readBehind rfl (fades_readFraction (h f rfl).2)).mono fun o ho => ⟨ho, nofun⟩

theorem fades_readBehind_sign (isNegative : Bool) :
    (readBehind (· == 0x2D) (pure ()) : Reader (Option Unit)).Fades
      (if isNegative then [0x2D] else []) fun _ => True := by
  cases isNegative with
  | true => exact (fades_readBehind rfl (fades_nil (pure ()) fun _ => True)).mono fun _ _ => trivial
  | false => exact fades_nil _ _

theorem cut_exponent {exponent : Option Int} {r : Bytes}
    (h : Cut r (exponent.elim [] (0x65 :: writeExponent ·))) :
    Stops r ∧ r.head? ≠ some 0x2E := by
  cases exponent with
  | none => exact absurd h (not_cut_nil r)
  | some e =>
    rcases h.cons_cases with rfl | ⟨r', rfl, -⟩
    · exact ⟨nofun, nofun⟩
    · exact ⟨stops_cons (b := 0x65) rfl _, fun hhead => absurd (Option.some.inj hhead) (by decide)⟩

theorem Stops.of_cut {q s : Bytes} (h : Stops s) (hq : Cut q s) : Stops q := fun b hb =>
  h b (hq.mem_head? hb)

/-- A number that is cut short: too short for a number, or one with shorter parts. -/
theorem fades_readParts {p : Parts} (h : p.WellFormed) : readParts.Fades p.write p.Shortens := by
  obtain ⟨isNegative, whole, fraction, exponent⟩ := p
  have hstops := stops_fraction fraction (stops_exponent exponent ends_nil).1
  rw [List.append_nil] at hstops
  unfold readParts Parts.write
  rw [List.append_assoc, List.append_assoc]
  -- the cut is in the sign, in the whole part, in the fraction or in the exponent
  refine (fades_readBehind_sign isNegative).bind_reads
    (a := if isNegative then some () else none) (fun _ _ => .inl rfl) ?_ ?_
  · intro r hr
    refine run_readBehind_sign isNegative fun b hb => ?_
    exact h.whole.isDigit_head _ b (hr.mem_head? hb)
  have hminus : (if isNegative then some () else none : Option Unit).isSome = isNegative := by
    cases isNegative <;> rfl
  rw [hminus]
  refine (fades_readWhole h.whole).bind_reads (a := whole) ?_
    (fun r hr => run_readWhole h.whole (hstops.of_cut hr)) ?_
  · rintro w ⟨hw, hcut⟩
    exact .inr ⟨⟨isNegative, w, none, none⟩, ⟨⟨hw, nofun⟩, rfl, .inr hcut, fun _ => rfl, nofun⟩, rfl⟩
  refine (fades_readBehind_fraction h.fraction).bind_reads (a := fraction) ?_
    (fun r hr => run_readBehind_fraction h.fraction (cut_exponent hr).1 (cut_exponent hr).2) ?_
  · rintro f ⟨hf, hnone⟩
    exact .inr ⟨⟨isNegative, whole, f, none⟩, ⟨⟨h.whole, hf⟩, rfl, .inl rfl, hnone, nofun⟩, rfl⟩
  · exact (fades_readBehind_exponent exponent).map _ fun e he =>
      ⟨⟨h.whole, h.fraction⟩, rfl, .inl rfl, id, he⟩

theorem fades_readNumber {p : Parts} {P : Number → Prop} (h : p.WellFormed)
    (hP : ∀ p', p.Shortens p' → ∃ n, P n ∧ p'.value? = some n) :
    readNumber.Fades p.write P := by
  refine (fades_readParts h).bind_end fun p' hp' => ?_
  obtain ⟨n, hn, hvalue⟩ := hP p' hp'
  rw [hvalue]
  exact .inr ⟨n, hn, rfl⟩

/-! ## Integers -/

/-- Of an integer a smaller one is left, of the same sign. -/
theorem Parts.Shortens.integer {isNegative : Bool} {n : Nat} {p' : Parts}
    (h : (Parts.ofInt isNegative n).Shortens p') :
    ∃ n' ≤ n, (n ≠ 0 → n' ≠ 0) ∧ ∀ m, integer? isNegative n' = some m → p'.value? = some m := by
  obtain ⟨neg, whole, fraction, exponent⟩ := p'
  obtain rfl : neg = isNegative := h.isNegative
  obtain rfl : fraction = none := h.fraction rfl
  obtain rfl : exponent = none := by
    cases exponent with
    | none => rfl
    | some e =>
      obtain ⟨_, hnone, -⟩ := h.exponent e rfl
      cases hnone
  have hfront : whole = writeNat n ∨ Cut whole (writeNat n) := h.whole
  have hne : whole ≠ [] := by
    obtain ⟨b, more, heq, -⟩ : IsWhole whole := h.wellFormed.whole
    rw [heq]
    exact List.cons_ne_nil b more
  refine ⟨digitsValue whole, ?_, fun hn => ?_, fun m hm => ?_⟩
  · rcases hfront with rfl | hcut
    · exact Nat.le_of_eq (digitsValue_writeNat n)
    · have hle := digitsValue_of_cut hcut
      rw [digitsValue_writeNat] at hle
      omega
  · rcases hfront with rfl | hcut
    · exact (leads_writeNat hn).digitsValue_ne_zero
    · exact ((leads_writeNat hn).of_cut hcut hne).digitsValue_ne_zero
  · unfold Parts.value?
    dsimp only
    rw [hm]

theorem fades_writeNat {n : Nat} (hn : n < UInt64.size) :
    readNumber.Fades (writeNat n) fun m => ∃ n' ≤ n, m = .unsigned (UInt64.ofNat n') := by
  have h := fades_readNumber (P := fun m => ∃ n' ≤ n, m = .unsigned (UInt64.ofNat n'))
    (wellFormed_ofInt false n) fun p' hp' => by
      obtain ⟨n', hle, -, hvalue⟩ := hp'.integer
      refine ⟨_, ⟨n', hle, rfl⟩, hvalue _ ?_⟩
      unfold integer?
      rw [if_neg nofun, if_pos (Nat.lt_of_le_of_lt hle hn)]
  rwa [write_ofInt] at h

theorem fades_writeInt_neg {i : Int64} (hi : i.toInt < 0) :
    readNumber.Fades (writeInt i.toInt) fun m => ∃ j, m = .negative j := by
  have hlow : -2 ^ 63 ≤ i.toInt := i.le_toInt
  have h := fades_readNumber (P := fun m => ∃ j, m = .negative j)
    (wellFormed_ofInt true i.toInt.natAbs) fun p' hp' => by
      obtain ⟨n', hle, hne, hvalue⟩ := hp'.integer
      have hne := hne (by omega)
      refine ⟨_, ⟨Int64.ofInt (-n'), rfl⟩, hvalue _ ?_⟩
      unfold integer?
      rw [if_pos rfl, if_pos (by omega)]
  rw [write_ofInt] at h
  unfold writeInt
  rwa [if_pos hi]

end ManagedAgent.Wire
