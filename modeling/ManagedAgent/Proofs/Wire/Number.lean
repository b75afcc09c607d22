import ManagedAgent.Proofs.Wire.Reading

/-!
# Numbers are read in the parts that they were written in

`Parts.write` is the text of a number in parts. Digits go on as long as they can, so that the parts of
a number are known only where something else than a digit follows.

* `reads_readParts` : a number is read in the parts that it was written in;
* `reads_writeNat`, `reads_writeInt` : an integer that fits is read back.
-/

set_option autoImplicit false

namespace ManagedAgent.Wire

open ManagedAgent.Wire.Reader
open ManagedAgent.Reader (run_bind_of_ok)

/-! ## Digits -/

def Stops (rest : Bytes) : Prop := ∀ b ∈ rest.head?, isDigit b = false

theorem Ends.stops {rest : Bytes} (h : Ends rest) : Stops rest := by
  intro b hb
  rcases h b hb with rfl | rfl | rfl <;> rfl

theorem stops_cons {b : UInt8} (h : isDigit b = false) (rest : Bytes) : Stops (b :: rest) := by
  intro c hc
  cases hc
  exact h

def Digits (ds : Bytes) : Prop := ∀ d ∈ ds, isDigit d = true

theorem digits_append {ds es : Bytes} : Digits (ds ++ es) ↔ Digits ds ∧ Digits es :=
  List.forall_mem_append

theorem digits_zeros (i : Nat) : Digits (List.replicate i 0x30) := by
  intro d hd
  rw [List.eq_of_mem_replicate hd]
  rfl

theorem run_takeWhile_isDigit {ds rest : Bytes} (hds : Digits ds) (hrest : Stops rest) :
    (ManagedAgent.Reader.takeWhile isDigit : Reader Bytes).run (ds ++ rest) = .ok (ds, rest) := by
  have hnone : rest.takeWhile isDigit = [] ∧ rest.dropWhile isDigit = rest := by
    cases rest with
    | nil => exact ⟨rfl, rfl⟩
    | cons b rest =>
      have hb : isDigit b = false := hrest b rfl
      exact ⟨List.takeWhile_cons_of_neg (by simp [hb]), List.dropWhile_cons_of_neg (by simp [hb])⟩
  rw [ManagedAgent.Reader.run_takeWhile, List.takeWhile_append_of_pos hds,
    List.dropWhile_append_of_pos hds, hnone.1, hnone.2, List.append_nil]

theorem isDigit_ofNat_toNat {c : Char} (h : c.isDigit = true) :
    isDigit (UInt8.ofNat c.toNat) = true := by
  have hc : 48 ≤ c.toNat ∧ c.toNat ≤ 57 := Char.isDigit_iff_toNat.1 h
  unfold isDigit
  rw [Bool.and_eq_true, decide_eq_true_iff, decide_eq_true_iff, UInt8.le_iff_toNat_le,
    UInt8.le_iff_toNat_le, UInt8.toNat_ofNat']
  show 48 ≤ _ ∧ _ ≤ 57
  omega

theorem digits_ascii {cs : List Char} (h : ∀ c ∈ cs, c.isDigit = true) : Digits (ascii cs) := by
  intro d hd
  obtain ⟨c, hc, rfl⟩ := List.mem_map.1 hd
  exact isDigit_ofNat_toNat (h c hc)

theorem digitsValue_ascii {cs : List Char} (h : ∀ c ∈ cs, c.isDigit = true) :
    digitsValue (ascii cs) = Nat.ofDigitChars 10 cs 0 := by
  unfold digitsValue ascii
  rw [Nat.ofDigitChars_eq_foldl, List.foldl_map]
  generalize 0 = n
  induction cs generalizing n with
  | nil => rfl
  | cons c cs ih =>
    have hc : c.toNat ≤ 57 := (Char.isDigit_iff_toNat.1 (h c List.mem_cons_self)).2
    rw [List.foldl_cons, List.foldl_cons, UInt8.toNat_ofNat', Nat.mod_eq_of_lt (by omega),
      Nat.mul_comm n]
    exact ih (fun c hc => h c (List.mem_cons_of_mem _ hc)) _

theorem isDigit_toDigits {n : Nat} : ∀ c ∈ Nat.toDigits 10 n, c.isDigit = true :=
  fun _ hc => Nat.isDigit_of_mem_toDigits (by decide) (by decide) hc

theorem digits_writeNat (n : Nat) : Digits (writeNat n) := digits_ascii isDigit_toDigits

theorem digitsValue_writeNat (n : Nat) : digitsValue (writeNat n) = n := by
  unfold writeNat
  rw [digitsValue_ascii isDigit_toDigits, Nat.ofDigitChars_ten_toDigits]

/-- A written number that is not zero does not begin with a zero. -/
theorem head_toDigits {n : Nat} (hn : n ≠ 0) : ∃ d ds, Nat.toDigits 10 n = Nat.digitChar d :: ds ∧
    0 < d ∧ d < 10 := by
  induction n using Nat.strongRecOn with
  | ind n ih =>
    by_cases hlt : n < 10
    · exact ⟨n, [], Nat.toDigits_of_lt_base hlt, Nat.pos_of_ne_zero hn, hlt⟩
    · obtain ⟨d, ds, hds, hd⟩ := ih (n / 10) (by omega) (by omega)
      refine ⟨d, ds ++ [(n % 10).digitChar], ?_, hd⟩
      rw [Nat.toDigits_of_base_le (by decide) (by omega), hds]
      rfl

/-! ## Parts -/

def writeExponent (e : Int) : Bytes := (if e < 0 then 0x2D else 0x2B) :: writeNat e.natAbs

def Parts.write (p : Parts) : Bytes :=
  (if p.isNegative then [0x2D] else []) ++ p.whole ++ p.fraction.elim [] (0x2E :: ·) ++
    p.exponent.elim [] (0x65 :: writeExponent ·)

/-- Digits before the point: no zero comes before another one. -/
def IsWhole (ds : Bytes) : Prop := ∃ b more, ds = b :: more ∧ Digits ds ∧ (b = 0x30 → more = [])

theorem isWhole_zero : IsWhole [0x30] := ⟨0x30, [], rfl, digits_zeros 1, fun _ => rfl⟩

structure Parts.WellFormed (p : Parts) : Prop where
  whole : IsWhole p.whole
  fraction : ∀ f ∈ p.fraction, f ≠ [] ∧ Digits f

theorem isWhole_writeNat (n : Nat) : IsWhole (writeNat n) := by
  by_cases hn : n = 0
  · subst hn
    exact ⟨0x30, [], rfl, digits_writeNat 0, fun _ => rfl⟩
  · obtain ⟨d, ds, hds, hpos, hlt⟩ := head_toDigits hn
    have heq : writeNat n = UInt8.ofNat (Nat.digitChar d).toNat :: ascii ds := by
      unfold writeNat
      rw [hds]
      rfl
    refine ⟨_, _, heq, digits_writeNat n, fun hzero => absurd hzero ?_⟩
    have : ∀ d < 10, 0 < d → UInt8.ofNat (Nat.digitChar d).toNat ≠ 0x30 := by decide
    exact this d hlt hpos

theorem run_readWhole {ds rest : Bytes} (hds : IsWhole ds) (hrest : Stops rest) :
    readWhole.run (ds ++ rest) = .ok (ds, rest) := by
  obtain ⟨b, more, rfl, hdigits, hzero⟩ := hds
  unfold readWhole
  rw [List.cons_append, run_bind_of_ok (run_next b _)]
  by_cases hb : b = 0x30
  · have hnone : rest.head?.any isDigit = false := by
      cases hhead : rest.head? with
      | none => rfl
      | some c => exact hrest c hhead
    rw [hzero hb, if_pos (by simpa using hb), List.nil_append,
      run_bind_of_ok (ManagedAgent.Reader.run_peek rest), if_neg (by simp [hnone])]
    rfl
  · have hmore : Digits more := fun d hd => hdigits d (List.mem_cons_of_mem _ hd)
    rw [if_neg (by simpa using hb), if_pos (hdigits b List.mem_cons_self),
      run_bind_of_ok (run_takeWhile_isDigit hmore hrest)]
    rfl

theorem run_readFraction {ds rest : Bytes} (hne : ds ≠ []) (hds : Digits ds)
    (hrest : Stops rest) : readFraction.run (ds ++ rest) = .ok (ds, rest) := by
  unfold readFraction
  rw [run_bind_of_ok (run_takeWhile_isDigit hds hrest), if_neg (by simpa using hne)]
  rfl

theorem run_readSign {b : UInt8} (hb : b = 0x2D ∨ b = 0x2B) (rest : Bytes) :
    readSign.run (b :: rest) = .ok (b == 0x2D, rest) := by
  rcases hb with rfl | rfl <;> rfl

/-- An exponent of any digits, after its sign. -/
theorem run_readExponent_digits {b : UInt8} (hb : b = 0x2D ∨ b = 0x2B) {ds rest : Bytes}
    (hne : ds ≠ []) (hds : Digits ds) (hrest : Stops rest) :
    readExponent.run (b :: (ds ++ rest)) =
      .ok (if b = 0x2D then -(digitsValue ds : Int) else digitsValue ds, rest) := by
  obtain ⟨d, more, rfl⟩ := List.exists_cons_of_ne_nil hne
  have hmore : Digits more := fun c hc => hds c (List.mem_cons_of_mem _ hc)
  unfold readExponent
  rw [run_bind_of_ok (run_readSign hb _), List.cons_append, run_bind_of_ok (run_next d _),
    if_pos (hds d List.mem_cons_self), run_bind_of_ok (run_takeWhile_isDigit hmore hrest)]
  simp only [beq_iff_eq]
  rfl

theorem run_readExponent (e : Int) {rest : Bytes} (hrest : Stops rest) :
    readExponent.run (writeExponent e ++ rest) = .ok (e, rest) := by
  obtain ⟨b, more, heq, -⟩ := isWhole_writeNat e.natAbs
  have hne : writeNat e.natAbs ≠ [] := heq ▸ List.cons_ne_nil b more
  unfold writeExponent
  rw [List.cons_append, run_readExponent_digits (by split <;> simp) hne (digits_writeNat _) hrest,
    digitsValue_writeNat]
  by_cases he : e < 0
  · rw [if_pos he, if_pos rfl, show -(e.natAbs : Int) = e by omega]
  · rw [if_neg he, if_neg (by decide), show (e.natAbs : Int) = e by omega]

theorem run_readBehind_none {α : Type} {isMark : UInt8 → Bool} {p : Reader α} {s : Bytes}
    (h : ∀ b ∈ s.head?, isMark b = false) : (readBehind isMark p).run s = .ok (none, s) := by
  have hnone : s.head?.any isMark = false := by
    cases hhead : s.head? with
    | none => rfl
    | some b => exact h b hhead
  unfold readBehind
  rw [run_bind_of_ok (ManagedAgent.Reader.run_peek s), if_neg (by simp [hnone])]
  rfl

theorem run_readBehind_some {α : Type} {isMark : UInt8 → Bool} {p : Reader α} {b : UInt8}
    {s r : Bytes} {a : α} (hb : isMark b = true) (h : p.run s = .ok (a, r)) :
    (readBehind isMark p).run (b :: s) = .ok (some a, r) := by
  unfold readBehind
  rw [run_bind_of_ok (ManagedAgent.Reader.run_peek _), if_pos (by simpa using hb),
    run_bind_of_ok (ManagedAgent.Reader.run_advance _), List.tail_cons, run_bind_of_ok h]
  rfl

theorem run_readBehind_fraction {fraction : Option Bytes} {rest : Bytes}
    (h : ∀ f ∈ fraction, f ≠ [] ∧ Digits f) (hstops : Stops rest) (hrest : rest.head? ≠ some 0x2E) :
    (readBehind (· == 0x2E) readFraction).run (fraction.elim [] (0x2E :: ·) ++ rest) =
      .ok (fraction, rest) := by
  cases fraction with
  | none =>
    refine run_readBehind_none fun b hb => ?_
    rw [beq_eq_false_iff_ne]
    rintro rfl
    exact hrest hb
  | some f =>
    obtain ⟨hne, hdigits⟩ := h f rfl
    exact run_readBehind_some rfl (run_readFraction hne hdigits hstops)

theorem run_readBehind_exponent {exponent : Option Int} {rest : Bytes} (hrest : Ends rest) :
    (readBehind (fun b => b == 0x65 || b == 0x45) readExponent).run
        (exponent.elim [] (0x65 :: writeExponent ·) ++ rest) = .ok (exponent, rest) := by
  cases exponent with
  | none =>
    refine run_readBehind_none fun b hb => ?_
    rcases hrest b hb with rfl | rfl | rfl <;> rfl
  | some e => exact run_readBehind_some rfl (run_readExponent e hrest.stops)

/-- A sign, and no other byte than a digit behind it. -/
theorem run_readBehind_sign (isNegative : Bool) {s : Bytes}
    (hs : ∀ b ∈ s.head?, isDigit b = true) :
    (readBehind (· == 0x2D) (pure ())).run ((if isNegative then [0x2D] else []) ++ s) =
      .ok (if isNegative then some () else none, s) := by
  cases isNegative with
  | true => exact run_readBehind_some rfl rfl
  | false =>
    refine run_readBehind_none fun b hb => ?_
    rw [beq_eq_false_iff_ne]
    rintro rfl
    exact absurd (hs 0x2D hb) (by decide)

theorem IsWhole.isDigit_head {ds : Bytes} (h : IsWhole ds) (rest : Bytes) :
    ∀ b ∈ (ds ++ rest).head?, isDigit b = true := by
  obtain ⟨b, more, rfl, hdigits, -⟩ := h
  rintro c ⟨⟩
  exact hdigits b List.mem_cons_self

theorem stops_exponent (exponent : Option Int) {rest : Bytes} (h : Ends rest) :
    Stops (exponent.elim [] (0x65 :: writeExponent ·) ++ rest) ∧
      (exponent.elim [] (0x65 :: writeExponent ·) ++ rest).head? ≠ some 0x2E := by
  cases exponent with
  | none =>
    refine ⟨h.stops, fun hhead => ?_⟩
    rcases h _ hhead with h | h | h <;> revert h <;> decide
  | some e =>
    exact ⟨stops_cons (b := 0x65) rfl _, fun hhead => absurd (Option.some.inj hhead) (by decide)⟩

theorem stops_fraction (fraction : Option Bytes) {rest : Bytes} (h : Stops rest) :
    Stops (fraction.elim [] (0x2E :: ·) ++ rest) := by
  cases fraction with
  | none => exact h
  | some f => exact stops_cons (b := 0x2E) rfl _

/-- A number is read in the parts that it was written in. -/
theorem reads_readParts {p : Parts} (h : p.WellFormed) : readParts.Reads p.write p := by
  intro rest hrest
  obtain ⟨isNegative, whole, fraction, exponent⟩ := p
  have hexponent := stops_exponent exponent hrest
  unfold readParts Parts.write
  rw [List.append_assoc, List.append_assoc, List.append_assoc,
    run_bind_of_ok (run_readBehind_sign isNegative (h.whole.isDigit_head _)),
    run_bind_of_ok (run_readWhole h.whole (stops_fraction fraction hexponent.1)),
    run_bind_of_ok (run_readBehind_fraction h.fraction hexponent.1 hexponent.2),
    run_bind_of_ok (run_readBehind_exponent hrest)]
  cases isNegative <;> rfl

/-- A number is read back as what its parts say. -/
theorem reads_readNumber {p : Parts} (h : p.WellFormed) {n : Number} (hn : p.value? = some n) :
    readNumber.Reads p.write n := by
  intro rest hrest
  unfold readNumber
  rw [run_bind_of_ok (reads_readParts h rest hrest), hn]
  rfl

/-! ## Integers -/

def Parts.ofInt (isNegative : Bool) (n : Nat) : Parts :=
  { isNegative, whole := writeNat n, fraction := none, exponent := none }

theorem wellFormed_ofInt (isNegative : Bool) (n : Nat) : (Parts.ofInt isNegative n).WellFormed :=
  ⟨isWhole_writeNat n, nofun⟩

theorem value?_ofInt {isNegative : Bool} {n : Nat} {m : Number}
    (h : integer? isNegative n = some m) : (Parts.ofInt isNegative n).value? = some m := by
  unfold Parts.value? Parts.ofInt
  rw [digitsValue_writeNat, h]

theorem write_ofInt (isNegative : Bool) (n : Nat) :
    (Parts.ofInt isNegative n).write = (if isNegative then [0x2D] else []) ++ writeNat n := by
  unfold Parts.write Parts.ofInt
  simp

theorem reads_writeNat {n : Nat} (hn : n < UInt64.size) :
    readNumber.Reads (writeNat n) (.unsigned (UInt64.ofNat n)) := by
  have hvalue : integer? false n = some (.unsigned (UInt64.ofNat n)) := by
    unfold integer?
    rw [if_neg nofun, if_pos hn]
  have h := reads_readNumber (wellFormed_ofInt false n) (value?_ofInt hvalue)
  rwa [write_ofInt] at h

/-- A negative number is read with its sign. -/
theorem reads_writeInt_neg {i : Int64} (hi : i.toInt < 0) :
    readNumber.Reads (writeInt i.toInt) (.negative i) := by
  have hlow : -2 ^ 63 ≤ i.toInt := i.le_toInt
  have hvalue : integer? true i.toInt.natAbs = some (.negative i) := by
    unfold integer?
    rw [if_pos rfl, if_pos (by omega), Int.ofNat_natAbs_of_nonpos (Int.le_of_lt hi), Int.neg_neg,
      Int64.ofInt_toInt]
  have h := reads_readNumber (wellFormed_ofInt true i.toInt.natAbs) (value?_ofInt hvalue)
  rw [write_ofInt] at h
  unfold writeInt
  rwa [if_pos hi]

end ManagedAgent.Wire
