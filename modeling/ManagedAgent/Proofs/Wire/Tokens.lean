import ManagedAgent.Proofs.Wire.Accepting
import ManagedAgent.Proofs.Wire.Scalar

/-!
# Scalars are accepted or refused as a whole

Every scalar of the grammar is read to its end, or refused, whatever follows: a number in its parts,
a text escape by escape, where a leading surrogate looks at the escape behind it.

* `settles_readNumber`, `exists_accept_readText`, `settles_readScalar`.
-/

set_option autoImplicit false

namespace ManagedAgent.Wire

open ManagedAgent.Wire.Reader
open ManagedAgent.Reader (run_bind_of_ok)

/-! ## Numbers -/

structure EndsNumber (rest : Bytes) : Prop where
  stops : Stops rest
  noPoint : rest.head? ≠ some 0x2E
  noExponent : ∀ b ∈ rest.head?, b ≠ 0x65 ∧ b ≠ 0x45

theorem Closes.endsNumber {rest : Bytes} (h : Closes rest) : EndsNumber rest where
  stops := h.stops
  noPoint := h.not_mem rfl (by decide)
  noExponent b hb := by
    constructor
    · rintro rfl
      exact h.not_mem rfl (by decide) hb
    · rintro rfl
      exact h.not_mem rfl (by decide) hb

theorem run_readSign_none {rest : Bytes} {b : UInt8} (hb : isDigit b = true) :
    readSign.run (b :: rest) = .ok (false, b :: rest) := by
  have hminus : b ≠ 0x2D := ne_of_isDigit hb rfl
  have hplus : b ≠ 0x2B := ne_of_isDigit hb rfl
  unfold readSign
  rw [run_bind_of_ok (ManagedAgent.Reader.run_peek _)]
  simp [hminus, hplus]

/-- An exponent is read as one number, whatever follows. -/
theorem exists_run_readExponent {sign ds : Bytes} (hsign : sign = [] ∨ sign = [0x2D] ∨ sign = [0x2B])
    (hne : ds ≠ []) (hds : Digits ds) :
    ∃ e, ∀ rest, Stops rest → readExponent.run (sign ++ (ds ++ rest)) = .ok (e, rest) := by
  rcases hsign with rfl | rfl | rfl
  · obtain ⟨d, more, rfl⟩ := List.exists_cons_of_ne_nil hne
    refine ⟨digitsValue (d :: more), fun rest hrest => ?_⟩
    have hmore : Digits more := fun c hc => hds c (List.mem_cons_of_mem _ hc)
    unfold readExponent
    rw [List.nil_append, List.cons_append,
      run_bind_of_ok (run_readSign_none (hds d List.mem_cons_self)), run_bind_of_ok (run_next d _),
      if_pos (hds d List.mem_cons_self), run_bind_of_ok (run_takeWhile_isDigit hmore hrest)]
    rfl
  · exact ⟨_, fun rest hrest => run_readExponent_digits (.inl rfl) hne hds hrest⟩
  · exact ⟨_, fun rest hrest => run_readExponent_digits (.inr rfl) hne hds hrest⟩

theorem exists_run_exponent {exponent : Bytes} (h : IsExponent exponent) :
    ∃ e, ∀ rest, EndsNumber rest →
      (readBehind (fun b => b == 0x65 || b == 0x45) readExponent).run (exponent ++ rest) =
        .ok (e, rest) := by
  cases h with
  | absent =>
    refine ⟨none, fun rest hrest => run_readBehind_none fun b hb => ?_⟩
    simpa using hrest.noExponent b hb
  | @present mark sign ds hmark hsign hne hds =>
    obtain ⟨e, he⟩ := exists_run_readExponent hsign hne hds
    refine ⟨some e, fun rest hrest => ?_⟩
    rw [List.cons_append, List.append_assoc]
    exact run_readBehind_some (by simpa using hmark) (he rest hrest.stops)

theorem exists_run_fraction {fraction : Bytes} (h : IsFraction fraction) :
    ∃ f, ∀ rest, Stops rest → rest.head? ≠ some 0x2E →
      (readBehind (· == 0x2E) readFraction).run (fraction ++ rest) = .ok (f, rest) := by
  cases h with
  | absent =>
    exact ⟨none, fun rest hstops hrest => @run_readBehind_fraction none rest nofun hstops hrest⟩
  | @present ds hne hds =>
    refine ⟨some ds, fun rest hstops hrest => ?_⟩
    exact @run_readBehind_fraction (some ds) rest (by rintro _ ⟨⟩; exact ⟨hne, hds⟩) hstops hrest

/-- An exponent, or what follows it, ends the digits before. -/
theorem IsExponent.stops {exponent rest : Bytes} (h : IsExponent exponent) (hrest : EndsNumber rest) :
    Stops (exponent ++ rest) ∧ (exponent ++ rest).head? ≠ some 0x2E := by
  cases h with
  | absent => exact ⟨hrest.stops, hrest.noPoint⟩
  | present he => rcases he with rfl | rfl <;> exact ⟨stops_cons rfl _, by simp⟩

theorem IsFraction.stops {fraction rest : Bytes} (h : IsFraction fraction) (hrest : Stops rest) :
    Stops (fraction ++ rest) := by
  cases h with
  | absent => exact hrest
  | present => exact stops_cons rfl _

/-- A number is read in one way into parts, whatever follows. -/
theorem exists_run_readParts {t : Bytes} (h : IsNumber t) :
    ∃ p, ∀ rest, EndsNumber rest → readParts.run (t ++ rest) = .ok (p, rest) := by
  obtain ⟨hsign, hwhole, hfraction, hexponent⟩ := h
  rename_i sign whole fraction exponent
  obtain ⟨f, hf⟩ := exists_run_fraction hfraction
  obtain ⟨e, he⟩ := exists_run_exponent hexponent
  have hminus : ∃ m, ∀ rest, (readBehind (· == 0x2D) (pure () : Reader Unit)).run
      (sign ++ (whole ++ rest)) = .ok (m, whole ++ rest) := by
    rcases hsign with rfl | rfl
    · obtain ⟨b, more, rfl, hdigits, -⟩ := hwhole
      refine ⟨none, fun rest => run_readBehind_none ?_⟩
      rintro _ ⟨⟩
      exact beq_eq_false_iff_ne.2 (ne_of_isDigit (hdigits b List.mem_cons_self) rfl)
    · exact ⟨some (), fun rest => run_readBehind_some rfl rfl⟩
  obtain ⟨m, hm⟩ := hminus
  refine ⟨⟨m.isSome, whole, f, e⟩, fun rest hrest => ?_⟩
  have hstops := hexponent.stops hrest
  unfold readParts
  rw [show sign ++ (whole ++ (fraction ++ exponent)) ++ rest =
      sign ++ (whole ++ (fraction ++ (exponent ++ rest))) by simp,
    run_bind_of_ok (hm _), run_bind_of_ok (run_readWhole hwhole (hfraction.stops hstops.1)),
    run_bind_of_ok (hf _ hstops.1 hstops.2), run_bind_of_ok (he rest hrest)]
  rfl

theorem settles_readNumber {t : Bytes} (h : IsNumber t) : readNumber.Settles t := by
  obtain ⟨p, hp⟩ := exists_run_readParts h
  refine ⟨p.value?, fun rest hrest => ?_⟩
  unfold readNumber
  rw [accept_bind, accept_of_run (hp rest hrest.endsNumber), Option.bind_some]
  cases p.value? <;> rfl

/-! ## Texts -/

theorem exists_hexValue? {b : UInt8} (h : IsHex b) : ∃ n, hexValue? b = some n := by
  unfold hexValue?
  rcases h with h | h | h
  · have hb : (0x30 ≤ b && b ≤ 0x39) = true := h
    exact ⟨_, if_pos hb⟩
  · by_cases hd : (0x30 ≤ b && b ≤ 0x39) = true
    · exact ⟨_, if_pos hd⟩
    · exact ⟨_, by rw [if_neg hd, if_pos (by simpa using h)]⟩
  · by_cases hd : (0x30 ≤ b && b ≤ 0x39) = true
    · exact ⟨_, if_pos hd⟩
    · by_cases hl : (0x61 ≤ b && b ≤ 0x66) = true
      · exact ⟨_, by rw [if_neg hd, if_pos hl]⟩
      · exact ⟨_, by rw [if_neg hd, if_neg hl, if_pos (by simpa using h)]⟩

/-- Four hexadecimal digits are a number. -/
theorem exists_accept_readHex {a b c d : UInt8} (h : IsHex a ∧ IsHex b ∧ IsHex c ∧ IsHex d) :
    ∃ n, ∀ rest, accept readHex (a :: b :: c :: d :: rest) = some (n, rest) := by
  obtain ⟨a', ha⟩ := exists_hexValue? h.1
  obtain ⟨b', hb⟩ := exists_hexValue? h.2.1
  obtain ⟨c', hc⟩ := exists_hexValue? h.2.2.1
  obtain ⟨d', hd⟩ := exists_hexValue? h.2.2.2
  refine ⟨((a' * 16 + b') * 16 + c') * 16 + d', fun rest => ?_⟩
  unfold accept ManagedAgent.Reader.run readHex
  simp only [ha, hb, hc, hd]
  rfl

theorem unescape?_isSome {c : UInt8} (hc : c ∈ [0x22, 0x5C, 0x2F, 0x62, 0x66, 0x6E, 0x72, 0x74]) :
    c ≠ 0x75 ∧ (unescape? c).isSome = true := by
  simp only [List.mem_cons, List.not_mem_nil, or_false] at hc
  rcases hc with rfl | rfl | rfl | rfl | rfl | rfl | rfl | rfl <;> decide

theorem accept_readTextFrom_slash (before r : Bytes) :
    accept (readTextFrom before) (0x5C :: r) =
      (accept readEscape r).bind fun x => accept (readTextFrom (x.1.reverse ++ before)) x.2 := by
  unfold accept
  rw [run_readTextFrom_slash]
  cases readEscape.run r <;> rfl

theorem accept_readEscape_code (r : Bytes) :
    accept readEscape (0x75 :: r) =
      (accept readUnicode r).map fun x => (String.utf8EncodeChar x.1, x.2) := by
  unfold readEscape
  rw [accept_bind, accept_next, Option.bind_some, accept_ite, if_pos (beq_self_eq_true _),
    accept_bind]
  cases accept readUnicode r <;> rfl

/-- Behind a leading surrogate an escape of a trailing one has to come. -/
theorem accept_readUnicode {n : Nat} {s r : Bytes} (hn : accept readHex s = some (n, r)) :
    accept readUnicode s =
      if 0xDC00 ≤ n ∧ n ≤ 0xDFFF then none
      else if n < 0xD800 ∨ 0xDBFF < n then some (Char.ofNat n, r)
      else (accept (expect 0x5C) r).bind fun x => (accept (expect 0x75) x.2).bind fun x =>
        (accept readHex x.2).bind fun x =>
          if x.1 < 0xDC00 ∨ 0xDFFF < x.1 then none
          else some (Char.ofNat ((n - 0xD800) * 0x400 + (x.1 - 0xDC00) + 0x10000), x.2) := by
  unfold readUnicode
  rw [accept_bind, hn, Option.bind_some]
  simp only [accept_ite, accept_bind, accept_pure, accept_fail, Bool.and_eq_true, decide_eq_true_eq,
    Bool.or_eq_true]

/-- What a `\u` escape stands for is settled inside the text that it stands in. -/
theorem accept_readUnicode_cases {a b c d : UInt8} (hs : IsHex a ∧ IsHex b ∧ IsHex c ∧ IsHex d)
    {quoted : Bytes} (h : IsQuoted quoted) :
    (∀ rest, accept readUnicode (a :: b :: c :: d :: (quoted ++ 0x22 :: rest)) = none) ∨
      ∃ char more, IsQuoted more ∧ more.length ≤ quoted.length ∧ ∀ rest,
        accept readUnicode (a :: b :: c :: d :: (quoted ++ 0x22 :: rest)) =
          some (char, more ++ 0x22 :: rest) := by
  obtain ⟨n, hn⟩ := exists_accept_readHex hs
  by_cases htrailing : 0xDC00 ≤ n ∧ n ≤ 0xDFFF
  · exact .inl fun rest => by rw [accept_readUnicode (hn _), if_pos htrailing]
  by_cases hplain : n < 0xD800 ∨ 0xDBFF < n
  · refine .inr ⟨Char.ofNat n, quoted, h, Nat.le_refl _, fun rest => ?_⟩
    rw [accept_readUnicode (hn _), if_neg htrailing, if_pos hplain]
  -- A leading surrogate: what comes next decides.
  have hrun (rest : Bytes) := accept_readUnicode (hn (quoted ++ 0x22 :: rest))
  simp only [if_neg htrailing, if_neg hplain] at hrun
  cases h with
  | nil => exact .inl fun rest => by rw [hrun]; rfl
  | plain hb => exact .inl fun rest => by rw [hrun]; simp [hb.2.2]
  | letter hc => exact .inl fun rest => by rw [hrun]; simp [(unescape?_isSome hc).1]
  | @code a b c d more hs hmore =>
    obtain ⟨m, hm⟩ := exists_accept_readHex hs
    by_cases hno : m < 0xDC00 ∨ 0xDFFF < m
    · exact .inl fun rest => by rw [hrun]; simp [hm, hno]
    · exact .inr ⟨_, more, hmore, by simp; omega, fun rest => by rw [hrun]; simp [hm, hno]; rfl⟩

/-- A text is read to its closing quote or refused, whatever has been read before. -/
theorem exists_accept_readTextFrom {quoted : Bytes} (h : IsQuoted quoted) (before : Bytes) :
    ∃ o : Option Bytes, ∀ rest,
      accept (readTextFrom before) (quoted ++ 0x22 :: rest) = o.map (·, rest) := by
  -- A pair of surrogates is two escapes, so that the induction is on the length.
  induction hlen : quoted.length using Nat.strongRecOn generalizing quoted before with
  | ind n ih =>
    subst hlen
    cases h with
    | nil => exact ⟨some before.reverse, fun rest => accept_of_run (run_readTextFrom_quote before rest)⟩
    | @plain b more hb hmore =>
      obtain ⟨o, ho⟩ := ih more.length (by simp) hmore (b :: before) rfl
      refine ⟨o, fun rest => ?_⟩
      rw [← ho rest, List.cons_append]
      exact accept_congr (run_readTextFrom_plain hb.2.1 hb.2.2 (UInt8.not_lt.2 hb.1) before _)
    | @letter c more hc hmore =>
      obtain ⟨hne, hsome⟩ := unescape?_isSome hc
      obtain ⟨e, he⟩ := Option.isSome_iff_exists.1 hsome
      obtain ⟨o, ho⟩ := ih more.length (by simp only [List.length_cons]; omega) hmore
        ([e].reverse ++ before) rfl
      refine ⟨o, fun rest => ?_⟩
      rw [← ho rest]
      exact accept_congr (run_readTextFrom_escape (takes_readEscape_letter hne he) before _)
    | @code a b c d more hs hmore =>
      have hrun (rest : Bytes) :
          accept (readTextFrom before) (0x5C :: 0x75 :: a :: b :: c :: d :: more ++ 0x22 :: rest) =
            (accept readUnicode (a :: b :: c :: d :: (more ++ 0x22 :: rest))).bind fun x =>
              accept (readTextFrom ((String.utf8EncodeChar x.1).reverse ++ before)) x.2 := by
        rw [List.cons_append, accept_readTextFrom_slash, List.cons_append, accept_readEscape_code,
          Option.bind_map]
        rfl
      rcases accept_readUnicode_cases hs hmore with hnone | ⟨char, more', hmore', hle, hsome⟩
      · exact ⟨none, fun rest => by rw [hrun, hnone]; rfl⟩
      · obtain ⟨o, ho⟩ := ih more'.length (by simp; omega) hmore'
          ((String.utf8EncodeChar char).reverse ++ before) rfl
        exact ⟨o, fun rest => by rw [hrun, hsome]; exact ho rest⟩

/-- After its opening quote a text is accepted or refused, whatever follows it. -/
theorem exists_accept_readText {quoted : Bytes} (h : IsQuoted quoted) :
    ∃ o : Option String, ∀ rest, accept readText (quoted ++ 0x22 :: rest) = o.map (·, rest) := by
  obtain ⟨o, ho⟩ := exists_accept_readTextFrom h []
  refine ⟨o.bind ofUtf8, fun rest => ?_⟩
  unfold readText
  rw [accept_bind, ho rest]
  cases o with
  | none => rfl
  | some bytes =>
    rw [Option.map_some, Option.bind_some, Option.bind_some]
    cases ofUtf8 bytes <;> rfl

/-! ## Scalars -/

theorem accept_readLiteral (s rest : Bytes) : accept (readLiteral s) (s ++ rest) = some ((), rest) :=
  accept_of_run (takes_readLiteral s rest)

theorem run_readScalar_null (r : Bytes) : readScalar.run (0x6E :: r) =
    (readLiteral [0x75, 0x6C, 0x6C] >>= fun _ => pure .null : Reader Scalar).run r := by
  unfold readScalar
  rw [run_bind_of_ok (ManagedAgent.Reader.run_peek _)]
  show (ManagedAgent.Reader.advance >>= fun _ => readLiteral [0x75, 0x6C, 0x6C] >>= fun _ =>
    pure .null : Reader Scalar).run _ = _
  rw [run_bind_of_ok (ManagedAgent.Reader.run_advance _), List.tail_cons]

theorem accept_readScalar_null (rest : Bytes) :
    accept readScalar ([0x6E, 0x75, 0x6C, 0x6C] ++ rest) = some (.null, rest) := by
  rw [List.cons_append, accept_congr (run_readScalar_null _), accept_bind, accept_readLiteral]
  rfl

theorem accept_readScalar_bool (b : Bool) (rest : Bytes) :
    accept readScalar (ascii (if b then "true".toList else "false".toList) ++ rest) =
      some (.bool b, rest) := by
  rw [ascii_bool, List.cons_append, accept_congr (run_readScalar_bool b _), accept_bind,
    accept_readLiteral]
  rfl

theorem settles_readScalar {t : Bytes} (h : IsScalar t) : readScalar.Settles t := by
  cases h with
  | null => exact ⟨some .null, fun rest _ => accept_readScalar_null rest⟩
  | true => exact ⟨some (.bool true), fun rest _ => accept_readScalar_bool true rest⟩
  | false => exact ⟨some (.bool false), fun rest _ => accept_readScalar_bool false rest⟩
  | number h =>
    obtain ⟨b, r, rfl, hb⟩ := exists_first_number h
    obtain ⟨o, ho⟩ := settles_readNumber h
    refine ⟨o.map .number, fun rest hrest => ?_⟩
    rw [List.cons_append, accept_congr (run_readScalar_number hb _), accept_bind,
      ← List.cons_append, ho rest hrest]
    cases o <;> rfl
  | text h =>
    obtain ⟨quoted, rfl, h⟩ := h
    obtain ⟨o, ho⟩ := exists_accept_readText h
    refine ⟨o.map .text, fun rest _ => ?_⟩
    rw [List.cons_append, accept_congr (run_readScalar_quote _), accept_bind, List.append_assoc,
      List.singleton_append, ho rest]
    cases o <;> rfl

end ManagedAgent.Wire
