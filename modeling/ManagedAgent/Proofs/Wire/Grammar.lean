import ManagedAgent.Proofs.Wire.Passing

/-!
# Scalars that are accepted are scalars of the grammar

What a reader takes off the front of a text, when it accepts it. For texts and numbers this is one of
the tokens that the grammar has, whether they are read or passed over.

* `Consumes` : a reader takes nothing but texts of one kind;
* `consumes_readScalar`, `consumes_skipScalar`.
-/

set_option autoImplicit false

namespace ManagedAgent.Wire

open ManagedAgent.Wire.Reader

namespace Reader
variable {α β σ : Type}

/-- Whatever the reader accepts is a text of this kind, and what follows is left. -/
def Consumes (p : Reader α) (P : Bytes → Prop) : Prop :=
  ∀ ⦃s r : Bytes⦄ ⦃a : α⦄, accept p s = some (a, r) → ∃ t, s = t ++ r ∧ P t

theorem Consumes.mono {p : Reader α} {P Q : Bytes → Prop} (h : p.Consumes P) (hPQ : ∀ t, P t → Q t) :
    p.Consumes Q := fun _ _ _ hread => by
  obtain ⟨t, rfl, ht⟩ := h hread
  exact ⟨t, rfl, hPQ t ht⟩

theorem exists_of_accept_bind {p : Reader α} {f : α → Reader β} {s r : Bytes} {b : β}
    (h : accept (p >>= f) s = some (b, r)) :
    ∃ a t, accept p s = some (a, t) ∧ accept (f a) t = some (b, r) := by
  rw [accept_bind] at h
  obtain ⟨⟨a, t⟩, hp, hf⟩ := Option.bind_eq_some_iff.1 h
  exact ⟨a, t, hp, hf⟩

theorem Consumes.map {p : Reader α} {P : Bytes → Prop} (h : p.Consumes P) (f : α → β) :
    (p >>= fun a => pure (f a) : Reader β).Consumes P := fun _ _ _ hread => by
  obtain ⟨a, t, hp, hpure⟩ := exists_of_accept_bind hread
  cases hpure
  exact h hp

theorem eq_of_accept_orMismatch {o : Option α} {s r : Bytes} {a : α}
    (h : accept (orMismatch o) s = some (a, r)) : o = some a ∧ r = s := by
  rw [accept_orMismatch] at h
  obtain ⟨_, ho, heq⟩ := Option.map_eq_some_iff.1 h
  cases heq
  exact ⟨ho, rfl⟩

theorem Consumes.orMismatch {p : Reader α} {P : Bytes → Prop} (h : p.Consumes P) (f : α → Option β) :
    (p >>= fun a => orMismatch (f a) : Reader β).Consumes P := fun _ _ _ hread => by
  obtain ⟨a, t, hp, hf⟩ := exists_of_accept_bind hread
  obtain ⟨-, rfl⟩ := eq_of_accept_orMismatch hf
  exact h hp

theorem consumes_fail (e : Failure) (P : Bytes → Prop) :
    Consumes (α := α) (ManagedAgent.Reader.fail e) P := nofun

theorem consumes_ite {c : Prop} [Decidable c] {p q : Reader α} {P : Bytes → Prop}
    (hp : c → p.Consumes P) (hq : ¬ c → q.Consumes P) : (if c then p else q).Consumes P := by
  by_cases h : c
  · rw [if_pos h]
    exact hp h
  · rw [if_neg h]
    exact hq h

theorem exists_of_accept_next {s r : Bytes} {b : UInt8} (h : accept next s = some (b, r)) :
    s = b :: r := by
  cases s with
  | nil => cases h
  | cons c s =>
    cases h
    rfl

theorem exists_of_accept_expect {b : UInt8} {s r : Bytes} {u : Unit}
    (h : accept (expect b) s = some (u, r)) : s = b :: r := by
  cases s with
  | nil => cases h
  | cons c s =>
    rw [accept_expect] at h
    by_cases hc : c = b
    · rw [if_pos hc] at h
      cases h
      rw [hc]
    · rw [if_neg hc] at h
      cases h

theorem consumes_readLiteral (s : Bytes) : (readLiteral s).Consumes (· = s) := by
  induction s with
  | nil =>
    intro s r u h
    cases h
    exact ⟨[], rfl, rfl⟩
  | cons b s ih =>
    intro s' r u h
    obtain ⟨_, t, hb, h⟩ := exists_of_accept_bind h
    obtain ⟨_, rfl, rfl⟩ := ih h
    exact ⟨_, exists_of_accept_expect hb, rfl⟩

end Reader

/-! ## Texts -/

theorem isHex_of_hexValue? {b : UInt8} {n : Nat} (h : hexValue? b = some n) : IsHex b := by
  unfold hexValue? at h
  split at h
  · next hb => exact .inl hb
  · split at h
    · next hb => exact .inr (.inl (by simpa using hb))
    · split at h
      · next hb => exact .inr (.inr (by simpa using hb))
      · cases h

/-- Four hexadecimal digits. -/
def IsCode (t : Bytes) : Prop :=
  ∃ a b c d, t = [a, b, c, d] ∧ IsHex a ∧ IsHex b ∧ IsHex c ∧ IsHex d

theorem consumes_readHex : readHex.Consumes IsCode := by
  intro s r n h
  rcases s with - | ⟨a, - | ⟨b, - | ⟨c, - | ⟨d, s⟩⟩⟩⟩
  iterate 4 cases h
  unfold accept ManagedAgent.Reader.run readHex at h
  dsimp only at h
  cases ha : hexValue? a with
  | none =>
    simp only [ha] at h
    cases h
  | some a' =>
    cases hb : hexValue? b with
    | none =>
      simp only [ha, hb] at h
      cases h
    | some b' =>
      cases hc : hexValue? c with
      | none =>
        simp only [ha, hb, hc] at h
        cases h
      | some c' =>
        cases hd : hexValue? d with
        | none =>
          simp only [ha, hb, hc, hd] at h
          cases h
        | some d' =>
          simp only [ha, hb, hc, hd] at h
          cases h
          exact ⟨_, rfl, a, b, c, d, rfl, isHex_of_hexValue? ha, isHex_of_hexValue? hb,
            isHex_of_hexValue? hc, isHex_of_hexValue? hd⟩

/-- What can stand behind a backslash, so that any text may follow it. -/
def IsEscape (t : Bytes) : Prop := ∀ quoted, IsQuoted quoted → IsQuoted (0x5C :: (t ++ quoted))

theorem IsCode.isEscape {t : Bytes} (h : IsCode t) : IsEscape (0x75 :: t) := by
  obtain ⟨a, b, c, d, rfl, hs⟩ := h
  exact fun quoted hquoted => .code hs hquoted

theorem isEscape_of_unescape? {b c : UInt8} (h : unescape? b = some c) : IsEscape [b] := by
  have hmem : b ∈ [0x22, 0x5C, 0x2F, 0x62, 0x66, 0x6E, 0x72, 0x74] := by
    by_contra hmem
    simp only [List.mem_cons, List.not_mem_nil, or_false, not_or] at hmem
    simp [unescape?, hmem] at h
  exact fun quoted hquoted => .letter hmem hquoted

/-- A leading surrogate is read with the escape behind it. -/
theorem consumes_readUnicode : readUnicode.Consumes fun t => IsEscape (0x75 :: t) := by
  intro s r c hread
  obtain ⟨n, s', hcode, h⟩ := exists_of_accept_bind hread
  obtain ⟨t, rfl, ht⟩ := consumes_readHex hcode
  rw [accept_ite] at h
  split at h
  · cases h
  rw [accept_ite] at h
  split at h
  · cases h
    exact ⟨t, rfl, ht.isEscape⟩
  obtain ⟨_, s₁, hslash, hbehind⟩ := exists_of_accept_bind h
  obtain ⟨_, s₂, hletter, htrailing⟩ := exists_of_accept_bind hbehind
  obtain ⟨m, s₃, hcode', hend⟩ := exists_of_accept_bind htrailing
  obtain ⟨t', rfl, ht'⟩ := consumes_readHex hcode'
  rw [accept_ite] at hend
  split at hend
  · cases hend
  · rw [accept_pure] at hend
    obtain ⟨-, rfl⟩ := Prod.mk.inj (Option.some.inj hend)
    rw [exists_of_accept_expect hslash, exists_of_accept_expect hletter]
    refine ⟨t ++ 0x5C :: 0x75 :: t', by simp, fun quoted hquoted => ?_⟩
    have hboth := ht.isEscape _ (ht'.isEscape quoted hquoted)
    simpa using hboth

theorem consumes_readEscape : readEscape.Consumes IsEscape := by
  intro s r bytes hread
  obtain ⟨b, s', hb, h⟩ := exists_of_accept_bind hread
  obtain rfl := exists_of_accept_next hb
  rw [accept_ite] at h
  split at h
  · next hcode =>
    obtain rfl := eq_of_beq hcode
    obtain ⟨t, rfl, ht⟩ := consumes_readUnicode.map _ h
    exact ⟨0x75 :: t, rfl, ht⟩
  · cases hletter : unescape? b with
    | none =>
      rw [hletter] at h
      cases h
    | some c =>
      rw [hletter] at h
      cases h
      exact ⟨[b], rfl, isEscape_of_unescape? hletter⟩

theorem consumes_skipEscape : skipEscape.Consumes IsEscape := by
  intro s r u hread
  obtain ⟨b, s', hb, h⟩ := exists_of_accept_bind hread
  obtain rfl := exists_of_accept_next hb
  rw [accept_ite] at h
  split at h
  · next hcode =>
    obtain rfl := eq_of_beq hcode
    obtain ⟨t, rfl, ht⟩ := consumes_readHex.map _ h
    exact ⟨0x75 :: t, rfl, ht.isEscape⟩
  · rw [accept_ite] at h
    split at h
    · next hletter =>
      obtain ⟨c, hc⟩ := Option.isSome_iff_exists.1 hletter
      cases h
      exact ⟨[b], rfl, isEscape_of_unescape? hc⟩
    · cases h

/-- What is left of a text behind its opening quote. -/
def IsTextTail (t : Bytes) : Prop := ∃ quoted, t = quoted ++ [0x22] ∧ IsQuoted quoted

theorem IsTextTail.isText {t : Bytes} (h : IsTextTail t) : IsText (0x22 :: t) := by
  obtain ⟨quoted, rfl, hquoted⟩ := h
  exact ⟨quoted, rfl, hquoted⟩

theorem IsTextTail.plain {b : UInt8} (hquote : b ≠ 0x22) (hslash : b ≠ 0x5C) (hcontrol : ¬ b < 0x20)
    {t : Bytes} (h : IsTextTail t) : IsTextTail (b :: t) := by
  obtain ⟨quoted, rfl, hquoted⟩ := h
  exact ⟨b :: quoted, rfl, .plain ⟨UInt8.not_lt.1 hcontrol, hquote, hslash⟩ hquoted⟩

theorem IsTextTail.escape {e t : Bytes} (he : IsEscape e) (h : IsTextTail t) :
    IsTextTail (0x5C :: (e ++ t)) := by
  obtain ⟨quoted, rfl, hquoted⟩ := h
  exact ⟨0x5C :: (e ++ quoted), by simp, he quoted hquoted⟩

theorem run_readTextFrom_control {b : UInt8} (hquote : b ≠ 0x22) (hslash : b ≠ 0x5C)
    (hcontrol : b < 0x20) (before rest : Bytes) :
    (readTextFrom before).run (b :: rest) = .error .malformed := by
  unfold ManagedAgent.Reader.run
  rw [readTextFrom, if_neg (by simpa using hquote), if_neg (by simpa using hslash), if_pos hcontrol]

theorem consumes_readTextFrom (before : Bytes) : (readTextFrom before).Consumes IsTextTail := by
  intro s r bytes h
  induction hlen : s.length using Nat.strongRecOn generalizing s before with
  | ind n ih =>
    subst hlen
    cases s with
    | nil =>
      rw [accept_of_error (run_readTextFrom_nil before)] at h
      cases h
    | cons b s =>
      by_cases hquote : b = 0x22
      · subst hquote
        rw [accept_of_run (run_readTextFrom_quote before s)] at h
        cases h
        exact ⟨[0x22], rfl, [], rfl, .nil⟩
      by_cases hslash : b = 0x5C
      · subst hslash
        rw [accept_readTextFrom_slash] at h
        obtain ⟨⟨e, s'⟩, hescape, hmore⟩ := Option.bind_eq_some_iff.1 h
        obtain ⟨t, rfl, ht⟩ := consumes_readEscape hescape
        obtain ⟨t', rfl, ht'⟩ := ih s'.length (by simp only [List.length_cons, List.length_append]; omega)
          _ hmore rfl
        exact ⟨0x5C :: (t ++ t'), by simp, ht'.escape ht⟩
      by_cases hcontrol : b < 0x20
      · rw [accept_of_error (run_readTextFrom_control hquote hslash hcontrol before s)] at h
        cases h
      · rw [accept_congr (run_readTextFrom_plain hquote hslash hcontrol before s)] at h
        obtain ⟨t, rfl, ht⟩ := ih s.length (by simp) _ h rfl
        exact ⟨b :: t, rfl, ht.plain hquote hslash hcontrol⟩

theorem consumes_readText : readText.Consumes IsTextTail := by
  intro s r string hread
  obtain ⟨bytes, s', hbytes, h⟩ := exists_of_accept_bind hread
  cases hstring : ofUtf8 bytes with
  | none =>
    rw [hstring] at h
    cases h
  | some _ =>
    rw [hstring] at h
    cases h
    exact consumes_readTextFrom [] hbytes

theorem run_skipText_control {b : UInt8} (hquote : b ≠ 0x22) (hslash : b ≠ 0x5C)
    (hcontrol : b < 0x20) (rest : Bytes) : skipText.run (b :: rest) = .error .malformed := by
  unfold ManagedAgent.Reader.run
  rw [skipText, if_neg (by simpa using hquote), if_neg (by simpa using hslash), if_pos hcontrol]

theorem run_skipText_nil : skipText.run [] = .error .truncated := by
  unfold ManagedAgent.Reader.run
  rw [skipText]

theorem consumes_skipText : skipText.Consumes IsTextTail := by
  intro s r u h
  induction hlen : s.length using Nat.strongRecOn generalizing s with
  | ind n ih =>
    subst hlen
    cases s with
    | nil =>
      rw [accept_of_error run_skipText_nil] at h
      cases h
    | cons b s =>
      by_cases hquote : b = 0x22
      · subst hquote
        rw [accept_of_run (run_skipText_quote s)] at h
        cases h
        exact ⟨[0x22], rfl, [], rfl, .nil⟩
      by_cases hslash : b = 0x5C
      · subst hslash
        rw [accept_skipText_slash] at h
        obtain ⟨⟨e, s'⟩, hescape, hmore⟩ := Option.bind_eq_some_iff.1 h
        obtain ⟨t, rfl, ht⟩ := consumes_skipEscape hescape
        obtain ⟨t', rfl, ht'⟩ := ih s'.length (by simp only [List.length_cons, List.length_append]; omega)
          hmore rfl
        exact ⟨0x5C :: (t ++ t'), by simp, ht'.escape ht⟩
      by_cases hcontrol : b < 0x20
      · rw [accept_of_error (run_skipText_control hquote hslash hcontrol s)] at h
        cases h
      · rw [accept_congr (run_skipText_plain hquote hslash hcontrol s)] at h
        obtain ⟨t, rfl, ht⟩ := ih s.length (by simp) h rfl
        exact ⟨b :: t, rfl, ht.plain hquote hslash hcontrol⟩

/-! ## Numbers -/

theorem digits_takeWhile (s : Bytes) : Digits (s.takeWhile isDigit) :=
  List.all_eq_true.1 List.all_takeWhile

theorem consumes_digits :
    Consumes (α := Unit) (ManagedAgent.Reader.dropWhile isDigit) Digits := fun s _ _ h => by
  cases h
  exact ⟨s.takeWhile isDigit, List.takeWhile_append_dropWhile.symm, digits_takeWhile s⟩

theorem isWhole_cons {b : UInt8} {ds : Bytes} (hb : isDigit b = true) (hzero : b ≠ 0x30)
    (h : Digits ds) : IsWhole (b :: ds) :=
  ⟨b, ds, rfl, List.forall_mem_cons.2 ⟨hb, h⟩, fun hb => absurd hb hzero⟩

theorem consumes_readWhole : readWhole.Consumes IsWhole := by
  intro s r whole hread
  obtain ⟨b, s', hb, h⟩ := exists_of_accept_bind hread
  obtain rfl := exists_of_accept_next hb
  rw [accept_ite] at h
  split at h
  · next hzero =>
    obtain rfl := eq_of_beq hzero
    rw [accept_bind, accept_peek, Option.bind_some, accept_ite] at h
    split at h
    · cases h
    · cases h
      exact ⟨[0x30], rfl, isWhole_zero⟩
  · next hzero =>
    rw [accept_ite] at h
    split at h
    · next hdigit =>
      cases h
      exact ⟨b :: s'.takeWhile isDigit, by simp,
        isWhole_cons hdigit (by simpa using hzero) (digits_takeWhile s')⟩
    · cases h

theorem consumes_readBehind {α : Type} {isMark : UInt8 → Bool} {p : Reader α} {P : Bytes → Prop}
    (h : p.Consumes P) : (readBehind isMark p).Consumes fun t =>
      t = [] ∨ ∃ b t', t = b :: t' ∧ isMark b = true ∧ P t' := by
  intro s r o hread
  unfold readBehind at hread
  rw [accept_bind, accept_peek, Option.bind_some, accept_ite] at hread
  split at hread
  · next hmark =>
    cases s with
    | nil => cases hmark
    | cons b s =>
      rw [accept_advance_bind] at hread
      obtain ⟨t, rfl, ht⟩ := h.map some hread
      exact ⟨b :: t, rfl, .inr ⟨b, t, rfl, hmark, ht⟩⟩
  · cases hread
    exact ⟨[], rfl, .inl rfl⟩

theorem consumes_readFraction : readFraction.Consumes fun ds => ds ≠ [] ∧ Digits ds := by
  intro s r fraction hread
  unfold readFraction at hread
  obtain ⟨ds, s', hds, h⟩ := exists_of_accept_bind hread
  cases hds
  rw [accept_ite] at h
  split at h
  · obtain ⟨o, s', -, h⟩ := exists_of_accept_bind h
    cases h
  · next hne =>
    cases h
    exact ⟨s.takeWhile isDigit, by simp, by simpa using hne, digits_takeWhile s⟩

def IsSign (t : Bytes) : Prop := t = [] ∨ t = [0x2D] ∨ t = [0x2B]

theorem consumes_readSign : readSign.Consumes IsSign := by
  intro s r minus hread
  unfold readSign at hread
  rw [accept_bind, accept_peek, Option.bind_some] at hread
  split at hread
  · next hsign =>
    cases hread
    cases s with
    | nil => cases hsign
    | cons b s =>
      refine ⟨[b], rfl, ?_⟩
      have hb : b = 0x2D ∨ b = 0x2B := by simpa using hsign
      rcases hb with rfl | rfl
      · exact .inr (.inl rfl)
      · exact .inr (.inr rfl)
  · cases hread
    exact ⟨[], rfl, .inl rfl⟩

theorem consumes_readExponent : readExponent.Consumes fun t =>
    ∃ sign ds, t = sign ++ ds ∧ IsSign sign ∧ ds ≠ [] ∧ Digits ds := by
  intro s r e hread
  unfold readExponent at hread
  obtain ⟨minus, s', hminus, h⟩ := exists_of_accept_bind hread
  obtain ⟨sign, rfl, hsign⟩ := consumes_readSign hminus
  obtain ⟨b, s'', hb, hdigits⟩ := exists_of_accept_bind h
  obtain rfl := exists_of_accept_next hb
  rw [accept_ite] at hdigits
  split at hdigits
  · next hdigit =>
    cases hdigits
    exact ⟨sign ++ b :: s''.takeWhile isDigit, by simp, sign, _, rfl, hsign, by simp,
      List.forall_mem_cons.2 ⟨hdigit, digits_takeWhile s''⟩⟩
  · cases hdigits

theorem consumes_readParts : readParts.Consumes IsNumber := by
  intro s r parts hread
  obtain ⟨minus, s₁, hminus, h⟩ := exists_of_accept_bind hread
  obtain ⟨whole, s₂, hwhole, hmore⟩ := exists_of_accept_bind h
  obtain ⟨fraction, s₃, hfraction, hrest⟩ := exists_of_accept_bind hmore
  obtain ⟨exponent, s₄, hexponent, hend⟩ := exists_of_accept_bind hrest
  cases hend
  have hnothing : Consumes (α := Unit) (pure ()) (· = []) := fun _ _ _ h => ⟨[], by cases h; rfl, rfl⟩
  have hsign : (readBehind (· == 0x2D) (pure () : Reader Unit)).Consumes
      fun t => t = [] ∨ t = [0x2D] := by
    refine (consumes_readBehind hnothing).mono fun t ht => ht.imp_right ?_
    rintro ⟨b, _, rfl, hb, rfl⟩
    rw [eq_of_beq hb]
  have hpoint : (readBehind (· == 0x2E) readFraction).Consumes IsFraction := by
    refine (consumes_readBehind consumes_readFraction).mono ?_
    rintro _ (rfl | ⟨b, ds, rfl, hb, hne, hds⟩)
    · exact .absent
    · exact eq_of_beq hb ▸ .present hne hds
  have hletter : (readBehind (fun b => b == 0x65 || b == 0x45) readExponent).Consumes IsExponent := by
    refine (consumes_readBehind consumes_readExponent).mono ?_
    rintro _ (rfl | ⟨b, _, rfl, hb, sign, ds, rfl, hsign, hne, hds⟩)
    · exact .absent
    · exact .present (by simpa using hb) hsign hne hds
  obtain ⟨t₁, rfl, ht₁⟩ := hsign hminus
  obtain ⟨t₂, rfl, ht₂⟩ := consumes_readWhole hwhole
  obtain ⟨t₃, rfl, ht₃⟩ := hpoint hfraction
  obtain ⟨t₄, rfl, ht₄⟩ := hletter hexponent
  exact ⟨t₁ ++ (t₂ ++ (t₃ ++ t₄)), by simp, .mk ht₁ ht₂ ht₃ ht₄⟩

theorem consumes_readNumber : readNumber.Consumes IsNumber := by
  intro s r n hread
  obtain ⟨parts, s', hparts, h⟩ := exists_of_accept_bind hread
  cases hvalue : parts.value? with
  | none =>
    rw [hvalue] at h
    cases h
  | some n =>
    rw [hvalue] at h
    cases h
    exact consumes_readParts hparts

theorem exists_of_accept_skipDigit {s r : Bytes} {b : UInt8} (h : accept skipDigit s = some (b, r)) :
    s = b :: r ∧ isDigit b = true := by
  unfold skipDigit at h
  rw [accept_bind, accept_peek, Option.bind_some, accept_bind, accept_advance, Option.bind_some] at h
  cases s with
  | nil => cases h
  | cons c s =>
    cases hc : isDigit c with
    | false =>
      have hnone : (some c).filter isDigit = none := by simp [Option.filter, hc]
      simp only [List.head?_cons, hnone] at h
      cases h
    | true =>
      have hsome : (some c).filter isDigit = some c := by simp [Option.filter, hc]
      simp only [List.head?_cons, hsome] at h
      cases h
      exact ⟨rfl, hc⟩

/-- Digits that are passed over, of which there is at least one. -/
theorem exists_skipped_digits {s s' r : Bytes} {u v : Unit}
    (hfirst : accept (discard skipDigit) s = some (u, s'))
    (hmore : accept (ManagedAgent.Reader.dropWhile isDigit) s' = some (v, r)) :
    ∃ ds, s = ds ++ r ∧ ds ≠ [] ∧ Digits ds := by
  rw [accept_discard] at hfirst
  obtain ⟨⟨b, s'⟩, hb, heq⟩ := Option.map_eq_some_iff.1 hfirst
  cases heq
  obtain ⟨rfl, hdigit⟩ := exists_of_accept_skipDigit hb
  obtain ⟨ds, rfl, hds⟩ := consumes_digits hmore
  exact ⟨b :: ds, rfl, by simp, List.forall_mem_cons.2 ⟨hdigit, hds⟩⟩

theorem consumes_skipExponent : skipExponent.Consumes IsExponent := by
  intro s r u hread
  unfold skipExponent at hread
  rw [accept_bind, accept_peek, Option.bind_some] at hread
  split at hread
  · next hmark =>
    cases s with
    | nil => cases hmark
    | cons b s =>
      rw [accept_advance_bind] at hread
      obtain ⟨_, s₁, hsigned, hdigits⟩ := exists_of_accept_bind hread
      obtain ⟨_, s₂, hfirst, hmore⟩ := exists_of_accept_bind hdigits
      obtain ⟨ds, rfl, hne, hds⟩ := exists_skipped_digits hfirst hmore
      rw [accept_discard] at hsigned
      obtain ⟨⟨minus, s₃⟩, hminus, heq⟩ := Option.map_eq_some_iff.1 hsigned
      cases heq
      obtain ⟨sign, rfl, hsign⟩ := consumes_readSign hminus
      exact ⟨b :: (sign ++ ds), by simp, .present (by simpa using hmark) hsign hne hds⟩
  · cases hread
    exact ⟨[], rfl, .absent⟩

theorem consumes_skipFraction : skipFraction.Consumes fun t =>
    ∃ fraction exponent, t = fraction ++ exponent ∧ IsFraction fraction ∧ IsExponent exponent := by
  intro s r u hread
  unfold skipFraction at hread
  rw [accept_bind, accept_peek, Option.bind_some] at hread
  split at hread
  · next hpoint =>
    cases s with
    | nil => cases hpoint
    | cons b s =>
      rw [accept_advance_bind] at hread
      obtain ⟨_, s₁, hfirst, hdigits⟩ := exists_of_accept_bind hread
      obtain ⟨_, s₂, hmore, hrest⟩ := exists_of_accept_bind hdigits
      obtain ⟨ds, rfl, hne, hds⟩ := exists_skipped_digits hfirst hmore
      obtain ⟨exponent, rfl, hexponent⟩ := consumes_skipExponent hrest
      obtain rfl : b = 0x2E := by simpa using hpoint
      exact ⟨0x2E :: ds ++ exponent, by simp, _, exponent, rfl, .present hne hds, hexponent⟩
  · obtain ⟨exponent, rfl, hexponent⟩ := consumes_skipExponent hread
    exact ⟨exponent, rfl, [], exponent, rfl, .absent, hexponent⟩

theorem consumes_skipDigits {first : UInt8} (hfirst : isDigit first = true) :
    (skipDigits first).Consumes fun t => ∀ sign, sign = [] ∨ sign = [0x2D] →
      IsNumber (sign ++ first :: t) := by
  have hnumber {more t : Bytes} (hwhole : IsWhole (first :: more)) (ht : ∃ fraction exponent,
      t = fraction ++ exponent ∧ IsFraction fraction ∧ IsExponent exponent) {sign : Bytes}
      (hsign : sign = [] ∨ sign = [0x2D]) : IsNumber (sign ++ first :: (more ++ t)) := by
    obtain ⟨fraction, exponent, rfl, hfraction, hexponent⟩ := ht
    exact .mk hsign hwhole hfraction hexponent
  intro s r u hread
  unfold skipDigits at hread
  split at hread
  · next hzero =>
    obtain rfl := eq_of_beq hzero
    rw [accept_bind, accept_peek, Option.bind_some] at hread
    split at hread
    · cases hread
    · obtain ⟨t, rfl, ht⟩ := consumes_skipFraction hread
      exact ⟨t, rfl, fun sign => hnumber isWhole_zero ht⟩
  · next hzero =>
    obtain ⟨_, s₁, hdigits, hmore⟩ := exists_of_accept_bind hread
    obtain ⟨ds, rfl, hds⟩ := consumes_digits hdigits
    obtain ⟨t, rfl, ht⟩ := consumes_skipFraction hmore
    exact ⟨ds ++ t, by simp, fun sign => hnumber (isWhole_cons hfirst (by simpa using hzero) hds) ht⟩

theorem consumes_skipNumber {b : UInt8} (hb : b = 0x2D ∨ isDigit b = true) :
    (skipNumber b).Consumes fun t => IsNumber (b :: t) := by
  intro s r u hread
  rw [accept_skipNumber_eq] at hread
  split at hread
  · next hminus =>
    subst hminus
    obtain ⟨⟨d, s'⟩, hdigit, hmore⟩ := Option.bind_eq_some_iff.1 hread
    obtain ⟨rfl, hd⟩ := exists_of_accept_skipDigit hdigit
    obtain ⟨t, rfl, ht⟩ := consumes_skipDigits hd hmore
    exact ⟨d :: t, rfl, ht [0x2D] (.inr rfl)⟩
  · next hminus =>
    obtain ⟨t, rfl, ht⟩ := consumes_skipDigits (hb.resolve_left hminus) hread
    exact ⟨t, rfl, ht [] (.inl rfl)⟩

/-! ## Scalars -/

theorem consumes_skipScalar (b : UInt8) : (skipScalar b).Consumes fun t => IsScalar (b :: t) := by
  unfold skipScalar
  refine consumes_ite (fun h => ?_) fun _ => consumes_ite (fun h => ?_) fun _ =>
    consumes_ite (fun h => ?_) fun _ => consumes_ite (fun h => ?_) fun _ =>
    consumes_ite (fun h => ?_) fun _ => consumes_fail _ _
  · obtain rfl := eq_of_beq h
    exact (consumes_readLiteral _).mono fun t ht => ht ▸ .null
  · obtain rfl := eq_of_beq h
    exact (consumes_readLiteral _).mono fun t ht => ht ▸ .true
  · obtain rfl := eq_of_beq h
    exact (consumes_readLiteral _).mono fun t ht => ht ▸ .false
  · obtain rfl := eq_of_beq h
    exact consumes_skipText.mono fun t ht => .text ht.isText
  · exact (consumes_skipNumber (by simpa using h)).mono fun t ht => .number ht

/-- A byte that has been looked at is taken. -/
theorem Reader.Consumes.advance {α : Type} {p : Reader α} {P : Bytes → Prop} (h : p.Consumes P)
    {b : UInt8} {s r : Bytes} {a : α}
    (hread : accept (ManagedAgent.Reader.advance >>= fun _ => p) (b :: s) = some (a, r)) :
    ∃ t, b :: s = b :: t ++ r ∧ P t := by
  rw [accept_advance_bind] at hread
  obtain ⟨t, rfl, ht⟩ := h hread
  exact ⟨t, rfl, ht⟩

/-- A scalar of the grammar is taken, and only a text in quotes is read as a text. -/
theorem exists_of_accept_readScalar {s r : Bytes} {v : Scalar}
    (hread : accept readScalar s = some (v, r)) :
    ∃ t, s = t ++ r ∧ IsScalar t ∧ ∀ string, v = .text string → IsText t := by
  unfold readScalar at hread
  rw [accept_bind, accept_peek, Option.bind_some] at hread
  cases s with
  | nil => cases hread
  | cons b s =>
    have hliteral {s' : Bytes} {v' : Scalar} (hscalar : IsScalar (b :: s'))
        (hv' : ∀ string, v' ≠ .text string)
        (h : accept (ManagedAgent.Reader.advance >>= fun _ => readLiteral s' >>= fun _ => pure v')
          (b :: s) = some (v, r)) :
        ∃ t, b :: s = t ++ r ∧ IsScalar t ∧ ∀ string, v = .text string → IsText t := by
      rw [accept_advance_bind] at h
      obtain ⟨_, s'', hrest, hpure⟩ := exists_of_accept_bind h
      cases hpure
      obtain ⟨t, rfl, rfl⟩ := consumes_readLiteral s' hrest
      exact ⟨b :: t, rfl, hscalar, fun string hstring => absurd hstring (hv' string)⟩
    simp only [List.head?_cons, accept_ite] at hread
    split at hread
    · next h => exact hliteral (eq_of_beq h ▸ .null) (by simp) hread
    split at hread
    · next h => exact hliteral (eq_of_beq h ▸ .true) (by simp) hread
    split at hread
    · next h => exact hliteral (eq_of_beq h ▸ .false) (by simp) hread
    split at hread
    · next h =>
      obtain ⟨t, heq, ht⟩ := (consumes_readText.map Scalar.text).advance hread
      have htext : IsText (b :: t) := eq_of_beq h ▸ ht.isText
      exact ⟨b :: t, heq, .text htext, fun _ _ => htext⟩
    split at hread
    · obtain ⟨n, s', hnumber, hpure⟩ := exists_of_accept_bind hread
      cases hpure
      obtain ⟨t, heq, ht⟩ := consumes_readNumber hnumber
      exact ⟨t, heq, .number ht, nofun⟩
    · cases hread

theorem consumes_readScalar : readScalar.Consumes IsScalar := by
  intro s r v hread
  obtain ⟨t, heq, ht, -⟩ := exists_of_accept_readScalar hread
  exact ⟨t, heq, ht⟩

end ManagedAgent.Wire
