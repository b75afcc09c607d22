import ManagedAgent.Proofs.Wire.Fading

/-!
# Texts in quotes are read as they were written

Escaping works byte by byte, and so does this proof: whatever has been read before, the written form
of one byte is read as that byte.

* `takes_readText` : a written text is read back, whatever characters it has;
* `breaks_readText` : cut short, also inside a character or an escape, it ends too early.
-/

set_option autoImplicit false

namespace ManagedAgent.Wire

open ManagedAgent.Wire.Reader
open ManagedAgent.Reader (run_bind_of_ok)

theorem hexValue?_hexDigit : ∀ n < 16, hexValue? (hexDigit (UInt8.ofNat n)) = some n := by decide

theorem utf8EncodeChar_control :
    ∀ n < 32, String.utf8EncodeChar (Char.ofNat n) = [UInt8.ofNat n] := by
  decide

theorem ofUtf8_utf8 (s : String) : ofUtf8 (utf8 s) = some s := by
  have hvalid : (⟨(utf8 s).toArray⟩ : ByteArray).IsValidUTF8 := by
    unfold utf8
    rw [Array.toArray_toList]
    exact s.isValidUTF8
  unfold ofUtf8 String.fromUTF8?
  rw [dif_pos hvalid]
  unfold String.fromUTF8 utf8
  congr 1

/-! ## Escapes -/

/-- A control character without a letter of its own is written by its number. -/
theorem takes_readHex_control {n : Nat} (hn : n < 256) :
    readHex.Takes [0x30, 0x30, hexDigit (UInt8.ofNat (n / 16)), hexDigit (UInt8.ofNat (n % 16))] n := by
  intro rest
  have hvalue : ((0 * 16 + 0) * 16 + n / 16) * 16 + n % 16 = n := by omega
  unfold readHex ManagedAgent.Reader.run
  simp only [List.cons_append, hexValue?_hexDigit (n / 16) (by omega),
    hexValue?_hexDigit (n % 16) (by omega), show hexValue? 0x30 = some 0 from rfl,
    List.nil_append, hvalue]

theorem takes_readEscape_control {b : UInt8} (hb : b < 0x20) :
    readEscape.Takes [0x75, 0x30, 0x30, hexDigit (b / 16), hexDigit (b % 16)] [b] := by
  intro rest
  have hlt : b.toNat < 32 := UInt8.lt_iff_toNat_lt.1 hb
  have hhigh : b / 16 = UInt8.ofNat (b.toNat / 16) := UInt8.toNat_inj.1 (by simp; omega)
  have hlow : b % 16 = UInt8.ofNat (b.toNat % 16) := UInt8.toNat_inj.1 (by simp; omega)
  have hunicode : readUnicode.run ([0x30, 0x30, hexDigit (b / 16), hexDigit (b % 16)] ++ rest) =
      .ok (Char.ofNat b.toNat, rest) := by
    unfold readUnicode
    rw [hhigh, hlow, run_bind_of_ok (takes_readHex_control (by omega) rest),
      if_neg (by simp; omega), if_pos (by simp; omega)]
    rfl
  unfold readEscape
  rw [List.cons_append, run_bind_of_ok (run_next 0x75 _), if_pos (beq_self_eq_true 0x75),
    run_bind_of_ok hunicode, utf8EncodeChar_control _ hlt, UInt8.ofNat_toNat]
  rfl

theorem takes_readEscape_letter {b c : UInt8} (hb : b ≠ 0x75) (h : unescape? b = some c) :
    readEscape.Takes [b] [c] := by
  intro rest
  unfold readEscape
  rw [List.singleton_append, run_bind_of_ok (run_next b rest), if_neg (by simpa using hb), h]
  rfl

/-! ## Texts -/

theorem run_readTextFrom_quote (before rest : Bytes) :
    (readTextFrom before).run (0x22 :: rest) = .ok (before.reverse, rest) := by
  unfold ManagedAgent.Reader.run
  rw [readTextFrom, if_pos (beq_self_eq_true 0x22)]

theorem run_readTextFrom_plain {b : UInt8} (hquote : b ≠ 0x22) (hslash : b ≠ 0x5C)
    (hcontrol : ¬ b < 0x20) (before rest : Bytes) :
    (readTextFrom before).run (b :: rest) = (readTextFrom (b :: before)).run rest := by
  unfold ManagedAgent.Reader.run
  rw [readTextFrom, if_neg (by simpa using hquote), if_neg (by simpa using hslash),
    if_neg hcontrol]
  unfold ManagedAgent.Reader.widen
  cases readTextFrom (b :: before) rest <;> rfl

theorem run_readTextFrom_slash (before r : Bytes) :
    (readTextFrom before).run (0x5C :: r) =
      match readEscape.run r with
      | .error e => .error e
      | .ok (bytes, t) => (readTextFrom (bytes.reverse ++ before)).run t := by
  unfold ManagedAgent.Reader.run
  rw [readTextFrom, if_neg (by decide), if_pos (beq_self_eq_true 0x5C)]
  cases (readEscape r : Except Failure (Bytes × Rest r)) with
  | error e => rfl
  | ok x =>
    obtain ⟨bytes, t⟩ := x
    dsimp only
    unfold ManagedAgent.Reader.widen
    cases readTextFrom (bytes.reverse ++ before) t.1 <;> rfl

theorem run_readTextFrom_escape {s bytes : Bytes} (h : readEscape.Takes s bytes)
    (before rest : Bytes) :
    (readTextFrom before).run (0x5C :: s ++ rest) =
      (readTextFrom (bytes.reverse ++ before)).run rest := by
  rw [List.cons_append, run_readTextFrom_slash, h rest]

theorem run_readTextFrom_escaped (b : UInt8) (before rest : Bytes) :
    (readTextFrom before).run (escape b ++ rest) = (readTextFrom (b :: before)).run rest := by
  have letter {c : UInt8} (hc : c ≠ 0x75) (h : unescape? c = some b) :
      (readTextFrom before).run ([0x5C, c] ++ rest) = (readTextFrom (b :: before)).run rest :=
    run_readTextFrom_escape (takes_readEscape_letter hc h) before rest
  by_cases hletter : b = 0x22 ∨ b = 0x5C ∨ b = 0x08 ∨ b = 0x0C ∨ b = 0x0A ∨ b = 0x0D ∨ b = 0x09
  · rcases hletter with rfl | rfl | rfl | rfl | rfl | rfl | rfl
    all_goals exact letter (by decide) rfl
  · simp only [not_or] at hletter
    by_cases hcontrol : b < 0x20
    · have hescape : escape b =
          0x5C :: [0x75, 0x30, 0x30, hexDigit (b / 16), hexDigit (b % 16)] := by
        simp [escape, hletter, hcontrol]
      rw [hescape]
      exact run_readTextFrom_escape (takes_readEscape_control hcontrol) before rest
    · have hescape : escape b = [b] := by simp [escape, hletter, hcontrol]
      rw [hescape]
      exact run_readTextFrom_plain hletter.1 hletter.2.1 hcontrol before rest

theorem run_readTextFrom_escaped_all (s before rest : Bytes) :
    (readTextFrom before).run (s.flatMap escape ++ 0x22 :: rest) =
      .ok (before.reverse ++ s, rest) := by
  induction s generalizing before with
  | nil => rw [List.append_nil]; exact run_readTextFrom_quote before rest
  | cons b s ih =>
    rw [List.flatMap_cons, List.append_assoc, run_readTextFrom_escaped, ih, List.reverse_cons,
      List.append_assoc]
    rfl

/-- A text is read back after its opening quote. -/
theorem takes_readText (s : String) : readText.Takes ((utf8 s).flatMap escape ++ [0x22]) s := by
  intro rest
  unfold readText
  rw [List.append_assoc, List.singleton_append,
    run_bind_of_ok (run_readTextFrom_escaped_all (utf8 s) [] rest), List.reverse_nil,
    List.nil_append, ofUtf8_utf8]
  rfl

/-! ## Texts cut short -/

/-- Four bytes have to be there, whatever they are. -/
theorem run_readHex_of_length_lt {q : Bytes} (h : q.length < 4) :
    readHex.run q = .error .truncated := by
  match q, h with
  | [], _ | [_], _ | [_, _], _ | [_, _, _], _ => rfl
  | _ :: _ :: _ :: _ :: _, h =>
    simp only [List.length_cons] at h
    omega

theorem breaks_readEscape_control (high low : UInt8) :
    readEscape.Breaks [0x75, 0x30, 0x30, high, low] := by
  have hhex : readHex.Breaks [0x30, 0x30, high, low] :=
    fun q hq => .inl (run_readHex_of_length_lt hq.length_lt)
  refine Fades.cons (u := readUnicode >>= fun c => pure (String.utf8EncodeChar c)) rfl
    (fun r => ?_) ((hhex.bind _).bind _)
  unfold readEscape
  rw [run_bind_of_ok (run_next 0x75 r), if_pos (beq_self_eq_true 0x75)]

theorem run_readTextFrom_nil (before : Bytes) :
    (readTextFrom before).run [] = .error .truncated := by
  unfold ManagedAgent.Reader.run
  rw [readTextFrom]

theorem breaks_readTextFrom_escaped (b : UInt8) (before : Bytes) :
    (readTextFrom before).Breaks (escape b) := by
  have slash {s : Bytes} (h : readEscape.Breaks s) : (readTextFrom before).Breaks (0x5C :: s) := by
    intro q hq
    rcases hq.cons_cases with rfl | ⟨q', rfl, hq'⟩
    · exact .inl (run_readTextFrom_nil before)
    · rw [run_readTextFrom_slash, h.run_eq hq']
      exact .inl rfl
  have letter (c : UInt8) : (readTextFrom before).Breaks [0x5C, c] :=
    slash (breaks_singleton rfl c)
  unfold escape
  repeat' split
  any_goals exact letter _
  · exact slash (breaks_readEscape_control _ _)
  · exact breaks_singleton (run_readTextFrom_nil before) b

theorem breaks_readTextFrom (s before : Bytes) :
    (readTextFrom before).Breaks (s.flatMap escape ++ [0x22]) := by
  induction s generalizing before with
  | nil => exact breaks_singleton (run_readTextFrom_nil before) 0x22
  | cons b s ih =>
    rw [List.flatMap_cons, List.append_assoc]
    exact Fades.append (breaks_readTextFrom_escaped b before)
      (run_readTextFrom_escaped b before) (ih (b :: before))

/-- A text that is cut short does not end. -/
theorem breaks_readText (s : String) : readText.Breaks ((utf8 s).flatMap escape ++ [0x22]) :=
  (breaks_readTextFrom (utf8 s) []).bind _

/-! ## With the opening quote -/

theorem writeText_eq (s : String) : writeText s = 0x22 :: ((utf8 s).flatMap escape ++ [0x22]) := rfl

theorem opens_writeText (s : String) : Opens (writeText s) :=
  ⟨0x22, _, writeText_eq s, rfl, by decide, by decide⟩

end ManagedAgent.Wire
