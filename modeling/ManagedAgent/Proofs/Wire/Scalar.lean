import ManagedAgent.Proofs.Wire.CutNumber
import ManagedAgent.Proofs.Wire.Text
import ManagedAgent.Wire.Format

/-!
# Scalars are read as they were written

What is said of a codec and a value is said of its written text as a whole and of every front of it:
`Codec.Recovers`.

* `readsAs_scalar` : a scalar is read as what `readScalar` gets from the text;
* `readsBack_enumeration` : and so is a value by its name.
-/

set_option autoImplicit false

namespace ManagedAgent.Wire

open ManagedAgent.Wire.Reader
open ManagedAgent.Reader (run_bind_of_ok)

/-! ## The codec of a type -/

/-- No container begins here. -/
def Bare (s : Bytes) : Prop := ∀ b ∈ s.head?, b ≠ 0x5B ∧ b ≠ 0x7B

/-- The reader gets this value from the text. Cut short, the text ends too early for it, unless the
text is a scalar and what is left of it is one. -/
structure Reader.Recovers {α : Type} (p : Reader α) (s : Bytes) (a : α) : Prop where
  reads : p.Reads s a
  fades : p.Fades s fun _ => Bare s

/-- The codec writes `a` and reads `b`, with as many containers open as leaves `height` more to
open. -/
def Codec.Recovers {α : Type} (c : Codec α) (height : Nat) (a b : α) : Prop :=
  ∀ depth, depth + height ≤ maxDepth → (c.read depth).Recovers (c.write a) b

/-- The codec writes `a`, which from its first byte on differs from `null`, and reads `b`. -/
structure Codec.ReadsAs {α : Type} (c : Codec α) (height : Nat) (a b : α) : Prop where
  opens : Opens (c.write a)
  recovers : c.Recovers height a b

/-- The codec reads this value back. -/
abbrev Codec.ReadsBack {α : Type} (c : Codec α) (height : Nat) (a : α) : Prop := c.ReadsAs height a a

/-! ## Scalars -/

def OpensScalar (s : Bytes) : Prop :=
  ∃ b rest, s = b :: rest ∧ (b = 0x22 ∨ b = 0x74 ∨ b = 0x66 ∨ b = 0x2D ∨ isDigit b = true)

/-- A digit differs from every byte that is none. -/
theorem ne_of_isDigit {b c : UInt8} (hb : isDigit b = true) (hc : isDigit c = false) : b ≠ c := by
  rintro rfl
  exact absurd (hb.symm.trans hc) nofun

theorem isBlank_of_isDigit {b : UInt8} (hb : isDigit b = true) : isBlank b = false := by
  unfold isBlank
  simp [ne_of_isDigit hb (c := 0x20) rfl, ne_of_isDigit hb (c := 0x09) rfl,
    ne_of_isDigit hb (c := 0x0A) rfl, ne_of_isDigit hb (c := 0x0D) rfl]

theorem OpensScalar.opens {s : Bytes} (h : OpensScalar s) : Opens s := by
  obtain ⟨b, rest, rfl, hb⟩ := h
  refine ⟨b, rest, rfl, ?_⟩
  rcases hb with rfl | rfl | rfl | rfl | hb
  · decide
  · decide
  · decide
  · decide
  · exact ⟨isBlank_of_isDigit hb, ne_of_isDigit hb rfl, ne_of_isDigit hb rfl⟩

theorem OpensScalar.bare {s : Bytes} (h : OpensScalar s) : Bare s := by
  obtain ⟨b, rest, rfl, hb⟩ := h
  rintro c ⟨⟩
  rcases hb with rfl | rfl | rfl | rfl | hb
  · decide
  · decide
  · decide
  · decide
  · exact ⟨ne_of_isDigit hb rfl, ne_of_isDigit hb rfl⟩

/-- Where a scalar begins, it is read and then looked at. -/
theorem run_readAs {α : Type} (project : Scalar → Option α) {b : UInt8} {more : Bytes}
    (hs : OpensScalar (b :: more)) (r : Bytes) :
    (readAs project).run (b :: r) =
      (readScalar >>= fun v => orMismatch (project v) : Reader α).run (b :: r) := by
  have hbare := hs.bare b rfl
  have hb : isBlank b = false := by
    obtain ⟨_, _, heq, hblank, -⟩ := hs.opens
    obtain ⟨rfl, -⟩ := List.cons.inj heq
    exact hblank
  unfold readAs
  rw [run_bind_of_ok (run_peekToken hb r), if_neg (by simp [hbare.1, hbare.2])]

theorem reads_readAs {α : Type} {project : Scalar → Option α} {s : Bytes} {v : Scalar} {a : α}
    (hs : OpensScalar s) (h : readScalar.Reads s v) (hv : project v = some a) :
    (readAs project).Reads s a := by
  intro rest hrest
  obtain ⟨b, more, rfl, -⟩ := id hs
  rw [List.cons_append, run_readAs project hs, ← List.cons_append, run_bind_of_ok (h rest hrest), hv]
  rfl

theorem fades_readAs {α : Type} {project : Scalar → Option α} {s : Bytes} {P : α → Prop}
    (hs : OpensScalar s) (h : readScalar.Fades s fun v => ∃ a, project v = some a ∧ P a) :
    (readAs project).Fades s P := by
  obtain ⟨b, more, rfl, -⟩ := id hs
  refine Fades.congr rfl (run_readAs project hs) (h.bind_end ?_)
  rintro v ⟨a, hv, ha⟩
  rw [hv]
  exact .inr ⟨a, ha, rfl⟩

/-- After its opening quote a text is read as such. -/
theorem run_readScalar_quote (r : Bytes) :
    readScalar.run (0x22 :: r) = (readText >>= fun s => pure (.text s) : Reader Scalar).run r := by
  unfold readScalar
  rw [run_bind_of_ok (ManagedAgent.Reader.run_peek _)]
  show (ManagedAgent.Reader.advance >>= fun _ => readText >>= fun s => pure (.text s) :
    Reader Scalar).run _ = _
  rw [run_bind_of_ok (ManagedAgent.Reader.run_advance _), List.tail_cons]

theorem reads_readScalar_text (s : String) : readScalar.Reads (writeText s) (.text s) := by
  intro rest _
  rw [writeText_eq, List.cons_append, run_readScalar_quote, run_bind_of_ok (takes_readText s rest)]
  rfl

theorem breaks_readScalar_text (s : String) : readScalar.Breaks (writeText s) := by
  rw [writeText_eq]
  exact Fades.cons rfl run_readScalar_quote ((breaks_readText s).bind _)

/-- After its first letter a literal is read to its end. -/
theorem run_readScalar_bool (b : Bool) (r : Bytes) :
    readScalar.run ((if b then 0x74 else 0x66) :: r) =
      (readLiteral (if b then [0x72, 0x75, 0x65] else [0x61, 0x6C, 0x73, 0x65]) >>= fun _ =>
        pure (.bool b) : Reader Scalar).run r := by
  unfold readScalar
  rw [run_bind_of_ok (ManagedAgent.Reader.run_peek _)]
  cases b with
  | true =>
    show (ManagedAgent.Reader.advance >>= fun _ => readLiteral [0x72, 0x75, 0x65] >>= fun _ =>
      pure (.bool true) : Reader Scalar).run _ = _
    rw [run_bind_of_ok (ManagedAgent.Reader.run_advance _), List.tail_cons]
    rfl
  | false =>
    show (ManagedAgent.Reader.advance >>= fun _ => readLiteral [0x61, 0x6C, 0x73, 0x65] >>= fun _ =>
      pure (.bool false) : Reader Scalar).run _ = _
    rw [run_bind_of_ok (ManagedAgent.Reader.run_advance _), List.tail_cons]
    rfl

theorem ascii_bool (b : Bool) : ascii (if b then "true".toList else "false".toList) =
    (if b then 0x74 else 0x66) ::
      (if b then [0x72, 0x75, 0x65] else [0x61, 0x6C, 0x73, 0x65]) := by
  cases b <;> rfl

theorem reads_readScalar_bool (b : Bool) :
    readScalar.Reads (ascii (if b then "true".toList else "false".toList)) (.bool b) := by
  intro rest _
  rw [ascii_bool, List.cons_append, run_readScalar_bool,
    run_bind_of_ok (takes_readLiteral _ rest)]
  rfl

theorem breaks_readScalar_bool (b : Bool) :
    readScalar.Breaks (ascii (if b then "true".toList else "false".toList)) := by
  rw [ascii_bool]
  exact Fades.cons rfl (run_readScalar_bool b) ((breaks_readLiteral _).bind _)

def OpensNumber (s : Bytes) : Prop := ∃ b rest, s = b :: rest ∧ (b = 0x2D ∨ isDigit b = true)

theorem OpensNumber.scalar {s : Bytes} (h : OpensNumber s) : OpensScalar s := by
  obtain ⟨b, rest, rfl, hb⟩ := h
  exact ⟨b, rest, rfl, .inr (.inr (.inr hb))⟩

theorem run_readScalar_number {b : UInt8} (hb : b = 0x2D ∨ isDigit b = true) (r : Bytes) :
    readScalar.run (b :: r) =
      (readNumber >>= fun n => pure (.number n) : Reader Scalar).run (b :: r) := by
  have hother : b ≠ 0x6E ∧ b ≠ 0x74 ∧ b ≠ 0x66 ∧ b ≠ 0x22 := by
    rcases hb with rfl | hb
    · decide
    · exact ⟨ne_of_isDigit hb rfl, ne_of_isDigit hb rfl, ne_of_isDigit hb rfl, ne_of_isDigit hb rfl⟩
  unfold readScalar
  rw [run_bind_of_ok (ManagedAgent.Reader.run_peek _)]
  simp only [List.head?_cons, beq_iff_eq, hother.1, hother.2.1, hother.2.2.1, hother.2.2.2,
    if_false]
  rw [if_pos (by simpa using hb)]

theorem reads_readScalar_number {s : Bytes} {n : Number} (hs : OpensNumber s)
    (h : readNumber.Reads s n) : readScalar.Reads s (.number n) := by
  intro rest hrest
  obtain ⟨b, more, rfl, hb⟩ := hs
  rw [List.cons_append, run_readScalar_number hb, ← List.cons_append, run_bind_of_ok (h rest hrest)]
  rfl

theorem fades_readScalar_number {s : Bytes} {P : Number → Prop} (hs : OpensNumber s)
    (h : readNumber.Fades s P) : readScalar.Fades s fun v => ∃ n, P n ∧ v = .number n := by
  obtain ⟨b, more, rfl, hb⟩ := hs
  exact Fades.congr rfl (run_readScalar_number hb) (h.map _ fun n hn => ⟨n, hn, rfl⟩)

theorem opensNumber_write {p : Parts} (h : p.WellFormed) : OpensNumber p.write := by
  obtain ⟨b, more, hwhole, hdigits, -⟩ := h.whole
  unfold Parts.write
  rw [hwhole]
  cases p.isNegative with
  | true => exact ⟨0x2D, _, rfl, .inl rfl⟩
  | false => exact ⟨b, _, rfl, .inr (hdigits b (hwhole ▸ List.mem_cons_self))⟩

namespace Codec

variable {height : Nat}

theorem readsAs_scalar {α : Type} {write : α → Bytes} {project : Scalar → Option α} {a b : α}
    {v : Scalar} (hopens : OpensScalar (write a)) (h : readScalar.Reads (write a) v)
    (hv : project v = some b)
    (hf : readScalar.Fades (write a) fun v => ∃ a, project v = some a) :
    (scalar write project).ReadsAs height a b :=
  ⟨hopens.opens, fun _ _ => ⟨reads_readAs hopens h hv,
    fades_readAs hopens (hf.mono fun _ ⟨a, ha⟩ => ⟨a, ha, hopens.bare⟩)⟩⟩

theorem readsBack_text (s : String) : text.ReadsBack height s :=
  readsAs_scalar ⟨0x22, _, writeText_eq s, .inl rfl⟩ (reads_readScalar_text s) rfl
    (breaks_readScalar_text s).fades

theorem readsBack_bool (b : Bool) : bool.ReadsBack height b := by
  refine readsAs_scalar ?_ (reads_readScalar_bool b) rfl (breaks_readScalar_bool b).fades
  cases b with
  | true => exact ⟨0x74, _, rfl, .inr (.inl rfl)⟩
  | false => exact ⟨0x66, _, rfl, .inr (.inr (.inl rfl))⟩

theorem readsAs_number {α : Type} {write : α → Bytes} {project : Number → Option α} {a b : α}
    {n : Number} (hopens : OpensNumber (write a)) (h : readNumber.Reads (write a) n)
    (hn : project n = some b)
    (hf : readNumber.Fades (write a) fun n => ∃ a, project n = some a) :
    (number write project).ReadsAs height a b :=
  readsAs_scalar hopens.scalar (reads_readScalar_number hopens h) hn <|
    (fades_readScalar_number hopens hf).mono fun _ ⟨_, ⟨a, ha⟩, hv⟩ => ⟨a, hv ▸ ha⟩

theorem opensNumber_writeNat (n : Nat) : OpensNumber (writeNat n) := by
  have h := opensNumber_write (wellFormed_ofInt false n)
  rwa [write_ofInt] at h

/-- Numbers of at most this one are good for the type, and so is what is left of a cut one. -/
theorem readsBack_natural {α : Type} {write : α → Bytes} {project : Number → Option α} {a : α}
    {n : Nat} (hwrite : write a = writeNat n) (hn : n < UInt64.size)
    (ha : project (.unsigned (UInt64.ofNat n)) = some a)
    (hle : ∀ n' ≤ n, ∃ a, project (.unsigned (UInt64.ofNat n')) = some a) :
    (number write project).ReadsBack height a := by
  refine readsAs_number (hwrite ▸ opensNumber_writeNat n) (hwrite ▸ reads_writeNat hn) ha ?_
  rw [hwrite]
  refine (fades_writeNat hn).mono ?_
  rintro _ ⟨n', hn', rfl⟩
  exact hle n' hn'

theorem readsBack_uint64 (n : UInt64) : uint64.ReadsBack height n :=
  readsBack_natural rfl n.toNat_lt (congrArg some UInt64.ofNat_toNat) fun _ _ => ⟨_, rfl⟩

theorem toUInt32?_ofNat {n : Nat} (h : n < UInt32.size) :
    Number.toUInt32? (.unsigned (UInt64.ofNat n)) = some (UInt32.ofNat n) := by
  have hback : (UInt64.ofNat n).toNat = n :=
    UInt64.toNat_ofNat_of_lt (Nat.lt_trans h (by decide))
  unfold Number.toUInt32?
  dsimp only
  rw [hback, if_pos h]

theorem readsBack_uint32 (n : UInt32) : uint32.ReadsBack height n := by
  have hlt : n.toNat < UInt32.size := n.toNat_lt
  refine readsBack_natural rfl (Nat.lt_trans hlt (by decide)) ?_ fun n' hn' =>
    ⟨_, toUInt32?_ofNat (Nat.lt_of_le_of_lt hn' hlt)⟩
  rw [toUInt32?_ofNat hlt, UInt32.ofNat_toNat]

theorem toByte?_ofNat {n : Nat} (h : n < UInt8.size) :
    Number.toByte? (.unsigned (UInt64.ofNat n)) = some (UInt8.ofNat n) := by
  have hback : (UInt64.ofNat n).toNat = n :=
    UInt64.toNat_ofNat_of_lt (Nat.lt_trans h (by decide))
  unfold Number.toByte?
  dsimp only
  rw [hback, if_pos h]

theorem readsBack_byte (n : UInt8) : byte.ReadsBack height n := by
  have hlt : n.toNat < UInt8.size := n.toNat_lt
  refine readsBack_natural rfl (Nat.lt_trans hlt (by decide)) ?_ fun n' hn' =>
    ⟨_, toByte?_ofNat (Nat.lt_of_le_of_lt hn' hlt)⟩
  rw [toByte?_ofNat hlt, UInt8.ofNat_toNat]

theorem toInt64?_ofNat {n : Nat} (h : n < 2 ^ 63) :
    Number.toInt64? (.unsigned (UInt64.ofNat n)) = some (Int64.ofInt (n : Int)) := by
  have hback : (UInt64.ofNat n).toNat = n :=
    UInt64.toNat_ofNat_of_lt (by show _ < 2 ^ 64; omega)
  unfold Number.toInt64?
  dsimp only
  rw [hback, if_pos (by omega)]
  rfl

theorem readsBack_int64 (i : Int64) : int64.ReadsBack height i := by
  by_cases hi : i.toInt < 0
  · refine readsAs_number ?_ (reads_writeInt_neg hi) rfl ?_
    · unfold writeInt
      rw [if_pos hi]
      exact ⟨0x2D, _, rfl, .inl rfl⟩
    · exact (fades_writeInt_neg hi).mono fun _ ⟨j, hj⟩ => ⟨j, hj ▸ rfl⟩
  · have hlt : i.toInt < 2 ^ 63 := i.toInt_lt
    have hwrite : writeInt i.toInt = writeNat i.toInt.natAbs := by
      unfold writeInt
      rw [if_neg hi]
    refine readsBack_natural hwrite (by show _ < 2 ^ 64; omega) ?_ fun n' hn' =>
      ⟨_, toInt64?_ofNat (by omega)⟩
    rw [toInt64?_ofNat (by omega), Int.ofNat_natAbs_of_nonneg (by omega), Int64.ofInt_toInt]

/-! ## Enumerations -/

theorem readsBack_enumeration {α : Type} {name : α → String} {all : List α} {a : α}
    (h : named? name all (name a) = some a) : (enumeration name all).ReadsBack height a := by
  have hopens : OpensScalar (writeText (name a)) := ⟨0x22, _, writeText_eq _, .inl rfl⟩
  have hread : (readAs readNamed.textOnly).Reads (writeText (name a)) (name a) :=
    reads_readAs hopens (reads_readScalar_text (name a)) rfl
  have hbreak : (readAs readNamed.textOnly).Breaks (writeText (name a)) :=
    fades_readAs hopens (breaks_readScalar_text (name a)).fades
  refine ⟨opens_writeText _, fun depth _ => ?_⟩
  show (readNamed name all depth).Recovers (writeText (name a)) a
  -- The name stands in quotes, and not in an object.
  have hrun (r : Bytes) : (readNamed name all depth).run (0x22 :: r) =
      (readAs readNamed.textOnly >>= fun s => orMismatch (named? name all s) :
        Reader α).run (0x22 :: r) := by
    unfold readNamed
    rw [run_bind_of_ok (run_peekToken rfl r)]
    rfl
  refine ⟨fun rest hrest => ?_, Breaks.fades ?_⟩
  · rw [writeText_eq, List.cons_append, hrun, ← List.cons_append, ← writeText_eq,
      run_bind_of_ok (hread rest hrest), h]
    rfl
  · rw [writeText_eq] at hbreak ⊢
    exact Fades.congr rfl hrun (hbreak.bind _)

/-! ## Whole texts -/

theorem decode_write {α : Type} {c : Codec α} {height : Nat} {a b : α} (h : c.ReadsAs height a b)
    (hheight : height ≤ maxDepth) : c.decode (c.write a) = .ok b := by
  have hread : (c.read 0).run (c.write a) = .ok (b, []) := by
    have := (h.recovers 0 (by omega)).reads [] ends_nil
    rwa [List.append_nil] at this
  unfold decode
  rw [run_bind_of_ok hread]
  rfl

/-- A text that is no bare number is not decoded when it is cut short: it ends too early. -/
theorem decode_cut {α : Type} {c : Codec α} {height : Nat} {a b : α} (h : c.ReadsAs height a b)
    (hheight : height ≤ maxDepth) (hopen : ¬ Bare (c.write a)) {q : Bytes} (hq : Cut q (c.write a)) :
    c.decode q = .error .truncated := by
  rcases (h.recovers 0 (by omega)).fades hq with hrun | ⟨_, hbare, -⟩
  · unfold decode
    rw [run_bind_of_error hrun]
    rfl
  · exact absurd hbare hopen

end Codec

end ManagedAgent.Wire
