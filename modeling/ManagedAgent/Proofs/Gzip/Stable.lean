import ManagedAgent.Proofs.Gzip.Members

/-!
# Compressed data that is cut short

What a reader has taken it takes again with more behind (`Stable`): nothing in the format asks where
the data ends. A member that is cut short is therefore no member, for the whole one would end where
the cut is. Only whole bytes may come behind a stream of bits, because `align` counts from its end.

* `inflate_append`, `member_append` : the same text, with more left behind it;
* `not_decompressed_of_cut` : a member that is cut short is refused.
-/

set_option autoImplicit false

namespace ManagedAgent

namespace Reader
variable {ε τ α β σ : Type} {unit : Nat}

/-- With whole units of further items behind, the reader takes the same items. -/
def Stable (unit : Nat) (p : Reader ε τ α) : Prop :=
  ∀ ⦃s r : List τ⦄ ⦃a : α⦄, p.run s = .ok (a, r) →
    ∀ t : List τ, unit ∣ t.length → p.run (s ++ t) = .ok (a, r ++ t)

theorem stable_pure (a : α) : (pure a : Reader ε τ α).Stable unit := by
  rintro s r b ⟨⟩ t -
  rfl

theorem stable_fail (e : ε) : (fail e : Reader ε τ α).Stable unit := by
  rintro s r b ⟨⟩

theorem stable_nextOr (e : ε) : (nextOr e : Reader ε τ τ).Stable unit := by
  intro s r b h t _
  cases s with
  | nil => cases h
  | cons x s =>
    cases h
    rfl

theorem Stable.bind {p : Reader ε τ α} {f : α → Reader ε τ β} (hp : p.Stable unit)
    (hf : ∀ a, (f a).Stable unit) : (p >>= f).Stable unit := by
  intro s r b h t ht
  obtain ⟨a, r', ha, hb⟩ := exists_of_run_bind_eq_ok h
  rw [run_bind_of_ok (hp ha t ht)]
  exact hf a hb t ht

theorem Stable.map {p : Reader ε τ α} (hp : p.Stable unit) (f : α → β) :
    (p >>= fun a => pure (f a)).Stable unit :=
  hp.bind fun a => stable_pure (f a)

theorem Stable.ite {p q : Reader ε τ α} {c : Prop} [Decidable c] (hp : p.Stable unit)
    (hq : q.Stable unit) : (if c then p else q).Stable unit := by
  split
  · exact hp
  · exact hq

/-- Where something stops the items, it stops them whatever comes behind. -/
theorem run_takeWhile_append {p : τ → Bool} {s : List τ} (h : s.dropWhile p ≠ []) (t : List τ) :
    (takeWhile p : Reader ε τ (List τ)).run (s ++ t) = .ok (s.takeWhile p, s.dropWhile p ++ t) := by
  have hlength : (s.takeWhile p).length ≠ s.length := by
    have hparts := congrArg List.length (List.takeWhile_append_dropWhile (p := p) (l := s))
    have hpos := List.length_pos_iff.2 h
    rw [List.length_append] at hparts
    omega
  rw [run_takeWhile, List.takeWhile_append, if_neg hlength, List.dropWhile_append,
    if_neg (by simpa using h)]

/-- By induction on what is left: a step leaves less. -/
theorem stable_loop {e : ε} {step : σ → τ → Reader ε τ (σ ⊕ α)}
    (hstep : ∀ state b, (step state b).Stable unit) (state : σ) :
    (loop e step state).Stable unit := by
  intro s r a h t ht
  induction hlength : s.length using Nat.strongRecOn generalizing s state with
  | ind n ih =>
    cases s with
    | nil =>
      unfold run at h
      rw [loop] at h
      cases h
    | cons b s =>
      rw [run_loop_cons] at h
      rw [List.cons_append]
      cases hnext : (step state b).run s with
      | error e =>
        rw [hnext] at h
        cases h
      | ok x =>
        rw [hnext] at h
        have hmore := hstep state b hnext t ht
        obtain ⟨state' | a', r'⟩ := x
        · have hle : r'.length ≤ s.length := length_rest_le _ hnext
          rw [run_loop_inl hmore]
          exact ih r'.length (by rw [← hlength, List.length_cons]; omega) state' h rfl
        · cases h
          exact run_loop_inr hmore

end Reader

namespace Gzip

open ManagedAgent.Reader

/-! ## Streams of bits -/

theorem Tree.stable_read {unit : Nat} (t : Tree) : t.read.Stable unit := by
  induction t with
  | empty => exact stable_fail _
  | leaf symbol => exact stable_pure symbol
  | node zero one hzero hone => exact (stable_nextOr _).bind fun b => Stable.ite hone hzero

namespace BitReader

theorem stable_number {unit : Nat} (width : Nat) : (number width).Stable unit := by
  induction width with
  | zero => exact stable_pure 0
  | succ width ih => exact (stable_nextOr _).bind fun b => ih.map (b.toNat + 2 * ·)

theorem stable_align : align.Stable 8 := by
  rintro s r a ⟨⟩ t ht
  have hlength : (s ++ t).length % 8 = s.length % 8 := by
    rw [List.length_append, Nat.add_mod, Nat.mod_eq_zero_of_dvd ht, Nat.add_zero, Nat.mod_mod]
  show Except.ok ((), (s ++ t).drop ((s ++ t).length % 8)) = _
  rw [hlength, List.drop_append_of_le_length (Nat.mod_le _ _)]

theorem stable_bytes (count : Nat) : (bytes count).Stable 8 := by
  induction count with
  | zero => exact stable_pure []
  | succ count ih => exact (stable_number 8).bind fun b => ih.map (UInt8.ofNat b :: ·)

theorem stable_ranged (ranges : List NumberRange) (symbol : Nat) :
    (ranged ranges symbol).Stable 8 := by
  unfold ranged
  cases ranges[symbol]? with
  | none => exact stable_fail _
  | some r => exact (stable_number r.extra).map (r.base + ·)

theorem stable_token (codes : Codes) (symbol : Nat) : (token codes symbol).Stable 8 := by
  refine Stable.ite (stable_pure _) ((stable_ranged _ _).bind fun length => ?_)
  refine codes.distances.stable_read.bind fun place => ?_
  exact (stable_ranged _ place).map (Token.copy · length)

theorem stable_tokens (codes : Codes) (history : Bytes) : (tokens codes history).Stable 8 := by
  refine stable_loop (fun history b => ?_) history
  refine (Tree.stable_read _).bind fun symbol => ?_
  exact Stable.ite (stable_pure _)
    ((stable_token codes symbol).map fun t => (.inl (t.expand history) : Bytes ⊕ Bytes))

theorem stable_stored : stored.Stable 8 := by
  refine stable_align.bind fun _ => (stable_number 16).bind fun length => ?_
  refine (stable_number 16).bind fun complement => ?_
  exact Stable.ite (stable_bytes length) (stable_fail _)

theorem stable_numbers (width count : Nat) : (numbers width count).Stable 8 := by
  induction count with
  | zero => exact stable_pure []
  | succ count ih => exact (stable_number width).bind fun n => ih.map (n :: ·)

theorem stable_lengthsOf (lengths : List Nat) (symbol : Nat) :
    (lengthsOf lengths symbol).Stable 8 := by
  unfold lengthsOf
  split
  · cases lengths with
    | nil => exact stable_fail _
    | cons last rest => exact (stable_number 2).map fun n => List.replicate (3 + n) last
  · exact (stable_number 3).map fun n => List.replicate (3 + n) 0
  · exact (stable_number 7).map fun n => List.replicate (11 + n) 0
  · exact stable_pure _

theorem stable_lengths (code : Tree) (count : Nat) : (lengths code count).Stable 8 := by
  refine stable_loop (fun before b => ?_) []
  refine (Tree.stable_read _).bind fun symbol => (stable_lengthsOf before symbol).bind fun more => ?_
  exact Stable.ite (stable_pure _) (Stable.ite (stable_pure _) (stable_fail _))

theorem stable_codes : codes.Stable 8 := by
  refine (stable_number 5).bind fun literals => (stable_number 5).bind fun distances => ?_
  refine (stable_number 4).bind fun given => Stable.ite (stable_fail _) ?_
  refine (stable_numbers 3 _).bind fun given => Stable.ite ?_ (stable_fail _)
  refine (stable_lengths _ _).bind fun all => ?_
  exact Stable.ite (stable_pure _) (stable_fail _)

theorem stable_block (history : Bytes) : (block history).Stable 8 := by
  refine (stable_number 2).bind fun kind => ?_
  split
  · exact stable_stored.map (·.reverse ++ history)
  · exact stable_tokens _ history
  · exact stable_codes.bind fun codes => stable_tokens codes history
  · exact stable_fail _

theorem stable_blocks : blocks.Stable 8 := by
  refine stable_loop (fun history isLast => ?_) []
  exact (stable_block history).map fun history =>
    (if isLast then .inr history else .inl history : Bytes ⊕ Bytes)

end BitReader

/-- The same text, with more bytes left behind it. -/
theorem inflate_append {data text r : Bytes} (h : inflate data = .ok (text, r)) (t : Bytes) :
    inflate (data ++ t) = .ok (text, r ++ t) := by
  unfold inflate at h ⊢
  cases hrun : Reader.run BitReader.blocks (Bits.ofBytes data) with
  | error e =>
    rw [hrun] at h
    cases h
  | ok x =>
    obtain ⟨history, rest⟩ := x
    rw [hrun] at h
    cases h
    rw [Bits.ofBytes_append,
      BitReader.stable_blocks hrun (Bits.ofBytes t) ⟨t.length, Bits.length_ofBytes t⟩]
    dsimp only
    have hrest : (rest ++ Bits.ofBytes t).length / 8 = rest.length / 8 + t.length := by
      rw [List.length_append, Bits.length_ofBytes]
      omega
    rw [hrest, List.length_append, Nat.add_sub_add_right,
      List.drop_append_of_le_length (Nat.sub_le _ _)]

/-! ## Streams of bytes -/

namespace ByteReader

theorem stable_bytes (count : Nat) : (bytes count).Stable 1 := by
  induction count with
  | zero => exact stable_pure []
  | succ count ih => exact (stable_nextOr _).bind fun b => ih.map (b :: ·)

theorem stable_number (count : Nat) : (number count).Stable 1 := (stable_bytes count).map ofLittleEndian

/-- The zero that ends a text is there, so that what comes behind it does not make the text longer. -/
theorem stable_zeroTerminated : zeroTerminated.Stable 1 := by
  intro s r a h t ht
  unfold zeroTerminated at h ⊢
  rw [run_bind_of_ok (run_takeWhile _ s)] at h
  have hstop : s.dropWhile (· ≠ 0) ≠ [] := by
    intro hnil
    rw [hnil] at h
    split at h <;> cases h
  rw [run_bind_of_ok (run_takeWhile_append hstop t)]
  exact Stable.ite (stable_fail _) ((stable_nextOr _).map fun _ => ()) h t ht

theorem stable_fixedHeader : fixedHeader.Stable 1 := by
  refine (stable_bytes 10).bind fun b => ?_
  split
  · exact Stable.ite (stable_pure _) (stable_fail _)
  · exact stable_fail _

theorem stable_optionalField {field : ByteReader Unit} (h : field.Stable 1) (isThere : Bool) :
    (optionalField isThere field).Stable 1 :=
  Stable.ite h (stable_pure ())

theorem stable_extraField : extraField.Stable 1 :=
  (stable_number 2).bind fun count => (stable_bytes count).map fun _ => ()

theorem stable_headerFields : headerFields.Stable 1 := by
  refine stable_fixedHeader.bind fun flags => ?_
  refine (stable_optionalField stable_extraField _).bind fun _ => ?_
  refine (stable_optionalField stable_zeroTerminated _).bind fun _ => ?_
  exact (stable_optionalField stable_zeroTerminated _).map fun _ => hasFlag flags 0x02

/-- The checksum is that of the same bytes. -/
theorem stable_header : header.Stable 1 := by
  intro s r a h t ht
  rw [run_header] at h ⊢
  cases hfields : headerFields.run s with
  | error e =>
    rw [hfields] at h
    cases h
  | ok x =>
    obtain ⟨isChecked, r'⟩ := x
    rw [hfields] at h
    rw [stable_headerFields hfields t ht]
    cases isChecked with
    | false =>
      cases h
      rfl
    | true =>
      dsimp only at h ⊢
      rw [List.length_append, List.length_append, Nat.add_sub_add_right,
        List.take_append_of_le_length (Nat.sub_le _ _)]
      exact (stable_number 2).bind (fun _ => Stable.ite (stable_pure ()) (stable_fail _)) h t ht

theorem stable_trailer (text : Bytes) : (trailer text).Stable 1 := by
  refine (stable_number 4).bind fun checksum => (stable_number 4).bind fun length => ?_
  exact Stable.ite (stable_pure ()) (stable_fail _)

end ByteReader

/-! ## Members -/

/-- The same text, with more bytes left behind the member. -/
theorem member_append {data text r : Bytes} (h : member data = .ok (text, r)) (t : Bytes) :
    member (data ++ t) = .ok (text, r ++ t) := by
  obtain ⟨body, last, hheader, hbody, htrailer⟩ := member_eq_ok_iff.1 h
  have hunit : 1 ∣ t.length := Nat.one_dvd t.length
  exact member_eq_ok_iff.2 ⟨body ++ t, last ++ t, ByteReader.stable_header hheader t hunit,
    inflate_append hbody t, ByteReader.stable_trailer text htrailer t hunit⟩

/-- **A member that is cut short is refused**, wherever the cut is. -/
theorem not_decompressed_of_cut {data text q : Bytes} (h : member data = .ok (text, []))
    (hq : Cut q data) (text' : Bytes) : decompress q ≠ .ok text' := by
  intro hdecompress
  obtain ⟨t, ht, rfl⟩ := hq
  obtain ⟨rest, hmember⟩ := exists_member_of_decompress hdecompress
  have happend := (member_append hmember t).symm.trans h
  have hrest : rest ++ t = [] := congrArg Prod.snd (Except.ok.inj happend)
  exact ht (List.append_eq_nil_iff.1 hrest).2

end Gzip

end ManagedAgent
