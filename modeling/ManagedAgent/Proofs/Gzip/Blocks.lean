import ManagedAgent.Gzip.Block
import ManagedAgent.Proofs.Gzip.Bits
import ManagedAgent.Proofs.Gzip.Tokens
import ManagedAgent.Proofs.Gzip.Words

/-!
# Compressed data is read back

Numbers, tokens and whole blocks are taken as they were written, whatever follows them. The codes
stay a parameter up to the block: all that is asked of them is a word for every symbol (`Covers`).

* `rangeOf_spec` : a number is within the range that it is written in;
* `takes_tokens` : tokens are read up to the end of their block and expanded one after another;
* `inflate_deflate` : the text of compressed data, and what stands behind that data.
-/

set_option autoImplicit false

namespace ManagedAgent.Gzip

/-! ## Ranges of numbers -/

/-- Every range goes at least up to the next one, and the last one up to `bound`. -/
def Tiles (bound : Nat) : List NumberRange → Prop
  | [] => True
  | [r] => bound ≤ r.base + 2 ^ r.extra
  | r :: s :: rest => s.base ≤ r.base + 2 ^ r.extra ∧ Tiles bound (s :: rest)

theorem tiles_lengthRanges : Tiles (maxCopy + 1) lengthRanges := by
  simp [Tiles, lengthRanges, maxCopy]

theorem tiles_distanceRanges : Tiles (maxDistance + 1) distanceRanges := by
  simp [Tiles, distanceRanges, maxDistance]

/-- The last range that starts no later than a number goes beyond it. -/
theorem lt_of_findRev? {bound n k : Nat} {ranges : List NumberRange} (htiles : Tiles bound ranges)
    (hn : n < bound) {found : NumberRange × Nat}
    (h : (ranges.zipIdx k).findRev? (·.1.base ≤ n) = some found) :
    n < found.1.base + 2 ^ found.1.extra := by
  induction ranges generalizing k with
  | nil => cases h
  | cons r rest ih =>
    have hrest : Tiles bound rest := by
      cases rest with
      | nil => trivial
      | cons s rest => exact htiles.2
    rw [List.zipIdx_cons, List.findRev?] at h
    split at h
    · rename_i hfound
      cases h
      exact ih hrest hfound
    · rename_i hnone
      have hr : found = (r, k) := by
        split at h
        · exact (Option.some.inj h).symm
        · cases h
      subst hr
      cases rest with
      | nil => exact Nat.lt_of_lt_of_le hn htiles
      | cons s rest =>
        rw [List.findRev?_eq_find?_reverse, List.find?_eq_none] at hnone
        have hs : n < s.base := by
          simpa using hnone (s, k + 1) (by simp [List.zipIdx_cons])
        exact Nat.lt_of_lt_of_le hs htiles.1

/-- A number is within the range that it is written in. -/
theorem rangeOf_spec {bound n : Nat} {ranges : List NumberRange} (htiles : Tiles bound ranges)
    (hbase : ∃ r ∈ ranges, r.base ≤ n) (hn : n < bound) :
    ranges[(rangeOf ranges n).2]? = some (rangeOf ranges n).1 ∧ (rangeOf ranges n).1.base ≤ n ∧
      n < (rangeOf ranges n).1.base + 2 ^ (rangeOf ranges n).1.extra := by
  obtain ⟨found, hfound⟩ :
      ∃ found, ranges.zipIdx.findRev? (·.1.base ≤ n) = some found := by
    obtain ⟨r, hr, hle⟩ := hbase
    obtain ⟨i, hi⟩ := List.getElem?_of_mem hr
    rw [← Option.isSome_iff_exists, List.findRev?_eq_find?_reverse, List.find?_isSome]
    exact ⟨(r, i), List.mem_reverse.2 (List.mem_zipIdx_iff_getElem?.2 hi), by simpa using hle⟩
  have hrange : rangeOf ranges n = found := by
    rw [rangeOf, hfound]
    rfl
  have hfind := hfound
  rw [List.findRev?_eq_find?_reverse] at hfind
  rw [hrange]
  exact ⟨List.mem_zipIdx_iff_getElem?.1 (List.mem_reverse.1 (List.mem_of_find?_eq_some hfind)),
    by simpa using List.find?_some hfind, lt_of_findRev? htiles hn hfound⟩

theorem BitReader.takes_ranged {ranges : List NumberRange} {place n : Nat} {r : NumberRange}
    (hr : ranges[place]? = some r) (hbase : r.base ≤ n) (hn : n < r.base + 2 ^ r.extra) :
    (BitReader.ranged ranges place).Takes (Bits.ofNat r.extra (n - r.base)) n := by
  have hnumber := (BitReader.takes_number_of_lt (by omega : n - r.base < 2 ^ r.extra)).map (r.base + ·)
  rw [Nat.add_sub_cancel' hbase] at hnumber
  unfold BitReader.ranged
  rw [hr]
  exact hnumber

/-! ## Words of symbols -/

/-- Codes with a word for every symbol that a token is written with. -/
structure Codes.Covers (c : Codes) : Prop where
  literal : ∀ s < endSymbol + 1 + lengthRanges.length, ∃ w, c.literals.word? s = some w
  distance : ∀ s < distanceRanges.length, ∃ w, c.distances.word? s = some w
  literals_ne_leaf : ∀ s, c.literals ≠ .leaf s

theorem covers_fixed : Codes.fixed.Covers where
  literal s hs := by
    change s < 286 at hs
    obtain ⟨length, hlength⟩ : ∃ length, (List.replicate 144 8 ++ List.replicate 112 9 ++
        List.replicate 24 7 ++ List.replicate 8 8)[s]? = some length :=
      ⟨_, List.getElem?_eq_getElem (by simp only [List.length_append, List.length_replicate]; omega)⟩
    have hmem := List.mem_of_getElem? hlength
    simp only [List.mem_append, List.mem_replicate] at hmem
    refine Tree.exists_word_ofLengths (by decide +kernel) (fun l hl => ?_) hlength (by omega)
    simp only [List.mem_append, List.mem_replicate] at hl
    show l ≤ 15
    omega
  distance s hs := by
    change s < 30 at hs
    refine Tree.exists_word_ofLengths (by decide) (fun l hl => ?_)
      (List.getElem?_replicate_of_lt (by omega)) (by decide)
    rw [List.eq_of_mem_replicate hl]
    decide
  literals_ne_leaf := Tree.ofLengths_ne_leaf _

theorem takes_wordIn {t : Tree} {symbol : Nat} (h : ∃ w, t.word? symbol = some w) :
    t.read.Takes (wordIn t symbol) symbol := by
  obtain ⟨w, hw⟩ := h
  unfold wordIn
  rw [hw]
  exact Tree.takes_read hw

/-- The first bit of a word leads to a tree where the other bits are read. -/
theorem exists_wordIn_eq_cons {t : Tree} (ht : ∀ s, t ≠ .leaf s) {symbol : Nat}
    (h : ∃ w, t.word? symbol = some w) :
    ∃ b w, wordIn t symbol = b :: w ∧ (t.child b).read.Takes w symbol := by
  obtain ⟨w, hw⟩ := h
  cases w with
  | nil => exact absurd hw (Tree.word?_ne_nil ht)
  | cons b w =>
    refine ⟨b, w, ?_, Tree.takes_read (Tree.word?_child hw)⟩
    unfold wordIn
    rw [hw]
    rfl

/-! ## Tokens -/

theorem rangeOf_lengthRanges {n : Nat} (h : 3 ≤ n ∧ n ≤ maxCopy) :
    lengthRanges[(rangeOf lengthRanges n).2]? = some (rangeOf lengthRanges n).1 ∧
      (rangeOf lengthRanges n).1.base ≤ n ∧
      n < (rangeOf lengthRanges n).1.base + 2 ^ (rangeOf lengthRanges n).1.extra :=
  rangeOf_spec tiles_lengthRanges ⟨⟨3, 0⟩, List.mem_cons_self, h.1⟩ (Nat.lt_succ_of_le h.2)

theorem rangeOf_distanceRanges {n : Nat} (h : 1 ≤ n ∧ n ≤ maxDistance) :
    distanceRanges[(rangeOf distanceRanges n).2]? = some (rangeOf distanceRanges n).1 ∧
      (rangeOf distanceRanges n).1.base ≤ n ∧
      n < (rangeOf distanceRanges n).1.base + 2 ^ (rangeOf distanceRanges n).1.extra :=
  rangeOf_spec tiles_distanceRanges ⟨⟨1, 0⟩, List.mem_cons_self, h.1⟩ (Nat.lt_succ_of_le h.2)

/-- The end of a copy: its distance. -/
theorem takes_distance {c : Codes} (hc : c.Covers) {distance : Nat}
    (h : 1 ≤ distance ∧ distance ≤ maxDistance) (length : Nat) :
    (c.distances.read >>= fun symbol => BitReader.ranged distanceRanges symbol >>= fun distance =>
        pure (Token.copy distance length)).Takes
      (writeRanged c.distances distanceRanges 0 distance) (.copy distance length) := by
  obtain ⟨hplace, hbase, hlt⟩ := rangeOf_distanceRanges h
  have hword := hc.distance _ (List.getElem?_eq_some_iff.1 hplace).1
  unfold writeRanged
  dsimp only
  rw [Nat.zero_add]
  refine (takes_wordIn hword).bind ?_
  exact (BitReader.takes_ranged hplace hbase hlt).map (Token.copy · length)

/-- A token is the word of a symbol other than the end, and what that symbol asks for. -/
theorem exists_write_eq_cons {c : Codes} (hc : c.Covers) {t : Token} (ht : t.InRange) :
    ∃ b w v symbol, t.write c = b :: (w ++ v) ∧ (c.literals.child b).read.Takes w symbol ∧
      symbol ≠ endSymbol ∧ (BitReader.token c symbol).Takes v t := by
  cases t with
  | literal x =>
    have hx : x.toNat < endSymbol := x.toNat_lt
    obtain ⟨b, w, hw, htakes⟩ := exists_wordIn_eq_cons hc.literals_ne_leaf
      (hc.literal x.toNat (by omega))
    refine ⟨b, w, [], x.toNat, by rw [List.append_nil]; exact hw, htakes, Nat.ne_of_lt hx, ?_⟩
    unfold BitReader.token
    rw [if_pos hx, UInt8.ofNat_toNat]
    exact Reader.takes_pure _
  | copy distance length =>
    obtain ⟨hplace, hbase, hlt⟩ := rangeOf_lengthRanges ht.2
    have hbound := (List.getElem?_eq_some_iff.1 hplace).1
    obtain ⟨b, w, hw, htakes⟩ := exists_wordIn_eq_cons hc.literals_ne_leaf
      (hc.literal (endSymbol + 1 + (rangeOf lengthRanges length).2) (by omega))
    refine ⟨b, w, Bits.ofNat (rangeOf lengthRanges length).1.extra
        (length - (rangeOf lengthRanges length).1.base) ++
      writeRanged c.distances distanceRanges 0 distance, _, ?_, htakes, by omega, ?_⟩
    · unfold Token.write writeRanged
      dsimp only
      rw [hw]
      simp only [List.cons_append, List.append_assoc]
    · unfold BitReader.token
      rw [if_neg (by omega), Nat.sub_sub, Nat.add_sub_cancel_left]
      exact (BitReader.takes_ranged hplace hbase hlt).bind (takes_distance hc ht.1 length)

/-- Tokens are read up to the end of their block and expanded one after another. -/
theorem BitReader.takes_tokens {c : Codes} (hc : c.Covers) {ts : List Token}
    (hts : ∀ t ∈ ts, t.InRange) (history : Bytes) :
    (BitReader.tokens c history).Takes
      (ts.flatMap (Token.write c) ++ wordIn c.literals endSymbol) (ts.foldl Token.expand history) := by
  intro rest
  induction ts generalizing history with
  | nil =>
    obtain ⟨b, w, hw, htakes⟩ := exists_wordIn_eq_cons hc.literals_ne_leaf
      (hc.literal endSymbol (by omega))
    rw [List.flatMap_nil, List.nil_append, hw, List.cons_append]
    refine Reader.run_loop_inr ?_
    rw [Reader.run_bind_of_ok (htakes rest), if_pos rfl]
    rfl
  | cons t ts ih =>
    obtain ⟨b, w, v, symbol, hw, hsymbol, hne, htoken⟩ :=
      exists_write_eq_cons hc (hts t List.mem_cons_self)
    rw [List.flatMap_cons, hw, List.cons_append, List.cons_append, List.cons_append,
      List.append_assoc, List.append_assoc, List.append_assoc, ← List.append_assoc _ _ rest,
      List.foldl_cons, ← ih (fun x hx => hts x (List.mem_cons_of_mem _ hx))]
    refine Reader.run_loop_inl ?_
    rw [Reader.run_bind_of_ok (hsymbol _), if_neg hne, Reader.run_bind_of_ok (htoken _)]
    rfl

/-! ## Whole texts -/

theorem BitReader.takes_blocks {ts : List Token} (hts : ∀ t ∈ ts, t.InRange) :
    BitReader.blocks.Takes (writeBlock ts) (ts.foldl Token.expand []) := by
  intro rest
  have hblock : (BitReader.block []).Takes (Bits.ofNat 2 1 ++
      (ts.flatMap (Token.write .fixed) ++ wordIn Codes.fixed.literals endSymbol))
      (ts.foldl Token.expand []) :=
    (BitReader.takes_number_of_lt (by decide : 1 < 2 ^ 2)).bind (BitReader.takes_tokens covers_fixed hts [])
  unfold writeBlock
  dsimp only
  rw [List.cons_append, List.cons_append, List.cons_append, List.append_assoc (Bits.ofNat 2 1)]
  refine Reader.run_loop_inr ?_
  rw [Reader.run_bind_of_ok (hblock rest)]
  rfl

/-- **Inflating undoes deflating**, for texts of any length and whatever stands behind them. -/
theorem inflate_deflate (text rest : Bytes) : inflate (deflate text ++ rest) = .ok (text, rest) := by
  obtain ⟨n, hn, hbits⟩ := Bits.ofBytes_toBytes (writeBlock (tokenize text))
  have hrun : Reader.run BitReader.blocks (Bits.ofBytes (deflate text ++ rest)) =
      .ok (text.reverse, List.replicate n false ++ Bits.ofBytes rest) := by
    rw [Bits.ofBytes_append, deflate, hbits, List.append_assoc,
      BitReader.takes_blocks (fun _ => inRange_of_mem_tokenize) _, expand_tokenize]
  have hlength : (List.replicate n false ++ Bits.ofBytes rest).length / 8 = rest.length := by
    rw [List.length_append, List.length_replicate, Bits.length_ofBytes]
    omega
  unfold inflate
  rw [hrun]
  dsimp only
  rw [hlength, List.reverse_reverse, List.length_append, Nat.add_sub_cancel, List.drop_left]

end ManagedAgent.Gzip
