import ManagedAgent.Gzip.Huffman
import ManagedAgent.Proofs.Reader
import Mathlib.Algebra.GroupWithZero.Nat

/-!
# Every symbol has its word

Taking words off the front of a sorted list fills a code up from the left. As long as the words do
not ask for more than there is (Kraft's inequality), none is left over, so that every symbol with a
length has a word in the canonical code.

* `places_build` : what has a place when the words end or the tree is full;
* `exists_word_ofLengths` : a symbol with a length has a word.
-/

set_option autoImplicit false

namespace ManagedAgent.Gzip.Tree

/-! ## Words of a tree -/

theorem takes_read {t : Tree} {symbol : Nat} {w : Bits} (h : t.word? symbol = some w) :
    t.read.Takes w symbol :=
  read_word h

theorem word?_child {t : Tree} {symbol : Nat} {b : Bool} {w : Bits}
    (h : t.word? symbol = some (b :: w)) : (t.child b).word? symbol = some w := by
  cases t with
  | empty => simp [word?] at h
  | leaf s => simp [word?] at h
  | node zero one =>
    unfold word? at h
    split at h
    · rename_i v hv
      cases h
      exact hv
    · obtain ⟨v, hv, hcons⟩ := Option.map_eq_some_iff.1 h
      cases hcons
      exact hv

/-- Only the word of a single leaf is empty. -/
theorem word?_ne_nil {t : Tree} (ht : ∀ s, t ≠ .leaf s) {symbol : Nat} : t.word? symbol ≠ some [] := by
  cases t with
  | empty => simp [word?]
  | leaf s => exact absurd rfl (ht s)
  | node zero one =>
    unfold word?
    split <;> simp

theorem isSome_word?_node {zero one : Tree} {symbol : Nat}
    (h : (zero.word? symbol).isSome ∨ (one.word? symbol).isSome) :
    ((node zero one).word? symbol).isSome := by
  unfold word?
  cases hz : zero.word? symbol with
  | some w => rfl
  | none =>
    rw [hz] at h
    simpa using h

/-! ## Filling a tree -/

/-- What words ask for of the words of the longest length. -/
def weight (words : List (Nat × Nat)) : Nat := (words.map fun w => 2 ^ (maxLength - w.1)).sum

theorem weight_append (a b : List (Nat × Nat)) : weight (a ++ b) = weight a + weight b := by
  rw [weight, List.map_append, List.sum_append]
  rfl

theorem weight_pos {words : List (Nat × Nat)} (h : words ≠ []) : 0 < weight words := by
  cases words with
  | nil => exact absurd rfl h
  | cons w rest =>
    have : 0 < 2 ^ (maxLength - w.1) := Nat.two_pow_pos _
    rw [weight, List.map_cons, List.sum_cons]
    omega

/-- The tree at this depth has the words in front of those that are left, and some are left only if
it is full. -/
def Places (depth : Nat) (words : List (Nat × Nat)) (t : Tree) (left : List (Nat × Nat)) : Prop :=
  ∃ used, words = used ++ left ∧ (∀ w ∈ used, (t.word? w.2).isSome) ∧
    (left = [] ∨ weight used = 2 ^ (maxLength - depth))

theorem Places.suffix {depth : Nat} {words left : List (Nat × Nat)} {t : Tree}
    (h : Places depth words t left) : left <:+ words := by
  obtain ⟨used, rfl, -⟩ := h
  exact List.suffix_append used left

theorem places_nil (depth : Nat) : Places depth [] .empty [] :=
  ⟨[], rfl, fun _ h => (List.not_mem_nil h).elim, .inl rfl⟩

theorem places_leaf (depth symbol : Nat) (words : List (Nat × Nat)) :
    Places depth ((depth, symbol) :: words) (.leaf symbol) words := by
  refine ⟨[(depth, symbol)], rfl, fun w hw => ?_, .inr ?_⟩
  · obtain rfl := List.mem_singleton.1 hw
    simp [word?]
  · simp [weight]

/-- Two full trees make a full tree one level up. -/
theorem Places.node {depth : Nat} {words middle left : List (Nat × Nat)} {zero one : Tree}
    (hdepth : depth < maxLength) (hzero : Places (depth + 1) words zero middle)
    (hone : Places (depth + 1) middle one left) : Places depth words (.node zero one) left := by
  obtain ⟨used₀, rfl, hword₀, hfull₀⟩ := hzero
  obtain ⟨used₁, rfl, hword₁, hfull₁⟩ := hone
  refine ⟨used₀ ++ used₁, by rw [List.append_assoc], fun w hw => isSome_word?_node ?_, ?_⟩
  · rcases List.mem_append.1 hw with hw | hw
    · exact .inl (hword₀ w hw)
    · exact .inr (hword₁ w hw)
  · rcases hfull₁ with hleft | hfull₁
    · exact .inl hleft
    · rcases hfull₀ with hnil | hfull₀
      · exact .inl (List.append_eq_nil_iff.1 hnil).2
      · have hpow : 2 ^ (maxLength - depth) = 2 ^ (maxLength - (depth + 1)) * 2 := by
          rw [← Nat.pow_succ]
          congr 1
          omega
        rw [weight_append, hfull₀, hfull₁, hpow]
        exact .inr (Nat.mul_two _).symm

theorem places_build {fuel depth : Nat} {words : List (Nat × Nat)}
    (hfuel : fuel + depth = maxLength + 1) (hsorted : words.Pairwise fun a b => a.1 ≤ b.1)
    (hdepth : ∀ w ∈ words, depth ≤ w.1) (hmax : ∀ w ∈ words, w.1 ≤ maxLength) :
    Places depth words (build fuel depth words).1 (build fuel depth words).2 := by
  induction fuel generalizing depth words with
  | zero =>
    cases words with
    | nil => exact places_nil depth
    | cons w rest =>
      have := hdepth w List.mem_cons_self
      have := hmax w List.mem_cons_self
      omega
  | succ fuel ih =>
    match words with
    | [] => exact places_nil depth
    | (length, symbol) :: rest =>
      rw [build]
      split
      · rename_i h
        subst h
        exact places_leaf length symbol rest
      · rename_i hne
        have hlength : depth < length :=
          Nat.lt_of_le_of_ne (hdepth _ List.mem_cons_self) (Ne.symm hne)
        have hdeep (w : Nat × Nat) (hw : w ∈ (length, symbol) :: rest) : depth + 1 ≤ w.1 := by
          rcases List.mem_cons.1 hw with rfl | hw
          · exact hlength
          · exact Nat.lt_of_lt_of_le hlength ((List.pairwise_cons.1 hsorted).1 w hw)
        have hzero := ih (by omega) hsorted hdeep hmax
        have hsuffix := hzero.suffix
        have hone := ih (by omega) (hsorted.sublist hsuffix.sublist)
          (fun w hw => hdeep w (hsuffix.subset hw)) fun w hw => hmax w (hsuffix.subset hw)
        have : length ≤ maxLength := hmax _ List.mem_cons_self
        exact hzero.node (by omega) hone

/-! ## Codes given by lengths -/

theorem sortedWords_perm (lengths : List Nat) :
    (sortedWords lengths).Perm (lengths.zipIdx.filter (·.1 ≠ 0)) :=
  List.mergeSort_perm _ _

theorem mem_sortedWords {lengths : List Nat} {length symbol : Nat} :
    (length, symbol) ∈ sortedWords lengths ↔ lengths[symbol]? = some length ∧ length ≠ 0 := by
  rw [(sortedWords_perm lengths).mem_iff, List.mem_filter, List.mem_zipIdx_iff_getElem?]
  simp

theorem sortedWords_sorted (lengths : List Nat) :
    (sortedWords lengths).Pairwise fun a b => a.1 ≤ b.1 := by
  have h := @List.pairwise_mergeSort _ (fun a b : Nat × Nat => decide (a.1 ≤ b.1))
    (fun a b c hab hbc => by simp only [decide_eq_true_eq] at *; omega)
    (fun a b => by simp only [Bool.or_eq_true, decide_eq_true_eq]; omega)
    (lengths.zipIdx.filter (·.1 ≠ 0))
  exact h.imp fun hab => of_decide_eq_true hab

/-- What the words of a code ask for is the share of the code. -/
theorem weight_sortedWords (lengths : List Nat) : weight (sortedWords lengths) = share lengths := by
  have hfirst : (lengths.zipIdx.filter (·.1 ≠ 0)).map Prod.fst = lengths.filter (· ≠ 0) := by
    conv => rhs; rw [← List.zipIdx_map_fst 0 lengths, List.filter_map]
    rfl
  have hsum : weight (sortedWords lengths) =
      ((lengths.filter (· ≠ 0)).map fun l => 2 ^ (maxLength - l)).sum := by
    rw [weight, ((sortedWords_perm lengths).map _).sum_nat, ← hfirst, List.map_map]
    rfl
  rw [hsum, share, List.sum_eq_foldl, List.foldl_map]
  simp only [Nat.one_shiftLeft]

/-- In a code whose words fit, every symbol with a length has a word. -/
theorem exists_word_ofLengths {lengths : List Nat} (hshare : share lengths ≤ 1 <<< maxLength)
    (hmax : ∀ l ∈ lengths, l ≤ maxLength) {symbol length : Nat}
    (hsymbol : lengths[symbol]? = some length) (hlength : length ≠ 0) :
    ∃ w, (ofLengths lengths).word? symbol = some w := by
  obtain ⟨used, hused, hword, hfull⟩ := places_build
    (rfl : maxLength + 1 + 0 = maxLength + 1) (sortedWords_sorted lengths) (fun _ _ => Nat.zero_le _)
    fun w hw => hmax w.1 (List.mem_of_getElem? (mem_sortedWords.1 hw).1)
  have hnil : (build (maxLength + 1) 0 (sortedWords lengths)).2 = [] := by
    rcases hfull with h | hfull
    · exact h
    · refine Decidable.byContradiction fun hne => ?_
      have hpos := weight_pos hne
      have hsum := weight_sortedWords lengths
      rw [hused, weight_append, hfull, Nat.sub_zero] at hsum
      rw [Nat.one_shiftLeft] at hshare
      omega
  rw [hnil, List.append_nil] at hused
  exact Option.isSome_iff_exists.1 (hword _ (hused ▸ mem_sortedWords.2 ⟨hsymbol, hlength⟩))

theorem ofLengths_ne_leaf (lengths : List Nat) (s : Nat) : ofLengths lengths ≠ .leaf s := by
  unfold ofLengths
  cases h : sortedWords lengths with
  | nil => simp [build]
  | cons w rest =>
    have hlength : w.1 ≠ 0 := (mem_sortedWords.1 (h ▸ List.mem_cons_self)).2
    rw [build, if_neg hlength]
    exact Tree.noConfusion

end ManagedAgent.Gzip.Tree
