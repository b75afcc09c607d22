import ManagedAgent.Gzip.Token

/-!
# Tokens say their text

Whatever has been seen where, a copy is only said after its bytes were compared with those that come
next, and it is never farther or longer than the format can say.

* `inRange_of_nextCopy` : a copy says the bytes that come next;
* `expand_tokenize` : the tokens of a text, expanded one after another, are the text;
* `inRange_of_mem_tokenize` : every one of them can be written.
-/

set_option autoImplicit false

namespace ManagedAgent.Gzip

/-! ## Copies -/

theorem cycle_nil_period (n : Nat) : cycle [] [] n = [] := by
  cases n <;> rfl

theorem length_cycle_le (period rest : Bytes) (n : Nat) : (cycle period rest n).length ≤ n := by
  induction n generalizing rest with
  | zero => simp [cycle]
  | succ n ih =>
    match rest, period with
    | b :: rest, period => exact Nat.succ_le_succ (ih rest)
    | [], [] => exact Nat.zero_le _
    | [], b :: rest => exact Nat.succ_le_succ (ih rest)

/-- A shorter copy is the front of a longer one. -/
theorem take_cycle (period rest : Bytes) {n m : Nat} (h : n ≤ m) :
    (cycle period rest m).take n = cycle period rest n := by
  induction n generalizing rest m with
  | zero =>
    rw [List.take_zero]
    cases rest <;> rfl
  | succ n ih =>
    obtain ⟨m, rfl⟩ : ∃ k, m = k + 1 := ⟨m - 1, by omega⟩
    match rest, period with
    | b :: rest, period => exact congrArg (b :: ·) (ih rest (Nat.le_of_succ_le_succ h))
    | [], [] => rw [cycle_nil_period, cycle_nil_period, List.take_nil]
    | [], b :: rest => exact congrArg (b :: ·) (ih rest (Nat.le_of_succ_le_succ h))

theorem commonPrefix_le (a b : Bytes) : commonPrefix a b ≤ a.length := by
  induction a generalizing b with
  | nil => exact Nat.zero_le _
  | cons x r ih =>
    cases b with
    | nil => exact Nat.zero_le _
    | cons y s =>
      unfold commonPrefix
      split
      · exact Nat.succ_le_succ (ih s)
      · exact Nat.zero_le _

theorem take_commonPrefix (a b : Bytes) : a.take (commonPrefix a b) = b.take (commonPrefix a b) := by
  induction a generalizing b with
  | nil => simp [commonPrefix]
  | cons x r ih =>
    cases b with
    | nil => simp [commonPrefix]
    | cons y s =>
      unfold commonPrefix
      split
      · rename_i h
        rw [List.take_succ_cons, List.take_succ_cons, h, ih s]
      · rfl

def Token.InRange : Token → Prop
  | .literal _ => True
  | .copy distance length =>
    (1 ≤ distance ∧ distance ≤ maxDistance) ∧ 3 ≤ length ∧ length ≤ maxCopy

theorem inRange_of_copyAt {history rest : Bytes} {place distance length : Nat}
    (h : copyAt history rest place = some (distance, length)) :
    (Token.copy distance length).InRange ∧ copied history distance length = rest.take length := by
  unfold copyAt at h
  dsimp only at h
  split at h
  · rename_i hfits
    cases h
    have hlength := Nat.le_trans
      (commonPrefix_le (copied history (history.length - place) maxCopy) rest) (length_cycle_le _ _ _)
    refine ⟨⟨⟨by omega, hfits.2.1⟩, hfits.2.2, hlength⟩, ?_⟩
    rw [← take_commonPrefix]
    exact (take_cycle _ _ hlength).symm
  · cases h

/-- A copy says the bytes that come next. -/
theorem inRange_of_nextCopy {seen seen' : Seen} {history rest : Bytes} {distance length : Nat}
    (h : nextCopy seen history rest = (some (distance, length), seen')) :
    (Token.copy distance length).InRange ∧ copied history distance length = rest.take length := by
  unfold nextCopy at h
  split at h
  · obtain ⟨place, -, hplace⟩ := Option.bind_eq_some_iff.1 (Prod.mk.inj h).1
    exact inRange_of_copyAt hplace
  · cases (Prod.mk.inj h).1

/-! ## Tokens of a text -/

/-- The tokens of a text can be written, and expanded one after another they are the text. -/
theorem expand_tokenizeAfter (seen : Seen) (history rest : Bytes) :
    (∀ t ∈ tokenizeAfter seen history rest, t.InRange) ∧
      (tokenizeAfter seen history rest).foldl Token.expand history = rest.reverse ++ history := by
  induction seen, history, rest using tokenizeAfter.induct with
  | case1 seen history =>
    rw [tokenizeAfter]
    exact ⟨fun _ h => (List.not_mem_nil h).elim, rfl⟩
  | case2 seen history b rest seen' hnext ih =>
    rw [tokenizeAfter, hnext]
    refine ⟨List.forall_mem_cons.2 ⟨trivial, ih.1⟩, ?_⟩
    rw [List.foldl_cons, List.reverse_cons, List.append_assoc]
    exact ih.2
  | case3 seen history b rest distance length seen' hnext token ih =>
    obtain ⟨hrange, hcopied⟩ := inRange_of_nextCopy hnext
    rw [tokenizeAfter, hnext]
    refine ⟨List.forall_mem_cons.2 ⟨hrange, ih.1⟩, ?_⟩
    have hexpand : token.expand history = ((b :: rest).take length).reverse ++ history := by
      rw [← hcopied]
      rfl
    have hdrop : rest.drop (length - 1) = (b :: rest).drop length := by
      obtain ⟨k, rfl⟩ : ∃ k, length = k + 1 := ⟨length - 1, by have := hrange.2.1; omega⟩
      rfl
    refine ih.2.trans ?_
    rw [hexpand, hdrop, ← List.append_assoc, ← List.reverse_append, List.take_append_drop]

theorem inRange_of_mem_tokenize {text : Bytes} {t : Token} (h : t ∈ tokenize text) : t.InRange :=
  (expand_tokenizeAfter {} [] text).1 t h

theorem expand_tokenize (text : Bytes) : (tokenize text).foldl Token.expand [] = text.reverse :=
  (expand_tokenizeAfter {} [] text).2.trans (List.append_nil _)

end ManagedAgent.Gzip
