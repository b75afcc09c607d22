import ManagedAgent.Reader

/-!
# Readers of what was written

`Takes p s a`: the reader `p` takes exactly the items `s` off the front, whatever follows, and gets
`a`. A text made of parts is taken by readers of its parts, one after another.

* `Takes.bind` : one reader after another;
* `run_loop_inl`, `run_loop_inr` : a loop goes on, or ends, after an item;
* `Cut` : a list that is cut short, and where the cut may be.
-/

set_option autoImplicit false

namespace ManagedAgent

/-! ## Lists cut short -/

section Cuts
variable {τ : Type} {q s t : List τ}

/-- The list begins with `q`, and goes on. -/
def Cut (q s : List τ) : Prop := ∃ t, t ≠ [] ∧ s = q ++ t

theorem cut_of_isPrefix (h : q <+: s) (hne : q ≠ s) : Cut q s := by
  obtain ⟨t, rfl⟩ := h
  exact ⟨t, fun ht => hne (by rw [ht, List.append_nil]), rfl⟩

theorem not_cut_nil (q : List τ) : ¬ Cut q [] := by
  rintro ⟨t, ht, h⟩
  exact ht (List.append_eq_nil_iff.1 h.symm).2

/-- The cut is in the first part, or in the second one. -/
theorem Cut.append_cases (h : Cut q (s ++ t)) : Cut q s ∨ ∃ q', q = s ++ q' ∧ Cut q' t := by
  obtain ⟨u, hu, heq⟩ := h
  rcases List.append_eq_append_iff.1 heq with ⟨v, rfl, rfl⟩ | ⟨v, rfl, rfl⟩
  · exact .inr ⟨v, rfl, u, hu, rfl⟩
  · cases v with
    | nil => exact .inr ⟨[], by simp, t, hu, rfl⟩
    | cons b v => exact .inl ⟨b :: v, List.cons_ne_nil b v, rfl⟩

theorem Cut.cons_cases {b : τ} (h : Cut q (b :: s)) : q = [] ∨ ∃ q', q = b :: q' ∧ Cut q' s := by
  rcases Cut.append_cases (s := [b]) h with h | h
  · obtain ⟨u, hu, heq⟩ := h
    cases q with
    | nil => exact .inl rfl
    | cons c q =>
      obtain ⟨-, hnil⟩ := List.cons.inj heq
      exact absurd (List.append_eq_nil_iff.1 hnil.symm).2 hu
  · exact .inr h

theorem Cut.length_lt (h : Cut q s) : q.length < s.length := by
  obtain ⟨t, ht, rfl⟩ := h
  have := List.length_pos_iff.2 ht
  rw [List.length_append]
  omega

theorem Cut.mem_head? {b : τ} (h : Cut q s) (hb : b ∈ q.head?) : b ∈ s.head? := by
  obtain ⟨t, -, rfl⟩ := h
  cases q with
  | nil => cases hb
  | cons c q => exact hb

end Cuts

end ManagedAgent

namespace ManagedAgent.Reader
variable {ε τ α β σ : Type}

/-- The reader takes these items off the front. -/
def Takes (p : Reader ε τ α) (s : List τ) (a : α) : Prop := ∀ rest, p.run (s ++ rest) = .ok (a, rest)

theorem run_bind_of_ok {p : Reader ε τ α} {f : α → Reader ε τ β} {s r : List τ} {a : α}
    (h : p.run s = .ok (a, r)) : (p >>= f).run s = (f a).run r := by
  rw [run_bind, h]

/-- What a pair of readers has read, the second one has read after the first one. -/
theorem exists_of_run_bind_eq_ok {p : Reader ε τ α} {f : α → Reader ε τ β} {s t : List τ} {b : β}
    (h : (p >>= f).run s = .ok (b, t)) :
    ∃ a r, p.run s = .ok (a, r) ∧ (f a).run r = .ok (b, t) := by
  rw [run_bind] at h
  split at h
  · cases h
  · rename_i a r ha
    exact ⟨a, r, ha, h⟩

/-- What is read of a rest is the same for the list that it is the rest of. -/
theorem run_widen (p : Reader ε τ α) {r s : List τ} (h : r.length ≤ s.length) :
    (match widen h (p r) with
      | .error e => .error e
      | .ok (a, t) => .ok (a, t.1)) = p.run r := by
  unfold widen run
  cases p r with
  | error e => rfl
  | ok x => rfl

theorem takes_pure (a : α) : (pure a : Reader ε τ α).Takes [] a := fun _ => rfl

theorem takes_nextOr (e : ε) (b : τ) : (nextOr e).Takes [b] b := fun _ => rfl

theorem Takes.bind {p : Reader ε τ α} {f : α → Reader ε τ β} {s t : List τ} {a : α} {b : β}
    (hp : p.Takes s a) (hf : (f a).Takes t b) : (p >>= f).Takes (s ++ t) b := by
  intro rest
  rw [List.append_assoc, run_bind_of_ok (hp _)]
  exact hf rest

/-- What a value is turned into once it is taken. -/
theorem Takes.map {p : Reader ε τ α} {s : List τ} {a : α} (h : p.Takes s a) (f : α → β) :
    (p >>= fun a => pure (f a)).Takes s (f a) := by
  intro rest
  rw [run_bind_of_ok (h rest)]
  rfl

/-! ## Item by item -/

theorem run_loop_cons (e : ε) (step : σ → τ → Reader ε τ (σ ⊕ α)) (state : σ) (b : τ) (r : List τ) :
    (loop e step state).run (b :: r) =
      match (step state b).run r with
      | .error e => .error e
      | .ok (.inr a, t) => .ok (a, t)
      | .ok (.inl state, t) => (loop e step state).run t := by
  unfold run
  rw [loop]
  cases step state b r with
  | error e => rfl
  | ok x =>
    obtain ⟨state | a, t⟩ := x
    · exact run_widen (loop e step state) (Nat.le_succ_of_le t.2)
    · rfl

/-- The loop goes on after an item. -/
theorem run_loop_inl {e : ε} {step : σ → τ → Reader ε τ (σ ⊕ α)} {state state' : σ} {b : τ}
    {r t : List τ} (h : (step state b).run r = .ok (.inl state', t)) :
    (loop e step state).run (b :: r) = (loop e step state').run t := by
  rw [run_loop_cons, h]

/-- The loop ends after an item. -/
theorem run_loop_inr {e : ε} {step : σ → τ → Reader ε τ (σ ⊕ α)} {state : σ} {a : α} {b : τ}
    {r t : List τ} (h : (step state b).run r = .ok (.inr a, t)) :
    (loop e step state).run (b :: r) = .ok (a, t) := by
  rw [run_loop_cons, h]

end ManagedAgent.Reader
