import ManagedAgent.Proofs.Wire.Reading

/-!
# Readers of texts that are cut short

`Fades p s P`: wherever the text `s` is cut short, either it ends too early for the reader `p`, or
`p` takes all that is left as a value with the property `P`. Only a number can be cut so that a
number is left; all other texts break the reader off (`Breaks`), and so does a container whatever is
cut in it.

* `Fades.append`, `Reads.breaks_bind` : a text of two parts is cut in one of them;
* `breaks_readList` : a list that is cut short, where its elements fade.
-/

set_option autoImplicit false

namespace ManagedAgent.Wire.Reader

open ManagedAgent.Reader (run_bind_of_ok)

variable {α β σ : Type} {p : Reader α} {s t : Bytes} {a : α} {P Q : α → Prop}

/-- Cut short, the text ends too early for the reader, or is all taken as such a value. -/
def Fades (p : Reader α) (s : Bytes) (P : α → Prop) : Prop :=
  ∀ ⦃q : Bytes⦄, Cut q s → p.run q = .error .truncated ∨ ∃ a, P a ∧ p.run q = .ok (a, [])

/-- Cut short, the text ends too early for the reader. -/
def Breaks (p : Reader α) (s : Bytes) : Prop := p.Fades s fun _ => False

theorem Breaks.run_eq (h : p.Breaks s) {q : Bytes} (hq : Cut q s) :
    p.run q = .error .truncated :=
  (h hq).resolve_right fun ⟨_, hfalse, _⟩ => hfalse

theorem Fades.mono (h : p.Fades s P) (hPQ : ∀ a, P a → Q a) : p.Fades s Q := fun _ hq =>
  (h hq).imp_right fun ⟨a, ha, hrun⟩ => ⟨a, hPQ a ha, hrun⟩

theorem Breaks.fades (h : p.Breaks s) : p.Fades s P := h.mono fun _ => False.elim

theorem fades_nil (p : Reader α) (P : α → Prop) : p.Fades [] P := fun q hq =>
  absurd hq (not_cut_nil q)

/-! ## Texts of two parts -/

/-- In front of the second part the reader has become another one. -/
theorem Fades.append {u : Reader α} (hs : p.Breaks s) (hrun : ∀ r, p.run (s ++ r) = u.run r)
    (ht : u.Fades t P) : p.Fades (s ++ t) P := by
  intro q hq
  rcases hq.append_cases with hq | ⟨q', rfl, hq'⟩
  · exact .inl (hs.run_eq hq)
  · rw [hrun]
    exact ht hq'

theorem breaks_singleton (h : p.run [] = .error .truncated) (b : UInt8) : p.Breaks [b] := by
  intro q hq
  rcases hq.cons_cases with rfl | ⟨q', -, hq⟩
  · exact .inl h
  · exact absurd hq (not_cut_nil q')

theorem Fades.cons {u : Reader α} {b : UInt8} (hnil : p.run [] = .error .truncated)
    (hrun : ∀ r, p.run (b :: r) = u.run r) (h : u.Fades s P) : p.Fades (b :: s) P :=
  Fades.append (breaks_singleton hnil b) hrun h

/-- Two readers that differ only where a text does not begin with this byte. -/
theorem Fades.congr {u : Reader α} {b : UInt8} (hnil : p.run [] = .error .truncated)
    (hrun : ∀ r, p.run (b :: r) = u.run (b :: r)) (h : u.Fades (b :: s) P) :
    p.Fades (b :: s) P := by
  intro q hq
  rcases hq.cons_cases with rfl | ⟨q', rfl, -⟩
  · exact .inl hnil
  · rw [hrun]
    exact h hq

theorem Fades.of_run_eq {u : Reader α} (hrun : ∀ q, p.run q = u.run q) (h : u.Fades s P) :
    p.Fades s P := by
  intro q hq
  rw [hrun]
  exact h hq

theorem run_bind_of_error {f : α → Reader β} {e : Failure} {q : Bytes}
    (h : p.run q = .error e) : (p >>= f).run q = .error e := by
  rw [ManagedAgent.Reader.run_bind, h]

theorem Breaks.bind (h : p.Breaks s) (f : α → Reader β) : (p >>= f).Breaks s :=
  fun _ hq => .inl (run_bind_of_error (h.run_eq hq))

theorem Fades.bind {f : α → Reader β} {P : β → Prop} (hp : p.Takes s a) (hs : p.Breaks s)
    (ht : (f a).Fades t P) : (p >>= f).Fades (s ++ t) P :=
  Fades.append (hs.bind f) (fun r => run_bind_of_ok (hp r)) ht

/-- What is done with a value once it is read. -/
theorem Fades.bind_end {f : α → Reader β} {Q : β → Prop} (h : p.Fades s P)
    (hf : ∀ a, P a → (f a).run [] = .error .truncated ∨ ∃ b, Q b ∧ (f a).run [] = .ok (b, [])) :
    (p >>= f).Fades s Q := by
  intro q hq
  rcases h hq with hrun | ⟨a, ha, hrun⟩
  · exact .inl (run_bind_of_error hrun)
  · rw [run_bind_of_ok hrun]
    exact hf a ha

/-- A value, and what is read behind it. -/
theorem Fades.bind_reads {f : α → Reader β} {Q : β → Prop} (hs : p.Fades s P)
    (hend : ∀ a, P a → (f a).run [] = .error .truncated ∨ ∃ b, Q b ∧ (f a).run [] = .ok (b, []))
    (hr : ∀ r, Cut r t → p.run (s ++ r) = .ok (a, r)) (ht : (f a).Fades t Q) :
    (p >>= f).Fades (s ++ t) Q := by
  intro q hq
  rcases hq.append_cases with hq | ⟨r, rfl, hr'⟩
  · exact hs.bind_end hend hq
  · rw [run_bind_of_ok (hr r hr')]
    exact ht hr'

theorem Fades.map {Q : β → Prop} (h : p.Fades s P) (g : α → β) (hg : ∀ a, P a → Q (g a)) :
    (p >>= fun a => pure (g a)).Fades s Q :=
  h.bind_end fun a ha => .inr ⟨g a, hg a ha, rfl⟩

theorem Ends.of_cut {q : Bytes} (h : Ends t) (hq : Cut q t) : Ends q := fun b hb =>
  h b (hq.mem_head? hb)

/-- A value, and something that has to come behind it. -/
theorem Reads.breaks_bind {f : α → Reader β} (hr : p.Reads s a) (hs : p.Fades s fun _ => True)
    (hends : Ends t) (hnil : ∀ a, (f a).run [] = .error .truncated) (ht : (f a).Breaks t) :
    (p >>= f).Breaks (s ++ t) :=
  hs.bind_reads (fun a _ => .inl (hnil a)) (fun r hcut => hr r (Ends.of_cut hends hcut)) ht

/-! ## Single bytes -/

theorem breaks_expect (b : UInt8) : (expect b).Breaks [b] := breaks_singleton rfl b

theorem breaks_expectToken (b : UInt8) : (expectToken b).Breaks [b] := breaks_singleton rfl b

theorem breaks_readLiteral (s : Bytes) : (readLiteral s).Breaks s := by
  induction s with
  | nil => exact fades_nil _ _
  | cons b rest ih => exact Fades.bind (takes_expect b) (breaks_expect b) ih

/-! ## Token by token -/

theorem run_loop_nil (step : σ → UInt8 → Reader (σ ⊕ α)) (state : σ) :
    ManagedAgent.Reader.run (loop step state) [] = .error .truncated := by
  rw [run_loop]
  rfl

/-- A loop that goes on after a token: the text is cut in the token, or behind it. -/
theorem breaks_loop_cons {step : σ → UInt8 → Reader (σ ⊕ α)} {state state' : σ} {b : UInt8}
    (hb : isBlank b = false) (hr : (step state b).Reads s (.inl state'))
    (hs : (step state b).Fades s fun x => ∃ state, x = .inl state) (hends : Ends t)
    (ht : Breaks (loop step state') t) : Breaks (loop step state) (b :: (s ++ t)) := by
  have hrun (r : Bytes) : ManagedAgent.Reader.run (loop step state) (b :: r) =
      (step state b >>= fun x => Sum.elim (loop step) pure x : Reader α).run r := by
    rw [run_loop, List.dropWhile_cons_of_neg (by simp [hb]), ManagedAgent.Reader.run_bind]
    dsimp only
    cases (step state b).run r with
    | error e => rfl
    | ok x =>
      obtain ⟨state | a, r⟩ := x
      · rfl
      · rfl
  refine Fades.cons (run_loop_nil step state) hrun ?_
  refine Fades.bind_reads (a := (.inl state' : σ ⊕ α)) hs ?_ ?_ ht
  · rintro x ⟨state'', rfl⟩
    exact .inl (run_loop_nil step state'')
  · exact fun r hcut => hr r (Ends.of_cut hends hcut)

/-! ## Lists -/

section Lists
variable {item : Reader β} {write : α → Bytes} {f : α → β} {items : List α}

theorem breaks_loop_readListStep (before : List β) (hopens : ∀ a ∈ items, Opens (write a))
    (hreads : ∀ a ∈ items, item.Reads (write a) (f a))
    (hfades : ∀ a ∈ items, item.Fades (write a) fun _ => True) :
    Breaks (loop (readListStep item) before)
      ((items.map write).flatMap (0x2C :: ·) ++ [0x5D]) := by
  induction items generalizing before with
  | nil => exact breaks_singleton (run_loop_nil _ _) 0x5D
  | cons a items ih =>
    have hends := ends_separated (items.map write) (.inl rfl : (0x5D : UInt8) = 0x5D ∨ _) []
    have hread := reads_readListStep before (hopens a List.mem_cons_self)
      (hreads a List.mem_cons_self)
    have hfade : (readListStep item before 0x2C).Fades (write a)
        fun x => ∃ state, x = .inl state := by
      obtain ⟨b, rest, heq, hblank, hne, -⟩ := hopens a List.mem_cons_self
      rw [heq]
      refine Fades.congr (u := item >>= fun a => pure (.inl (a :: before))) rfl (fun r => ?_) ?_
      · show (peekToken >>= _ : Reader _).run _ = _
        rw [run_bind_of_ok (run_peekToken hblank r)]
        dsimp only
        rw [if_neg (by simpa using hne)]
      · rw [← heq]
        exact (hfades a List.mem_cons_self).map _ fun a _ => ⟨a :: before, rfl⟩
    rw [List.map_cons, List.flatMap_cons, List.append_assoc, List.cons_append]
    exact breaks_loop_cons rfl hread hfade hends (ih (f a :: before)
      (fun x hx => hopens x (List.mem_cons_of_mem _ hx))
      (fun x hx => hreads x (List.mem_cons_of_mem _ hx))
      fun x hx => hfades x (List.mem_cons_of_mem _ hx))

theorem breaks_readList (hopens : ∀ a ∈ items, Opens (write a))
    (hreads : ∀ a ∈ items, item.Reads (write a) (f a))
    (hfades : ∀ a ∈ items, item.Fades (write a) fun _ => True) :
    (readList item).Breaks (separate (items.map write) ++ [0x5D]) := by
  cases items with
  | nil => exact breaks_singleton rfl 0x5D
  | cons a items =>
    have hends := ends_separated (items.map write) (.inl rfl : (0x5D : UInt8) = 0x5D ∨ _) []
    have hloop := breaks_loop_readListStep [f a] (fun x hx => hopens x (List.mem_cons_of_mem _ hx))
      (fun x hx => hreads x (List.mem_cons_of_mem _ hx))
      fun x hx => hfades x (List.mem_cons_of_mem _ hx)
    have hbreaks := (hreads a List.mem_cons_self).breaks_bind (hfades a List.mem_cons_self) hends
      (f := fun a => loop (readListStep item) [a]) (fun a => run_loop_nil _ _) hloop
    rw [List.map_cons, separate_cons, List.append_assoc]
    obtain ⟨b, rest, heq, hblank, hne, -⟩ := hopens a List.mem_cons_self
    rw [heq, List.cons_append] at hbreaks ⊢
    refine Fades.congr rfl (fun r => ?_) hbreaks
    unfold readList
    rw [run_bind_of_ok (run_peekToken hblank r)]
    dsimp only
    rw [if_neg (by simpa using hne)]

end Lists

end ManagedAgent.Wire.Reader
