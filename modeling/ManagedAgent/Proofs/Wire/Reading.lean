import ManagedAgent.Proofs.Reader
import ManagedAgent.Wire.Codec

/-!
# Readers of written texts

`Reads p s a`: the reader `p` takes exactly the text `s` off the front, and gets `a`, where `s` is
followed by what may stand behind a value: nothing, a comma or a closing bracket. A number has to be
read so, since it goes on as long as digits follow; most readers take their text whatever follows
(`Takes`).

* `takes_readList`, `takes_readObject` : a container is read when its elements or members are.
-/

set_option autoImplicit false

namespace ManagedAgent.Wire

open ManagedAgent.Reader (run_bind_of_ok)

/-- What may stand behind a value. -/
def Ends (rest : Bytes) : Prop := ∀ b ∈ rest.head?, b = 0x2C ∨ b = 0x5D ∨ b = 0x7D

theorem ends_nil : Ends [] := by
  intro b hb
  cases hb

theorem ends_cons {b : UInt8} (h : b = 0x2C ∨ b = 0x5D ∨ b = 0x7D) (rest : Bytes) :
    Ends (b :: rest) := by
  intro c hc
  cases hc
  exact h

/-- The first byte is one that a value other than `null` begins with. -/
def Opens (s : Bytes) : Prop :=
  ∃ b rest, s = b :: rest ∧ Reader.isBlank b = false ∧ b ≠ 0x5D ∧ b ≠ 0x6E

theorem Opens.append {s : Bytes} (h : Opens s) (t : Bytes) : Opens (s ++ t) := by
  obtain ⟨b, rest, rfl, hb⟩ := h
  exact ⟨b, rest ++ t, rfl, hb⟩

namespace Reader
variable {α β σ : Type}

/-- The reader takes this text off the front where a value may end behind it. -/
def Reads (p : Reader α) (s : Bytes) (a : α) : Prop :=
  ∀ rest, Ends rest → p.run (s ++ rest) = .ok (a, rest)

/-- What a value is turned into once it is read. -/
theorem Reads.map {p : Reader α} {s : Bytes} {a : α} (h : p.Reads s a) (f : α → β) :
    (p >>= fun a => pure (f a)).Reads s (f a) := by
  intro rest hrest
  rw [run_bind_of_ok (h rest hrest)]
  rfl

end Reader

end ManagedAgent.Wire

namespace ManagedAgent.Reader
variable {α β : Type}

theorem Takes.bind_reads {p : Wire.Reader α} {f : α → Wire.Reader β} {s t : Bytes} {a : α} {b : β}
    (hp : p.Takes s a) (hf : (f a).Reads t b) : (p >>= f).Reads (s ++ t) b := by
  intro rest hrest
  rw [List.append_assoc, run_bind_of_ok (hp _)]
  exact hf rest hrest

end ManagedAgent.Reader

namespace ManagedAgent.Wire

open ManagedAgent.Reader (run_bind_of_ok takes_pure)

namespace Reader
variable {α β σ : Type}

/-! ## Single bytes -/

theorem run_peekToken {b : UInt8} (hb : isBlank b = false) (rest : Bytes) :
    peekToken.run (b :: rest) = .ok (some b, b :: rest) := by
  have hdrop : (b :: rest).dropWhile isBlank = b :: rest := List.dropWhile_cons_of_neg (by simp [hb])
  unfold peekToken
  rw [ManagedAgent.Reader.run_bind, ManagedAgent.Reader.run_dropWhile]
  dsimp only
  rw [hdrop]
  rfl

theorem run_peekToken_of_opens {s : Bytes} (h : Opens s) :
    ∃ b, peekToken.run s = .ok (some b, s) ∧ b ≠ 0x5D ∧ b ≠ 0x6E := by
  obtain ⟨b, rest, rfl, hblank, hb⟩ := h
  exact ⟨b, run_peekToken hblank rest, hb⟩

theorem run_next (b : UInt8) (rest : Bytes) : next.run (b :: rest) = .ok (b, rest) := rfl

theorem takes_expect (b : UInt8) : (expect b).Takes [b] () := by
  intro rest
  unfold expect
  rw [List.singleton_append, run_bind_of_ok (run_next b rest), if_pos (beq_self_eq_true b)]
  rfl

theorem takes_expectToken {b : UInt8} (hb : isBlank b = false) : (expectToken b).Takes [b] () := by
  intro rest
  unfold expectToken
  have hpeek : (discard peekToken : Reader Unit).run (b :: rest) = .ok ((), b :: rest) := by
    show (peekToken >>= fun _ => pure () : Reader Unit).run _ = _
    rw [run_bind_of_ok (run_peekToken hb rest)]
    rfl
  rw [List.singleton_append, run_bind_of_ok hpeek]
  exact takes_expect b rest

theorem takes_readLiteral (s : Bytes) : (readLiteral s).Takes s () := by
  induction s with
  | nil => exact takes_pure ()
  | cons b rest ih => exact (takes_expect b).bind ih

theorem takes_enter {depth : Nat} (h : depth < maxDepth) (b : UInt8) : (enter depth).Takes [b] () := by
  intro rest
  unfold enter
  rw [if_pos h]
  rfl

/-! ## Token by token -/

theorem run_loop (step : σ → UInt8 → Reader (σ ⊕ α)) (state : σ) (s : Bytes) :
    ManagedAgent.Reader.run (loop step state) s =
      match s.dropWhile isBlank with
      | [] => .error .truncated
      | b :: r =>
        match (step state b).run r with
        | .error e => .error e
        | .ok (.inr a, t) => .ok (a, t)
        | .ok (.inl state, t) => ManagedAgent.Reader.run (loop step state) t := by
  unfold ManagedAgent.Reader.run
  generalize hl : loop step state s = result
  rw [loop] at hl
  split at hl
  · rename_i h
    rw [h, ← hl]
  · rename_i b r h
    rw [h, ← hl]
    dsimp only
    cases (step state b r : Except Failure ((σ ⊕ α) × Rest r)) with
    | error e => rfl
    | ok x =>
      obtain ⟨state | a, t⟩ := x
      · dsimp only
        unfold ManagedAgent.Reader.widen
        cases loop step state t.1 with
        | error e => rfl
        | ok y => rfl
      · rfl

/-- The loop goes on after a token. -/
theorem run_loop_inl {step : σ → UInt8 → Reader (σ ⊕ α)} {state state' : σ} {b : UInt8}
    {r t : Bytes} (hb : isBlank b = false) (h : (step state b).run r = .ok (.inl state', t)) :
    ManagedAgent.Reader.run (loop step state) (b :: r) =
      ManagedAgent.Reader.run (loop step state') t := by
  rw [run_loop, List.dropWhile_cons_of_neg (by simp [hb])]
  dsimp only
  rw [h]

/-- The loop ends after a token. -/
theorem run_loop_inr {step : σ → UInt8 → Reader (σ ⊕ α)} {state : σ} {a : α} {b : UInt8}
    {r t : Bytes} (hb : isBlank b = false) (h : (step state b).run r = .ok (.inr a, t)) :
    ManagedAgent.Reader.run (loop step state) (b :: r) = .ok (a, t) := by
  rw [run_loop, List.dropWhile_cons_of_neg (by simp [hb])]
  dsimp only
  rw [h]

end Reader

/-! ## Lists -/

theorem separate_cons (b : Bytes) (rest : List Bytes) :
    separate (b :: rest) = b ++ rest.flatMap (0x2C :: ·) := by
  induction rest generalizing b with
  | nil => simp [separate]
  | cons c rest ih =>
    rw [separate, ih, List.flatMap_cons]
    · rfl
    · simp

theorem ends_separated (rest : List Bytes) {b : UInt8} (hb : b = 0x5D ∨ b = 0x7D) (tail : Bytes) :
    Ends (rest.flatMap (0x2C :: ·) ++ b :: tail) := by
  cases rest with
  | nil => exact ends_cons (.inr hb) tail
  | cons c rest => exact ends_cons (.inl rfl) _

namespace Reader
variable {α β δ : Type}

/-- A comma and another element. -/
theorem reads_readListStep {item : Reader α} {s : Bytes} {a : α} (before : List α)
    (hopens : Opens s) (hreads : item.Reads s a) :
    (readListStep item before 0x2C).Reads s (.inl (a :: before)) := by
  intro rest hrest
  obtain ⟨b, hpeek, hne, -⟩ := run_peekToken_of_opens (hopens.append rest)
  show (peekToken >>= _ : Reader _).run _ = _
  rw [run_bind_of_ok hpeek]
  dsimp only
  rw [if_neg (by simpa using hne), run_bind_of_ok (hreads rest hrest)]
  rfl

theorem run_loop_readListStep {item : Reader β} {write : α → Bytes} {f : α → β} (before : List β)
    (items : List α) (hopens : ∀ a ∈ items, Opens (write a))
    (hreads : ∀ a ∈ items, item.Reads (write a) (f a)) (rest : Bytes) :
    ManagedAgent.Reader.run (loop (readListStep item) before)
        ((items.map write).flatMap (0x2C :: ·) ++ 0x5D :: rest) =
      .ok (before.reverse ++ items.map f, rest) := by
  induction items generalizing before with
  | nil =>
    rw [List.map_nil (f := f), List.append_nil]
    exact run_loop_inr rfl rfl
  | cons a items ih =>
    have hends : Ends ((items.map write).flatMap (0x2C :: ·) ++ 0x5D :: rest) :=
      ends_separated _ (.inl rfl) rest
    have hstep := reads_readListStep before (hopens a List.mem_cons_self)
      (hreads a List.mem_cons_self) _ hends
    rw [List.map_cons, List.flatMap_cons, List.append_assoc, List.cons_append,
      run_loop_inl rfl hstep, ih (f a :: before) (fun x hx => hopens x (List.mem_cons_of_mem _ hx))
        fun x hx => hreads x (List.mem_cons_of_mem _ hx), List.reverse_cons, List.append_assoc]
    rfl

theorem takes_readList {item : Reader β} {write : α → Bytes} {f : α → β} {items : List α}
    (hopens : ∀ a ∈ items, Opens (write a)) (hreads : ∀ a ∈ items, item.Reads (write a) (f a)) :
    (readList item).Takes (separate (items.map write) ++ [0x5D]) (items.map f) := by
  intro rest
  rw [List.append_assoc, List.singleton_append]
  unfold readList
  cases items with
  | nil =>
    rw [show separate (([] : List α).map write) ++ 0x5D :: rest = 0x5D :: rest from rfl,
      run_bind_of_ok (run_peekToken rfl rest)]
    rfl
  | cons a items =>
    have hends : Ends ((items.map write).flatMap (0x2C :: ·) ++ 0x5D :: rest) :=
      ends_separated _ (.inl rfl) rest
    rw [List.map_cons, separate_cons, List.append_assoc]
    obtain ⟨b, hpeek, hne, -⟩ := run_peekToken_of_opens
      ((hopens a List.mem_cons_self).append ((items.map write).flatMap (0x2C :: ·) ++ 0x5D :: rest))
    rw [run_bind_of_ok hpeek]
    dsimp only
    rw [if_neg (by simpa using hne)]
    refine (run_bind_of_ok (hreads a List.mem_cons_self _ hends)).trans ?_
    exact run_loop_readListStep [f a] items (fun x hx => hopens x (List.mem_cons_of_mem _ hx))
      (fun x hx => hreads x (List.mem_cons_of_mem _ hx)) rest

end Reader

end ManagedAgent.Wire
