import ManagedAgent.Proofs.Wire.Finite
import ManagedAgent.Proofs.Wire.Grammar

/-!
# Whatever is accepted is a document

No reader of values accepts a text that is not one of a document, and none takes more of a text than
one document.

* `IsDoc`, `IsElements`, `IsMembers` : texts of documents, and what is left of them behind a bracket;
* `Codec.TakesDocs` : the codec takes documents, and nothing else;
* `takesDocs_list`, `takesDocs_map`, `takesDocs_optional` : the codecs of containers, from their parts.
-/

set_option autoImplicit false

namespace ManagedAgent.Wire

open ManagedAgent.Wire.Reader

/-! ## Blanks before a text -/

theorem blanks_append {blanks blanks' : Bytes} (h : Blanks blanks) (h' : Blanks blanks') :
    Blanks (blanks ++ blanks') := fun b hb => (List.mem_append.1 hb).elim (h b) (h' b)

theorem Spaced.blanks {x : Bytes} {xs : List Bytes} {blanks t : Bytes} (hblanks : Blanks blanks)
    (h : Spaced (x :: xs) t) : Spaced (x :: xs) (blanks ++ t) := by
  obtain ⟨blanks', s, rfl, hblanks', hs⟩ := spaced_cons_iff.1 h
  rw [← List.append_assoc]
  exact .cons (blanks_append hblanks hblanks') hs

def IsDoc (t : Bytes) : Prop := ∃ d : Doc, Spaced d.tokens t

/-- The rest of a list, behind its opening bracket. -/
def IsElements (t : Bytes) : Prop :=
  ∃ items : List Doc, Spaced (content 0x5D (items.map Doc.tokens)) t

/-- The rest of an object, behind its opening bracket. -/
def IsMembers (t : Bytes) : Prop :=
  ∃ members : List (Key × Doc), Spaced (content 0x7D (members.map Doc.memberTokens)) t

/-- What follows the key of a member. -/
def IsValue (t : Bytes) : Prop :=
  ∃ blanks value, t = blanks ++ 0x3A :: value ∧ Blanks blanks ∧ IsDoc value

/-- Blanks before such a text do not matter. -/
def Padded (P : Bytes → Prop) : Prop := ∀ blanks t, Blanks blanks → P t → P (blanks ++ t)

theorem padded_isDoc : Padded IsDoc := by
  rintro blanks t hblanks ⟨d, hd⟩
  obtain ⟨r, ts, htokens⟩ := d.exists_first
  exact ⟨d, htokens ▸ (htokens ▸ hd : Spaced _ t).blanks hblanks⟩

theorem padded_isElements : Padded IsElements := by
  rintro blanks t hblanks ⟨items, ht⟩
  refine ⟨items, ?_⟩
  cases items with
  | nil => exact Spaced.blanks hblanks ht
  | cons d items =>
    obtain ⟨r, ts, htokens⟩ := d.exists_first
    rw [List.map_cons, content, htokens] at ht ⊢
    exact Spaced.blanks hblanks ht

theorem padded_isMembers : Padded IsMembers := by
  rintro blanks t hblanks ⟨members, ht⟩
  refine ⟨members, ?_⟩
  cases members with
  | nil => exact Spaced.blanks hblanks ht
  | cons m members => exact Spaced.blanks hblanks ht

theorem isDoc_scalar {t : Bytes} (h : IsScalar t) : IsDoc t :=
  ⟨.scalar t h, spaced_scalar_iff.2 ⟨[], rfl, blanks_nil⟩⟩

theorem IsElements.isDoc {t : Bytes} (h : IsElements t) : IsDoc (0x5B :: t) := by
  obtain ⟨items, ht⟩ := h
  exact ⟨.list items, Doc.tokens_list items ▸ .cons blanks_nil ht⟩

theorem IsMembers.isDoc {t : Bytes} (h : IsMembers t) : IsDoc (0x7B :: t) := by
  obtain ⟨members, ht⟩ := h
  exact ⟨.object members, Doc.tokens_object members ▸ .cons blanks_nil ht⟩

namespace Reader
variable {α β σ : Type} {P Q : Bytes → Prop}

/-- What two readers take, one after the other. -/
theorem exists_of_consumes_bind {p : Reader α} {f : α → Reader β} (hp : p.Consumes P)
    (hf : ∀ a, (f a).Consumes Q) {s r : Bytes} {b : β} (h : accept (p >>= f) s = some (b, r)) :
    ∃ x y, s = x ++ (y ++ r) ∧ P x ∧ Q y := by
  obtain ⟨a, s', ha, hb⟩ := exists_of_accept_bind h
  obtain ⟨x, rfl, hx⟩ := hp ha
  obtain ⟨y, rfl, hy⟩ := hf a hb
  exact ⟨x, y, rfl, hx, hy⟩

theorem exists_of_accept_peekToken {k : Option UInt8 → Reader α} {s r : Bytes} {a : α}
    (h : accept (peekToken >>= k) s = some (a, r)) :
    ∃ blanks s', s = blanks ++ s' ∧ Blanks blanks ∧ accept (k s'.head?) s' = some (a, r) := by
  rw [accept_bind, accept_peekToken_eq, Option.bind_some] at h
  exact ⟨s.takeWhile isBlank, _, List.takeWhile_append_dropWhile.symm,
    List.all_eq_true.1 List.all_takeWhile, h⟩

/-- What a reader takes that looks at the next token first. -/
theorem consumes_peekToken (hP : Padded P) {k : Option UInt8 → Reader α}
    (h : ∀ s r a, accept (k s.head?) s = some (a, r) → ∃ t, s = t ++ r ∧ P t) :
    (peekToken >>= k).Consumes P := by
  intro s r a hread
  obtain ⟨blanks, s', rfl, hblanks, hk⟩ := exists_of_accept_peekToken hread
  obtain ⟨t, rfl, ht⟩ := h s' r a hk
  exact ⟨blanks ++ t, by simp, hP blanks t hblanks ht⟩

theorem consumes_expectToken (b : UInt8) :
    (expectToken b).Consumes fun t => ∃ blanks, t = blanks ++ [b] ∧ Blanks blanks := by
  intro s r u hread
  unfold expectToken at hread
  obtain ⟨_, s', hblanks, hb⟩ := exists_of_accept_bind hread
  rw [accept_discard, accept_peekToken_eq] at hblanks
  cases hblanks
  refine ⟨s.takeWhile isBlank ++ [b], ?_, _, rfl, List.all_eq_true.1 List.all_takeWhile⟩
  rw [List.append_assoc, List.singleton_append, ← exists_of_accept_expect hb,
    List.takeWhile_append_dropWhile]

theorem length_rest_accept {p : Reader α} {s r : Bytes} {a : α} (h : accept p s = some (a, r)) :
    r.length ≤ s.length := ManagedAgent.Reader.length_rest_le p (run_of_accept h)

/-- One round of a loop. -/
theorem exists_of_accept_loop {step : σ → UInt8 → Reader (σ ⊕ α)} {state : σ} {s r : Bytes} {a : α}
    (h : accept (loop step state) s = some (a, r)) :
    ∃ blanks b s', s = blanks ++ b :: s' ∧ Blanks blanks ∧
      (accept (step state b) s' = some (.inr a, r) ∨
        ∃ state' s'', accept (step state b) s' = some (.inl state', s'') ∧
          accept (loop step state') s'' = some (a, r)) := by
  unfold accept at h
  rw [run_loop] at h
  cases hs : s.dropWhile isBlank with
  | nil =>
    rw [hs] at h
    cases h
  | cons b s' =>
    rw [hs] at h
    refine ⟨s.takeWhile isBlank, b, s', by rw [← hs, List.takeWhile_append_dropWhile],
      List.all_eq_true.1 List.all_takeWhile, ?_⟩
    unfold accept
    dsimp only at h
    cases hstep : ManagedAgent.Reader.run (step state b) s' with
    | error e =>
      rw [hstep] at h
      cases h
    | ok x =>
      rw [hstep] at h
      obtain ⟨state' | a', t⟩ := x
      · exact .inr ⟨state', t, rfl, h⟩
      · cases h
        exact .inl rfl

end Reader

/-! ## Scalars -/

section
variable {α : Type}

theorem takesDoc_readAs (project : Scalar → Option α) : (readAs project).Consumes IsDoc := by
  refine consumes_peekToken padded_isDoc fun s r a hread => ?_
  rw [accept_ite] at hread
  split at hread
  · cases hread
  · exact ((consumes_readScalar.mono fun _ ht => isDoc_scalar ht).orMismatch project) hread

end

/-! ## Lists and objects -/

def IsElementsTail (t : Bytes) : Prop :=
  ∃ items : List Doc, Spaced (remainder 0x5D (items.map Doc.tokens)) t

def IsMembersTail (t : Bytes) : Prop :=
  ∃ members : List (Key × Doc), Spaced (remainder 0x7D (members.map Doc.memberTokens)) t

def IsMember (t : Bytes) : Prop := ∃ m : Key × Doc, Spaced (Doc.memberTokens m) t

section Parts
variable {blanks x y : Bytes}

theorem isElementsTail_nil (h : Blanks blanks) : IsElementsTail (blanks ++ [0x5D]) :=
  ⟨[], spaced_remainder_nil_iff.2 ⟨blanks, rfl, h⟩⟩

theorem isElementsTail_cons (h : Blanks blanks) (hx : IsDoc x) (hy : IsElementsTail y) :
    IsElementsTail (blanks ++ 0x2C :: (x ++ y)) := by
  obtain ⟨d, hd⟩ := hx
  obtain ⟨items, hitems⟩ := hy
  exact ⟨d :: items, spaced_remainder_cons_iff.2 ⟨blanks, x, y, rfl, h, hd, hitems⟩⟩

theorem isElements_nil (h : Blanks blanks) : IsElements (blanks ++ [0x5D]) :=
  ⟨[], spaced_remainder_nil_iff.2 ⟨blanks, rfl, h⟩⟩

theorem isElements_cons (hx : IsDoc x) (hy : IsElementsTail y) : IsElements (x ++ y) := by
  obtain ⟨d, hd⟩ := hx
  obtain ⟨items, hitems⟩ := hy
  exact ⟨d :: items, spaced_append.2 ⟨x, y, rfl, hd, hitems⟩⟩

theorem isMember_append (hx : IsText x) (hy : IsValue y) : IsMember (x ++ y) := by
  obtain ⟨blanks, value, rfl, hblanks, d, hd⟩ := hy
  exact ⟨(⟨x, hx⟩, d), spaced_member_iff.2 ⟨[], blanks, value, rfl, blanks_nil, hblanks, hd⟩⟩

theorem IsMember.padded : Padded IsMember := by
  rintro blanks t hblanks ⟨m, hm⟩
  exact ⟨m, Spaced.blanks hblanks hm⟩

theorem isMembersTail_nil (h : Blanks blanks) : IsMembersTail (blanks ++ [0x7D]) :=
  ⟨[], spaced_remainder_nil_iff.2 ⟨blanks, rfl, h⟩⟩

theorem isMembersTail_cons (h : Blanks blanks) (hx : IsMember x) (hy : IsMembersTail y) :
    IsMembersTail (blanks ++ 0x2C :: (x ++ y)) := by
  obtain ⟨m, hm⟩ := hx
  obtain ⟨members, hmembers⟩ := hy
  exact ⟨m :: members, spaced_remainder_cons_iff.2 ⟨blanks, x, y, rfl, h, hm, hmembers⟩⟩

theorem isMembers_nil (h : Blanks blanks) : IsMembers (blanks ++ [0x7D]) :=
  ⟨[], spaced_remainder_nil_iff.2 ⟨blanks, rfl, h⟩⟩

theorem isMembers_cons (hx : IsMember x) (hy : IsMembersTail y) : IsMembers (x ++ y) := by
  obtain ⟨m, hm⟩ := hx
  obtain ⟨members, hmembers⟩ := hy
  exact ⟨m :: members, spaced_append.2 ⟨x, y, rfl, hm, hmembers⟩⟩

end Parts

section Containers
variable {α δ : Type}

/-- Behind an element a list ends, or a comma and another element are taken. -/
theorem exists_of_accept_readListStep {item : Reader α} (h : item.Consumes IsDoc) {before : List α}
    {b : UInt8} {s r : Bytes} {x : List α ⊕ List α}
    (hread : accept (readListStep item before b) s = some (x, r)) :
    (b = 0x5D ∧ r = s ∧ ∃ as, x = .inr as) ∨
      (b = 0x2C ∧ ∃ t, s = t ++ r ∧ IsDoc t ∧ ∃ before', x = .inl before') := by
  unfold readListStep at hread
  rw [accept_ite] at hread
  split at hread
  · next hend =>
    cases hread
    exact .inl ⟨eq_of_beq hend, rfl, _, rfl⟩
  rw [accept_ite] at hread
  split at hread
  · next hcomma =>
    refine .inr ⟨eq_of_beq hcomma, ?_⟩
    obtain ⟨blanks, s', rfl, hblanks, hmore⟩ := exists_of_accept_peekToken hread
    cases hhead : s'.head? with
    | none =>
      rw [hhead] at hmore
      cases hmore
    | some c =>
      rw [hhead] at hmore
      dsimp only at hmore
      rw [accept_ite] at hmore
      split at hmore
      · cases hmore
      · obtain ⟨a, s₁, hitem, hend⟩ := exists_of_accept_bind hmore
        cases hend
        obtain ⟨t, rfl, ht⟩ := h hitem
        exact ⟨blanks ++ t, by simp, padded_isDoc blanks t hblanks ht, _, rfl⟩
  · cases hread

theorem consumes_loop_readListStep {item : Reader α} (h : item.Consumes IsDoc) (before : List α) :
    Consumes (loop (readListStep item) before) IsElementsTail := by
  intro s r as hread
  induction hlen : s.length using Nat.strongRecOn generalizing s before with
  | ind n ih =>
    subst hlen
    obtain ⟨blanks, b, s', rfl, hblanks, hround | ⟨state, s'', hround, hmore⟩⟩ :=
      exists_of_accept_loop hread
    · rcases exists_of_accept_readListStep h hround with ⟨rfl, rfl, -⟩ | ⟨-, t, -, -, _, hx⟩
      · exact ⟨blanks ++ [0x5D], by simp, isElementsTail_nil hblanks⟩
      · cases hx
    · rcases exists_of_accept_readListStep h hround with ⟨-, -, _, hx⟩ | ⟨rfl, t, rfl, ht, -⟩
      · cases hx
      · obtain ⟨t', rfl, ht'⟩ := ih s''.length (by simp; omega) state hmore rfl
        exact ⟨blanks ++ 0x2C :: (t ++ t'), by simp, isElementsTail_cons hblanks ht ht'⟩

theorem consumes_readList {item : Reader α} (h : item.Consumes IsDoc) :
    (readList item).Consumes IsElements := by
  refine consumes_peekToken padded_isElements fun s r as hread => ?_
  cases s with
  | nil => cases hread
  | cons b s =>
    rw [List.head?_cons] at hread
    dsimp only at hread
    rw [accept_ite] at hread
    split at hread
    · next hend =>
      cases hread
      exact ⟨[b], rfl, eq_of_beq hend ▸ isElements_nil blanks_nil⟩
    · obtain ⟨x, y, heq, hx, hy⟩ :=
        exists_of_consumes_bind h (fun a => consumes_loop_readListStep h [a]) hread
      exact ⟨x ++ y, by simp [heq], isElements_cons hx hy⟩

/-- What is taken behind every key is a value, for drafts that satisfy an invariant. -/
structure TakesValues (I : δ → Prop) (p : String → δ → Reader δ) : Prop where
  takes : ∀ {key draft}, I draft → (p key draft).Consumes IsValue
  keeps : ∀ {key draft}, I draft → (p key draft).Yields I

variable {I : δ → Prop} {p : String → δ → Reader δ} {draft : δ}

theorem consumes_readMember (h : TakesValues I p) (hI : I draft) :
    (readMember p draft).Consumes fun t => IsMember (0x22 :: t) := by
  intro s r draft' hread
  obtain ⟨x, y, rfl, hx, hy⟩ :=
    exists_of_consumes_bind consumes_readText (fun key => h.takes hI) hread
  exact ⟨x ++ y, by simp, isMember_append hx.isText hy⟩

theorem yields_readMember (h : TakesValues I p) (hI : I draft) : (readMember p draft).Yields I :=
  yields_bind fun _ => h.keeps hI

/-- Behind a member an object ends, or a comma and another member are taken. -/
theorem exists_of_accept_readObjectStep (h : TakesValues I p) (hI : I draft) {b : UInt8}
    {s r : Bytes} {x : δ ⊕ δ} (hread : accept (readObjectStep p draft b) s = some (x, r)) :
    (b = 0x7D ∧ r = s ∧ ∃ draft', x = .inr draft') ∨
      (b = 0x2C ∧ ∃ t, s = t ++ r ∧ IsMember t ∧ ∃ draft', x = .inl draft' ∧ I draft') := by
  unfold readObjectStep at hread
  rw [accept_ite] at hread
  split at hread
  · next hend =>
    cases hread
    exact .inl ⟨eq_of_beq hend, rfl, _, rfl⟩
  rw [accept_ite] at hread
  split at hread
  · next hcomma =>
    refine .inr ⟨eq_of_beq hcomma, ?_⟩
    obtain ⟨blanks, s', rfl, hblanks, hmore⟩ := exists_of_accept_peekToken hread
    cases s' with
    | nil => cases hmore
    | cons c s' =>
      rw [List.head?_cons] at hmore
      dsimp only at hmore
      rw [accept_ite] at hmore
      split at hmore
      · next hquote =>
        obtain rfl := eq_of_beq hquote
        obtain ⟨draft', s₂, hmember, hend⟩ :=
          exists_of_accept_bind ((accept_advance_bind _ _ _).symm.trans hmore)
        cases hend
        have hI' := yields_readMember h hI (run_of_accept hmember)
        obtain ⟨t, rfl, ht⟩ := consumes_readMember h hI hmember
        exact ⟨blanks ++ 0x22 :: t, by simp, IsMember.padded blanks _ hblanks ht, _, rfl, hI'⟩
      · cases hmore
  · cases hread

theorem consumes_loop_readObjectStep (h : TakesValues I p) (hI : I draft) :
    Consumes (loop (readObjectStep p) draft) IsMembersTail := by
  intro s r draft' hread
  induction hlen : s.length using Nat.strongRecOn generalizing s draft with
  | ind n ih =>
    subst hlen
    obtain ⟨blanks, b, s', rfl, hblanks, hround | ⟨state, s'', hround, hmore⟩⟩ :=
      exists_of_accept_loop hread
    · rcases exists_of_accept_readObjectStep h hI hround with ⟨rfl, rfl, -⟩ | ⟨-, t, -, -, _, hx, -⟩
      · exact ⟨blanks ++ [0x7D], by simp, isMembersTail_nil hblanks⟩
      · cases hx
    · rcases exists_of_accept_readObjectStep h hI hround with
        ⟨-, -, _, hx⟩ | ⟨rfl, t, rfl, ht, _, hx, hI'⟩
      · cases hx
      · cases hx
        obtain ⟨t', rfl, ht'⟩ := ih s''.length (by simp; omega) hI' hmore rfl
        exact ⟨blanks ++ 0x2C :: (t ++ t'), by simp, isMembersTail_cons hblanks ht ht'⟩

theorem consumes_readObject (h : TakesValues I p) (hI : I draft) :
    (readObject p draft).Consumes IsMembers := by
  refine consumes_peekToken padded_isMembers fun s r draft' hread => ?_
  cases s with
  | nil => cases hread
  | cons b s =>
    have hmore := (accept_advance_bind _ _ _).symm.trans hread
    rw [accept_ite] at hmore
    split at hmore
    · next hend =>
      cases hmore
      exact ⟨[b], rfl, eq_of_beq hend ▸ isMembers_nil blanks_nil⟩
    rw [accept_ite] at hmore
    split at hmore
    · next hquote =>
      obtain rfl := eq_of_beq hquote
      obtain ⟨draft', s', hmember, hloop⟩ := exists_of_accept_bind hmore
      have hI' := yields_readMember h hI (run_of_accept hmember)
      obtain ⟨x, rfl, hx⟩ := consumes_readMember h hI hmember
      obtain ⟨y, rfl, hy⟩ := consumes_loop_readObjectStep h hI' hloop
      exact ⟨0x22 :: x ++ y, by simp, isMembers_cons hx hy⟩
    · cases hmore

/-- An object of whose drafts nothing has to be known. -/
theorem consumes_readObject_of_forall (h : ∀ key draft, (p key draft).Consumes IsValue) (draft : δ) :
    (readObject p draft).Consumes IsMembers :=
  consumes_readObject (I := fun _ => True) ⟨fun _ => h _ _, fun _ => yields_true _⟩ trivial

/-- What is read behind an opening bracket. -/
theorem exists_of_accept_enter {P : Bytes → Prop} {q : Reader α} (h : q.Consumes P) {depth : Nat}
    {b : UInt8} {s r : Bytes} {a : α} (hhead : (s.head? == some b) = true)
    (hread : accept (enter depth >>= fun _ => q) s = some (a, r)) :
    ∃ t, s = b :: t ++ r ∧ P t := by
  cases s with
  | nil => cases hhead
  | cons c s =>
    obtain rfl : c = b := by simpa using hhead
    obtain ⟨_, s', hbracket, hq⟩ := exists_of_accept_bind hread
    unfold enter at hbracket
    rw [accept_ite] at hbracket
    split at hbracket
    · cases hbracket
      obtain ⟨t, heq, ht⟩ := h hq
      exact ⟨t, congrArg (c :: ·) heq, ht⟩
    · cases hbracket

/-- A value behind a colon. -/
theorem consumes_colon {q : Reader α} (h : q.Consumes IsDoc) :
    (expectToken 0x3A >>= fun _ => q).Consumes IsValue := by
  intro s r a hread
  obtain ⟨_, y, heq, ⟨blanks, rfl, hblanks⟩, hy⟩ :=
    exists_of_consumes_bind (consumes_expectToken 0x3A) (fun _ => h) hread
  exact ⟨blanks ++ 0x3A :: y, by simp [heq], blanks, y, rfl, hblanks, hy⟩

end Containers

/-! ## Codecs -/

def Codec.TakesDocs {α : Type} (c : Codec α) : Prop := ∀ depth, (c.read depth).Consumes IsDoc

namespace Codec
variable {α : Type}

theorem takesDocs_list {item : Codec α} (h : item.TakesDocs) : (list item).TakesDocs := fun depth =>
  consumes_peekToken padded_isDoc fun s r as hread => by
    rw [accept_ite] at hread
    split at hread
    · next hhead =>
      obtain ⟨t, heq, ht⟩ := exists_of_accept_enter (consumes_readList (h (depth + 1))) hhead hread
      exact ⟨0x5B :: t, heq, ht.isDoc⟩
    · exact takesDoc_readAs _ hread

theorem takesDocs_map {value : Codec α} (h : value.TakesDocs) : (map value).TakesDocs := fun depth =>
  consumes_peekToken padded_isDoc fun s r m hread => by
    rw [accept_ite] at hread
    split at hread
    · next hhead =>
      have hmember (key : String) (before : NameMap α) :
          (expectToken 0x3A >>= fun _ => value.read (depth + 1) >>= fun a =>
            pure (before.insert key a)).Consumes IsValue :=
        consumes_colon ((h (depth + 1)).map (before.insert key ·))
      obtain ⟨t, heq, ht⟩ := exists_of_accept_enter (consumes_readObject_of_forall hmember .empty) hhead hread
      exact ⟨0x7B :: t, heq, ht.isDoc⟩
    · exact takesDoc_readAs _ hread

theorem takesDocs_optional {value : Codec α} (h : value.TakesDocs) :
    value.optional.TakesDocs := fun depth =>
  consumes_peekToken padded_isDoc fun s r o hread => by
    rw [accept_ite] at hread
    split at hread
    · next hhead =>
      cases s with
      | nil => cases hhead
      | cons b s =>
        obtain rfl : b = 0x6E := by simpa using hhead
        obtain ⟨t, heq, rfl⟩ := ((consumes_readLiteral _).map fun _ => none).advance hread
        exact ⟨_, heq, isDoc_scalar .null⟩
    · exact (h depth).map some hread

/-- A text that is read, with blanks before it. -/
theorem consumes_readAs_textOnly : (readAs readNamed.textOnly).Consumes fun t =>
    ∃ blanks token, t = blanks ++ token ∧ Blanks blanks ∧ IsText token := by
  intro s r string hread
  obtain ⟨blanks, s', rfl, hblanks, h⟩ := exists_of_accept_peekToken hread
  rw [accept_ite] at h
  split at h
  · cases h
  · obtain ⟨v, s'', hv, hproject⟩ := exists_of_accept_bind h
    obtain ⟨hstring, rfl⟩ := eq_of_accept_orMismatch hproject
    obtain ⟨t, rfl, -, ht⟩ := exists_of_accept_readScalar hv
    cases v with
    | text string' => exact ⟨blanks ++ t, by simp, blanks, t, rfl, hblanks, ht string' rfl⟩
    | null | bool | number => cases hstring

/-- A name in an object, behind its opening bracket. -/
theorem consumes_named_object (name : α → String) (all : List α) (depth : Nat) :
    (readAs readNamed.textOnly >>= fun key => orMismatch (named? name all key) >>= fun a =>
      expectToken 0x3A >>= fun _ => null.read (depth + 1) >>= fun _ => expectToken 0x7D >>= fun _ =>
        (pure a : Reader α)).Consumes IsMembers := by
  intro s r a hread
  obtain ⟨key, s₁, hkey, hname⟩ := exists_of_accept_bind hread
  obtain ⟨a', s₂, ha', hmember⟩ := exists_of_accept_bind hname
  obtain ⟨_, s₃, hcolon, hvalue⟩ := exists_of_accept_bind hmember
  obtain ⟨_, s₄, hnull, hend⟩ := exists_of_accept_bind hvalue
  obtain ⟨_, s₅, hclose, hpure⟩ := exists_of_accept_bind hend
  cases hpure
  obtain ⟨-, rfl⟩ := eq_of_accept_orMismatch ha'
  obtain ⟨_, rfl, blanks, token, rfl, hblanks, htoken⟩ := consumes_readAs_textOnly hkey
  obtain ⟨_, rfl, blanks', rfl, hblanks'⟩ := consumes_expectToken _ hcolon
  obtain ⟨t, rfl, ht⟩ := takesDoc_readAs _ hnull
  obtain ⟨_, rfl, blanks'', rfl, hblanks''⟩ := consumes_expectToken _ hclose
  have hmember : IsMember (token ++ (blanks' ++ 0x3A :: t)) :=
    isMember_append htoken ⟨blanks', t, rfl, hblanks', ht⟩
  exact ⟨blanks ++ (token ++ (blanks' ++ 0x3A :: t)) ++ (blanks'' ++ [0x7D]), by simp,
    isMembers_cons (IsMember.padded blanks _ hblanks hmember) (isMembersTail_nil hblanks'')⟩

theorem takesDoc_readNamed (name : α → String) (all : List α) (depth : Nat) :
    (readNamed name all depth).Consumes IsDoc := by
  refine consumes_peekToken padded_isDoc fun s r a hread => ?_
  cases s with
  | nil => cases hread
  | cons b s =>
    rw [List.head?_cons] at hread
    dsimp only at hread
    rw [accept_ite] at hread
    split at hread
    · exact (takesDoc_readAs readNamed.textOnly).orMismatch (named? name all) hread
    rw [accept_ite] at hread
    split at hread
    · next hopen =>
      obtain ⟨t, heq, ht⟩ := exists_of_accept_enter (consumes_named_object name all depth)
        (b := 0x7B) (by simpa using hopen) hread
      exact ⟨0x7B :: t, heq, ht.isDoc⟩
    · cases hread

theorem takesDocs_enumeration (name : α → String) (all : List α) :
    (enumeration name all).toCodec.TakesDocs := takesDoc_readNamed name all

end Codec

/-! ## Values of unknown type -/

theorem consumes_readBufferedWith {inner? : Option (Reader Buffered)}
    (h : ∀ inner ∈ inner?, inner.Consumes IsDoc) : (readBufferedWith inner?).Consumes IsDoc := by
  refine consumes_peekToken padded_isDoc fun s r kept hread => ?_
  cases s with
  | nil => cases hread
  | cons b s =>
    rw [List.head?_cons] at hread
    dsimp only at hread
    split at hread
    · next hopen =>
      cases inner? with
      | none => cases hread
      | some inner =>
        have hinner := h inner rfl
        have hmore := (accept_advance_bind _ _ _).symm.trans hread
        split at hmore
        · next hlist =>
          obtain ⟨t, rfl, ht⟩ := (consumes_readList hinner).map Buffered.list hmore
          exact ⟨b :: t, rfl, eq_of_beq hlist ▸ ht.isDoc⟩
        · next hlist =>
          have hmember (key : String) (before : List (String × Buffered)) :
              (expectToken 0x3A >>= fun _ => inner >>= fun kept =>
                pure ((key, kept) :: before)).Consumes IsValue :=
            consumes_colon (hinner.map fun kept => (key, kept) :: before)
          have hobject : b = 0x7B := by
            rw [Bool.or_eq_true] at hopen
            exact eq_of_beq (hopen.resolve_left hlist)
          obtain ⟨t, rfl, ht⟩ := (consumes_readObject_of_forall hmember []).map
            (fun members => Buffered.object members.reverse) hmore
          exact ⟨b :: t, rfl, hobject ▸ ht.isDoc⟩
    · obtain ⟨t, heq, ht⟩ := consumes_readScalar.map Buffered.scalar hread
      exact ⟨t, heq, isDoc_scalar ht⟩

theorem takesDoc_readBuffered (room : Nat) : (readBuffered room).Consumes IsDoc := by
  induction room with
  | zero => exact consumes_readBufferedWith nofun
  | succ room ih => exact consumes_readBufferedWith fun inner hinner => by cases hinner; exact ih

end ManagedAgent.Wire
