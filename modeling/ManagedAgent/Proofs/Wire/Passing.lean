import ManagedAgent.Proofs.Wire.Tokens

/-!
# Every document is passed over

`skipValue` takes any value off the front of a text, however deeply nested, whatever its numbers and
texts are.

* `accept_skipText`, `accept_skipNumber` : what is checked of a scalar is its form;
* `accept_skipValue` : no document is refused.
-/

set_option autoImplicit false

namespace ManagedAgent.Wire

open ManagedAgent.Wire.Reader

/-! ## Scalars -/

theorem run_skipText_quote (rest : Bytes) : skipText.run (0x22 :: rest) = .ok ((), rest) := by
  unfold ManagedAgent.Reader.run
  rw [skipText, if_pos (beq_self_eq_true 0x22)]

theorem run_skipText_plain {b : UInt8} (hquote : b ≠ 0x22) (hslash : b ≠ 0x5C)
    (hcontrol : ¬ b < 0x20) (rest : Bytes) : skipText.run (b :: rest) = skipText.run rest := by
  unfold ManagedAgent.Reader.run
  rw [skipText, if_neg (by simpa using hquote), if_neg (by simpa using hslash), if_neg hcontrol]
  unfold ManagedAgent.Reader.widen
  cases skipText rest <;> rfl

theorem accept_skipText_slash (r : Bytes) :
    accept skipText (0x5C :: r) = (accept skipEscape r).bind fun x => accept skipText x.2 := by
  unfold accept ManagedAgent.Reader.run
  rw [skipText, if_neg (by decide), if_pos (beq_self_eq_true 0x5C)]
  cases (skipEscape r : Except Failure (Unit × Rest r)) with
  | error e => rfl
  | ok x =>
    obtain ⟨-, t⟩ := x
    exact congrArg Except.toOption (ManagedAgent.Reader.run_widen skipText (Nat.le_succ_of_le t.2))

theorem accept_skipText {quoted : Bytes} (h : IsQuoted quoted) (rest : Bytes) :
    accept skipText (quoted ++ 0x22 :: rest) = some ((), rest) := by
  induction h with
  | nil => exact accept_of_run (run_skipText_quote rest)
  | plain hb _ ih =>
    rw [← ih]
    exact accept_congr (run_skipText_plain hb.2.1 hb.2.2 (UInt8.not_lt.2 hb.1) _)
  | @letter c more hc _ ih =>
    obtain ⟨hne, hsome⟩ := unescape?_isSome hc
    have hescape (r : Bytes) : accept skipEscape (c :: r) = some ((), r) := by
      unfold skipEscape
      rw [accept_bind, accept_next, Option.bind_some, accept_ite, if_neg (by simpa using hne),
        accept_ite, if_pos hsome, accept_pure]
    rw [List.cons_append, accept_skipText_slash, List.cons_append, hescape]
    exact ih
  | @code a b c d more hs _ ih =>
    obtain ⟨n, hn⟩ := exists_accept_readHex hs
    have hescape (r : Bytes) : accept skipEscape (0x75 :: a :: b :: c :: d :: r) = some ((), r) := by
      unfold skipEscape
      rw [accept_bind, accept_next, Option.bind_some, accept_ite, if_pos (beq_self_eq_true _),
        accept_discard, hn]
      rfl
    rw [List.cons_append, accept_skipText_slash]
    simp only [List.cons_append]
    rw [hescape]
    exact ih

theorem dropWhile_isDigit {ds rest : Bytes} (hds : Digits ds) (hrest : Stops rest) :
    (ds ++ rest).dropWhile isDigit = rest := by
  rw [List.dropWhile_append_of_pos hds]
  cases rest with
  | nil => rfl
  | cons b rest => exact List.dropWhile_cons_of_neg (by simp [hrest b rfl])

theorem accept_skipDigit {b : UInt8} (hb : isDigit b = true) (r : Bytes) :
    accept skipDigit (b :: r) = some (b, r) := by
  have hdigit : (some b).filter isDigit = some b := by simp [Option.filter, hb]
  unfold skipDigit
  simp [hdigit]

theorem accept_skipDigits {α : Type} {ds rest : Bytes} (hne : ds ≠ []) (hds : Digits ds)
    (hrest : Stops rest) (p : Unit → Reader α) :
    accept (discard skipDigit >>= fun _ => ManagedAgent.Reader.dropWhile isDigit >>= p)
      (ds ++ rest) = accept (p ()) rest := by
  obtain ⟨d, more, rfl⟩ := List.exists_cons_of_ne_nil hne
  have hmore : Digits more := fun c hc => hds c (List.mem_cons_of_mem _ hc)
  rw [accept_bind, List.cons_append, accept_discard, accept_skipDigit (hds d List.mem_cons_self)]
  simp [dropWhile_isDigit hmore hrest]

theorem Stops.any_head? {rest : Bytes} (h : Stops rest) : rest.head?.any isDigit = false := by
  cases hhead : rest.head? with
  | none => rfl
  | some b => exact h b hhead

def skipExponent : Reader Unit := do
  let b ← ManagedAgent.Reader.peek
  if b == some 0x65 || b == some 0x45 then
    ManagedAgent.Reader.advance
    discard readSign
    discard skipDigit
    ManagedAgent.Reader.dropWhile isDigit

def skipFraction : Reader Unit := do
  if (← ManagedAgent.Reader.peek) == some 0x2E then
    ManagedAgent.Reader.advance
    discard skipDigit
    ManagedAgent.Reader.dropWhile isDigit
  skipExponent

def skipDigits (first : UInt8) : Reader Unit := do
  if first == 0x30 then
    if (← ManagedAgent.Reader.peek).any isDigit then ManagedAgent.Reader.fail .malformed
  else ManagedAgent.Reader.dropWhile isDigit
  skipFraction

theorem accept_skipNumber_eq (first : UInt8) (s : Bytes) : accept (skipNumber first) s =
    if first = 0x2D then (accept skipDigit s).bind fun x => accept (skipDigits x.1) x.2
    else accept (skipDigits first) s := by
  unfold skipNumber
  by_cases h : first = 0x2D
  · rw [if_pos h]
    simp only [h, beq_self_eq_true, if_true]
    rw [accept_bind]
    rfl
  · rw [if_neg h]
    simp only [beq_eq_false_iff_ne.2 h, Bool.false_eq_true, if_false]
    rw [accept_bind, accept_pure]
    rfl

theorem accept_skipExponent {exponent rest : Bytes} (h : IsExponent exponent)
    (hrest : EndsNumber rest) : accept skipExponent (exponent ++ rest) = some ((), rest) := by
  unfold skipExponent
  rw [accept_bind, accept_peek, Option.bind_some]
  cases h with
  | absent =>
    have hnone : (rest.head? == some 0x65 || rest.head? == some 0x45) = false := by
      rw [Bool.or_eq_false_iff, beq_eq_false_iff_ne, beq_eq_false_iff_ne]
      exact ⟨fun h => (hrest.noExponent _ h).1 rfl, fun h => (hrest.noExponent _ h).2 rfl⟩
    rw [List.nil_append, hnone]
    rfl
  | @present e sign ds he hsign hne hds =>
    have hmark : (((e :: (sign ++ ds)) ++ rest).head? == some 0x65 ||
        ((e :: (sign ++ ds)) ++ rest).head? == some 0x45) = true := by
      rcases he with rfl | rfl <;> rfl
    have hsigned : accept (discard readSign) (sign ++ (ds ++ rest)) = some ((), ds ++ rest) := by
      rw [accept_discard]
      rcases hsign with rfl | rfl | rfl
      · obtain ⟨d, more, rfl⟩ := List.exists_cons_of_ne_nil hne
        rw [List.nil_append, List.cons_append,
          accept_of_run (run_readSign_none (hds d List.mem_cons_self))]
        rfl
      · rw [List.singleton_append, accept_of_run (run_readSign (.inl rfl) _)]
        rfl
      · rw [List.singleton_append, accept_of_run (run_readSign (.inr rfl) _)]
        rfl
    have hdigits := accept_skipDigits hne hds hrest.stops (pure : Unit → Reader Unit)
    simp only [hmark, if_true]
    rw [List.cons_append, accept_advance_bind, List.append_assoc, accept_bind, hsigned,
      Option.bind_some]
    simpa using hdigits

theorem accept_skipFraction {fraction exponent rest : Bytes} (hf : IsFraction fraction)
    (he : IsExponent exponent) (hrest : EndsNumber rest) :
    accept skipFraction (fraction ++ (exponent ++ rest)) = some ((), rest) := by
  have hstops := he.stops hrest
  unfold skipFraction
  rw [accept_bind, accept_peek, Option.bind_some]
  cases hf with
  | absent =>
    simp only [List.nil_append, beq_eq_false_iff_ne.2 hstops.2, Bool.false_eq_true, if_false]
    exact accept_skipExponent he hrest
  | @present ds hne hds =>
    have hdigits := accept_skipDigits hne hds hstops.1 fun _ => skipExponent
    simp only [List.cons_append, List.head?_cons, beq_self_eq_true, if_true]
    rw [accept_advance_bind]
    exact hdigits.trans (accept_skipExponent he hrest)

theorem accept_skipDigits_whole {first : UInt8} {more fraction exponent rest : Bytes}
    (hdigits : Digits more) (hzero : first = 0x30 → more = []) (hf : IsFraction fraction)
    (he : IsExponent exponent) (hrest : EndsNumber rest) :
    accept (skipDigits first) (more ++ (fraction ++ (exponent ++ rest))) = some ((), rest) := by
  have hstops : Stops (fraction ++ (exponent ++ rest)) := hf.stops (he.stops hrest).1
  unfold skipDigits
  by_cases h : first = 0x30
  · simp only [h, beq_self_eq_true, if_true, hzero h, List.nil_append]
    rw [accept_bind, accept_peek, Option.bind_some]
    simp only [hstops.any_head?, Bool.false_eq_true, if_false]
    exact accept_skipFraction hf he hrest
  · simp only [beq_eq_false_iff_ne.2 h, Bool.false_eq_true, if_false]
    rw [accept_bind, accept_dropWhile, Option.bind_some, dropWhile_isDigit hdigits hstops]
    exact accept_skipFraction hf he hrest

theorem accept_skipNumber {b : UInt8} {r : Bytes} (h : IsNumber (b :: r)) {rest : Bytes}
    (hrest : EndsNumber rest) : accept (skipNumber b) (r ++ rest) = some ((), rest) := by
  rw [accept_skipNumber_eq]
  generalize ht : b :: r = t at h
  obtain ⟨hsign, ⟨d, more, rfl, hdigits, hzero⟩, hf, he⟩ := h
  rename_i fraction exponent
  have hmore : Digits more := fun c hc => hdigits c (List.mem_cons_of_mem _ hc)
  have hd : isDigit d = true := hdigits d List.mem_cons_self
  rcases hsign with rfl | rfl
  · obtain ⟨rfl, rfl⟩ : b = d ∧ r = more ++ (fraction ++ exponent) := List.cons.inj ht
    rw [if_neg (ne_of_isDigit hd rfl), List.append_assoc, List.append_assoc]
    exact accept_skipDigits_whole hmore hzero hf he hrest
  · obtain ⟨rfl, rfl⟩ : b = 0x2D ∧ r = d :: (more ++ (fraction ++ exponent)) := List.cons.inj ht
    rw [if_pos rfl]
    simp only [List.cons_append, List.append_assoc]
    rw [accept_skipDigit hd, Option.bind_some]
    exact accept_skipDigits_whole hmore hzero hf he hrest

theorem accept_skipScalar {b : UInt8} {r : Bytes} (h : IsScalar (b :: r)) {rest : Bytes}
    (hrest : Closes rest) : accept (skipScalar b) (r ++ rest) = some ((), rest) := by
  generalize ht : b :: r = t at h
  cases h with
  | null =>
    obtain ⟨rfl, rfl⟩ := List.cons.inj ht
    exact accept_readLiteral _ rest
  | true =>
    obtain ⟨rfl, rfl⟩ := List.cons.inj ht
    exact accept_readLiteral _ rest
  | false =>
    obtain ⟨rfl, rfl⟩ := List.cons.inj ht
    exact accept_readLiteral _ rest
  | text h =>
    obtain ⟨quoted, rfl, h⟩ := h
    obtain ⟨rfl, rfl⟩ := List.cons.inj ht
    rw [List.append_assoc]
    exact accept_skipText h rest
  | number h =>
    subst ht
    obtain ⟨_, _, heq, hb⟩ := exists_first_number h
    obtain ⟨rfl, rfl⟩ := List.cons.inj heq
    rw [← accept_skipNumber h hrest.endsNumber]
    have hother : b ≠ 0x6E ∧ b ≠ 0x74 ∧ b ≠ 0x66 ∧ b ≠ 0x22 := by
      rcases hb with rfl | hb
      · decide
      · exact ⟨ne_of_isDigit hb rfl, ne_of_isDigit hb rfl, ne_of_isDigit hb rfl,
          ne_of_isDigit hb rfl⟩
    unfold skipScalar
    simp only [beq_iff_eq, hother.1, hother.2.1, hother.2.2.1, hother.2.2.2, if_false]
    rw [if_pos (by simpa using hb)]

/-! ## Values -/

def skipFrom (state : Skipping) : Reader Unit := loop skipStep state

/-- What is passed over once a value has ended inside these containers. -/
def skipOn (frames : List Container) : Reader Unit :=
  match Skipping.ended frames with
  | .inl state => skipFrom state
  | .inr () => pure ()

def Skipped (d : Doc) : Prop :=
  ∀ frames t rest, Spaced d.tokens t → Closes rest →
    accept (skipFrom ⟨frames, .value⟩) (t ++ rest) = accept (skipOn frames) rest

section Steps
variable {state state' : Skipping} {frames : List Container} {blanks r rest : Bytes} {b : UInt8}

theorem accept_skipFrom_inl (hblanks : Blanks blanks) (hb : isBlank b = false)
    (h : accept (skipStep state b) r = some (.inl state', rest)) :
    accept (skipFrom state) (blanks ++ b :: r) = accept (skipFrom state') rest := by
  rw [skipFrom, accept_loop skipStep state hblanks hb, h, Option.bind_some]
  rfl

theorem accept_skipFrom_ended (hblanks : Blanks blanks) (hb : isBlank b = false)
    (h : accept (skipStep state b) r = some (Skipping.ended frames, rest)) :
    accept (skipFrom state) (blanks ++ b :: r) = accept (skipOn frames) rest := by
  rw [skipFrom, accept_loop skipStep state hblanks hb, h, Option.bind_some]
  unfold skipOn
  cases Skipping.ended frames <;> rfl

end Steps

theorem skipped_scalar {t : Bytes} (h : IsScalar t) : Skipped (.scalar t h) := by
  intro frames text rest htext hrest
  obtain ⟨blanks, rfl, hblanks⟩ := spaced_scalar_iff.1 htext
  obtain ⟨b, r, rfl, hb⟩ := exists_first_scalar h
  rw [List.append_assoc, List.cons_append]
  refine accept_skipFrom_ended hblanks hb.visible ?_
  unfold skipStep skipValueStep
  simp [hb.noList.1, hb.noObject.1, accept_skipScalar h hrest]

theorem accept_skip_elements {items : List Doc} (h : ∀ d ∈ items, Skipped d)
    (frames : List Container) {t : Bytes}
    (ht : Spaced (remainder 0x5D (items.map Doc.tokens)) t) (rest : Bytes) :
    accept (skipOn (.list :: frames)) (t ++ rest) = accept (skipOn frames) rest := by
  induction items generalizing t with
  | nil =>
    obtain ⟨blanks, rfl, hblanks⟩ := spaced_remainder_nil_iff.1 ht
    rw [List.append_assoc]
    exact accept_skipFrom_ended hblanks rfl rfl
  | cons d items ih =>
    obtain ⟨blanks, front, more, rfl, hblanks, hfront, hmore⟩ := spaced_remainder_cons_iff.1 ht
    rw [← ih (fun x hx => h x (List.mem_cons_of_mem _ hx)) hmore,
      ← h d List.mem_cons_self (.list :: frames) front _ hfront
        (closes_remainder (.inl rfl) hmore rest),
      List.append_assoc, List.cons_append, List.append_assoc]
    exact accept_skipFrom_inl hblanks rfl rfl

theorem accept_skip_member {m : Key × Doc} (h : Skipped m.2) {frames : List Container}
    {expected : Expected} (hexpected : expected = .firstMember ∨ expected = .member) {t rest : Bytes}
    (ht : Spaced (Doc.memberTokens m) t) (hrest : Closes rest) :
    accept (skipFrom ⟨frames, expected⟩) (t ++ rest) = accept (skipOn frames) rest := by
  obtain ⟨quoted, hkey, hquoted⟩ := m.1.isText
  obtain ⟨blanks, blanks', value, rfl, hblanks, hblanks', hvalue⟩ := spaced_member_iff.1 ht
  have hmember : accept (skipMemberStep frames 0x22)
      (quoted ++ 0x22 :: (blanks' ++ 0x3A :: (value ++ rest))) =
        some (.inl ⟨frames, .value⟩, value ++ rest) := by
    unfold skipMemberStep
    simp [accept_skipText hquoted, accept_expectToken hblanks' (c := 0x3A) rfl]
  rw [hkey, ← h frames value rest hvalue hrest]
  simp only [List.append_assoc, List.cons_append, List.nil_append]
  refine accept_skipFrom_inl hblanks rfl ?_
  rcases hexpected with rfl | rfl <;> exact hmember

theorem accept_skip_members {members : List (Key × Doc)} (h : ∀ m ∈ members, Skipped m.2)
    (frames : List Container) {t : Bytes}
    (ht : Spaced (remainder 0x7D (members.map Doc.memberTokens)) t) (rest : Bytes) :
    accept (skipOn (.object :: frames)) (t ++ rest) = accept (skipOn frames) rest := by
  induction members generalizing t with
  | nil =>
    obtain ⟨blanks, rfl, hblanks⟩ := spaced_remainder_nil_iff.1 ht
    rw [List.append_assoc]
    exact accept_skipFrom_ended hblanks rfl rfl
  | cons m members ih =>
    obtain ⟨blanks, front, more, rfl, hblanks, hfront, hmore⟩ := spaced_remainder_cons_iff.1 ht
    rw [← ih (fun x hx => h x (List.mem_cons_of_mem _ hx)) hmore,
      ← accept_skip_member (h m List.mem_cons_self) (.inr rfl) hfront
        (closes_remainder (.inr rfl) hmore rest),
      List.append_assoc, List.cons_append, List.append_assoc]
    exact accept_skipFrom_inl hblanks rfl rfl

/-- The first element of a list is passed over like any value. -/
theorem accept_skip_firstElement {d : Doc} (frames : List Container) {t : Bytes}
    (ht : Spaced d.tokens t) (rest : Bytes) :
    accept (skipFrom ⟨frames, .firstElement⟩) (t ++ rest) =
      accept (skipFrom ⟨frames, .value⟩) (t ++ rest) := by
  obtain ⟨blanks, r, rfl, hblanks, -⟩ := Doc.exists_flush ht
  have hstep : skipStep ⟨frames, .firstElement⟩ d.first = skipStep ⟨frames, .value⟩ d.first :=
    if_neg (by simpa using d.first_ne.1)
  rw [List.append_assoc, List.cons_append, skipFrom, skipFrom,
    accept_loop _ _ hblanks d.visible_first, accept_loop _ _ hblanks d.visible_first, hstep]

theorem skipped (d : Doc) : Skipped d := by
  induction d using Doc.induction with
  | scalar t h => exact skipped_scalar h
  | list items ih =>
    intro frames t rest ht hrest
    rw [Doc.tokens_list] at ht
    obtain ⟨blanks, s, rfl, hblanks, hs⟩ := spaced_cons_iff.1 ht
    have hopen : accept (skipFrom ⟨frames, .value⟩) (blanks ++ 0x5B :: (s ++ rest)) =
        accept (skipFrom ⟨.list :: frames, .firstElement⟩) (s ++ rest) :=
      accept_skipFrom_inl hblanks rfl rfl
    rw [List.append_assoc, List.append_assoc, List.singleton_append, hopen]
    cases items with
    | nil =>
      obtain ⟨blanks, rfl, hblanks⟩ := spaced_remainder_nil_iff.1 hs
      rw [List.append_assoc]
      exact accept_skipFrom_ended hblanks rfl rfl
    | cons d items =>
      obtain ⟨front, more, rfl, hfront, hmore⟩ := spaced_append.1 hs
      rw [List.append_assoc, accept_skip_firstElement _ hfront,
        ih d List.mem_cons_self _ _ _ hfront (closes_remainder (.inl rfl) hmore rest)]
      exact accept_skip_elements (fun x hx => ih x (List.mem_cons_of_mem _ hx)) frames hmore rest
  | object members ih =>
    intro frames t rest ht hrest
    rw [Doc.tokens_object] at ht
    obtain ⟨blanks, s, rfl, hblanks, hs⟩ := spaced_cons_iff.1 ht
    have hopen : accept (skipFrom ⟨frames, .value⟩) (blanks ++ 0x7B :: (s ++ rest)) =
        accept (skipFrom ⟨.object :: frames, .firstMember⟩) (s ++ rest) :=
      accept_skipFrom_inl hblanks rfl rfl
    rw [List.append_assoc, List.append_assoc, List.singleton_append, hopen]
    cases members with
    | nil =>
      obtain ⟨blanks, rfl, hblanks⟩ := spaced_remainder_nil_iff.1 hs
      rw [List.append_assoc]
      exact accept_skipFrom_ended hblanks rfl rfl
    | cons m members =>
      obtain ⟨front, more, rfl, hfront, hmore⟩ := spaced_append.1 hs
      rw [List.append_assoc, accept_skip_member (ih m List.mem_cons_self) (.inl rfl) hfront
        (closes_remainder (.inr rfl) hmore rest)]
      exact accept_skip_members (fun x hx => ih x (List.mem_cons_of_mem _ hx)) frames hmore rest

theorem accept_skipValue (d : Doc) {t rest : Bytes} (ht : Spaced d.tokens t) (hrest : Closes rest) :
    accept skipValue (t ++ rest) = some ((), rest) :=
  skipped d [] t rest ht hrest

end ManagedAgent.Wire
