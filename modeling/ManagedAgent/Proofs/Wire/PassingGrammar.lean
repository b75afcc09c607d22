import ManagedAgent.Proofs.Wire.Spelling

/-!
# Whatever is passed over is a document

`skipValue` keeps no more than a stack of the containers that are open. The stack stands for what is
still to come: the rest of the innermost container, then the rest of the one around it, and so on.

* `exists_of_accept_skipStep` : what one token does to what is still to come;
* `takesDoc_skipValue` : all of it, from an empty stack, is the text of one document.
-/

set_option autoImplicit false

namespace ManagedAgent.Wire

open ManagedAgent.Wire.Reader

/-- What is still to come for the containers that are open. -/
def IsTail : List Container → Bytes → Prop
  | [], t => t = []
  | .list :: frames, t => ∃ x y, t = x ++ y ∧ IsElementsTail x ∧ IsTail frames y
  | .object :: frames, t => ∃ x y, t = x ++ y ∧ IsMembersTail x ∧ IsTail frames y

/-- Such a text, and what the open containers want behind it. -/
def IsFollowed (P : Bytes → Prop) (frames : List Container) (t : Bytes) : Prop :=
  ∃ x y, t = x ++ y ∧ P x ∧ IsTail frames y

namespace Skipping

/-- What is still to come in this state. -/
def Wants (state : Skipping) : Bytes → Prop :=
  match state.expected with
  | .value => IsFollowed IsDoc state.frames
  | .firstElement => IsFollowed IsElements state.frames.tail
  | .firstMember => IsFollowed IsMembers state.frames.tail
  | .member => IsFollowed IsMember state.frames
  | .separator => IsTail state.frames

/-- The innermost open container is one that wants what is expected. -/
def Fits (state : Skipping) : Prop :=
  match state.expected with
  | .value => True
  | .firstElement => state.frames.head? = some .list
  | .firstMember | .member => state.frames.head? = some .object
  | .separator => state.frames ≠ []

end Skipping

theorem IsFollowed.padded {P : Bytes → Prop} (hP : Padded P) (frames : List Container) :
    Padded (IsFollowed P frames) := by
  rintro blanks _ hblanks ⟨x, y, rfl, hx, hy⟩
  exact ⟨blanks ++ x, y, by simp, hP blanks x hblanks hx, hy⟩

theorem padded_isTail {frames : List Container} (h : frames ≠ []) : Padded (IsTail frames) := by
  intro blanks t hblanks ht
  rcases frames with - | ⟨- | -, frames⟩
  · exact absurd rfl h
  · obtain ⟨_, y, rfl, ⟨items, hx⟩, hy⟩ := ht
    refine ⟨_, y, (List.append_assoc ..).symm, ⟨items, ?_⟩, hy⟩
    cases items <;> exact Spaced.blanks hblanks hx
  · obtain ⟨_, y, rfl, ⟨members, hx⟩, hy⟩ := ht
    refine ⟨_, y, (List.append_assoc ..).symm, ⟨members, ?_⟩, hy⟩
    cases members <;> exact Spaced.blanks hblanks hx

theorem Skipping.padded_wants {state : Skipping} (h : state.Fits) : Padded state.Wants := by
  obtain ⟨frames, - | - | - | - | -⟩ := state
  · exact IsFollowed.padded padded_isDoc frames
  · exact IsFollowed.padded padded_isElements frames.tail
  · exact IsFollowed.padded padded_isMembers frames.tail
  · exact IsFollowed.padded IsMember.padded frames
  · exact padded_isTail h

/-- What is taken after a step, up to the end of the value. -/
def Completes (x : Skipping ⊕ Unit) (s r : Bytes) : Prop :=
  match x with
  | .inl state => state.Fits → ∃ t, s = t ++ r ∧ state.Wants t
  | .inr () => s = r

theorem exists_isTail_of_ended {frames : List Container} {s r : Bytes}
    (h : Completes (Skipping.ended frames) s r) : ∃ t, s = t ++ r ∧ IsTail frames t := by
  cases frames with
  | nil => exact ⟨[], h, rfl⟩
  | cons frame frames => exact h (List.cons_ne_nil _ _)

theorem exists_of_accept_skipValueStep {frames : List Container} {b : UInt8} {s s' r : Bytes}
    {x : Skipping ⊕ Unit} (hread : accept (skipValueStep frames b) s = some (x, s'))
    (hx : Completes x s' r) : ∃ t, s = t ++ r ∧ IsFollowed IsDoc frames (b :: t) := by
  unfold skipValueStep at hread
  rw [accept_ite] at hread
  split at hread
  · next hlist =>
    cases hread
    obtain ⟨_, rfl, x, y, rfl, hx, hy⟩ := hx rfl
    exact ⟨x ++ y, rfl, b :: x, y, rfl, eq_of_beq hlist ▸ hx.isDoc, hy⟩
  rw [accept_ite] at hread
  split at hread
  · next hobject =>
    cases hread
    obtain ⟨_, rfl, x, y, rfl, hx, hy⟩ := hx rfl
    exact ⟨x ++ y, rfl, b :: x, y, rfl, eq_of_beq hobject ▸ hx.isDoc, hy⟩
  · obtain ⟨_, s₁, hscalar, hend⟩ := exists_of_accept_bind hread
    cases hend
    obtain ⟨t, rfl, ht⟩ := consumes_skipScalar b hscalar
    obtain ⟨y, rfl, hy⟩ := exists_isTail_of_ended hx
    exact ⟨t ++ y, by simp, b :: t, y, rfl, isDoc_scalar ht, hy⟩

theorem exists_of_accept_skipMemberStep {frames : List Container} {b : UInt8} {s s' r : Bytes}
    {x : Skipping ⊕ Unit} (hread : accept (skipMemberStep frames b) s = some (x, s'))
    (hx : Completes x s' r) : ∃ t, s = t ++ r ∧ IsFollowed IsMember frames (b :: t) := by
  unfold skipMemberStep at hread
  rw [accept_ite] at hread
  split at hread
  · next hquote =>
    obtain rfl := eq_of_beq hquote
    obtain ⟨_, s₁, htext, hmore⟩ := exists_of_accept_bind hread
    obtain ⟨_, s₂, hcolon, hend⟩ := exists_of_accept_bind hmore
    cases hend
    obtain ⟨t, rfl, ht⟩ := consumes_skipText htext
    obtain ⟨_, rfl, blanks, rfl, hblanks⟩ := consumes_expectToken _ hcolon
    obtain ⟨_, rfl, x, y, rfl, hx, hy⟩ := hx trivial
    exact ⟨t ++ (blanks ++ 0x3A :: (x ++ y)), by simp, 0x22 :: (t ++ (blanks ++ 0x3A :: x)), y, by simp,
      isMember_append ht.isText ⟨blanks, x, rfl, hblanks, hx⟩, hy⟩
  · cases hread

theorem accept_skipStep_list (frames : List Container) (b : UInt8) (s : Bytes) :
    accept (skipStep ⟨.list :: frames, .separator⟩ b) s =
      if b = 0x2C then some (.inl ⟨.list :: frames, .value⟩, s)
      else if b = 0x5D then some (Skipping.ended frames, s) else none := by
  unfold skipStep
  simp only [accept_ite, beq_iff_eq]
  rfl

theorem accept_skipStep_object (frames : List Container) (b : UInt8) (s : Bytes) :
    accept (skipStep ⟨.object :: frames, .separator⟩ b) s =
      if b = 0x2C then some (.inl ⟨.object :: frames, .member⟩, s)
      else if b = 0x7D then some (Skipping.ended frames, s) else none := by
  unfold skipStep
  simp only [accept_ite, beq_iff_eq]
  rfl

/-- Behind a part, a comma asks for one more, and the end mark leaves what is around. -/
theorem comma_or_end {frames : List Container} {more : Skipping} {close b : UInt8} {s s' r : Bytes}
    {x : Skipping ⊕ Unit}
    (hread : (if b = 0x2C then some (.inl more, s) else
      if b = close then some (Skipping.ended frames, s) else none) = some (x, s'))
    (hx : Completes x s' r) :
    (b = 0x2C ∧ Completes (.inl more) s r) ∨ (b = close ∧ ∃ y, s = y ++ r ∧ IsTail frames y) := by
  split at hread
  · next hcomma =>
    cases hread
    exact .inl ⟨hcomma, hx⟩
  split at hread
  · next hend =>
    cases hread
    exact .inr ⟨hend, exists_isTail_of_ended hx⟩
  · cases hread

theorem exists_of_accept_skipStep {state : Skipping} (hfits : state.Fits) {b : UInt8} {s s' r : Bytes}
    {x : Skipping ⊕ Unit} (hread : accept (skipStep state b) s = some (x, s'))
    (hx : Completes x s' r) : ∃ t, s = t ++ r ∧ state.Wants (b :: t) := by
  obtain ⟨frames, expected⟩ := state
  cases expected with
  | value => exact exists_of_accept_skipValueStep hread hx
  | member => exact exists_of_accept_skipMemberStep hread hx
  | firstElement =>
    obtain ⟨frames, rfl⟩ := List.head?_eq_some_iff.1 hfits
    unfold skipStep at hread
    dsimp only at hread
    rw [accept_ite] at hread
    split at hread
    · next hend =>
      cases hread
      obtain ⟨y, rfl, hy⟩ := exists_isTail_of_ended hx
      exact ⟨y, rfl, [b], y, rfl, eq_of_beq hend ▸ isElements_nil blanks_nil, hy⟩
    · obtain ⟨t, rfl, x, _, heq, hx, x', y, rfl, hx', hy⟩ := exists_of_accept_skipValueStep hread hx
      exact ⟨t, rfl, x ++ x', y, by simp [heq], isElements_cons hx hx', hy⟩
  | firstMember =>
    obtain ⟨frames, rfl⟩ := List.head?_eq_some_iff.1 hfits
    unfold skipStep at hread
    dsimp only at hread
    rw [accept_ite] at hread
    split at hread
    · next hend =>
      cases hread
      obtain ⟨y, rfl, hy⟩ := exists_isTail_of_ended hx
      exact ⟨y, rfl, [b], y, rfl, eq_of_beq hend ▸ isMembers_nil blanks_nil, hy⟩
    · obtain ⟨t, rfl, x, _, heq, hx, x', y, rfl, hx', hy⟩ := exists_of_accept_skipMemberStep hread hx
      exact ⟨t, rfl, x ++ x', y, by simp [heq], isMembers_cons hx hx', hy⟩
  | separator =>
    rcases frames with - | ⟨- | -, frames⟩
    · exact absurd rfl hfits
    · rw [accept_skipStep_list] at hread
      obtain ⟨rfl, hmore⟩ | ⟨rfl, y, rfl, hy⟩ := comma_or_end hread hx
      · obtain ⟨_, rfl, x, _, rfl, hdoc, x', y, rfl, hx', hy⟩ := hmore trivial
        exact ⟨x ++ (x' ++ y), rfl, 0x2C :: (x ++ x'), y, by simp,
          isElementsTail_cons blanks_nil hdoc hx', hy⟩
      · exact ⟨y, rfl, [0x5D], y, rfl, isElementsTail_nil blanks_nil, hy⟩
    · rw [accept_skipStep_object] at hread
      obtain ⟨rfl, hmore⟩ | ⟨rfl, y, rfl, hy⟩ := comma_or_end hread hx
      · obtain ⟨_, rfl, x, _, rfl, hmember, x', y, rfl, hx', hy⟩ := hmore rfl
        exact ⟨x ++ (x' ++ y), rfl, 0x2C :: (x ++ x'), y, by simp,
          isMembersTail_cons blanks_nil hmember hx', hy⟩
      · exact ⟨y, rfl, [0x7D], y, rfl, isMembersTail_nil blanks_nil, hy⟩

/-- Whatever is passed over from a state on is what the state wants. -/
theorem consumes_skipFrom {state : Skipping} (hfits : state.Fits) :
    Consumes (skipFrom state) state.Wants := by
  intro s r u hread
  induction hlen : s.length using Nat.strongRecOn generalizing s state with
  | ind n ih =>
    subst hlen
    obtain ⟨blanks, b, s', rfl, hblanks, hround⟩ := exists_of_accept_loop hread
    obtain ⟨t, rfl, ht⟩ : ∃ t, s' = t ++ r ∧ state.Wants (b :: t) := by
      rcases hround with hround | ⟨state', s'', hround, hmore⟩
      · exact exists_of_accept_skipStep hfits hround rfl
      · refine exists_of_accept_skipStep hfits hround fun hfits' => ?_
        have hle := length_rest_accept hround
        exact ih s''.length (by simp; omega) hfits' hmore rfl
    exact ⟨blanks ++ b :: t, by simp, Skipping.padded_wants hfits blanks _ hblanks ht⟩

theorem takesDoc_skipValue : skipValue.Consumes IsDoc := by
  refine Consumes.mono (@consumes_skipFrom ⟨[], .value⟩ trivial) ?_
  rintro _ ⟨x, y, rfl, hx, rfl⟩
  rwa [List.append_nil]

end ManagedAgent.Wire
