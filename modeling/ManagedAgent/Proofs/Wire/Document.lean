import ManagedAgent.Proofs.Wire.Number

/-!
# Documents: what a text says, whatever it is written for

A `Doc` is the tree of a text: scalars by their tokens, lists, and objects with their members in the
order in which they stand. It says nothing about types. `Doc.Spells` holds of the document and every
text of its tokens, with blanks between them as one likes.

The grammar is that of the format, and a little more: inside quotes any bytes above `0x1f` may stand,
and every `\u` with four hexadecimal digits, also a lone surrogate.

* `Doc.induction` : what holds of a document if it holds of its parts;
* `spaced_append` : a text of tokens, cut between two of them.
-/

set_option autoImplicit false

namespace ManagedAgent.Wire

open ManagedAgent.Wire.Reader

/-! ## Tokens -/

def IsHex (b : UInt8) : Prop :=
  isDigit b = true ∨ (0x61 ≤ b ∧ b ≤ 0x66) ∨ (0x41 ≤ b ∧ b ≤ 0x46)

instance (b : UInt8) : Decidable (IsHex b) := inferInstanceAs (Decidable (_ ∨ _))

/-- What may stand between quotes: bytes as they are, escapes of one letter, and `\u` escapes. -/
inductive IsQuoted : Bytes → Prop where
  | nil : IsQuoted []
  | plain {b : UInt8} {rest : Bytes} (hb : 0x20 ≤ b ∧ b ≠ 0x22 ∧ b ≠ 0x5C) (h : IsQuoted rest) :
      IsQuoted (b :: rest)
  | letter {c : UInt8} {rest : Bytes}
      (hc : c ∈ [0x22, 0x5C, 0x2F, 0x62, 0x66, 0x6E, 0x72, 0x74]) (h : IsQuoted rest) :
      IsQuoted (0x5C :: c :: rest)
  | code {a b c d : UInt8} {rest : Bytes} (hs : IsHex a ∧ IsHex b ∧ IsHex c ∧ IsHex d)
      (h : IsQuoted rest) : IsQuoted (0x5C :: 0x75 :: a :: b :: c :: d :: rest)

def IsText (t : Bytes) : Prop := ∃ quoted, t = 0x22 :: (quoted ++ [0x22]) ∧ IsQuoted quoted

inductive IsFraction : Bytes → Prop where
  | absent : IsFraction []
  | present {ds : Bytes} (hne : ds ≠ []) (h : Digits ds) : IsFraction (0x2E :: ds)

inductive IsExponent : Bytes → Prop where
  | absent : IsExponent []
  | present {e : UInt8} {sign ds : Bytes} (he : e = 0x65 ∨ e = 0x45)
      (hsign : sign = [] ∨ sign = [0x2D] ∨ sign = [0x2B]) (hne : ds ≠ []) (h : Digits ds) :
      IsExponent (e :: (sign ++ ds))

inductive IsNumber : Bytes → Prop where
  | mk {sign whole fraction exponent : Bytes} (hsign : sign = [] ∨ sign = [0x2D])
      (hwhole : IsWhole whole) (hfraction : IsFraction fraction) (hexponent : IsExponent exponent) :
      IsNumber (sign ++ (whole ++ (fraction ++ exponent)))

inductive IsScalar : Bytes → Prop where
  | null : IsScalar [0x6E, 0x75, 0x6C, 0x6C]
  | true : IsScalar [0x74, 0x72, 0x75, 0x65]
  | false : IsScalar [0x66, 0x61, 0x6C, 0x73, 0x65]
  | number {t : Bytes} (h : IsNumber t) : IsScalar t
  | text {t : Bytes} (h : IsText t) : IsScalar t

/-! ## Documents -/

structure Key where
  token : Bytes
  isText : IsText token

inductive Doc where
  | scalar (token : Bytes) (h : IsScalar token)
  | list (items : List Doc)
  | object (members : List (Key × Doc))

/-- The tokens behind the first element or member of a container. -/
def remainder (close : UInt8) : List (List Bytes) → List Bytes
  | [] => [[close]]
  | x :: xs => [0x2C] :: (x ++ remainder close xs)

/-- The tokens behind the opening bracket of a container. -/
def content (close : UInt8) : List (List Bytes) → List Bytes
  | [] => [[close]]
  | x :: xs => x ++ remainder close xs

namespace Doc

theorem sizeOf_snd_lt {members : List (Key × Doc)} {m : Key × Doc} (h : m ∈ members) :
    sizeOf m.2 < sizeOf (object members) := by
  have hm := List.sizeOf_lt_of_mem h
  obtain ⟨k, d⟩ := m
  simp only [Prod.mk.sizeOf_spec, object.sizeOf_spec] at hm ⊢
  omega

def tokens : Doc → List Bytes
  | .scalar t _ => [t]
  | .list items => [0x5B] :: content 0x5D (items.map fun d => d.tokens)
  | .object members =>
    [0x7B] :: content 0x7D (members.map fun m => m.1.token :: [0x3A] :: m.2.tokens)
  termination_by d => sizeOf d
  decreasing_by
    · decreasing_tactic
    · exact sizeOf_snd_lt (by assumption)

theorem induction {motive : Doc → Prop} (scalar : ∀ t h, motive (.scalar t h))
    (list : ∀ items, (∀ d ∈ items, motive d) → motive (.list items))
    (object : ∀ members, (∀ m ∈ members, motive m.2) → motive (.object members)) :
    ∀ d, motive d
  | .scalar t h => scalar t h
  | .list items => list items fun d _ => induction scalar list object d
  | .object members => object members fun m _ => induction scalar list object m.2
  termination_by d => sizeOf d
  decreasing_by
    · decreasing_tactic
    · exact sizeOf_snd_lt (by assumption)

def memberTokens (m : Key × Doc) : List Bytes := m.1.token :: [0x3A] :: m.2.tokens

theorem tokens_scalar (t : Bytes) (h : IsScalar t) : (scalar t h).tokens = [t] := by
  rw [tokens]

theorem tokens_list (items : List Doc) :
    (list items).tokens = [0x5B] :: content 0x5D (items.map tokens) := by
  rw [tokens]

theorem tokens_object (members : List (Key × Doc)) :
    (object members).tokens = [0x7B] :: content 0x7D (members.map memberTokens) := by
  rw [tokens]
  rfl

end Doc

/-! ## Spacing -/

def Blanks (s : Bytes) : Prop := ∀ b ∈ s, isBlank b = true

/-- The text of these tokens, with blanks in front of each of them. -/
inductive Spaced : List Bytes → Bytes → Prop where
  | nil : Spaced [] []
  | cons {blanks token : Bytes} {tokens : List Bytes} {text : Bytes} (hb : Blanks blanks)
      (h : Spaced tokens text) : Spaced (token :: tokens) (blanks ++ (token ++ text))

def Doc.Spells (d : Doc) (text : Bytes) : Prop :=
  ∃ front blanks, text = front ++ blanks ∧ Spaced d.tokens front ∧ Blanks blanks

theorem blanks_nil : Blanks [] := nofun

theorem spaced_nil_iff {t : Bytes} : Spaced [] t ↔ t = [] := by
  constructor
  · rintro ⟨⟩
    rfl
  · rintro rfl
    exact .nil

theorem spaced_cons_iff {x : Bytes} {xs : List Bytes} {t : Bytes} :
    Spaced (x :: xs) t ↔ ∃ blanks s, t = blanks ++ (x ++ s) ∧ Blanks blanks ∧ Spaced xs s := by
  constructor
  · rintro ⟨⟩
    exact ⟨_, _, rfl, ‹_›, ‹_›⟩
  · rintro ⟨blanks, s, rfl, hb, hs⟩
    exact .cons hb hs

theorem spaced_append {xs ys : List Bytes} {t : Bytes} :
    Spaced (xs ++ ys) t ↔ ∃ s r, t = s ++ r ∧ Spaced xs s ∧ Spaced ys r := by
  constructor
  · intro h
    induction xs generalizing t with
    | nil => exact ⟨[], t, rfl, .nil, h⟩
    | cons x xs ih =>
      obtain ⟨blanks, s, rfl, hb, hs⟩ := spaced_cons_iff.1 h
      obtain ⟨s, r, rfl, hxs, hys⟩ := ih hs
      exact ⟨blanks ++ (x ++ s), r, by simp, .cons hb hxs, hys⟩
  · rintro ⟨s, r, rfl, hxs, hys⟩
    induction hxs with
    | nil => exact hys
    | @cons blanks token _ text hb _ ih =>
      rw [List.append_assoc, List.append_assoc]
      exact .cons hb ih

/-- The tokens side by side, without blanks. -/
theorem spaced_flatten (xs : List Bytes) : Spaced xs xs.flatten := by
  induction xs with
  | nil => exact .nil
  | cons x xs ih => exact .cons blanks_nil ih

theorem dropWhile_isBlank {blanks : Bytes} (h : Blanks blanks) {b : UInt8}
    (hb : isBlank b = false) (r : Bytes) : (blanks ++ b :: r).dropWhile isBlank = b :: r := by
  rw [List.dropWhile_append_of_pos h, List.dropWhile_cons_of_neg (by simp [hb])]

theorem spaced_remainder_nil_iff {close : UInt8} {t : Bytes} :
    Spaced (remainder close []) t ↔ ∃ blanks, t = blanks ++ [close] ∧ Blanks blanks := by
  unfold remainder
  rw [spaced_cons_iff]
  constructor
  · rintro ⟨blanks, s, rfl, hb, hs⟩
    cases spaced_nil_iff.1 hs
    exact ⟨blanks, rfl, hb⟩
  · rintro ⟨blanks, rfl, hb⟩
    exact ⟨blanks, [], rfl, hb, .nil⟩

theorem spaced_remainder_cons_iff {close : UInt8} {x : List Bytes} {xs : List (List Bytes)}
    {t : Bytes} : Spaced (remainder close (x :: xs)) t ↔ ∃ blanks front more,
      t = blanks ++ 0x2C :: (front ++ more) ∧ Blanks blanks ∧ Spaced x front ∧
        Spaced (remainder close xs) more := by
  rw [remainder, spaced_cons_iff]
  constructor
  · rintro ⟨blanks, s, rfl, hb, hs⟩
    obtain ⟨front, more, rfl, hfront, hmore⟩ := spaced_append.1 hs
    exact ⟨blanks, front, more, rfl, hb, hfront, hmore⟩
  · rintro ⟨blanks, front, more, rfl, hb, hfront, hmore⟩
    exact ⟨blanks, front ++ more, rfl, hb, spaced_append.2 ⟨front, more, rfl, hfront, hmore⟩⟩

theorem spaced_member_iff {m : Key × Doc} {t : Bytes} :
    Spaced (Doc.memberTokens m) t ↔ ∃ blanks blanks' value,
      t = blanks ++ (m.1.token ++ (blanks' ++ 0x3A :: value)) ∧ Blanks blanks ∧ Blanks blanks' ∧
        Spaced m.2.tokens value := by
  rw [Doc.memberTokens, spaced_cons_iff]
  constructor
  · rintro ⟨blanks, s, rfl, hb, hs⟩
    obtain ⟨blanks', value, rfl, hb', hvalue⟩ := spaced_cons_iff.1 hs
    exact ⟨blanks, blanks', value, rfl, hb, hb', hvalue⟩
  · rintro ⟨blanks, blanks', value, rfl, hb, hb', hvalue⟩
    exact ⟨blanks, _, rfl, hb, spaced_cons_iff.2 ⟨blanks', value, rfl, hb', hvalue⟩⟩

theorem spaced_scalar_iff {t : Bytes} {h : IsScalar t} {text : Bytes} :
    Spaced (Doc.scalar t h).tokens text ↔ ∃ blanks, text = blanks ++ t ∧ Blanks blanks := by
  rw [Doc.tokens_scalar, spaced_cons_iff]
  constructor
  · rintro ⟨blanks, s, rfl, hb, hs⟩
    cases spaced_nil_iff.1 hs
    exact ⟨blanks, by simp, hb⟩
  · rintro ⟨blanks, rfl, hb⟩
    exact ⟨blanks, [], by simp, hb, .nil⟩

/-! ## First bytes -/

theorem exists_first_number {t : Bytes} (h : IsNumber t) :
    ∃ b r, t = b :: r ∧ (b = 0x2D ∨ isDigit b = true) := by
  obtain ⟨hsign, ⟨b, more, rfl, hdigits, -⟩, -, -⟩ := h
  rcases hsign with rfl | rfl
  · exact ⟨b, _, rfl, .inr (hdigits b List.mem_cons_self)⟩
  · exact ⟨0x2D, _, rfl, .inl rfl⟩

/-- No list, object or end of one begins with this byte. -/
structure OpensNone (b : UInt8) : Prop where
  visible : isBlank b = false
  noList : b ≠ 0x5B ∧ b ≠ 0x5D
  noObject : b ≠ 0x7B ∧ b ≠ 0x7D

theorem exists_first_scalar {t : Bytes} (h : IsScalar t) : ∃ b r, t = b :: r ∧ OpensNone b := by
  cases h with
  | null => exact ⟨_, _, rfl, by decide, by decide, by decide⟩
  | true => exact ⟨_, _, rfl, by decide, by decide, by decide⟩
  | false => exact ⟨_, _, rfl, by decide, by decide, by decide⟩
  | number h =>
    obtain ⟨b, r, rfl, hb⟩ := exists_first_number h
    refine ⟨b, r, rfl, ?_⟩
    rcases hb with rfl | hb
    · exact ⟨by decide, by decide, by decide⟩
    · have hne {c : UInt8} (hc : isDigit c = false) : b ≠ c := by
        rintro rfl
        rw [hc] at hb
        cases hb
      refine ⟨?_, ⟨hne rfl, hne rfl⟩, hne rfl, hne rfl⟩
      simp only [isBlank, Bool.or_eq_false_iff, beq_eq_false_iff_ne]
      exact ⟨⟨⟨hne rfl, hne rfl⟩, hne rfl⟩, hne rfl⟩
  | text h =>
    obtain ⟨quoted, rfl, -⟩ := h
    exact ⟨_, _, rfl, by decide, by decide, by decide⟩

namespace Doc

/-- The first byte of every text of the document, but for blanks. -/
def first : Doc → UInt8
  | .scalar t _ => t.headD 0
  | .list _ => 0x5B
  | .object _ => 0x7B

@[simp] theorem first_list (items : List Doc) : (list items).first = 0x5B := rfl

@[simp] theorem first_object (members : List (Key × Doc)) : (object members).first = 0x7B := rfl

theorem opensNone_first {t : Bytes} (h : IsScalar t) : OpensNone (scalar t h).first := by
  obtain ⟨b, r, rfl, hb⟩ := exists_first_scalar h
  exact hb

theorem exists_first (d : Doc) : ∃ r ts, d.tokens = (d.first :: r) :: ts := by
  cases d with
  | scalar t h =>
    obtain ⟨b, r, rfl, -⟩ := exists_first_scalar h
    exact ⟨r, [], tokens_scalar _ h⟩
  | list items => exact ⟨[], _, tokens_list items⟩
  | object members => exact ⟨[], _, tokens_object members⟩

theorem visible_first (d : Doc) : isBlank d.first = false := by
  cases d with
  | scalar t h => exact (opensNone_first h).visible
  | list | object => rfl

theorem first_ne (d : Doc) : d.first ≠ 0x5D ∧ d.first ≠ 0x7D := by
  cases d with
  | scalar t h => exact ⟨(opensNone_first h).noList.2, (opensNone_first h).noObject.2⟩
  | list =>
    show (0x5B : UInt8) ≠ 0x5D ∧ (0x5B : UInt8) ≠ 0x7D
    decide
  | object =>
    show (0x7B : UInt8) ≠ 0x5D ∧ (0x7B : UInt8) ≠ 0x7D
    decide

/-- A text of the document without blanks in front of it. -/
structure Flush (d : Doc) (t : Bytes) : Prop where
  spaced : Spaced d.tokens t
  head : t.head? = some d.first

theorem exists_flush {d : Doc} {t : Bytes} (h : Spaced d.tokens t) :
    ∃ blanks r, t = blanks ++ d.first :: r ∧ Blanks blanks ∧ d.Flush (d.first :: r) := by
  obtain ⟨r, ts, htokens⟩ := d.exists_first
  rw [htokens] at h
  obtain ⟨blanks, s, rfl, hblanks, hs⟩ := spaced_cons_iff.1 h
  exact ⟨blanks, r ++ s, rfl, hblanks, htokens ▸ Spaced.cons blanks_nil hs, rfl⟩

theorem Flush.cons {x : UInt8} {xs t : Bytes} {ts : List Bytes} (hx : isBlank x = false)
    (h : Spaced ((x :: xs) :: ts) t) (hhead : t.head? = some x) :
    ∃ s, t = x :: (xs ++ s) ∧ Spaced ts s := by
  obtain ⟨blanks, s, rfl, hblanks, hs⟩ := spaced_cons_iff.1 h
  cases blanks with
  | nil => exact ⟨s, rfl, hs⟩
  | cons b blanks =>
    cases hhead
    have hblank := hblanks x List.mem_cons_self
    rw [hx] at hblank
    cases hblank

theorem Flush.scalar {token : Bytes} {h : IsScalar token} {t : Bytes}
    (ht : (Doc.scalar token h).Flush t) : t = token := by
  obtain ⟨b, r, rfl, hb⟩ := exists_first_scalar h
  have hspaced := ht.spaced
  rw [tokens_scalar] at hspaced
  obtain ⟨s, rfl, hs⟩ := Flush.cons hb.visible hspaced ht.head
  cases spaced_nil_iff.1 hs
  rw [List.append_nil]

theorem Flush.list {items : List Doc} {t : Bytes} (ht : (Doc.list items).Flush t) :
    ∃ s, t = 0x5B :: s ∧ Spaced (content 0x5D (items.map tokens)) s := by
  have hspaced := ht.spaced
  rw [tokens_list] at hspaced
  exact Flush.cons rfl hspaced ht.head

theorem Flush.object {members : List (Key × Doc)} {t : Bytes} (ht : (Doc.object members).Flush t) :
    ∃ s, t = 0x7B :: s ∧ Spaced (content 0x7D (members.map memberTokens)) s := by
  have hspaced := ht.spaced
  rw [tokens_object] at hspaced
  exact Flush.cons rfl hspaced ht.head

end Doc

end ManagedAgent.Wire
