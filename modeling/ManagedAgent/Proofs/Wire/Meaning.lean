import ManagedAgent.Proofs.Wire.Passing

/-!
# What a document means to a reader

A reader `Means` a function of documents, if it gets from every text of a document what the function
says, and is done at the end of the text. Such a reader knows nothing of a text but the document, and
the function is its `meaning`.

* `means_readAs`, `means_list`, `means_optional`, `means_map`, `means_readNamed` : the meanings of
  the codecs, from those of their parts;
* `accept_readObject` : an object means what its members make of a draft, one after another;
* `means_readBuffered` : what is kept of a document whose type is not known yet.
-/

set_option autoImplicit false

namespace ManagedAgent.Wire

open ManagedAgent.Wire.Reader

namespace Reader
variable {α β δ : Type}

def Means (p : Reader α) (f : Doc → Option α) : Prop :=
  ∀ d t rest, Spaced d.tokens t → Closes rest → accept p (t ++ rest) = (f d).map (·, rest)

def meaning (p : Reader α) (d : Doc) : Option α := value p d.tokens.flatten

theorem Means.meaning_eq {p : Reader α} {f : Doc → Option α} (h : p.Means f) : p.meaning = f :=
  funext fun d => value_eq fun rest hrest => h d _ rest (spaced_flatten _) hrest

theorem Means.meaning {p : Reader α} {f : Doc → Option α} (h : p.Means f) : p.Means p.meaning :=
  h.meaning_eq ▸ h

theorem Means.map {p : Reader α} {f : Doc → Option α} (h : p.Means f) (g : α → β) :
    (p >>= fun a => pure (g a) : Reader β).Means fun d => (f d).map g := by
  intro d t rest ht hrest
  rw [accept_bind, h d t rest ht hrest]
  dsimp only
  cases f d <;> rfl

/-! ## Where a document begins -/

/-- The first byte of a document is looked at, and nothing is taken but the blanks before it. -/
theorem accept_peekToken_doc {d : Doc} {t : Bytes} (ht : Spaced d.tokens t) (rest : Bytes)
    (k : Option UInt8 → Reader α) : ∃ t', d.Flush t' ∧
      accept (peekToken >>= k) (t ++ rest) = accept (k (some d.first)) (t' ++ rest) := by
  obtain ⟨blanks, r, rfl, hblanks, hflush⟩ := Doc.exists_flush ht
  refine ⟨d.first :: r, hflush, ?_⟩
  rw [accept_bind, List.append_assoc, List.cons_append, accept_peekToken hblanks d.visible_first]
  rfl

theorem means_peekToken {k : Option UInt8 → Reader α} {f : Doc → Option α}
    (h : ∀ d t rest, d.Flush t → Closes rest →
      accept (k (some d.first)) (t ++ rest) = (f d).map (·, rest)) :
    (peekToken >>= k).Means f := by
  intro d t rest ht hrest
  obtain ⟨t', hflush, hpeek⟩ := accept_peekToken_doc ht rest k
  rw [hpeek, h d t' rest hflush hrest]

end Reader

/-! ## Scalars -/

def Doc.scalar? : Doc → Option Scalar
  | .scalar t _ => value readScalar t
  | _ => none

theorem Reader.means_readAs {α : Type} (project : Scalar → Option α) :
    (readAs project).Means fun d => d.scalar?.bind project := by
  refine means_peekToken fun d t rest ht hrest => ?_
  cases d with
  | scalar token h =>
    have hfirst := Doc.opensNone_first h
    obtain rfl := ht.scalar
    rw [accept_ite, if_neg (by simp [hfirst.noList.1, hfirst.noObject.1]), accept_bind,
      (settles_readScalar h).accept_eq hrest]
    show _ = Option.map _ ((value readScalar t).bind project)
    cases value readScalar t with
    | none => rfl
    | some v => exact accept_orMismatch _ _
  | list | object => rfl

theorem Reader.means_refuse {α : Type} : (refuse : Reader α).Means fun _ => none := by
  intro d t rest ht hrest
  rw [refuse, means_readAs _ d t rest ht hrest]
  dsimp only
  cases d.scalar? <;> rfl

/-! ## Lists -/

namespace Reader
variable {α : Type}

theorem accept_enter (depth : Nat) (b : UInt8) (r : Bytes) :
    accept (enter depth) (b :: r) = if depth < maxDepth then some ((), r) else none := by
  unfold enter
  rw [accept_ite]
  rfl

/-- The elements of a list, one after another. -/
theorem accept_loop_readListStep {item : Reader α} {f : Doc → Option α} (h : item.Means f)
    {items : List Doc} {t : Bytes} (ht : Spaced (remainder 0x5D (items.map Doc.tokens)) t)
    (before : List α) (rest : Bytes) :
    accept (loop (readListStep item) before) (t ++ rest) =
      (items.mapM f).map fun as => (before.reverse ++ as, rest) := by
  induction items generalizing t before with
  | nil =>
    obtain ⟨blanks, rfl, hblanks⟩ := spaced_remainder_nil_iff.1 ht
    rw [List.append_assoc, List.singleton_append, accept_loop _ _ hblanks rfl]
    simp [readListStep]
  | cons d items ih =>
    obtain ⟨blanks, front, more, rfl, hblanks, hfront, hmore⟩ := spaced_remainder_cons_iff.1 ht
    have hrest := closes_remainder (.inl rfl) hmore rest
    have hstep : accept (readListStep item before 0x2C) (front ++ (more ++ rest)) =
        (f d).map fun a => (.inl (a :: before), more ++ rest) := by
      obtain ⟨front', hflush, hpeek⟩ := accept_peekToken_doc hfront (more ++ rest) _
      refine hpeek.trans ?_
      dsimp only
      rw [accept_ite, if_neg (by simpa using d.first_ne.1), accept_bind,
        h d front' _ hflush.spaced hrest]
      cases f d <;> rfl
    rw [List.append_assoc, List.cons_append, List.append_assoc, accept_loop _ _ hblanks rfl, hstep,
      List.mapM_cons]
    cases f d with
    | none => rfl
    | some a =>
      refine (ih hmore (a :: before)).trans ?_
      cases items.mapM f <;> simp

theorem accept_readList {item : Reader α} {f : Doc → Option α} (h : item.Means f)
    {items : List Doc} {t : Bytes} (ht : Spaced (content 0x5D (items.map Doc.tokens)) t)
    (rest : Bytes) : accept (readList item) (t ++ rest) = (items.mapM f).map (·, rest) := by
  unfold readList
  cases items with
  | nil =>
    obtain ⟨blanks, rfl, hblanks⟩ := spaced_remainder_nil_iff.1 ht
    rw [accept_bind, List.append_assoc, List.singleton_append, accept_peekToken hblanks rfl]
    rfl
  | cons d items =>
    obtain ⟨front, more, rfl, hfront, hmore⟩ := spaced_append.1 ht
    have hrest := closes_remainder (.inl rfl) hmore rest
    rw [List.append_assoc]
    obtain ⟨front', hflush, hpeek⟩ := accept_peekToken_doc hfront (more ++ rest) _
    refine hpeek.trans ?_
    dsimp only
    rw [if_neg (by simpa using d.first_ne.1)]
    refine (accept_bind item _ _).trans ?_
    rw [h d front' _ hflush.spaced hrest, List.mapM_cons]
    cases f d with
    | none => rfl
    | some a =>
      refine (accept_loop_readListStep h hmore [a] rest).trans ?_
      cases items.mapM f <;> simp

end Reader

def listMeaning {α : Type} (item : Codec α) (depth : Nat) : Doc → Option (List α)
  | .list items => if depth < maxDepth then items.mapM (item.read (depth + 1)).meaning else none
  | _ => none

/-- Nothing of a text but the document matters to the codec. -/
def Codec.Exact {α : Type} (c : Codec α) : Prop := ∀ depth, (c.read depth).Means (c.read depth).meaning

theorem Codec.exact_of_means {α : Type} {c : Codec α} {f : Nat → Doc → Option α}
    (h : ∀ depth, (c.read depth).Means (f depth)) : c.Exact := fun depth => (h depth).meaning

theorem Codec.means_list {α : Type} {item : Codec α} (h : item.Exact) (depth : Nat) :
    ((list item).read depth).Means (listMeaning item depth) := by
  refine means_peekToken fun d t rest ht hrest => ?_
  cases d with
  | scalar token hscalar =>
    have hno := (Doc.opensNone_first hscalar).noList.1
    rw [accept_ite, if_neg (by simpa using hno)]
    exact means_refuse _ t rest ht.spaced hrest
  | list items =>
    obtain ⟨s, rfl, hs⟩ := ht.list
    rw [Doc.first_list, accept_ite, if_pos (beq_self_eq_true _), accept_bind, List.cons_append,
      accept_enter, listMeaning]
    split
    · exact accept_readList (h (depth + 1)) hs rest
    · rfl
  | object members => exact means_refuse _ t rest ht.spaced hrest

/-! ## Optional values -/

def Doc.isNull : Doc → Bool
  | .scalar t _ => t == [0x6E, 0x75, 0x6C, 0x6C]
  | _ => false

theorem Doc.isNull_iff (d : Doc) : d.isNull = true ↔ d.first = 0x6E := by
  cases d with
  | list | object => exact ⟨nofun, nofun⟩
  | scalar t h =>
    unfold isNull first
    rw [beq_iff_eq]
    constructor
    · rintro rfl
      rfl
    · intro hfirst
      cases h with
      | null => rfl
      | true | false => cases hfirst
      | number h =>
        obtain ⟨b, r, rfl, hb⟩ := exists_first_number h
        cases hfirst
        rcases hb with hb | hb <;> cases hb
      | text h =>
        obtain ⟨quoted, rfl, hquoted⟩ := h
        cases hfirst

def optionalMeaning {α : Type} (value : Codec α) (depth : Nat) (d : Doc) : Option (Option α) :=
  if d.isNull then some none else ((value.read depth).meaning d).map some

theorem Codec.means_optional {α : Type} {value : Codec α} (h : value.Exact) (depth : Nat) :
    (value.optional.read depth).Means (optionalMeaning value depth) := by
  refine means_peekToken fun d t rest ht hrest => ?_
  unfold optionalMeaning
  by_cases hnull : d.isNull = true
  · cases d with
    | scalar token hscalar =>
      obtain rfl := ht.scalar
      obtain rfl : t = [0x6E, 0x75, 0x6C, 0x6C] := by simpa [Doc.isNull] using hnull
      rw [if_pos hnull, accept_ite, if_pos (by rw [(Doc.isNull_iff _).1 hnull]; rfl),
        List.cons_append, accept_advance_bind, accept_bind, accept_readLiteral]
      rfl
    | list | object => cases hnull
  · have hfirst : d.first ≠ 0x6E := fun h => hnull (d.isNull_iff.2 h)
    rw [if_neg hnull, accept_ite, if_neg (by simpa using hfirst)]
    exact (h depth).map some d t rest ht.spaced hrest

/-! ## Objects -/

/-- The name that a key is, if it is one: a key may be no text. -/
def Key.name? (k : Key) : Option String := (accept readText k.token.tail).map (·.1)

theorem Key.accept_readText (k : Key) : ∃ quoted, k.token = 0x22 :: (quoted ++ [0x22]) ∧
    ∀ rest, accept readText (quoted ++ 0x22 :: rest) = k.name?.map (·, rest) := by
  obtain ⟨quoted, hk, hquoted⟩ := k.isText
  obtain ⟨o, ho⟩ := exists_accept_readText hquoted
  refine ⟨quoted, hk, fun rest => ?_⟩
  have hname : k.name? = o := by
    rw [name?, hk, List.tail_cons, ho]
    cases o <;> rfl
  rw [ho, hname]

/-- What the members of an object make of a draft, one after another; `member` is what one makes of it. -/
def membersMeaning {δ : Type} (member : String → δ → Doc → Option δ) (draft : δ)
    (members : List (Key × Doc)) : Option δ :=
  members.foldlM (fun draft m => m.1.name?.bind fun key => member key draft m.2) draft

section Objects
variable {δ : Type}

/-- What is read of a member, from the colon on, is what `member` says, for drafts that satisfy an
invariant. -/
structure MeansMember (I : δ → Prop) (p : String → δ → Reader δ)
    (member : String → δ → Doc → Option δ) : Prop where
  reads : ∀ {key draft d blanks t rest}, I draft → Blanks blanks → Spaced d.tokens t → Closes rest →
    accept (p key draft) (blanks ++ 0x3A :: (t ++ rest)) = (member key draft d).map (·, rest)
  keeps : ∀ {key draft d draft'}, I draft → member key draft d = some draft' → I draft'

/-- A value behind a colon. -/
theorem accept_colon {α : Type} {blanks : Bytes} (hblanks : Blanks blanks) (p : Reader α)
    (s : Bytes) : accept (expectToken 0x3A >>= fun _ => p) (blanks ++ 0x3A :: s) = accept p s := by
  rw [accept_bind, accept_expectToken hblanks rfl, if_pos rfl]
  rfl

variable {I : δ → Prop} {p : String → δ → Reader δ} {member : String → δ → Doc → Option δ}

/-- A member, behind the opening quote of its key. -/
theorem accept_readMember (h : MeansMember I p member) {draft : δ} (hI : I draft) {m : Key × Doc}
    {t : Bytes} (ht : Spaced (Doc.memberTokens m) t) {rest : Bytes} (hrest : Closes rest) :
    ∃ blanks s, t = blanks ++ 0x22 :: s ∧ Blanks blanks ∧
      accept (readMember p draft) (s ++ rest) =
        (m.1.name?.bind fun key => member key draft m.2).map (·, rest) := by
  obtain ⟨quoted, hkey, htext⟩ := m.1.accept_readText
  obtain ⟨blanks, blanks', value, rfl, hblanks, hblanks', hvalue⟩ := spaced_member_iff.1 ht
  refine ⟨blanks, quoted ++ 0x22 :: (blanks' ++ 0x3A :: value), by rw [hkey]; simp, hblanks, ?_⟩
  have hassoc : quoted ++ 0x22 :: (blanks' ++ 0x3A :: value) ++ rest =
      quoted ++ 0x22 :: (blanks' ++ 0x3A :: (value ++ rest)) := by simp
  unfold readMember
  rw [hassoc, accept_bind, htext]
  cases m.1.name? with
  | none => rfl
  | some key => exact h.reads hI hblanks' hvalue hrest

theorem accept_loop_readObjectStep (h : MeansMember I p member) {members : List (Key × Doc)}
    {t : Bytes} (ht : Spaced (remainder 0x7D (members.map Doc.memberTokens)) t) {draft : δ}
    (hI : I draft) (rest : Bytes) :
    accept (loop (readObjectStep p) draft) (t ++ rest) =
      (membersMeaning member draft members).map (·, rest) := by
  induction members generalizing t draft with
  | nil =>
    obtain ⟨blanks, rfl, hblanks⟩ := spaced_remainder_nil_iff.1 ht
    rw [List.append_assoc, List.singleton_append, accept_loop _ _ hblanks rfl]
    rfl
  | cons m members ih =>
    obtain ⟨blanks, front, more, rfl, hblanks, hfront, hmore⟩ := spaced_remainder_cons_iff.1 ht
    have hrest := closes_remainder (.inr rfl) hmore rest
    obtain ⟨blanks', s, rfl, hblanks', hread⟩ := accept_readMember h hI hfront hrest
    have hstep : accept (readObjectStep p draft 0x2C) (blanks' ++ 0x22 :: (s ++ (more ++ rest))) =
        (m.1.name?.bind fun key => member key draft m.2).map fun d => (.inl d, more ++ rest) := by
      show accept (peekToken >>= fun _ => _) _ = _
      rw [accept_bind, accept_peekToken hblanks' rfl, Option.bind_some, accept_ite,
        if_pos (beq_self_eq_true _), accept_advance_bind, accept_bind, hread]
      cases m.1.name?.bind fun key => member key draft m.2 <;> rfl
    have hassoc : blanks ++ 0x2C :: (blanks' ++ 0x22 :: s ++ more) ++ rest =
        blanks ++ 0x2C :: (blanks' ++ 0x22 :: (s ++ (more ++ rest))) := by simp
    rw [hassoc, accept_loop _ _ hblanks rfl, hstep, membersMeaning, List.foldlM_cons]
    cases hm : m.1.name?.bind fun key => member key draft m.2 with
    | none => rfl
    | some d =>
      obtain ⟨key, -, hd⟩ := Option.bind_eq_some_iff.1 hm
      exact ih hmore (h.keeps hI hd)

theorem accept_readObject (h : MeansMember I p member) {members : List (Key × Doc)} {t : Bytes}
    (ht : Spaced (content 0x7D (members.map Doc.memberTokens)) t) {draft : δ} (hI : I draft)
    (rest : Bytes) :
    accept (readObject p draft) (t ++ rest) =
      (membersMeaning member draft members).map (·, rest) := by
  unfold readObject
  cases members with
  | nil =>
    obtain ⟨blanks, rfl, hblanks⟩ := spaced_remainder_nil_iff.1 ht
    rw [accept_bind, List.append_assoc, List.singleton_append, accept_peekToken hblanks rfl]
    rfl
  | cons m members =>
    obtain ⟨front, more, rfl, hfront, hmore⟩ := spaced_append.1 ht
    have hrest := closes_remainder (.inr rfl) hmore rest
    obtain ⟨blanks, s, rfl, hblanks, hread⟩ := accept_readMember h hI hfront hrest
    have hassoc : blanks ++ 0x22 :: s ++ more ++ rest = blanks ++ 0x22 :: (s ++ (more ++ rest)) := by
      simp
    rw [hassoc]
    refine (accept_bind _ _ _).trans ?_
    rw [accept_peekToken hblanks rfl, Option.bind_some]
    refine (accept_advance_bind _ _ _).trans ?_
    refine (accept_bind _ _ _).trans ?_
    rw [hread, membersMeaning, List.foldlM_cons]
    cases hm : m.1.name?.bind fun key => member key draft m.2 with
    | none => rfl
    | some d =>
      obtain ⟨key, -, hd⟩ := Option.bind_eq_some_iff.1 hm
      exact accept_loop_readObjectStep h hmore (h.keeps hI hd) rest

end Objects

/-! ## Maps -/

def mapMember {α : Type} (value : Codec α) (depth : Nat) (key : String) (before : NameMap α)
    (d : Doc) : Option (NameMap α) :=
  ((value.read (depth + 1)).meaning d).map (before.insert key ·)

def mapMeaning {α : Type} (value : Codec α) (depth : Nat) : Doc → Option (NameMap α)
  | .object members =>
    if depth < maxDepth then membersMeaning (mapMember value depth) .empty members else none
  | _ => none

theorem Codec.means_map {α : Type} {value : Codec α} (h : value.Exact) (depth : Nat) :
    ((map value).read depth).Means (mapMeaning value depth) := by
  refine means_peekToken fun d t rest ht hrest => ?_
  cases d with
  | scalar token hscalar =>
    have hno := (Doc.opensNone_first hscalar).noObject.1
    rw [accept_ite, if_neg (by simpa using hno)]
    exact means_refuse _ t rest ht.spaced hrest
  | list items => exact means_refuse _ t rest ht.spaced hrest
  | object members =>
    obtain ⟨s, rfl, hs⟩ := ht.object
    rw [Doc.first_object, accept_ite, if_pos (beq_self_eq_true _), accept_bind, List.cons_append,
      accept_enter, mapMeaning]
    split
    · refine accept_readObject (I := fun _ => True) ⟨?_, fun _ _ => trivial⟩ hs trivial rest
      intro key before d blanks t rest _ hblanks ht hrest
      rw [accept_colon hblanks]
      exact (h (depth + 1)).map (before.insert key ·) d t rest ht hrest
    · rfl

/-! ## Enumerations -/

/-- A key that is read as a text of its own. -/
theorem accept_readAs_key (k : Key) {blanks : Bytes} (hblanks : Blanks blanks) (r : Bytes) :
    accept (readAs Codec.readNamed.textOnly) (blanks ++ (k.token ++ r)) = k.name?.map (·, r) := by
  obtain ⟨quoted, hkey, htext⟩ := k.accept_readText
  have hassoc : k.token ++ r = 0x22 :: (quoted ++ 0x22 :: r) := by rw [hkey]; simp
  unfold readAs
  rw [hassoc, accept_bind, accept_peekToken hblanks rfl, Option.bind_some, accept_ite,
    if_neg (by simp), accept_bind, accept_congr (run_readScalar_quote _), accept_bind, htext]
  cases k.name? <;> rfl

/-- What a document means among values with these names. -/
def namedMeaning {α : Type} (name : α → String) (all : List α) (depth : Nat) : Doc → Option α
  | .object [(k, d)] =>
    if depth < maxDepth then
      (k.name?.bind (Codec.named? name all)).bind fun a =>
        ((Codec.null.read (depth + 1)).meaning d).map fun _ => a
    else none
  | .object _ => none
  | d => (d.scalar?.bind Codec.readNamed.textOnly).bind (Codec.named? name all)

theorem Codec.exact_null : null.Exact := exact_of_means fun _ => means_readAs _

/-- Only what stands in quotes is read as a text. -/
theorem first_of_text {t : Bytes} (h : IsScalar t) {s : String}
    (hs : (Doc.scalar t h).scalar? = some (.text s)) : (Doc.scalar t h).first = 0x22 := by
  replace hs : value readScalar t = some (.text s) := hs
  have hvalue {v : Scalar} (hv : ∀ rest, accept readScalar (t ++ rest) = some (v, rest)) :
      value readScalar t = some v := value_eq fun rest _ => hv rest
  cases h with
  | null =>
    rw [hvalue accept_readScalar_null] at hs
    cases hs
  | true =>
    rw [hvalue (accept_readScalar_bool true)] at hs
    cases hs
  | false =>
    rw [hvalue (accept_readScalar_bool false)] at hs
    cases hs
  | number h =>
    obtain ⟨b, r, rfl, hb⟩ := exists_first_number h
    rw [Reader.value, accept_congr (run_readScalar_number hb r), accept_bind] at hs
    cases hread : accept readNumber (b :: r) with
    | none => rw [hread] at hs; cases hs
    | some x => rw [hread] at hs; cases hs
  | text h =>
    obtain ⟨quoted, rfl, hquoted⟩ := h
    rfl

/-- A container that ends here. -/
theorem accept_closing {close : UInt8} (hclose : close = 0x5D ∨ close = 0x7D)
    {xs : List (List Bytes)} {t : Bytes} (h : Spaced (remainder close xs) t) (rest : Bytes) :
    accept (expectToken close) (t ++ rest) = if xs.isEmpty then some ((), rest) else none := by
  cases xs with
  | nil =>
    obtain ⟨blanks, rfl, hblanks⟩ := spaced_remainder_nil_iff.1 h
    rw [List.append_assoc, List.singleton_append,
      accept_expectToken hblanks (by rcases hclose with rfl | rfl <;> rfl), if_pos rfl]
    rfl
  | cons x xs =>
    obtain ⟨blanks, front, more, rfl, hblanks, -⟩ := spaced_remainder_cons_iff.1 h
    rw [List.append_assoc, List.cons_append, accept_expectToken hblanks rfl,
      if_neg (by rcases hclose with rfl | rfl <;> decide)]
    rfl

/-- The name in an object, with `null` as its value and nothing behind it. -/
theorem accept_named_object {α : Type} (name : α → String) (all : List α) (depth : Nat)
    {members : List (Key × Doc)} {s : Bytes}
    (hs : Spaced (content 0x7D (members.map Doc.memberTokens)) s) (rest : Bytes) :
    accept (readAs Codec.readNamed.textOnly >>= fun key =>
      orMismatch (Codec.named? name all key) >>= fun a => expectToken 0x3A >>= fun _ =>
        Codec.null.read (depth + 1) >>= fun _ => expectToken 0x7D >>= fun _ => pure a)
      (s ++ rest) =
      (match members with
        | [(k, d)] => (k.name?.bind (Codec.named? name all)).bind fun a =>
            ((Codec.null.read (depth + 1)).meaning d).map fun _ => a
        | _ => none).map (·, rest) := by
  cases members with
  | nil =>
    obtain ⟨blanks, rfl, hblanks⟩ := spaced_remainder_nil_iff.1 hs
    have hno : accept (readAs Codec.readNamed.textOnly) (blanks ++ 0x7D :: rest) = none := by
      unfold readAs readScalar
      rw [accept_bind, accept_peekToken hblanks rfl]
      rfl
    rw [accept_bind, List.append_assoc, List.singleton_append, hno]
    rfl
  | cons m members =>
    obtain ⟨front, more, rfl, hfront, hmore⟩ := spaced_append.1 hs
    obtain ⟨blanks, blanks', value, rfl, hblanks, hblanks', hvalue⟩ := spaced_member_iff.1 hfront
    have hrest := closes_remainder (.inr rfl) hmore rest
    have hassoc : blanks ++ (m.1.token ++ (blanks' ++ 0x3A :: value)) ++ more ++ rest =
        blanks ++ (m.1.token ++ (blanks' ++ 0x3A :: (value ++ (more ++ rest)))) := by simp
    have hnull := Codec.exact_null (depth + 1) m.2 value (more ++ rest) hvalue hrest
    have htail (a : α) : accept (expectToken 0x3A >>= fun _ => Codec.null.read (depth + 1) >>= fun _ =>
        expectToken 0x7D >>= fun _ => pure a) (blanks' ++ 0x3A :: (value ++ (more ++ rest))) =
        (((Codec.null.read (depth + 1)).meaning m.2).bind fun _ =>
          if members.isEmpty then some a else none).map (·, rest) := by
      rw [accept_colon hblanks', accept_bind, hnull]
      cases (Codec.null.read (depth + 1)).meaning m.2 with
      | none => rfl
      | some u =>
        show accept (expectToken 0x7D >>= fun _ => pure a) (more ++ rest) = _
        rw [accept_bind, accept_closing (.inr rfl) hmore, List.isEmpty_map]
        cases members <;> rfl
    rw [hassoc, accept_bind, accept_readAs_key m.1 hblanks]
    cases hkey : m.1.name? with
    | none => cases members <;> simp [hkey]
    | some key =>
      show accept (orMismatch (Codec.named? name all key) >>= _) _ = _
      rw [accept_bind, accept_orMismatch]
      cases hname : Codec.named? name all key with
      | none => cases members <;> simp [hkey, hname]
      | some a =>
        refine (htail a).trans ?_
        cases members <;> simp [hkey, hname, Option.map_eq_bind]

theorem Codec.means_readNamed {α : Type} (name : α → String) (all : List α) (depth : Nat) :
    (readNamed name all depth).Means (namedMeaning name all depth) := by
  refine means_peekToken fun d t rest ht hrest => ?_
  dsimp only
  cases d with
  | scalar token hscalar =>
    have hno := (Doc.opensNone_first hscalar).noObject.1
    have hread := means_readAs readNamed.textOnly _ t rest ht.spaced hrest
    dsimp only at hread
    show _ = Option.map _ (((Doc.scalar token hscalar).scalar?.bind readNamed.textOnly).bind _)
    rw [accept_ite]
    split
    · rw [accept_bind, hread]
      cases (Doc.scalar token hscalar).scalar?.bind readNamed.textOnly with
      | none => rfl
      | some s => exact accept_orMismatch _ _
    · next hquote =>
      have hnone : (Doc.scalar token hscalar).scalar?.bind readNamed.textOnly = none := by
        cases hs : (Doc.scalar token hscalar).scalar? with
        | none => rfl
        | some v =>
          cases v with
          | text s => exact absurd (by simpa using first_of_text hscalar hs) hquote
          | null | bool | number => rfl
      rw [hnone, accept_ite, if_neg (by simpa using hno)]
      rfl
  | list items => rfl
  | object members =>
    obtain ⟨s, rfl, hs⟩ := ht.object
    rw [accept_ite, if_neg (by simp), accept_ite, if_pos (by simp), accept_bind, List.cons_append,
      accept_enter]
    by_cases hdepth : depth < maxDepth
    · rw [if_pos hdepth]
      refine (accept_named_object name all depth hs rest).trans ?_
      rcases members with - | ⟨m, - | ⟨m', members⟩⟩ <;> simp [namedMeaning, hdepth]
    · rw [if_neg hdepth]
      rcases members with - | ⟨m, - | ⟨m', members⟩⟩ <;> simp [namedMeaning, hdepth]

theorem mem_of_namedMeaning {α : Type} {name : α → String} {all : List α} {depth : Nat} {d : Doc}
    {a : α} (h : namedMeaning name all depth d = some a) : a ∈ all := by
  have hmem {o : Option String} (ho : o.bind (Codec.named? name all) = some a) : a ∈ all := by
    obtain ⟨s, -, hs⟩ := Option.bind_eq_some_iff.1 ho
    exact List.mem_of_find?_eq_some hs
  unfold namedMeaning at h
  split at h
  · split at h
    · obtain ⟨a', ha', h⟩ := Option.bind_eq_some_iff.1 h
      obtain ⟨-, -, rfl⟩ := Option.map_eq_some_iff.1 h
      exact hmem ha'
    · cases h
  · cases h
  · exact hmem h

theorem Codec.exact_enumeration {α : Type} (name : α → String) (all : List α) :
    (enumeration name all).toCodec.Exact := exact_of_means (means_readNamed name all)

/-! ## Values of unknown type -/

/-- What is kept of a document, with room for so many containers inside one another. -/
def bufferedMeaning : Nat → Doc → Option Buffered
  | room + 1, .list items => (items.mapM (bufferedMeaning room)).map .list
  | room + 1, .object members =>
    (membersMeaning (fun key before d => (bufferedMeaning room d).map fun b => (key, b) :: before) []
      members).map fun before => .object before.reverse
  | _, d => d.scalar?.map .scalar

theorem accept_readBufferedWith_scalar (inner : Option (Reader Buffered)) {token : Bytes}
    (h : IsScalar token) {t rest : Bytes} (ht : Spaced (Doc.scalar token h).tokens t)
    (hrest : Closes rest) : accept (readBufferedWith inner) (t ++ rest) =
      ((Doc.scalar token h).scalar?.map Buffered.scalar).map (·, rest) := by
  have hfirst := Doc.opensNone_first h
  obtain ⟨t', hflush, hpeek⟩ := accept_peekToken_doc ht rest _
  refine hpeek.trans ?_
  obtain rfl := hflush.scalar
  dsimp only
  rw [if_neg (by simp [hfirst.noList.1, hfirst.noObject.1]), accept_bind,
    (settles_readScalar h).accept_eq hrest]
  show _ = Option.map _ ((value readScalar t').map Buffered.scalar)
  cases value readScalar t' <;> rfl

theorem means_readBuffered (room : Nat) : (readBuffered room).Means (bufferedMeaning room) := by
  induction room with
  | zero =>
    intro d t rest ht hrest
    cases d with
    | scalar token h => exact accept_readBufferedWith_scalar none h ht hrest
    | list | object =>
      obtain ⟨t', -, hpeek⟩ := accept_peekToken_doc ht rest _
      exact hpeek
  | succ room ih =>
    intro d t rest ht hrest
    cases d with
    | scalar token h => exact accept_readBufferedWith_scalar _ h ht hrest
    | list items =>
      obtain ⟨t', hflush, hpeek⟩ := accept_peekToken_doc ht rest _
      obtain ⟨s, rfl, hs⟩ := hflush.list
      refine hpeek.trans ?_
      dsimp only
      rw [if_pos (by simp), List.cons_append, accept_advance_bind, if_pos (by simp), accept_bind,
        accept_readList ih hs]
      show _ = Option.map _ ((items.mapM (bufferedMeaning room)).map Buffered.list)
      cases items.mapM (bufferedMeaning room) <;> rfl
    | object members =>
      obtain ⟨t', hflush, hpeek⟩ := accept_peekToken_doc ht rest _
      obtain ⟨s, rfl, hs⟩ := hflush.object
      refine hpeek.trans ?_
      have hmember : MeansMember (fun _ => True) (fun key before => expectToken 0x3A >>= fun _ =>
          readBuffered room >>= fun b => (pure ((key, b) :: before) : Reader _))
          fun key before d => (bufferedMeaning room d).map fun b => (key, b) :: before := by
        refine ⟨fun {key before d blanks t rest} _ hblanks ht hrest => ?_, fun _ _ => trivial⟩
        rw [accept_colon hblanks]
        exact ih.map _ d t rest ht hrest
      dsimp only
      rw [if_pos (by simp), List.cons_append, accept_advance_bind, if_neg (by simp), accept_bind,
        accept_readObject hmember hs trivial]
      show _ = Option.map _ ((membersMeaning _ [] members).map _)
      cases membersMeaning (fun key before d => (bufferedMeaning room d).map fun b => (key, b) :: before)
        [] members <;> rfl

end ManagedAgent.Wire
