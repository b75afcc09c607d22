import ManagedAgent.Proofs.Wire.Rearrangement

/-!
# Content that comes before its tag

The content of a tagged value is kept when it comes before its tag, and read at once when it comes
after it. The two agree, but for a name in an object: a kept one may have an empty object for its
value, where one that is read has to have `null`.

* `Agrees` : the same is made of a kept document as of one that is read;
* `heeds_union` : so tag and content may stand in any order, where the exception is kept in place.
-/

set_option autoImplicit false

namespace ManagedAgent.Wire

open ManagedAgent.Wire.Reader

/-- The same is made of a document that was kept as of one that is read, but for a name in an
object, where a kept one may have an empty object for its value. -/
structure Agrees {α : Type} (read : Nat → Reader α) (ofBuffered : Buffered → Option α) : Prop where
  takesDoc : ∀ depth, (read depth).Consumes IsDoc
  exact : ∀ depth, (read depth).Means (read depth).meaning
  keeps : ∀ {depth d a}, depth ≤ maxDepth → (read depth).meaning d = some a →
    (bufferedMeaning (maxDepth - depth) d).bind ofBuffered = some a
  takes : ∀ {depth d a}, depth ≤ maxDepth → ¬ d.IsEmptyName →
    (bufferedMeaning (maxDepth - depth) d).bind ofBuffered = some a →
    (read depth).meaning d = some a

theorem bufferedMeaning_scalar (room : Nat) {t : Bytes} (h : IsScalar t) :
    bufferedMeaning room (.scalar t h) = (Doc.scalar t h).scalar?.map .scalar := by
  cases room <;> rfl

section Agreement
variable {α β : Type}

theorem Agrees.map {read : Nat → Reader α} {ofBuffered : Buffered → Option α}
    (h : Agrees read ofBuffered) (f : α → β) :
    Agrees (fun depth => read depth >>= fun a => pure (f a)) fun b => (ofBuffered b).map f := by
  have hmeaning (depth : Nat) (d : Doc) :
      Reader.meaning (read depth >>= fun a => pure (f a)) d = ((read depth).meaning d).map f :=
    congrFun ((h.exact depth).map f).meaning_eq d
  have hkept (o : Option Buffered) :
      (o.bind fun b => (ofBuffered b).map f) = (o.bind ofBuffered).map f := by
    cases o <;> rfl
  refine ⟨fun depth => (h.takesDoc depth).map f, fun depth => ((h.exact depth).map f).meaning, fun {depth d b} hdepth hd => ?_,
    fun {depth d b} hdepth hname hd => ?_⟩
  · rw [hmeaning] at hd
    obtain ⟨a, ha, rfl⟩ := Option.map_eq_some_iff.1 hd
    rw [hkept, h.keeps hdepth ha]
    rfl
  · rw [hkept] at hd
    obtain ⟨a, ha, rfl⟩ := Option.map_eq_some_iff.1 hd
    rw [hmeaning, h.takes hdepth hname ha]
    rfl

/-- Where the two never differ. -/
theorem agrees_of_eq {read : Nat → Reader α} {ofBuffered : Buffered → Option α}
    (htakes : ∀ depth, (read depth).Consumes IsDoc)
    (hexact : ∀ depth, (read depth).Means (read depth).meaning)
    (heq : ∀ {depth}, depth ≤ maxDepth → ∀ d,
      (bufferedMeaning (maxDepth - depth) d).bind ofBuffered = (read depth).meaning d) :
    Agrees read ofBuffered :=
  ⟨htakes, hexact, fun hdepth h => (heq hdepth _).trans h, fun hdepth _ h => (heq hdepth _).symm.trans h⟩

/-- What is kept of a document is a scalar where the document is one. -/
theorem buffered_scalar (project : Scalar → Option α) (room : Nat) (d : Doc) :
    ((bufferedMeaning room d).bind fun b => b.scalar?.bind project) = d.scalar?.bind project := by
  cases d with
  | scalar t h =>
    rw [bufferedMeaning_scalar]
    cases (Doc.scalar t h).scalar? <;> rfl
  | list items =>
    cases room with
    | zero => rfl
    | succ room =>
      rw [bufferedMeaning, Option.bind_map]
      exact Option.bind_fun_none _
  | object members =>
    cases room with
    | zero => rfl
    | succ room =>
      rw [bufferedMeaning, Option.bind_map]
      exact Option.bind_fun_none _

theorem agrees_scalar (project : Scalar → Option α) :
    Agrees (fun _ => readAs project) fun b => b.scalar?.bind project :=
  agrees_of_eq (fun _ => takesDoc_readAs project) (fun _ => (means_readAs project).meaning) fun _ d => by
    rw [buffered_scalar, (means_readAs project).meaning_eq]

theorem mapM_bind {γ : Type} (f : α → Option β) (g : β → Option γ) (l : List α) :
    ((l.mapM f).bind fun bs => bs.mapM g) = l.mapM fun a => (f a).bind g := by
  induction l with
  | nil => rfl
  | cons a l ih =>
    rw [List.mapM_cons, List.mapM_cons, ← ih]
    cases f a with
    | none => rfl
    | some b => cases l.mapM f <;> cases hb : g b <;> simp [hb]

/-- What a list of scalars is made of is kept as a list. -/
theorem agrees_bytes : Agrees Codec.bytes.read Codec.bytes.ofBuffered := by
  have hbyte : Codec.byte.toCodec.Exact := fun _ => (means_readAs _).meaning
  refine agrees_of_eq (Codec.takesDocs_list fun _ => takesDoc_readAs _)
    (fun depth => (Codec.means_list hbyte depth).meaning) fun {depth} hdepth d => ?_
  rw [show Codec.bytes.read = (Codec.list Codec.byte.toCodec).read from rfl,
    (Codec.means_list hbyte depth).meaning_eq]
  cases d with
  | scalar t h =>
    rw [bufferedMeaning_scalar, Option.bind_map]
    exact Option.bind_fun_none _
  | list items =>
    rw [listMeaning]
    by_cases hroom : depth < maxDepth
    · obtain ⟨room, hroom'⟩ : ∃ room, maxDepth - depth = room + 1 := ⟨maxDepth - depth - 1, by omega⟩
      rw [if_pos hroom, hroom', bufferedMeaning, Option.bind_map]
      refine (mapM_bind _ _ items).trans ?_
      congr 1
      funext d
      refine (buffered_scalar _ room d).trans ?_
      exact (congrFun (means_readAs _).meaning_eq d).symm
    · rw [if_neg hroom, show maxDepth - depth = 0 by omega]
      rfl
  | object members =>
    cases maxDepth - depth with
    | zero => rfl
    | succ room =>
      rw [bufferedMeaning, Option.bind_map]
      exact Option.bind_fun_none _

/-- Kept content that stands for nothing. -/
def nothing? : Buffered → Option Unit
  | .scalar .null => some ()
  | .object [] => some ()
  | _ => none

theorem namedOfBuffered_member (name : α → String) (all : List α) (s : String) (b : Buffered) :
    Codec.namedOfBuffered name all (.object [(s, b)]) =
      (nothing? b).bind fun _ => Codec.named? name all s := by
  unfold nothing?
  split
  · rfl
  · rfl
  · next hnull hempty =>
    unfold Codec.namedOfBuffered
    split
    · next heq => cases heq
    · next heq =>
      cases heq
      exact absurd rfl hnull
    · next heq =>
      cases heq
      exact absurd rfl hempty
    · rfl

theorem length_of_named_kept {name : α → String} {all : List α} {kept : List (String × Buffered)}
    {a : α} (h : Codec.namedOfBuffered name all (.object kept) = some a) : kept.length = 1 := by
  unfold Codec.namedOfBuffered at h
  split at h
  · next heq => cases heq
  · next heq =>
    cases heq
    rfl
  · next heq =>
    cases heq
    rfl
  · cases h

/-- As many members are kept as there are. -/
theorem length_kept {room : Nat} {before after : List (String × Buffered)}
    {members : List (Key × Doc)}
    (h : membersMeaning (fun key before d => (bufferedMeaning room d).map fun b => (key, b) :: before)
      before members = some after) : after.length = before.length + members.length := by
  induction members generalizing before with
  | nil =>
    cases h
    rfl
  | cons m members ih =>
    rw [membersMeaning_cons] at h
    obtain ⟨between, hm, h⟩ := Option.bind_eq_some_iff.1 h
    obtain ⟨key, -, hm⟩ := Option.bind_eq_some_iff.1 hm
    obtain ⟨b, -, rfl⟩ := Option.map_eq_some_iff.1 hm
    rw [ih h, List.length_cons, List.length_cons]
    omega

/-- What is kept of an object has as many members. -/
theorem exists_kept_object {room : Nat} {members : List (Key × Doc)} {b : Buffered}
    (h : bufferedMeaning room (.object members) = some b) :
    ∃ kept, b = .object kept ∧ kept.length = members.length := by
  cases room with
  | zero => cases h
  | succ room =>
    rw [bufferedMeaning] at h
    obtain ⟨after, hafter, rfl⟩ := Option.map_eq_some_iff.1 h
    refine ⟨after.reverse, rfl, ?_⟩
    rw [List.length_reverse, length_kept hafter, List.length_nil, Nat.zero_add]

theorem kept_member (room : Nat) (k : Key) (d : Doc) :
    bufferedMeaning (room + 1) (.object [(k, d)]) =
      k.name?.bind fun key => (bufferedMeaning room d).map fun b => .object [(key, b)] := by
  rw [bufferedMeaning, membersMeaning_cons]
  cases k.name? with
  | none => rfl
  | some key => cases bufferedMeaning room d <;> rfl

/-- `null` is kept as nothing. -/
theorem nothing_of_null {depth : Nat} {d : Doc} (h : (Codec.null.read depth).meaning d = some ())
    (room : Nat) :
    (bufferedMeaning room d).bind nothing? = some () := by
  rw [show Codec.null.read depth = readAs _ from rfl, (means_readAs _).meaning_eq] at h
  obtain ⟨v, hv, hnull⟩ := Option.bind_eq_some_iff.1 h
  cases d with
  | list | object => cases hv
  | scalar t hs =>
    rw [bufferedMeaning_scalar, hv]
    cases v with
    | null => rfl
    | bool | number | text => cases hnull

/-- What is kept as nothing is `null`, or an empty object. -/
theorem null_of_nothing (depth : Nat) {room : Nat} {d : Doc}
    (h : (bufferedMeaning room d).bind nothing? = some ()) (hd : d ≠ .object []) :
    (Codec.null.read depth).meaning d = some () := by
  obtain ⟨b, hb, hnothing⟩ := Option.bind_eq_some_iff.1 h
  cases d with
  | scalar t hs =>
    rw [bufferedMeaning_scalar] at hb
    obtain ⟨v, hv, rfl⟩ := Option.map_eq_some_iff.1 hb
    rw [show Codec.null.read depth = readAs _ from rfl, (means_readAs _).meaning_eq]
    dsimp only
    rw [hv]
    cases v with
    | null => rfl
    | bool | number | text => cases hnothing
  | list items =>
    cases room with
    | zero => cases hb
    | succ room =>
      rw [bufferedMeaning] at hb
      obtain ⟨bs, -, rfl⟩ := Option.map_eq_some_iff.1 hb
      cases hnothing
  | object members =>
    obtain ⟨kept, rfl, hlength⟩ := exists_kept_object hb
    cases kept with
    | cons => cases hnothing
    | nil => exact absurd (congrArg Doc.object (List.length_eq_zero_iff.1 hlength.symm)) hd

/-- Outside an object, a name is kept as it is read. -/
theorem named_kept_scalar (name : α → String) (all : List α) (depth room : Nat) {t : Bytes}
    (h : IsScalar t) : (bufferedMeaning room (.scalar t h)).bind (Codec.namedOfBuffered name all) =
      namedMeaning name all depth (.scalar t h) := by
  rw [bufferedMeaning_scalar]
  show _ = ((Doc.scalar t h).scalar?.bind Codec.readNamed.textOnly).bind (Codec.named? name all)
  cases (Doc.scalar t h).scalar? with
  | none => rfl
  | some v => cases v <;> rfl

/-- A name in an object is kept as it is read. -/
theorem named_kept_of_meaning {name : α → String} {all : List α} {depth : Nat} {k : Key} {d : Doc}
    {a : α} (h : namedMeaning name all depth (.object [(k, d)]) = some a) :
    (bufferedMeaning (maxDepth - depth) (.object [(k, d)])).bind (Codec.namedOfBuffered name all) =
      some a := by
  rw [namedMeaning] at h
  by_cases hroom : depth < maxDepth
  · obtain ⟨room, hroom'⟩ : ∃ room, maxDepth - depth = room + 1 := ⟨maxDepth - depth - 1, by omega⟩
    rw [if_pos hroom] at h
    obtain ⟨a', hname, h⟩ := Option.bind_eq_some_iff.1 h
    obtain ⟨key, hkey, hname⟩ := Option.bind_eq_some_iff.1 hname
    obtain ⟨⟨⟩, hnull, rfl⟩ := Option.map_eq_some_iff.1 h
    obtain ⟨b, hb, hnothing⟩ := Option.bind_eq_some_iff.1 (nothing_of_null hnull room)
    rw [hroom', kept_member, hkey, Option.bind_some, hb, Option.map_some, Option.bind_some,
      namedOfBuffered_member, hnothing, Option.bind_some, hname]
  · rw [if_neg hroom] at h
    cases h

/-- It is read as it was kept, unless an empty object was kept with it. -/
theorem namedMeaning_of_kept {name : α → String} {all : List α} {depth : Nat} {k : Key} {d : Doc}
    {a : α} (hd : d ≠ .object [])
    (h : (bufferedMeaning (maxDepth - depth) (.object [(k, d)])).bind
      (Codec.namedOfBuffered name all) = some a) :
    namedMeaning name all depth (.object [(k, d)]) = some a := by
  obtain ⟨b, hb, hnamed⟩ := Option.bind_eq_some_iff.1 h
  cases hroom : maxDepth - depth with
  | zero =>
    rw [hroom] at hb
    cases hb
  | succ room =>
    rw [hroom, kept_member] at hb
    obtain ⟨key, hkey, hb⟩ := Option.bind_eq_some_iff.1 hb
    obtain ⟨value, hvalue, rfl⟩ := Option.map_eq_some_iff.1 hb
    rw [namedOfBuffered_member] at hnamed
    obtain ⟨⟨⟩, hnothing, hnamed⟩ := Option.bind_eq_some_iff.1 hnamed
    have hnull := null_of_nothing (depth + 1) (Option.bind_eq_some_iff.2 ⟨value, hvalue, hnothing⟩) hd
    rw [namedMeaning, if_pos (by omega), hkey, Option.bind_some, hnamed, Option.bind_some, hnull]
    rfl

/-- A name is kept as it is read; in an object its value may be an empty object too. -/
theorem agrees_enumeration (name : α → String) (all : List α) :
    Agrees (Codec.readNamed name all) (Codec.namedOfBuffered name all) where
  takesDoc depth := Codec.takesDoc_readNamed name all depth
  exact depth := (Codec.means_readNamed name all depth).meaning
  keeps {depth d a} hdepth h := by
    rw [(Codec.means_readNamed name all depth).meaning_eq] at h
    rcases d with ⟨t, hs⟩ | items | (- | ⟨⟨k, d⟩, - | ⟨m, members⟩⟩)
    · exact (named_kept_scalar name all depth _ hs).trans h
    · cases h
    · cases h
    · exact named_kept_of_meaning h
    · cases h
  takes {depth d a} hdepth hname h := by
    rw [(Codec.means_readNamed name all depth).meaning_eq]
    obtain ⟨b, hb, hnamed⟩ := Option.bind_eq_some_iff.1 h
    rcases d with ⟨t, hs⟩ | items | members
    · exact (named_kept_scalar name all depth _ hs).symm.trans h
    · cases hroom : maxDepth - depth with
      | zero =>
        rw [hroom] at hb
        cases hb
      | succ room =>
        rw [hroom, bufferedMeaning] at hb
        obtain ⟨bs, -, rfl⟩ := Option.map_eq_some_iff.1 hb
        cases hnamed
    · obtain ⟨kept, rfl, hlength⟩ := exists_kept_object hb
      rcases members with - | ⟨⟨k, d⟩, - | ⟨m, members⟩⟩
      · obtain rfl := List.length_eq_zero_iff.1 hlength
        cases hnamed
      · exact namedMeaning_of_kept (fun hempty => hname ⟨k, by rw [hempty]⟩) h
      · rw [length_of_named_kept hnamed] at hlength
        simp at hlength

end Agreement

/-! ## Tag and content -/

section Members
variable {δ : Type} {member : String → δ → Doc → Option δ} {draft v : δ}
  {members members' : List (Key × Doc)}

/-- Where unknown keys leave every draft as it is, only the members with known ones count. -/
theorem membersMeaning_filter {known : Key × Doc → Bool}
    (hd : ∀ m key, m.1.name? = some key → known m = false → ∀ draft,
      member key draft m.2 = some draft) (hnames : ∀ m ∈ members, m.1.name?.isSome = true) :
    membersMeaning member draft members = membersMeaning member draft (members.filter known) := by
  induction members generalizing draft with
  | nil => rfl
  | cons m members ih =>
    have hrest : ∀ m ∈ members, m.1.name?.isSome = true := fun m hm =>
      hnames m (List.mem_cons_of_mem _ hm)
    obtain ⟨key, hkey⟩ := Option.isSome_iff_exists.1 (hnames m List.mem_cons_self)
    cases hm : known m with
    | true =>
      rw [List.filter_cons_of_pos hm, membersMeaning_cons, membersMeaning_cons]
      congr 1
      funext draft
      exact ih hrest
    | false =>
      rw [List.filter_cons_of_neg (by simp [hm]), membersMeaning_cons, hkey, Option.bind_some,
        hd m key hkey hm, Option.bind_some, ih hrest]

/-- An object that is accepted has a name for every key. -/
theorem isSome_name_of_membersMeaning (h : membersMeaning member draft members = some v) :
    ∀ m ∈ members, m.1.name?.isSome = true := by
  induction members generalizing draft with
  | nil => nofun
  | cons m members ih =>
    rw [membersMeaning_cons] at h
    obtain ⟨draft', hm, h⟩ := Option.bind_eq_some_iff.1 h
    obtain ⟨key, hkey, -⟩ := Option.bind_eq_some_iff.1 hm
    intro m' hm'
    rcases List.mem_cons.1 hm' with rfl | hm'
    · rw [hkey]
      rfl
    · exact ih h m' hm'

theorem membersMeaning_pair {k k' : Key} {key key' : String} {d d' : Doc}
    (hkey : k.name? = some key) (hkey' : k'.name? = some key') :
    membersMeaning member draft [(k, d), (k', d')] =
      (member key draft d).bind fun draft => member key' draft d' := by
  rw [membersMeaning_cons, hkey, Option.bind_some]
  congr 1
  funext draft
  rw [membersMeaning_cons, hkey', Option.bind_some]
  exact Option.bind_fun_some _

/-- Members with two keys, all different, are in one order or in the other. -/
theorem eq_or_swap_of_perm {a b : String} (hperm : members.Perm members')
    (hdistinct : (keyNames members).Nodup)
    (hnames : ∀ m ∈ members, m.1.name? = some a ∨ m.1.name? = some b) :
    members = members' ∨ ∃ m m', members = [m, m'] ∧ members' = [m', m] := by
  rcases members with - | ⟨m, - | ⟨m', - | ⟨m'', members⟩⟩⟩
  · exact .inl hperm.nil_eq
  · exact .inl (List.singleton_perm.1 hperm)
  · obtain ⟨front, back, rfl⟩ := List.append_of_mem (hperm.subset List.mem_cons_self)
    have hrest := List.singleton_perm.1 ((hperm.trans List.perm_middle).cons_inv)
    rcases List.append_eq_singleton_iff.1 hrest.symm with ⟨rfl, rfl⟩ | ⟨rfl, rfl⟩
    · exact .inl rfl
    · exact .inr ⟨m, m', rfl, rfl⟩
  · -- Of three keys two are the same.
    have hm := hnames m (by simp)
    have hm' := hnames m' (by simp)
    have hm'' := hnames m'' (by simp)
    simp only [keyNames, List.map_cons, List.nodup_cons, List.mem_cons, not_or] at hdistinct
    obtain ⟨⟨h₁, h₂, -⟩, ⟨h₃, -⟩, -⟩ := hdistinct
    rcases hm with hm | hm <;> rcases hm' with hm' | hm' <;> rcases hm'' with hm'' | hm'' <;>
      simp_all

end Members

namespace Union
variable {σ : Type} {u : Union σ} {depth : Nat}

theorem memberMeaning_of_ne {key : String} (htag : key ≠ u.tagKey) (hcontent : key ≠ u.contentKey)
    (p : Progress σ) (d : Doc) : u.memberMeaning depth key p d = some p := by
  unfold memberMeaning
  rw [if_neg htag, if_neg hcontent]

variable {k k' : Key} {tag content : Doc}

/-- The tag, and then its content. -/
theorem membersMeaning_tag_content (hkeys : u.tagKey ≠ u.contentKey) (htag : k.name? = some u.tagKey)
    (hcontent : k'.name? = some u.contentKey) :
    membersMeaning (u.memberMeaning depth) .nothing [(k, tag), (k', content)] =
      (u.tagMeaning depth tag).bind fun v => ((v.read depth).meaning content).map .value := by
  rw [membersMeaning_pair htag hcontent]
  simp only [memberMeaning, if_neg hkeys.symm, if_true]
  rw [Option.bind_map]
  rfl

/-- The content, which is kept until the tag comes. -/
theorem membersMeaning_content_tag (hkeys : u.tagKey ≠ u.contentKey) (htag : k.name? = some u.tagKey)
    (hcontent : k'.name? = some u.contentKey) :
    membersMeaning (u.memberMeaning depth) .nothing [(k', content), (k, tag)] =
      (bufferedMeaning (maxDepth - depth) content).bind fun b =>
        (u.tagMeaning depth tag).bind fun v => (v.ofBuffered b).map .value := by
  rw [membersMeaning_pair hcontent htag]
  simp only [memberMeaning, if_neg hkeys.symm, if_true]
  rw [Option.bind_map]
  rfl

def isKnown (u : Union σ) (name : Option String) : Bool :=
  name == some u.tagKey || name == some u.contentKey

theorem isKnown_iff {name : Option String} :
    u.isKnown name = true ↔ name = some u.tagKey ∨ name = some u.contentKey := by
  simp [isKnown]

/-- Content that comes before its tag does not come after it. -/
theorem not_precedes {members : List (Key × Doc)} (hkeys : u.tagKey ≠ u.contentKey)
    (hknown : keyNames (members.filter fun m => u.isKnown m.1.name?) =
      [some u.contentKey, some u.tagKey]) : ¬ Precedes members u.tagKey u.contentKey := by
  intro hprecedes
  have hboth : [some u.tagKey, some u.contentKey].filter u.isKnown =
      [some u.tagKey, some u.contentKey] := by
    rw [List.filter_eq_self]
    simp [isKnown]
  have hmembers : (keyNames members).filter u.isKnown = [some u.contentKey, some u.tagKey] := by
    rw [← hknown, keyNames, List.filter_map]
    rfl
  have hfilter := hprecedes.filter u.isKnown
  rw [hboth, hmembers] at hfilter
  exact hkeys (Option.some.inj (List.cons.inj (hfilter.eq_of_length rfl)).1)

theorem precedes_of_filter {members : List (Key × Doc)}
    (hknown : keyNames (members.filter fun m => u.isKnown m.1.name?) =
      [some u.tagKey, some u.contentKey]) : Precedes members u.tagKey u.contentKey := by
  rw [Precedes, ← hknown]
  exact List.filter_sublist.map _

/-- Tag and content may be swapped, as far as kept content is as good as content that is read. -/
theorem membersMeaning_swap (h : ∀ v ∈ u.variants, Agrees v.read v.ofBuffered)
    (hkeys : u.tagKey ≠ u.contentKey) (hdepth : depth ≤ maxDepth) {m m' : Key × Doc}
    (hm : u.isKnown m.1.name? = true) (hm' : u.isKnown m'.1.name? = true)
    (hdistinct : m.1.name? ≠ m'.1.name?)
    (hname : m.1.name? = some u.contentKey → ¬ m.2.IsEmptyName) {p : Progress σ}
    (hp : membersMeaning (u.memberMeaning depth) .nothing [m, m'] = some p) :
    membersMeaning (u.memberMeaning depth) .nothing [m', m] = some p := by
  obtain ⟨k, d⟩ := m
  obtain ⟨k', d'⟩ := m'
  rw [isKnown_iff] at hm hm'
  rcases hm with hm | hm <;> rcases hm' with hm' | hm'
  · exact absurd (hm.trans hm'.symm) hdistinct
  · rw [membersMeaning_tag_content hkeys hm hm'] at hp
    obtain ⟨v, hv, hp⟩ := Option.bind_eq_some_iff.1 hp
    obtain ⟨a, ha, rfl⟩ := Option.map_eq_some_iff.1 hp
    obtain ⟨b, hb, hkept⟩ :=
      Option.bind_eq_some_iff.1 ((h v (tagMeaning_mem hv)).keeps hdepth ha)
    rw [membersMeaning_content_tag hkeys hm hm', hb, Option.bind_some, hv, Option.bind_some, hkept]
    rfl
  · rw [membersMeaning_content_tag hkeys hm' hm] at hp
    obtain ⟨b, hb, hp⟩ := Option.bind_eq_some_iff.1 hp
    obtain ⟨v, hv, hp⟩ := Option.bind_eq_some_iff.1 hp
    obtain ⟨a, ha, rfl⟩ := Option.map_eq_some_iff.1 hp
    have hread := (h v (tagMeaning_mem hv)).takes hdepth (hname hm)
      (Option.bind_eq_some_iff.2 ⟨b, hb, ha⟩)
    rw [membersMeaning_tag_content hkeys hm' hm, hv, Option.bind_some, hread]
    rfl
  · exact absurd (hm.trans hm'.symm) hdistinct

theorem membersMeaning_reorder (h : ∀ v ∈ u.variants, Agrees v.read v.ofBuffered)
    (hkeys : u.tagKey ≠ u.contentKey) (hdepth : depth ≤ maxDepth) {members members' : List (Key × Doc)}
    (hallows : (Shape.tagged u.tagKey u.contentKey).Allows members members')
    (hperm : members.Perm members') (hdistinct : (keyNames members).Nodup) {p : Progress σ}
    (hp : membersMeaning (u.memberMeaning depth) .nothing members = some p) :
    membersMeaning (u.memberMeaning depth) .nothing members' = some p := by
  have hskips (m : Key × Doc) (key : String) (hkey : m.1.name? = some key)
      (hm : u.isKnown m.1.name? = false) (p : Progress σ) : u.memberMeaning depth key p m.2 = some p := by
    rw [hkey] at hm
    exact memberMeaning_of_ne (by rintro rfl; simp [isKnown] at hm)
      (by rintro rfl; simp [isKnown] at hm) p m.2
  have hnames := isSome_name_of_membersMeaning hp
  rw [membersMeaning_filter hskips hnames] at hp
  rw [membersMeaning_filter hskips fun m hm => hnames m (hperm.mem_iff.2 hm)]
  have hfilter := hperm.filter fun m => u.isKnown m.1.name?
  have hdistinct' : (keyNames (members.filter fun m => u.isKnown m.1.name?)).Nodup :=
    hdistinct.sublist (List.filter_sublist.map _)
  rcases eq_or_swap_of_perm hfilter hdistinct' fun m hm => isKnown_iff.1 (List.mem_filter.1 hm).2 with
    heq | ⟨m, m', heq, heq'⟩
  · rw [← heq]
    exact hp
  · rw [heq] at hp hdistinct'
    rw [heq']
    have hmem : m ∈ members.filter fun m => u.isKnown m.1.name? := heq ▸ List.mem_cons_self
    have hmem' : m' ∈ members.filter fun m => u.isKnown m.1.name? := by rw [heq]; simp
    obtain ⟨hm, hknown⟩ := List.mem_filter.1 hmem
    have hknown' := (List.mem_filter.1 hmem').2
    have hne : m.1.name? ≠ m'.1.name? := fun h =>
      (List.nodup_cons.1 hdistinct').1 (List.mem_singleton.2 h)
    refine membersMeaning_swap h hkeys hdepth hknown hknown' hne (fun hcontent => ?_) hp
    have htag : m'.1.name? = some u.tagKey :=
      (isKnown_iff.1 hknown').resolve_right fun h => hne (hcontent.trans h.symm)
    rcases hallows with hallows | hallows
    · exact hallows m hm hcontent
    · refine absurd (hallows (precedes_of_filter ?_)) (not_precedes hkeys ?_)
      · rw [heq', keyNames, List.map_cons, List.map_singleton, htag, hcontent]
      · rw [heq, keyNames, List.map_cons, List.map_singleton, htag, hcontent]

end Union

theorem Codec.heeds_union {σ : Type} {u : Union σ} (h : ∀ v ∈ u.variants, Agrees v.read v.ofBuffered)
    (hkeys : u.tagKey ≠ u.contentKey) : u.codec.Heeds (.tagged u.tagKey u.contentKey) where
  takes := takesDocs_union fun v hv => (h v hv).takesDoc
  exact := exact_of_means (means_union fun v hv => (h v hv).exact)
  stable {depth d d' v} hchange hv := by
    have hignores {key : String}
        (hignored : (Shape.tagged u.tagKey u.contentKey).Ignores key) (p : Union.Progress σ) (d : Doc) :
        u.memberMeaning (depth + 1) key p d = some p :=
      Union.memberMeaning_of_ne hignored.1 hignored.2 p d
    rw [(means_union (fun v hv => (h v hv).exact) depth).meaning_eq] at hv ⊢
    cases hchange with
    | reorder hallows hperm hdistinct =>
      rw [unionMeaning] at hv ⊢
      by_cases hdepth : depth < maxDepth
      · rw [if_pos hdepth] at hv ⊢
        obtain ⟨p, hp, hfinish⟩ := Option.bind_eq_some_iff.1 hv
        rw [Union.membersMeaning_reorder h hkeys hdepth hallows hperm hdistinct hp]
        exact hfinish
      · rw [if_neg hdepth] at hv
        cases hv
    | insert hkey hignored =>
      rw [unionMeaning] at hv ⊢
      rw [membersMeaning_insert hkey fun p => hignores hignored p _]
      exact hv
    | replace hkey hignored =>
      rw [unionMeaning, membersMeaning_insert hkey fun p => hignores hignored p _] at hv ⊢
      exact hv
    | member _ hunder => exact hunder.elim
    | element hat => exact hat.elim

end ManagedAgent.Wire
