import ManagedAgent.Proofs.Wire.RecordSpelling

/-!
# Members in another order, and members that nobody asked for

A `Shape` says which objects of a document are maps, records and tagged values, and which members
they know. A `Change` is one step that rearranges a document of a shape: the members of an object in
another order, one more member with a key that is not known, or a step inside a part of it.

* `Change` : what may be done to a document;
* `Codec.Heeds` : a codec gets the same value from the document as before;
* `heeds_list`, `heeds_map`, `heeds_record` : so do the codecs of containers, if those of their parts
  do.

The content of a tagged value may be a name in an object, with an empty object for its value, only
where it comes before the tag. Such content has to stay there.
-/

set_option autoImplicit false

namespace ManagedAgent.NameMap
variable {α : Type}

/-- A map is what it holds. -/
theorem ext_get? {m m' : NameMap α} (h : ∀ name, m.get? name = m'.get? name) : m = m' := by
  have hnodup (m : NameMap α) : m.entries.Nodup := by
    refine m.sorted.imp fun {e e'} hlt => ?_
    rintro rfl
    exact String.lt_irrefl _ hlt
  have hmem (e : String × α) : e ∈ m.entries ↔ e ∈ m'.entries := by
    rw [mem_entries, mem_entries, h]
  have hperm := (List.perm_ext_iff_of_nodup (hnodup m) (hnodup m')).2 hmem
  have hentries := hperm.eq_of_pairwise
    (fun a b _ _ hab hba => absurd (String.lt_trans hab hba) (String.lt_irrefl _)) m.sorted m'.sorted
  obtain ⟨entries, _⟩ := m
  obtain ⟨entries', _⟩ := m'
  cases hentries
  rfl

theorem insert_comm (m : NameMap α) {name name' : String} (hne : name ≠ name') (a a' : α) :
    (m.insert name a).insert name' a' = (m.insert name' a').insert name a := by
  refine ext_get? fun k => ?_
  simp only [get?_insert]
  by_cases hk : k = name'
  · rw [if_pos hk, if_neg (hk ▸ hne.symm), if_pos hk]
  · rw [if_neg hk, if_neg hk]

end ManagedAgent.NameMap

namespace ManagedAgent.Wire

open ManagedAgent.Wire.Reader

/-! ## Shapes -/

/-- Which objects of a document are maps, records and tagged values. -/
inductive Shape where
  /-- A scalar, a list of scalars, or a name: nothing that has an order, or more than one member. -/
  | plain
  | list (item : Shape)
  | map (value : Shape)
  | record (fields : List (String × Shape))
  /-- An object of a tag and its content. -/
  | tagged (tag content : String)

/-- An object whose only member is an empty object. -/
def Doc.IsEmptyName (d : Doc) : Prop := ∃ k, d = .object [(k, .object [])]

def keyNames (members : List (Key × Doc)) : List (Option String) := members.map (·.1.name?)

def Precedes (members : List (Key × Doc)) (first second : String) : Prop :=
  [some first, some second].Sublist (keyNames members)

namespace Shape

/-- The elements at this place of a list have this shape. -/
def At : Shape → Nat → Shape → Prop
  | .list item, _, s => s = item
  | .record fields, n, s => ∃ name, fields[n]? = some (name, s)
  | _, _, _ => False

/-- The members with this key have this shape. -/
def Under : Shape → String → Shape → Prop
  | .map value, _, s => s = value
  | .record fields, key, s => (key, s) ∈ fields
  | _, _, _ => False

/-- The key is not one that an object of the shape knows. -/
def Ignores : Shape → String → Prop
  | .record fields, key => key ∉ fields.map (·.1)
  | .tagged tag content, key => key ≠ tag ∧ key ≠ content
  | _, _ => False

/-- The members may be put into this order. -/
def Allows : Shape → List (Key × Doc) → List (Key × Doc) → Prop
  | .map _, _, _ => True
  | .record _, _, _ => True
  | .tagged tag content, before, after =>
    (∀ m ∈ before, m.1.name? = some content → ¬ m.2.IsEmptyName) ∨
      (Precedes after tag content → Precedes before tag content)
  | _, _, _ => False

end Shape

/-- One step of rearranging a document of a shape. -/
inductive Change : Shape → Doc → Doc → Prop where
  /-- The members of an object, of which no two have the same key, in another order. -/
  | reorder {s : Shape} {members members' : List (Key × Doc)} (hallows : s.Allows members members')
      (hperm : members.Perm members') (hdistinct : (keyNames members).Nodup) :
      Change s (.object members) (.object members')
  /-- One more member, with a key that is not known. -/
  | insert {s : Shape} {front back : List (Key × Doc)} {k : Key} {key : String} {d : Doc}
      (hkey : k.name? = some key) (hignored : s.Ignores key) :
      Change s (.object (front ++ back)) (.object (front ++ (k, d) :: back))
  /-- Another value of a member whose key is not known. -/
  | replace {s : Shape} {front back : List (Key × Doc)} {k : Key} {key : String} {d d' : Doc}
      (hkey : k.name? = some key) (hignored : s.Ignores key) :
      Change s (.object (front ++ (k, d) :: back)) (.object (front ++ (k, d') :: back))
  | member {s s' : Shape} {front back : List (Key × Doc)} {k : Key} {key : String} {d d' : Doc}
      (hkey : k.name? = some key) (hunder : s.Under key s') (h : Change s' d d') :
      Change s (.object (front ++ (k, d) :: back)) (.object (front ++ (k, d') :: back))
  | element {s s' : Shape} {front back : List Doc} {d d' : Doc} (hat : s.At front.length s')
      (h : Change s' d d') : Change s (.list (front ++ d :: back)) (.list (front ++ d' :: back))

/-- The codec takes documents, gets the value of one whatever its text, and gets it still after a
change. -/
structure Codec.Heeds {α : Type} (c : Codec α) (s : Shape) : Prop where
  takes : c.TakesDocs
  exact : c.Exact
  stable : ∀ {depth d d' v}, Change s d d' → (c.read depth).meaning d = some v →
    (c.read depth).meaning d' = some v

/-! ## Lists and optional values -/

theorem not_change_plain {d d' : Doc} : ¬ Change .plain d d' := by
  rintro (h | ⟨-, h⟩ | ⟨-, h⟩ | ⟨-, h⟩ | ⟨h⟩) <;> exact h

theorem Change.not_isNull {s : Shape} {d d' : Doc} (h : Change s d d') :
    d.isNull = false ∧ d'.isNull = false := by
  cases h <;> exact ⟨rfl, rfl⟩

namespace Codec
variable {α : Type}

theorem heeds_plain {c : Codec α} (htakes : c.TakesDocs) (h : c.Exact) : c.Heeds .plain :=
  ⟨htakes, h, fun hchange => absurd hchange not_change_plain⟩

theorem mapM_replace {f : Doc → Option α} {front back : List Doc} {d d' : Doc} {l : List α}
    (hd : ∀ a, f d = some a → f d' = some a) (h : (front ++ d :: back).mapM f = some l) :
    (front ++ d' :: back).mapM f = some l := by
  induction front generalizing l with
  | nil =>
    rw [List.nil_append, List.mapM_cons] at h ⊢
    obtain ⟨a, ha, h⟩ := Option.bind_eq_some_iff.1 h
    rw [hd a ha]
    exact h
  | cons x front ih =>
    rw [List.cons_append, List.mapM_cons] at h ⊢
    obtain ⟨a, ha, h⟩ := Option.bind_eq_some_iff.1 h
    obtain ⟨as, has, h⟩ := Option.bind_eq_some_iff.1 h
    rw [ha, ih has]
    exact h

theorem heeds_list {item : Codec α} {s : Shape} (h : item.Heeds s) : (list item).Heeds (.list s) where
  takes := takesDocs_list h.takes
  exact := exact_of_means (means_list h.exact)
  stable {depth d d' v} hchange hv := by
    rw [(means_list h.exact depth).meaning_eq] at hv ⊢
    cases hchange with
    | reorder hallows => exact hallows.elim
    | insert _ hignored => exact hignored.elim
    | replace _ hignored => exact hignored.elim
    | member _ hunder => exact hunder.elim
    | element hat hchange =>
      obtain rfl := hat
      rw [listMeaning] at hv ⊢
      by_cases hdepth : depth < maxDepth
      · rw [if_pos hdepth] at hv ⊢
        exact mapM_replace (fun a => h.stable hchange) hv
      · rw [if_neg hdepth] at hv
        cases hv

theorem heeds_optional {value : Codec α} {s : Shape} (h : value.Heeds s) :
    value.optional.Heeds s where
  takes := takesDocs_optional h.takes
  exact := exact_of_means (means_optional h.exact)
  stable {depth d d' v} hchange hv := by
    rw [(means_optional h.exact depth).meaning_eq] at hv ⊢
    obtain ⟨hd, hd'⟩ := hchange.not_isNull
    unfold optionalMeaning at hv ⊢
    rw [if_neg (by simp [hd])] at hv
    rw [if_neg (by simp [hd'])]
    obtain ⟨a, ha, rfl⟩ := Option.map_eq_some_iff.1 hv
    rw [h.stable hchange ha]
    rfl

end Codec

/-! ## The members of an object -/

section Members
variable {δ : Type} {member : String → δ → Doc → Option δ} {draft v : δ}
  {front back members members' : List (Key × Doc)} {k : Key} {key : String} {d d' : Doc}

theorem membersMeaning_cons (m : Key × Doc) :
    membersMeaning member draft (m :: members) =
      (m.1.name?.bind fun key => member key draft m.2).bind fun draft =>
        membersMeaning member draft members := by
  rw [membersMeaning, List.foldlM_cons]
  rfl

theorem membersMeaning_append :
    membersMeaning member draft (front ++ back) =
      (membersMeaning member draft front).bind fun draft => membersMeaning member draft back := by
  rw [membersMeaning, List.foldlM_append]
  rfl

theorem membersMeaning_replace (hkey : k.name? = some key)
    (hd : ∀ draft v, member key draft d = some v → member key draft d' = some v)
    (h : membersMeaning member draft (front ++ (k, d) :: back) = some v) :
    membersMeaning member draft (front ++ (k, d') :: back) = some v := by
  rw [membersMeaning_append] at h ⊢
  obtain ⟨draft', hfront, h⟩ := Option.bind_eq_some_iff.1 h
  rw [membersMeaning_cons, hkey, Option.bind_some] at h
  obtain ⟨draft'', hmember, hback⟩ := Option.bind_eq_some_iff.1 h
  rw [hfront, Option.bind_some, membersMeaning_cons, hkey, Option.bind_some, hd _ _ hmember]
  exact hback

/-- A member that leaves every draft as it is. -/
theorem membersMeaning_insert (hkey : k.name? = some key) (hd : ∀ draft, member key draft d = some draft) :
    membersMeaning member draft (front ++ (k, d) :: back) =
      membersMeaning member draft (front ++ back) := by
  rw [membersMeaning_append, membersMeaning_append]
  congr 1
  funext draft
  rw [membersMeaning_cons, hkey, Option.bind_some, hd]
  rfl

/-- Members that can be swapped, two of different keys at a time, may stand in any order. -/
theorem membersMeaning_perm
    (hswap : ∀ key key' draft d d', key ≠ key' →
      ((member key draft d).bind fun draft => member key' draft d') =
        (member key' draft d').bind fun draft => member key draft d)
    (hperm : members.Perm members') (hdistinct : (keyNames members).Nodup) :
    membersMeaning member draft members = membersMeaning member draft members' := by
  induction hperm generalizing draft with
  | nil => rfl
  | cons m _ ih =>
    rw [membersMeaning_cons, membersMeaning_cons]
    congr 1
    funext draft
    exact ih (List.nodup_cons.1 hdistinct).2
  | swap m m' members =>
    have hne : m'.1.name? ≠ m.1.name? := by
      rintro heq
      exact (List.nodup_cons.1 hdistinct).1 (List.mem_cons.2 (.inl heq))
    simp only [membersMeaning_cons]
    cases hkey : m.1.name? with
    | none => cases m'.1.name? <;> simp
    | some key =>
      cases hkey' : m'.1.name? with
      | none => simp
      | some key' =>
        have hkeys : key' ≠ key := fun h => hne (by rw [hkey, hkey', h])
        simp only [Option.bind_some]
        rw [← Option.bind_assoc, hswap key' key draft m'.2 m.2 hkeys, Option.bind_assoc]
  | trans hfirst _ ih ih' =>
    exact (ih hdistinct).trans (ih' ((hfirst.map _).nodup_iff.1 hdistinct))

end Members

/-! ## Maps -/

theorem Codec.heeds_map {α : Type} {value : Codec α} {s : Shape} (h : value.Heeds s) :
    (map value).Heeds (.map s) where
  takes := takesDocs_map h.takes
  exact := exact_of_means (means_map h.exact)
  stable {depth d d' v} hchange hv := by
    rw [(means_map h.exact depth).meaning_eq] at hv ⊢
    cases hchange with
    | insert _ hignored => exact hignored.elim
    | replace _ hignored => exact hignored.elim
    | element hat => exact hat.elim
    | reorder _ hperm hdistinct =>
      rw [mapMeaning] at hv ⊢
      rw [← membersMeaning_perm ?_ hperm hdistinct]
      · exact hv
      · intro key key' before d d' hne
        unfold mapMember
        cases (value.read (depth + 1)).meaning d <;> cases (value.read (depth + 1)).meaning d' <;>
          simp [NameMap.insert_comm _ hne]
    | member hkey hunder hchange =>
      obtain rfl := hunder
      rw [mapMeaning] at hv ⊢
      by_cases hdepth : depth < maxDepth
      · rw [if_pos hdepth] at hv ⊢
        refine membersMeaning_replace hkey (fun before after hmember => ?_) hv
        obtain ⟨a, ha, rfl⟩ := Option.map_eq_some_iff.1 hmember
        rw [mapMember, h.stable hchange ha]
        rfl
      · rw [if_neg hdepth] at hv
        cases hv

/-! ## Records -/

namespace Record
variable {σ : Type}

inductive Heeds : {β : Type} → Record σ β → List (String × Shape) → Prop where
  | build {β : Type} (b : β) : Heeds (.build b) []
  | field {α β : Type} {front : Record σ (α → β)} {last : Field σ α} {fields : List (String × Shape)}
      {s : Shape} (hfront : Heeds front fields) (hlast : last.codec.Heeds s) :
      Heeds (.field front last) (fields ++ [(last.name, s)])

variable {β : Type} {r : Record σ β} {fields : List (String × Shape)} {depth : Nat}

/-- One more field, at the end of the table. -/
theorem Heeds.snoc {γ : Type} {front : Record σ (γ → β)} {last : Field σ γ}
    {table : List (String × Shape)} {s : Shape} (hfront : front.Heeds fields)
    (hlast : last.codec.Heeds s) (htable : table = fields ++ [(last.name, s)]) :
    (front.field last).Heeds table := htable ▸ .field hfront hlast

theorem Heeds.exact (h : r.Heeds fields) : r.Exact := by
  induction h with
  | build => trivial
  | field _ hlast ih => exact ⟨ih, hlast.exact⟩

theorem Heeds.takes (h : r.Heeds fields) : r.TakesDocs := by
  induction h with
  | build => trivial
  | field _ hlast ih => exact ⟨ih, hlast.takes⟩

theorem Heeds.names_eq (h : r.Heeds fields) : fields.map (·.1) = r.names := by
  induction h with
  | build => rfl
  | field _ _ ih => rw [List.map_append, ih, names]; rfl

theorem Heeds.size_eq (h : r.Heeds fields) : fields.length = r.size := by
  induction h with
  | build => rfl
  | field _ _ ih => rw [List.length_append, ih, size]; rfl

/-- A key that is no field's leaves the draft as it is. -/
theorem memberMeaning_of_not_mem {key : String} (hkey : key ∉ r.names) (draft : r.Draft) (d : Doc) :
    r.memberMeaning depth key draft d = some draft := by
  induction r with
  | build => rfl
  | @field γ β front last ih =>
    obtain ⟨first, place⟩ := (draft : front.Draft × Option γ)
    rw [names, List.mem_append, not_or, List.mem_singleton] at hkey
    rw [memberMeaning_field, if_neg hkey.2, ih hkey.1]
    rfl

theorem memberMeaning_swap_last {β γ : Type} (front : Record σ (γ → β)) (last : Field σ γ)
    {key : String} (hkey : key ≠ last.name) (first : front.Draft) (place : Option γ) (d d' : Doc) :
    (((front.field last).memberMeaning depth last.name (first, place) d).bind fun draft =>
        (front.field last).memberMeaning depth key draft d') =
      ((front.field last).memberMeaning depth key (first, place) d').bind fun draft =>
        (front.field last).memberMeaning depth last.name draft d := by
  have hfront (first : front.Draft) (place : Option γ) :
      (front.field last).memberMeaning depth key (first, place) d' =
        (front.memberMeaning depth key first d').map fun first => (first, place) := by
    rw [memberMeaning_field, if_neg hkey]
  have hlast (first : front.Draft) :
      (front.field last).memberMeaning depth last.name (first, place) d =
        if place.isSome then none
        else ((last.codec.read (depth + 1)).meaning d).map fun a => (first, some a) := by
    rw [memberMeaning_field, if_pos rfl]
  rw [hlast, hfront]
  cases hmore : front.memberMeaning depth key first d' with
  | none =>
    by_cases hfilled : place.isSome = true
    · rw [if_pos hfilled]
      rfl
    · rw [if_neg hfilled]
      cases (last.codec.read (depth + 1)).meaning d with
      | none => rfl
      | some a => exact (hfront first (some a)).trans (by rw [hmore]; rfl)
  | some first' =>
    refine Eq.trans ?_ (hlast first').symm
    by_cases hfilled : place.isSome = true
    · rw [if_pos hfilled, if_pos hfilled]
      rfl
    · rw [if_neg hfilled, if_neg hfilled]
      cases (last.codec.read (depth + 1)).meaning d with
      | none => rfl
      | some a => exact (hfront first (some a)).trans (by rw [hmore]; rfl)

/-- Members of different keys go to different places. -/
theorem memberMeaning_swap {key key' : String} (hne : key ≠ key') (draft : r.Draft) (d d' : Doc) :
    ((r.memberMeaning depth key draft d).bind fun draft => r.memberMeaning depth key' draft d') =
      (r.memberMeaning depth key' draft d').bind fun draft => r.memberMeaning depth key draft d := by
  induction r with
  | build => rfl
  | @field γ β front last ih =>
    obtain ⟨first, place⟩ := (draft : front.Draft × Option γ)
    by_cases hkey : key = last.name
    · subst hkey
      exact memberMeaning_swap_last front last hne.symm first place d d'
    by_cases hkey' : key' = last.name
    · subst hkey'
      exact (memberMeaning_swap_last front last hne first place d' d).symm
    have hfront {key : String} (h : key ≠ last.name) (first : front.Draft) (d : Doc) :
        (front.field last).memberMeaning depth key (first, place) d =
          (front.memberMeaning depth key first d).map fun first => (first, place) := by
      rw [memberMeaning_field, if_neg h]
    have hboth {key key' : String} (h : key ≠ last.name) (h' : key' ≠ last.name) (d d' : Doc) :
        (((front.field last).memberMeaning depth key (first, place) d).bind fun draft =>
          (front.field last).memberMeaning depth key' draft d') =
        ((front.memberMeaning depth key first d).bind fun first =>
          front.memberMeaning depth key' first d').map fun first => (first, place) := by
      rw [hfront h]
      cases front.memberMeaning depth key first d with
      | none => rfl
      | some first => exact hfront h' first d'
    rw [hboth hkey hkey', hboth hkey' hkey, ih]

/-- A field's value may be changed as its codec allows. -/
theorem memberMeaning_stable (h : r.Heeds fields) (hnames : r.names.Nodup) {key : String} {s : Shape}
    (hfield : (key, s) ∈ fields) {d d' : Doc} (hchange : Change s d d') {draft draft' : r.Draft}
    (hmember : r.memberMeaning depth key draft d = some draft') :
    r.memberMeaning depth key draft d' = some draft' := by
  induction h with
  | build => cases hfield
  | @field γ β front last fields s' hfront hlast ih =>
    obtain ⟨first, place⟩ := (draft : front.Draft × Option γ)
    obtain ⟨first', place'⟩ := (draft' : front.Draft × Option γ)
    rw [names, List.nodup_append] at hnames
    obtain ⟨hnodup, -, hdisjoint⟩ := hnames
    rw [memberMeaning_field] at hmember ⊢
    by_cases hkey : key = last.name
    · rw [if_pos hkey] at hmember ⊢
      by_cases hfilled : place.isSome = true
      · rw [if_pos hfilled] at hmember
        cases hmember
      · rw [if_neg hfilled] at hmember ⊢
        obtain ⟨a, ha, heq⟩ := Option.map_eq_some_iff.1 hmember
        have hlastField : s = s' := by
          rcases List.mem_append.1 hfield with hfield | hfield
          · have hmem : key ∈ front.names := hfront.names_eq ▸ List.mem_map_of_mem hfield
            exact absurd hkey (hdisjoint key hmem last.name List.mem_cons_self)
          · exact congrArg Prod.snd (List.mem_singleton.1 hfield)
        subst hlastField
        rw [hlast.stable hchange ha]
        exact congrArg some heq
    · rw [if_neg hkey] at hmember ⊢
      obtain ⟨first'', hfirst, heq⟩ := Option.map_eq_some_iff.1 hmember
      have hfrontField : (key, s) ∈ fields := by
        rcases List.mem_append.1 hfield with hfield | hfield
        · exact hfield
        · exact absurd (congrArg Prod.fst (List.mem_singleton.1 hfield)) hkey
      rw [ih hnodup hfrontField hfirst]
      exact congrArg some heq

theorem elementsMeaning_stable (h : r.Heeds fields) {items : List Doc} {n : Nat} {d d' : Doc}
    (hitem : items[n]? = some d)
    (hchange : ∀ name s, fields[n]? = some (name, s) → Change s d d') {draft : r.Draft}
    (helements : r.elementsMeaning depth items = some draft) :
    r.elementsMeaning depth (items.set n d') = some draft := by
  induction h with
  | build => exact helements
  | @field γ β front last fields s hfront hlast ih =>
    rw [elementsMeaning] at helements ⊢
    obtain ⟨first, hfirst, helements⟩ := Option.bind_eq_some_iff.1 helements
    have hfields (name : String) (s' : Shape) (h : fields[n]? = some (name, s')) : Change s' d d' :=
      hchange name s' (by rw [List.getElem?_append_left (List.getElem?_eq_some_iff.1 h).1, h])
    rw [ih hfields hfirst, Option.bind_some, List.getElem?_set]
    by_cases hn : n = front.size
    · obtain rfl := hn
      have hshape : Change s d d' := by
        refine hchange last.name s ?_
        rw [← hfront.size_eq, List.getElem?_concat_length]
      rw [hitem] at helements
      rw [if_pos rfl, if_pos (List.getElem?_eq_some_iff.1 hitem).1]
      obtain ⟨a, ha, rfl⟩ := Option.map_eq_some_iff.1 helements
      dsimp only
      rw [hlast.stable hshape ha]
      rfl
    · rw [if_neg hn]
      exact helements

end Record

theorem Codec.heeds_record {σ : Type} {r : Record σ σ} {fields : List (String × Shape)}
    (h : r.Heeds fields) (hnames : r.names.Nodup) : (record r).Heeds (.record fields) where
  takes := takesDocs_record h.takes
  exact := exact_of_means (means_record h.exact)
  stable {depth d d' v} hchange hv := by
    have hignores {key : String} (hignored : Shape.Ignores (.record fields) key)
        (draft : r.Draft) (d : Doc) : r.memberMeaning depth key draft d = some draft :=
      Record.memberMeaning_of_not_mem (h.names_eq ▸ hignored) draft d
    rw [(means_record h.exact depth).meaning_eq] at hv ⊢
    cases hchange with
    | reorder _ hperm hdistinct =>
      rw [recordMeaning] at hv ⊢
      rw [← membersMeaning_perm (fun key key' draft d d' hne => Record.memberMeaning_swap hne draft d d')
        hperm hdistinct]
      exact hv
    | insert hkey hignored =>
      rw [recordMeaning] at hv ⊢
      rw [membersMeaning_insert hkey fun draft => hignores hignored draft _]
      exact hv
    | replace hkey hignored =>
      rw [recordMeaning, membersMeaning_insert hkey fun draft => hignores hignored draft _] at hv ⊢
      exact hv
    | member hkey hunder hchange =>
      rw [recordMeaning] at hv ⊢
      by_cases hdepth : depth < maxDepth
      · rw [if_pos hdepth] at hv ⊢
        obtain ⟨draft, hdraft, hv⟩ := Option.bind_eq_some_iff.1 hv
        rw [membersMeaning_replace hkey (fun draft draft' hmember =>
          Record.memberMeaning_stable h hnames hunder hchange hmember) hdraft]
        exact hv
      · rw [if_neg hdepth] at hv
        cases hv
    | @element _ s' front back d d' hat hchange =>
      obtain ⟨name, hname⟩ := hat
      have hset : front ++ d' :: back = (front ++ d :: back).set front.length d' := by simp
      rw [recordMeaning] at hv ⊢
      by_cases hdepth : depth < maxDepth
      · rw [if_pos hdepth] at hv ⊢
        obtain ⟨hbuilt, hlength⟩ := Option.filter_eq_some_iff.1 hv
        obtain ⟨draft, hdraft, hfinish⟩ := Option.bind_eq_some_iff.1 hbuilt
        have hstable : r.elementsMeaning depth (front ++ d' :: back) = some draft := by
          rw [hset]
          refine Record.elementsMeaning_stable h (d := d) (by simp) (fun name' s hs => ?_) hdraft
          cases hname.symm.trans hs
          exact hchange
        rw [hstable, Option.bind_some, hfinish, Option.filter_eq_some_iff]
        exact ⟨rfl, by simpa using hlength⟩
      · rw [if_neg hdepth] at hv
        cases hv

end ManagedAgent.Wire
