import ManagedAgent.Proofs.Wire.Container
import ManagedAgent.Proofs.Wire.Meaning

/-!
# What a document means as a record or as a union

A record means what its members make of a draft, or the elements of a list, place by place. A union
means what its members make of the progress of its reading, where content that comes before its tag
is kept.

* `Codec.means_record`, `Codec.means_union`.
-/

set_option autoImplicit false

namespace ManagedAgent.Wire

open ManagedAgent.Wire.Reader

/-! ## Records -/

namespace Record
variable {σ : Type}

def Exact : {β : Type} → Record σ β → Prop
  | _, .build _ => True
  | _, .field front last => front.Exact ∧ last.codec.Exact

def memberMeaning (depth : Nat) (key : String) :
    {β : Type} → (r : Record σ β) → r.Draft → Doc → Option r.Draft
  | _, .build _, draft, _ => some draft
  | _, .field front last, draft, d =>
    if key = last.name then
      if draft.2.isSome then none
      else ((last.codec.read (depth + 1)).meaning d).map fun a => (draft.1, some a)
    else (front.memberMeaning depth key draft.1 d).map fun first => (first, draft.2)

theorem memberMeaning_field {β γ : Type} (front : Record σ (γ → β)) (last : Field σ γ) (depth : Nat)
    (key : String) (first : front.Draft) (place : Option γ) (d : Doc) :
    (front.field last).memberMeaning depth key (first, place) d =
      if key = last.name then
        if place.isSome then none
        else ((last.codec.read (depth + 1)).meaning d).map fun a => (first, some a)
      else (front.memberMeaning depth key first d).map fun first => (first, place) := rfl

theorem accept_readMember_field {β γ : Type} (front : Record σ (γ → β)) (last : Field σ γ)
    (depth : Nat) (other : Reader Unit) (key : String) (first : front.Draft) (place : Option γ)
    (s : Bytes) :
    accept ((front.field last).readMember depth other key (first, place)) s =
      (if key = last.name then
        if place.isSome then none
        else accept (expectToken 0x3A >>= fun _ => last.codec.read (depth + 1) >>= fun a =>
          (pure (first, some a) : Reader (front.Draft × Option γ))) s
      else accept (front.readMember depth other key first >>= fun first =>
          (pure (first, place) : Reader (front.Draft × Option γ))) s :
        Option ((front.Draft × Option γ) × Bytes)) := by
  refine (accept_congr (α := front.Draft × Option γ)
    (run_readMember_field front last depth other key first place s)).trans ?_
  rw [accept_ite, accept_ite]
  rfl

theorem means_readMember {β : Type} (r : Record σ β) (h : r.Exact) (depth : Nat) :
    MeansMember (fun _ => True) (fun key draft => r.readMember depth Unknown.skipped.read key draft)
      fun key => r.memberMeaning depth key := by
  refine ⟨fun {key draft d blanks t rest} _ hblanks ht hrest => ?_, fun _ _ => trivial⟩
  induction r with
  | build b =>
    show accept (expectToken 0x3A >>= fun _ => skipValue) _ = _
    rw [accept_colon hblanks, accept_skipValue d ht hrest]
    rfl
  | @field γ β front last ih =>
    obtain ⟨first, place⟩ := (draft : front.Draft × Option γ)
    refine (accept_readMember_field front last depth _ key first place _).trans ?_
    show _ = Option.map _ ((front.field last).memberMeaning depth key (first, place) d)
    rw [memberMeaning_field]
    by_cases hkey : key = last.name
    · rw [if_pos hkey, if_pos hkey]
      by_cases hfilled : place.isSome = true
      · rw [if_pos hfilled, if_pos hfilled]
        rfl
      · rw [if_neg hfilled, if_neg hfilled, accept_colon hblanks]
        exact (h.2 (depth + 1)).map (fun a => (first, some a)) d t rest ht hrest
    · rw [if_neg hkey, if_neg hkey, accept_bind, ih h.1]
      cases front.memberMeaning depth key first d <;> rfl

def size : {β : Type} → Record σ β → Nat
  | _, .build _ => 0
  | _, .field front _ => front.size + 1

/-- What the first elements of a list mean, one for each field as far as they go. -/
def elementsMeaning (depth : Nat) : {β : Type} → (r : Record σ β) → List Doc → Option r.Draft
  | _, .build _, _ => some ()
  | _, .field front last, items =>
    (front.elementsMeaning depth items).bind fun draft =>
      match items[front.size]? with
      | some d => ((last.codec.read (depth + 1)).meaning d).map fun a => (draft, some a)
      | none => some (draft, none)

end Record

/-- The tokens of the elements that are left of a list, before the first one or after another one. -/
def elementTokens (isFirst : Bool) (items : List Doc) : List Bytes :=
  (if isFirst then content 0x5D else remainder 0x5D) (items.map Doc.tokens)

theorem elementTokens_nil (isFirst : Bool) : elementTokens isFirst [] = [[0x5D]] := by
  cases isFirst <;> rfl

theorem accept_hasElement_nil {isFirst : Bool} {t : Bytes} (ht : Spaced (elementTokens isFirst []) t)
    (rest : Bytes) : accept (hasElement isFirst) (t ++ rest) = some (false, 0x5D :: rest) := by
  rw [elementTokens_nil] at ht
  obtain ⟨blanks, rfl, hblanks⟩ := spaced_remainder_nil_iff.1 ht
  unfold hasElement
  rw [accept_bind, List.append_assoc, List.singleton_append, accept_peekToken hblanks rfl]
  rfl

theorem accept_hasElement_cons {isFirst : Bool} {d : Doc} {items : List Doc} {t : Bytes}
    (ht : Spaced (elementTokens isFirst (d :: items)) t) (rest : Bytes) :
    ∃ front more, Spaced d.tokens front ∧ Spaced (elementTokens false items) more ∧
      accept (hasElement isFirst) (t ++ rest) = some (true, front ++ (more ++ rest)) := by
  have hend : ¬ (d.first == 0x5D) = true := by simpa using d.first_ne.1
  cases isFirst with
  | true =>
    obtain ⟨front, more, rfl, hfront, hmore⟩ := spaced_append.1 ht
    obtain ⟨front', hflush, hpeek⟩ := accept_peekToken_doc hfront (more ++ rest) _
    refine ⟨front', more, hflush.spaced, hmore, ?_⟩
    rw [List.append_assoc]
    refine hpeek.trans ?_
    dsimp only
    rw [if_neg hend]
    rfl
  | false =>
    obtain ⟨blanks, front, more, rfl, hblanks, hfront, hmore⟩ := spaced_remainder_cons_iff.1 ht
    obtain ⟨front', hflush, hpeek⟩ := accept_peekToken_doc hfront (more ++ rest) _
    refine ⟨front', more, hflush.spaced, hmore, ?_⟩
    unfold hasElement
    rw [accept_bind, List.append_assoc, List.cons_append, List.append_assoc,
      accept_peekToken hblanks rfl]
    show accept (ManagedAgent.Reader.advance >>= fun _ => _) _ = _
    rw [accept_advance_bind]
    refine hpeek.trans ?_
    dsimp only
    rw [if_neg hend]
    rfl

theorem accept_closeList {isFirst : Bool} {items : List Doc} {t : Bytes}
    (ht : Spaced (elementTokens isFirst items) t) (rest : Bytes) :
    accept closeList (t ++ rest) = if items.isEmpty then some ((), rest) else none := by
  unfold closeList
  cases items with
  | nil =>
    rw [elementTokens_nil] at ht
    obtain ⟨blanks, rfl, hblanks⟩ := spaced_remainder_nil_iff.1 ht
    rw [accept_bind, List.append_assoc, List.singleton_append, accept_peekToken hblanks rfl]
    rfl
  | cons d items =>
    cases isFirst with
    | true =>
      obtain ⟨front, more, rfl, hfront, -⟩ := spaced_append.1 ht
      obtain ⟨front', -, hpeek⟩ := accept_peekToken_doc hfront (more ++ rest) _
      rw [List.append_assoc]
      refine hpeek.trans ?_
      dsimp only
      rw [if_neg (by simpa using d.first_ne.1)]
      rfl
    | false =>
      obtain ⟨blanks, front, more, rfl, hblanks, -⟩ := spaced_remainder_cons_iff.1 ht
      rw [accept_bind, List.append_assoc, List.cons_append, accept_peekToken hblanks rfl]
      rfl

namespace Record
variable {σ : Type}

theorem accept_readElements_field {β γ : Type} (front : Record σ (γ → β)) (last : Field σ γ)
    (depth : Nat) {s s' : Bytes} {draft : front.Draft} {isFirst : Bool}
    (h : accept (front.readElements depth) s = some ((draft, isFirst), s')) :
    accept ((front.field last).readElements depth) s =
      ((accept (hasElement isFirst) s').bind fun x =>
        if x.1 then (accept (last.codec.read (depth + 1)) x.2).map fun y =>
          (((draft, some y.1), false), y.2)
        else some (((draft, none), isFirst), x.2) :
          Option (((front.Draft × Option γ) × Bool) × Bytes)) := by
  show accept (α := (front.Draft × Option γ) × Bool) (front.readElements depth >>= fun x =>
    hasElement x.2 >>= fun more =>
      if more then last.codec.read (depth + 1) >>= fun a => pure ((x.1, some a), false)
      else pure ((x.1, none), x.2)) s = _
  rw [accept_bind, h, Option.bind_some, accept_bind]
  congr 1
  funext x
  rw [accept_ite, accept_bind]
  split
  · cases accept (last.codec.read (depth + 1)) x.2 <;> rfl
  · rfl

/-- The elements are read into their places, and those beyond the last field are left. -/
theorem accept_readElements {β : Type} (r : Record σ β) (h : r.Exact) (depth : Nat)
    {items : List Doc} {t : Bytes} (ht : Spaced (elementTokens true items) t) (rest : Bytes) :
    match r.elementsMeaning depth items with
    | none => accept (r.readElements depth) (t ++ rest) = none
    | some draft => ∃ isFirst t', Spaced (elementTokens isFirst (items.drop r.size)) t' ∧
        accept (r.readElements depth) (t ++ rest) = some ((draft, isFirst), t' ++ rest) := by
  induction r with
  | build b => exact ⟨true, t, ht, rfl⟩
  | @field γ β front last ih =>
    have hfront := ih h.1
    rw [elementsMeaning, size]
    cases hdraft : front.elementsMeaning depth items with
    | none =>
      rw [hdraft] at hfront
      show accept (front.readElements depth >>= fun _ => _) _ = none
      rw [accept_bind, hfront]
      rfl
    | some draft =>
      rw [hdraft] at hfront
      obtain ⟨isFirst, t', ht', hread⟩ := hfront
      have hstep := accept_readElements_field front last depth hread
      rw [Option.bind_some]
      cases hitem : items[front.size]? with
      | none =>
        have hle := List.getElem?_eq_none_iff.1 hitem
        rw [List.drop_eq_nil_of_le hle] at ht'
        rw [accept_hasElement_nil ht'] at hstep
        refine ⟨isFirst, [0x5D], ?_, hstep⟩
        rw [List.drop_eq_nil_of_le (Nat.le_succ_of_le hle), elementTokens_nil]
        exact spaced_flatten [[0x5D]]
      | some d =>
        obtain ⟨hlt, rfl⟩ := List.getElem?_eq_some_iff.1 hitem
        rw [List.drop_eq_getElem_cons hlt] at ht'
        obtain ⟨before, more, hbefore, hmore, hhas⟩ := accept_hasElement_cons ht' rest
        have hrest := closes_remainder (.inl rfl) hmore rest
        rw [hhas, Option.bind_some, if_pos rfl, h.2 (depth + 1) _ before _ hbefore hrest] at hstep
        dsimp only
        cases hvalue : (last.codec.read (depth + 1)).meaning items[front.size] with
        | none =>
          rw [hvalue] at hstep
          exact hstep
        | some a =>
          rw [hvalue] at hstep
          exact ⟨false, more, hmore, hstep⟩

end Record

/-- The elements of a whole list, of which none may be left. -/
theorem Record.accept_readList {σ : Type} {r : Record σ σ} (h : r.Exact) (depth : Nat)
    {items : List Doc} {t : Bytes} (ht : Spaced (elementTokens true items) t) (rest : Bytes) :
    accept (r.readElements depth >>= fun x => orMismatch (r.finish x.1) >>= fun v =>
      closeList >>= fun _ => pure v) (t ++ rest) =
      (((r.elementsMeaning depth items).bind r.finish).filter fun _ => items.length ≤ r.size).map
        (·, rest) := by
  have hread := r.accept_readElements h depth ht rest
  rw [accept_bind]
  cases hdraft : r.elementsMeaning depth items with
  | none =>
    rw [hdraft] at hread
    rw [hread]
    rfl
  | some draft =>
    rw [hdraft] at hread
    obtain ⟨isFirst, t', ht', hread⟩ := hread
    rw [hread, Option.bind_some, Option.bind_some, accept_bind, accept_orMismatch]
    cases hfinish : r.finish draft with
    | none => simp
    | some v =>
      have hclose : accept (closeList >>= fun _ => pure v) (t' ++ rest) =
          if items.length ≤ r.size then some (v, rest) else none := by
        rw [accept_bind, accept_closeList ht']
        simp only [List.isEmpty_iff, List.drop_eq_nil_iff]
        split <;> rfl
      simp only [Option.bind_some, Option.map_some]
      rw [hclose]
      by_cases hle : items.length ≤ r.size <;> simp [hle]

def recordMeaning {σ : Type} (r : Record σ σ) (depth : Nat) : Doc → Option σ
  | .object members =>
    if depth < maxDepth then
      (membersMeaning (fun key => r.memberMeaning depth key) r.blank members).bind r.finish
    else none
  | .list items =>
    if depth < maxDepth then
      ((r.elementsMeaning depth items).bind r.finish).filter fun _ => items.length ≤ r.size
    else none
  | .scalar _ _ => none

theorem Codec.means_record {σ : Type} {r : Record σ σ} (h : r.Exact) (depth : Nat) :
    ((record r).read depth).Means (recordMeaning r depth) := by
  refine means_peekToken fun d t rest ht hrest => ?_
  dsimp only
  cases d with
  | scalar token hscalar =>
    have hfirst := Doc.opensNone_first hscalar
    rw [accept_ite, if_neg (by simpa using hfirst.noList.1), accept_ite,
      if_neg (by simpa using hfirst.noObject.1)]
    exact means_refuse _ t rest ht.spaced hrest
  | list items =>
    obtain ⟨s, rfl, hs⟩ := ht.list
    rw [accept_ite, if_pos (by simp), accept_bind, List.cons_append, accept_enter, recordMeaning]
    by_cases hdepth : depth < maxDepth
    · rw [if_pos hdepth, if_pos hdepth, Option.bind_some]
      simpa only [Option.bind_fun_some] using Record.accept_readList h depth hs rest
    · rw [if_neg hdepth, if_neg hdepth]
      rfl
  | object members =>
    obtain ⟨s, rfl, hs⟩ := ht.object
    rw [accept_ite, if_neg (by simp), accept_ite, if_pos (by simp), accept_bind, List.cons_append,
      accept_enter, recordMeaning]
    by_cases hdepth : depth < maxDepth
    · rw [if_pos hdepth, if_pos hdepth, Option.bind_some, accept_bind,
        accept_readObject (r.means_readMember h depth) hs trivial]
      cases membersMeaning (fun key => r.memberMeaning depth key) r.blank members with
      | none => rfl
      | some draft =>
        rw [Option.map_some, Option.bind_some, accept_orMismatch, Option.bind_some]
        cases r.finish draft <;> rfl
    · rw [if_neg hdepth, if_neg hdepth]
      rfl

/-! ## Unions -/

namespace Union
variable {σ : Type}

def Exact (u : Union σ) : Prop := ∀ v ∈ u.variants, ∀ depth, (v.read depth).Means (v.read depth).meaning

def tagMeaning (u : Union σ) (depth : Nat) : Doc → Option (Variant σ) :=
  namedMeaning Variant.name u.variants depth

def memberMeaning (u : Union σ) (depth : Nat) (key : String) (p : Progress σ) (d : Doc) :
    Option (Progress σ) :=
  if key = u.tagKey then
    match p with
    | .nothing => (u.tagMeaning depth d).map .tag
    | .content b => (u.tagMeaning depth d).bind fun v => (v.ofBuffered b).map .value
    | _ => none
  else if key = u.contentKey then
    match p with
    | .nothing => (bufferedMeaning (maxDepth - depth) d).map .content
    | .tag v => ((v.read depth).meaning d).map .value
    | _ => none
  else some p

theorem means_readTag (u : Union σ) (depth : Nat) : (u.readTag depth).Means (u.tagMeaning depth) :=
  Codec.means_readNamed Variant.name u.variants depth

theorem tagMeaning_mem {u : Union σ} {depth : Nat} {d : Doc} {v : Variant σ}
    (h : u.tagMeaning depth d = some v) : v ∈ u.variants := mem_of_namedMeaning h

def Progress.IsOf (u : Union σ) : Progress σ → Prop
  | .tag v => v ∈ u.variants
  | _ => True

/-- A member leaves a tag of the union, if it leaves one. -/
theorem isOf_memberMeaning {u : Union σ} {depth : Nat} {key : String} {p p' : Progress σ} {d : Doc}
    (hp : Progress.IsOf u p) (hp' : u.memberMeaning depth key p d = some p') :
    Progress.IsOf u p' := by
  unfold memberMeaning at hp'
  split at hp'
  · cases p with
    | nothing =>
      obtain ⟨v, hv, rfl⟩ := Option.map_eq_some_iff.1 hp'
      exact tagMeaning_mem hv
    | content b =>
      obtain ⟨v, -, hv⟩ := Option.bind_eq_some_iff.1 hp'
      obtain ⟨a, -, rfl⟩ := Option.map_eq_some_iff.1 hv
      trivial
    | tag | value => cases hp'
  · split at hp'
    · cases p with
      | nothing =>
        obtain ⟨b, -, rfl⟩ := Option.map_eq_some_iff.1 hp'
        trivial
      | tag v =>
        obtain ⟨a, -, rfl⟩ := Option.map_eq_some_iff.1 hp'
        trivial
      | content | value => cases hp'
    · cases hp'
      exact hp

theorem means_readMember {u : Union σ} (h : u.Exact) (depth : Nat) :
    MeansMember (Progress.IsOf u) (u.readMember depth) (u.memberMeaning depth) where
  reads {key p d blanks t rest} hp hblanks ht hrest := by
    have hother (p : Progress σ) : accept (readMember.other p) (blanks ++ 0x3A :: (t ++ rest)) =
        some (p, rest) := by
      show accept (expectToken 0x3A >>= fun _ => skipValue >>= fun _ => pure p) _ = _
      rw [accept_colon hblanks, accept_bind, accept_skipValue d ht hrest]
      rfl
    unfold memberMeaning readMember
    by_cases htag : key = u.tagKey
    · have hread := means_readTag u depth d t rest ht hrest
      simp only [if_pos htag]
      cases p with
      | nothing =>
        rw [accept_colon hblanks]
        exact (means_readTag u depth).map Progress.tag d t rest ht hrest
      | content b =>
        rw [accept_colon hblanks, accept_bind, hread]
        cases u.tagMeaning depth d with
        | none => rfl
        | some v =>
          show accept (orMismatch (v.ofBuffered b) >>= fun a => pure (Progress.value a)) rest =
            Option.map _ ((v.ofBuffered b).map Progress.value)
          rw [accept_bind, accept_orMismatch]
          cases v.ofBuffered b <;> rfl
      | tag | value => rfl
    · simp only [if_neg htag]
      by_cases hcontent : key = u.contentKey
      · simp only [if_pos hcontent]
        cases p with
        | nothing =>
          rw [accept_colon hblanks]
          exact (means_readBuffered (maxDepth - depth)).map Progress.content d t rest ht hrest
        | tag v =>
          rw [accept_colon hblanks]
          exact (h v hp depth).map Progress.value d t rest ht hrest
        | content | value => rfl
      · simp only [if_neg hcontent]
        cases p <;> exact hother _
  keeps := isOf_memberMeaning

end Union

def unionMeaning {σ : Type} (u : Union σ) (depth : Nat) : Doc → Option σ
  | .object members =>
    if depth < maxDepth then
      (membersMeaning (u.memberMeaning (depth + 1)) .nothing members).bind Union.Progress.finish
    else none
  | .list [tag, content] =>
    if depth < maxDepth then
      (u.tagMeaning (depth + 1) tag).bind fun v => (v.read (depth + 1)).meaning content
    else none
  | _ => none

theorem Union.accept_readPair {σ : Type} {u : Union σ} (h : u.Exact) (depth : Nat)
    {items : List Doc} {t : Bytes} (ht : Spaced (elementTokens true items) t) (rest : Bytes) :
    accept (u.readPair depth) (t ++ rest) =
      (match items with
        | [tag, content] => (u.tagMeaning depth tag).bind fun v => (v.read depth).meaning content
        | _ => none).map (·, rest) := by
  unfold readPair
  rcases items with - | ⟨tag, items⟩
  · rw [accept_bind, accept_hasElement_nil ht]
    rfl
  obtain ⟨front, more, hfront, hmore, hhas⟩ := accept_hasElement_cons ht rest
  have htag := means_readTag u depth tag front _ hfront (closes_remainder (.inl rfl) hmore rest)
  rw [accept_bind, hhas, Option.bind_some, if_pos rfl, accept_bind, htag]
  cases hv : u.tagMeaning depth tag with
  | none => rcases items with - | ⟨content, - | ⟨d, items⟩⟩ <;> simp [hv]
  | some v =>
    rw [Option.map_some, Option.bind_some]
    rcases items with - | ⟨content, items⟩
    · rw [accept_bind, accept_hasElement_nil hmore]
      rfl
    obtain ⟨front', more', hfront', hmore', hhas'⟩ := accept_hasElement_cons hmore rest
    have hread := h v (tagMeaning_mem hv) depth content front' _ hfront'
      (closes_remainder (.inl rfl) hmore' rest)
    rw [accept_bind, hhas', Option.bind_some, if_pos rfl, accept_bind, hread]
    cases hvalue : (v.read depth).meaning content with
    | none => rcases items with - | ⟨d, items⟩ <;> simp [hv, hvalue]
    | some a =>
      rw [Option.map_some, Option.bind_some, accept_bind, accept_closeList hmore']
      rcases items with - | ⟨d, items⟩
      · simp [hv, hvalue]
      · rfl

theorem Codec.means_union {σ : Type} {u : Union σ} (h : u.Exact) (depth : Nat) :
    (u.codec.read depth).Means (unionMeaning u depth) := by
  refine means_peekToken fun d t rest ht hrest => ?_
  cases d with
  | scalar token hscalar =>
    have hfirst := Doc.opensNone_first hscalar
    rw [accept_ite, if_neg (by simpa using hfirst.noList.1), accept_ite,
      if_neg (by simpa using hfirst.noObject.1)]
    exact means_refuse _ t rest ht.spaced hrest
  | list items =>
    obtain ⟨s, rfl, hs⟩ := ht.list
    rw [accept_ite, if_pos (by simp), accept_bind, List.cons_append, accept_enter]
    by_cases hdepth : depth < maxDepth
    · rw [if_pos hdepth, Option.bind_some]
      refine (Union.accept_readPair h (depth + 1) hs rest).trans ?_
      rcases items with - | ⟨tag, - | ⟨content, - | ⟨d, items⟩⟩⟩ <;> simp [unionMeaning, hdepth]
    · rw [if_neg hdepth]
      rcases items with - | ⟨tag, - | ⟨content, - | ⟨d, items⟩⟩⟩ <;> simp [unionMeaning, hdepth]
  | object members =>
    obtain ⟨s, rfl, hs⟩ := ht.object
    rw [accept_ite, if_neg (by simp), accept_ite, if_pos (by simp), accept_bind, List.cons_append,
      accept_enter, unionMeaning]
    by_cases hdepth : depth < maxDepth
    · rw [if_pos hdepth, if_pos hdepth, Option.bind_some, accept_bind,
        accept_readObject (Union.means_readMember h (depth + 1)) hs
          (show Union.Progress.IsOf u .nothing from trivial)]
      cases membersMeaning (u.memberMeaning (depth + 1)) .nothing members with
      | none => rfl
      | some p =>
        rw [Option.map_some, Option.bind_some, accept_orMismatch, Option.bind_some]
    · rw [if_neg hdepth, if_neg hdepth]
      rfl

end ManagedAgent.Wire
