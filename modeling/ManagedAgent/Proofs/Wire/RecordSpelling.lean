import ManagedAgent.Proofs.Wire.PassingGrammar
import ManagedAgent.Proofs.Wire.RecordMeaning

/-!
# Records and unions take documents

What is read of a list in the places of a record goes with whatever is left of the list, so that the
places may be filled one by one. A union reads its content with the reader of a variant, or keeps it.

* `Codec.takesDocs_record`, `Codec.takesDocs_union`.
-/

set_option autoImplicit false

namespace ManagedAgent.Wire

open ManagedAgent.Wire.Reader

/-! ## Records -/

def IsListRest (isFirst : Bool) (t : Bytes) : Prop :=
  ∃ items : List Doc, Spaced (elementTokens isFirst items) t

section Lists
variable {isFirst : Bool} {s r t : Bytes}

theorem isListRest_nil {blanks : Bytes} (h : Blanks blanks) : IsListRest isFirst (blanks ++ [0x5D]) :=
  ⟨[], elementTokens_nil isFirst ▸ spaced_remainder_nil_iff.2 ⟨blanks, rfl, h⟩⟩

theorem isListRest_padded : Padded (IsListRest isFirst) := by
  cases isFirst with
  | true => exact padded_isElements
  | false =>
    rintro blanks t hblanks ⟨items, ht⟩
    exact ⟨items, by cases items <;> exact Spaced.blanks hblanks ht⟩

/-- The list ends here. -/
theorem exists_of_accept_hasElement_false (h : accept (hasElement isFirst) s = some (false, r)) :
    ∃ blanks, s = blanks ++ r ∧ Blanks blanks := by
  obtain ⟨blanks, s', rfl, hblanks, hmore⟩ := exists_of_accept_peekToken h
  refine ⟨blanks, ?_, hblanks⟩
  cases s' with
  | nil => cases hmore
  | cons b s' =>
    rw [List.head?_cons] at hmore
    dsimp only at hmore
    rw [accept_ite] at hmore
    split at hmore
    · cases hmore
      rfl
    rw [accept_ite] at hmore
    split at hmore
    · cases hmore
    rw [accept_ite] at hmore
    split at hmore
    · obtain ⟨_, _, -, _, hend⟩ :=
        exists_of_accept_peekToken ((accept_advance_bind _ _ _).symm.trans hmore)
      split at hend
      · cases hend
      · rw [accept_ite] at hend
        split at hend <;> cases hend
    · cases hmore

/-- The list goes on with an element, behind a comma if it is not the first one. -/
theorem exists_of_accept_hasElement_true (h : accept (hasElement isFirst) s = some (true, r))
    {x y : Bytes} (hr : r = x ++ y) (hx : IsDoc x) :
    ∃ x', s = x' ++ y ∧ ∀ t, IsListRest false t → IsListRest isFirst (x' ++ t) := by
  subst hr
  obtain ⟨blanks, s', rfl, hblanks, hmore⟩ := exists_of_accept_peekToken h
  cases s' with
  | nil => cases hmore
  | cons b s' =>
    rw [List.head?_cons] at hmore
    dsimp only at hmore
    rw [accept_ite] at hmore
    split at hmore
    · cases hmore
    rw [accept_ite] at hmore
    split at hmore
    · next hfirst =>
      subst hfirst
      have heq : b :: s' = x ++ y := (Prod.mk.inj (Option.some.inj hmore)).2
      refine ⟨blanks ++ x, by rw [heq, List.append_assoc], fun t ht => ?_⟩
      exact isElements_cons (padded_isDoc blanks x hblanks hx) ht
    · next hfirst =>
      obtain rfl : isFirst = false := by simpa using hfirst
      rw [accept_ite] at hmore
      split at hmore
      · next hcomma =>
        obtain ⟨blanks', s'', rfl, hblanks', hend⟩ :=
          exists_of_accept_peekToken ((accept_advance_bind _ _ _).symm.trans hmore)
        have heq : s'' = x ++ y := by
          split at hend
          · cases hend
          · rw [accept_ite] at hend
            split at hend
            · cases hend
            · exact (Prod.mk.inj (Option.some.inj hend)).2
        refine ⟨blanks ++ b :: (blanks' ++ x), by simp [heq], fun t ht => ?_⟩
        rw [List.append_assoc, List.cons_append, eq_of_beq hcomma]
        exact isElementsTail_cons hblanks (padded_isDoc blanks' x hblanks' hx) ht
      · cases hmore

theorem exists_of_accept_closeList {u : Unit} (h : accept closeList s = some (u, r)) :
    ∃ blanks, s = blanks ++ 0x5D :: r ∧ Blanks blanks := by
  obtain ⟨blanks, s', rfl, hblanks, hclose⟩ := exists_of_accept_peekToken h
  cases s' with
  | nil => cases hclose
  | cons b s' =>
    rw [List.head?_cons] at hclose
    dsimp only at hclose
    rw [accept_ite] at hclose
    split at hclose
    · next hb =>
      cases hclose
      exact ⟨blanks, by rw [eq_of_beq hb]; rfl, hblanks⟩
    · cases hclose

end Lists

namespace Record
variable {σ β : Type}

def TakesDocs : {β : Type} → Record σ β → Prop
  | _, .build _ => True
  | _, .field front last => front.TakesDocs ∧ last.codec.TakesDocs

theorem consumes_readMember {r : Record σ β} (h : r.TakesDocs) (depth : Nat) (key : String)
    (draft : r.Draft) : (r.readMember depth Unknown.skipped.read key draft).Consumes IsValue := by
  induction r with
  | build => exact consumes_colon takesDoc_skipValue
  | @field γ β front last ih =>
    obtain ⟨first, place⟩ := (draft : front.Draft × Option γ)
    intro s rest draft' hread
    replace hread := (accept_readMember_field front last depth _ key first place s).symm.trans hread
    split at hread
    · split at hread
      · cases hread
      · exact consumes_colon ((h.2 (depth + 1)).map fun a => (first, some a)) hread
    · exact (ih h.1 first).map (fun first => (first, place)) hread

/-- What was read of a list goes with whatever is left of it. -/
theorem exists_elements {r : Record σ β} (h : r.TakesDocs) {depth : Nat} {s s' t rest : Bytes}
    {draft : r.Draft} {isFirst : Bool}
    (hread : accept (r.readElements depth) s = some ((draft, isFirst), s')) (hs' : s' = t ++ rest)
    (ht : IsListRest isFirst t) : ∃ t', s = t' ++ rest ∧ IsElements t' := by
  induction r generalizing s s' t isFirst with
  | build =>
    cases hread
    exact ⟨t, hs', ht⟩
  | @field γ β front last ih =>
    obtain ⟨⟨first, isFirst'⟩, s₁, hfront, hmore⟩ := exists_of_accept_bind hread
    obtain ⟨more, s₂, hhas, hlast⟩ := exists_of_accept_bind hmore
    cases more with
    | true =>
      obtain ⟨a, s₃, ha, hpure⟩ := exists_of_accept_bind hlast
      cases hpure
      obtain ⟨x, rfl, hx⟩ := h.2 (depth + 1) ha
      subst hs'
      obtain ⟨x', rfl, hx'⟩ := exists_of_accept_hasElement_true hhas rfl hx
      exact ih h.1 hfront (List.append_assoc ..).symm (hx' t ht)
    | false =>
      cases hlast
      obtain ⟨blanks, rfl, hblanks⟩ := exists_of_accept_hasElement_false hhas
      subst hs'
      exact ih h.1 hfront (List.append_assoc ..).symm (isListRest_padded blanks t hblanks ht)

end Record

/-- The elements of a list in the places of a record, up to the end of the list. -/
theorem Record.consumes_elements {σ : Type} {r : Record σ σ} (h : r.TakesDocs) (depth : Nat) :
    (r.readElements depth >>= fun x => orMismatch ((r.finish x.1).bind some) >>= fun v =>
      closeList >>= fun _ => (pure v : Reader σ)).Consumes IsElements := by
  intro s rest v hread
  obtain ⟨⟨draft, isFirst⟩, s₁, helements, hmore⟩ := exists_of_accept_bind hread
  obtain ⟨v', s₂, hfinish, hend⟩ := exists_of_accept_bind hmore
  obtain ⟨_, s₃, hclose, hpure⟩ := exists_of_accept_bind hend
  cases hpure
  obtain ⟨-, rfl⟩ := eq_of_accept_orMismatch hfinish
  obtain ⟨blanks, rfl, hblanks⟩ := exists_of_accept_closeList hclose
  exact exists_elements h helements (t := blanks ++ [0x5D]) (by simp) (isListRest_nil hblanks)

theorem Codec.takesDocs_record {σ : Type} {r : Record σ σ} (h : r.TakesDocs) :
    (record r).TakesDocs := fun depth =>
  consumes_peekToken padded_isDoc fun s rest v hread => by
    dsimp only at hread
    rw [accept_ite] at hread
    split at hread
    · next hhead =>
      obtain ⟨t, heq, ht⟩ := exists_of_accept_enter (Record.consumes_elements h depth) hhead hread
      exact ⟨0x5B :: t, heq, ht.isDoc⟩
    rw [accept_ite] at hread
    split at hread
    · next hhead =>
      have hmembers : (readObject (fun key draft => r.readMember depth Unknown.skipped.read key draft)
          r.blank >>= fun draft => orMismatch ((r.finish draft).bind some)).Consumes IsMembers :=
        (consumes_readObject_of_forall (fun key draft => Record.consumes_readMember h depth key draft)
          r.blank).orMismatch fun draft => (r.finish draft).bind some
      obtain ⟨t, heq, ht⟩ := exists_of_accept_enter hmembers hhead hread
      exact ⟨0x7B :: t, heq, ht.isDoc⟩
    · exact takesDoc_readAs _ hread

/-! ## Unions -/

namespace Union
variable {σ : Type}

def TakesDocs (u : Union σ) : Prop := ∀ v ∈ u.variants, ∀ depth, (v.read depth).Consumes IsDoc

variable {u : Union σ}

/-- A tag that is read is one of the union. -/
theorem yields_mem_readTag (u : Union σ) (depth : Nat) : (u.readTag depth).Yields (· ∈ u.variants) := by
  have hfind (s : String) : ∀ v ∈ Codec.named? Variant.name u.variants s, v ∈ u.variants :=
    fun v hv => List.mem_of_find?_eq_some hv
  unfold readTag Codec.readNamed
  refine yields_bind fun o => ?_
  cases o with
  | none => exact yields_fail
  | some b =>
    exact yields_ite (yields_bind fun s => yields_orMismatch (hfind s)) <|
      yields_ite (yields_bind fun _ => yields_bind fun s =>
        (yields_orMismatch (hfind s)).bind fun v hv =>
          yields_bind fun _ => yields_bind fun _ => yields_bind fun _ => yields_pure hv) yields_fail

theorem takesValues_readMember (h : u.TakesDocs) (depth : Nat) :
    TakesValues (Progress.IsOf u) (u.readMember depth) where
  takes {key p} hp := by
    have hother (p : Progress σ) : (readMember.other p).Consumes IsValue :=
      consumes_colon (takesDoc_skipValue.map fun _ => p)
    have htag : (u.readTag depth).Consumes IsDoc :=
      Codec.takesDoc_readNamed Variant.name u.variants depth
    cases p with
    | nothing =>
      exact consumes_ite (fun _ => consumes_colon (htag.map Progress.tag)) fun _ =>
        consumes_ite (fun _ => consumes_colon ((takesDoc_readBuffered _).map Progress.content))
          fun _ => hother _
    | tag v =>
      exact consumes_ite (fun _ => consumes_fail _ _) fun _ =>
        consumes_ite (fun _ => consumes_colon ((h v hp depth).map Progress.value)) fun _ => hother _
    | content b =>
      have hvalue : (u.readTag depth >>= fun v => orMismatch (v.ofBuffered b) >>= fun a =>
          pure (Progress.value a)).Consumes IsDoc := by
        intro s r p hread
        obtain ⟨v, s', hv, hmore⟩ := exists_of_accept_bind hread
        obtain ⟨a, s'', ha, hpure⟩ := exists_of_accept_bind hmore
        cases hpure
        obtain ⟨-, rfl⟩ := eq_of_accept_orMismatch ha
        exact htag hv
      exact consumes_ite (fun _ => consumes_colon hvalue) fun _ =>
        consumes_ite (fun _ => consumes_fail _ _) fun _ => hother _
    | value a =>
      exact consumes_ite (fun _ => consumes_fail _ _) fun _ =>
        consumes_ite (fun _ => consumes_fail _ _) fun _ => hother _
  keeps {key p} hp := by
    have hother : (readMember.other p).Yields (Progress.IsOf u) :=
      yields_bind fun _ => yields_bind fun _ => yields_pure hp
    cases p with
    | nothing =>
      exact yields_ite (yields_bind fun _ => (u.yields_mem_readTag depth).bind fun _ hv =>
          yields_pure hv)
        (yields_ite (yields_bind fun _ => yields_bind fun _ => yields_pure trivial) hother)
    | tag v =>
      exact yields_ite yields_fail
        (yields_ite (yields_bind fun _ => yields_bind fun _ => yields_pure trivial) hother)
    | content b =>
      exact yields_ite (yields_bind fun _ => yields_bind fun _ => yields_bind fun _ =>
        yields_pure trivial) (yields_ite yields_fail hother)
    | value a => exact yields_ite yields_fail (yields_ite yields_fail hother)

/-- Tag and content in a list. -/
theorem consumes_readPair (h : u.TakesDocs) (depth : Nat) : (u.readPair depth).Consumes IsElements := by
  intro s r a hread
  obtain ⟨more, s₁, hfirst, htagged⟩ := exists_of_accept_bind hread
  cases more with
  | false => cases htagged
  | true =>
    obtain ⟨v, s₂, hv, hcontent⟩ := exists_of_accept_bind htagged
    obtain ⟨more, s₃, hsecond, hvalue⟩ := exists_of_accept_bind hcontent
    cases more with
    | false => cases hvalue
    | true =>
      obtain ⟨a', s₄, ha, hend⟩ := exists_of_accept_bind hvalue
      obtain ⟨_, s₅, hclose, hpure⟩ := exists_of_accept_bind hend
      cases hpure
      have hmem := u.yields_mem_readTag depth (run_of_accept hv)
      obtain ⟨blanks, rfl, hblanks⟩ := exists_of_accept_closeList hclose
      obtain ⟨x, rfl, hx⟩ := h v hmem depth ha
      obtain ⟨y, rfl, hy⟩ := exists_of_accept_hasElement_true hsecond rfl hx
      obtain ⟨tag, heq, htag⟩ := Codec.takesDoc_readNamed Variant.name u.variants depth hv
      obtain ⟨z, rfl, hz⟩ := exists_of_accept_hasElement_true hfirst heq htag
      refine ⟨z ++ (y ++ (blanks ++ [0x5D])), by simp, hz _ (hy _ (isListRest_nil hblanks))⟩

end Union

theorem Codec.takesDocs_union {σ : Type} {u : Union σ} (h : u.TakesDocs) : u.codec.TakesDocs :=
    fun depth =>
  consumes_peekToken padded_isDoc fun s r a hread => by
    rw [accept_ite] at hread
    split at hread
    · next hhead =>
      obtain ⟨t, heq, ht⟩ := exists_of_accept_enter (Union.consumes_readPair h (depth + 1)) hhead hread
      exact ⟨0x5B :: t, heq, ht.isDoc⟩
    rw [accept_ite] at hread
    split at hread
    · next hhead =>
      have hmembers : (readObject (u.readMember (depth + 1)) .nothing >>= fun p =>
          orMismatch p.finish).Consumes IsMembers :=
        (consumes_readObject (Union.takesValues_readMember h (depth + 1))
          (show Union.Progress.IsOf u .nothing from trivial)).orMismatch Union.Progress.finish
      obtain ⟨t, heq, ht⟩ := exists_of_accept_enter hmembers hhead hread
      exact ⟨0x7B :: t, heq, ht.isDoc⟩
    · exact takesDoc_readAs _ hread

end ManagedAgent.Wire
