import ManagedAgent.Proofs.Decimal.Nearest
import ManagedAgent.Proofs.Wire.Reading
import ManagedAgent.Wire.Format

/-!
# Every double that is read is a number

`Yields p P`: whatever the reader `p` gets, from whatever text, has the property `P`. It goes through
every way in which a value is read, also the one over a buffered content.

* `yields_readNumber` : no number is read as an infinity or a NaN;
* `keeps_readMember` : a draft holds what the fields of its record are read as;
* `of_decode` : so it is with whole texts.
-/

set_option autoImplicit false

namespace ManagedAgent.Wire

namespace Reader
variable {α β σ δ : Type}

def Yields (p : Reader α) (P : α → Prop) : Prop :=
  ∀ ⦃s : Bytes⦄ ⦃a : α⦄ ⦃t : Bytes⦄, p.run s = .ok (a, t) → P a

theorem yields_true (p : Reader α) : p.Yields fun _ => True := fun _ _ _ _ => trivial

theorem Yields.mono {p : Reader α} {P Q : α → Prop} (h : p.Yields P) (hPQ : ∀ a, P a → Q a) :
    p.Yields Q :=
  fun _ _ _ hrun => hPQ _ (h hrun)

theorem yields_pure {a : α} {P : α → Prop} (h : P a) : (pure a : Reader α).Yields P := by
  intro s b t hrun
  cases hrun
  exact h

theorem yields_fail {e : Failure} {P : α → Prop} : Yields (ManagedAgent.Reader.fail e) P := by
  intro s a t hrun
  cases hrun

theorem Yields.bind {p : Reader α} {f : α → Reader β} {P : α → Prop} {Q : β → Prop}
    (hp : p.Yields P) (hf : ∀ a, P a → (f a).Yields Q) : (p >>= f).Yields Q := by
  intro s b t hrun
  obtain ⟨a, r, ha, hmore⟩ := ManagedAgent.Reader.exists_of_run_bind_eq_ok hrun
  exact hf a (hp ha) hmore

theorem yields_bind {p : Reader α} {f : α → Reader β} {Q : β → Prop}
    (hf : ∀ a, (f a).Yields Q) : (p >>= f).Yields Q :=
  (yields_true p).bind fun a _ => hf a

theorem yields_ite {c : Prop} [Decidable c] {p q : Reader α} {P : α → Prop} (hp : p.Yields P)
    (hq : q.Yields P) : (if c then p else q).Yields P := by
  split
  · exact hp
  · exact hq

theorem yields_orMismatch {o : Option α} {P : α → Prop} (h : ∀ a ∈ o, P a) :
    (orMismatch o).Yields P := by
  cases o with
  | none => exact yields_fail
  | some a => exact yields_pure (h a rfl)

/-- What a step keeps, the loop keeps. -/
theorem yields_loop {step : σ → UInt8 → Reader (σ ⊕ α)} {I : σ → Prop} {P : α → Prop}
    (hstep : ∀ state b, I state → (step state b).Yields (Sum.elim I P)) {state : σ}
    (hstate : I state) : Yields (loop step state) P := by
  intro s a t hrun
  induction hn : s.length using Nat.strongRecOn generalizing s state with
  | ind n ih =>
    rw [run_loop] at hrun
    split at hrun
    · cases hrun
    · rename_i b r hdrop
      have hr : r.length < s.length := by
        have := (List.dropWhile_suffix isBlank (l := s)).length_le
        rw [hdrop] at this
        exact this
      split at hrun
      · cases hrun
      · rename_i a' t' ha
        cases hrun
        exact hstep state b hstate ha
      · rename_i state' t' hnext
        have ht := ManagedAgent.Reader.length_rest_le _ hnext
        exact ih t'.length (by omega) (hstep state b hstate hnext) hrun rfl

/-! ## Containers -/

theorem yields_readList {item : Reader α} {P : α → Prop} (h : item.Yields P) :
    (readList item).Yields fun items => ∀ a ∈ items, P a := by
  have hstep (before : List α) (b : UInt8) (hbefore : ∀ a ∈ before, P a) :
      (readListStep item before b).Yields
        (Sum.elim (fun items => ∀ a ∈ items, P a) fun items => ∀ a ∈ items, P a) := by
    refine yields_ite (yields_pure fun a ha => hbefore a (List.mem_reverse.1 ha))
      (yields_ite (yields_bind fun o => ?_) yields_fail)
    cases o with
    | none => exact yields_fail
    | some c =>
      refine yields_ite yields_fail (h.bind fun a ha => yields_pure fun x hx => ?_)
      rcases List.mem_cons.1 hx with rfl | hx
      · exact ha
      · exact hbefore x hx
  unfold readList
  refine yields_bind fun o => ?_
  cases o with
  | none => exact yields_fail
  | some b =>
    refine yields_ite (yields_bind fun _ => yields_pure (List.forall_mem_nil _))
      (h.bind fun a ha => yields_loop hstep fun x hx => ?_)
    obtain rfl := List.mem_singleton.1 hx
    exact ha

theorem yields_readObject {member : String → δ → Reader δ} {I : δ → Prop} {draft : δ}
    (h : ∀ key d, I d → (member key d).Yields I) (hdraft : I draft) :
    (readObject member draft).Yields I := by
  have hmember (d : δ) (hd : I d) : (readMember member d).Yields I :=
    yields_bind fun key => h key d hd
  have hstep (d : δ) (b : UInt8) (hd : I d) : (readObjectStep member d b).Yields (Sum.elim I I) := by
    refine yields_ite (yields_pure hd) (yields_ite (yields_bind fun o => ?_) yields_fail)
    cases o with
    | none => exact yields_fail
    | some c =>
      exact yields_ite (yields_bind fun _ => (hmember d hd).bind fun _ hd' => yields_pure hd')
        yields_fail
  unfold readObject
  refine yields_bind fun o => ?_
  cases o with
  | none => exact yields_fail
  | some b =>
    exact yields_bind fun _ => yields_ite (yields_pure hdraft)
      (yields_ite ((hmember draft hdraft).bind fun _ hd => yields_loop hstep hd) yields_fail)

end Reader

open ManagedAgent.Wire.Reader

/-! ## Numbers -/

def Number.IsFinite : Number → Prop
  | .double d => d.isFinite
  | _ => True

theorem Number.isFinite_value? {p : Parts} {n : Number} (h : p.value? = some n) : n.IsFinite := by
  unfold Parts.value? at h
  split at h
  · rename_i n' _ hinteger
    obtain rfl := Option.some.inj h
    unfold integer? at hinteger
    split at hinteger <;> split at hinteger <;> cases hinteger <;> trivial
  · obtain ⟨d, hd, rfl⟩ := Option.map_eq_some_iff.1 h
    exact Double.isFinite_ofDecimal hd

theorem Number.isFinite_toDouble {n : Number} (h : n.IsFinite) : n.toDouble.isFinite = true := by
  cases n with
  | unsigned n => exact Double.isFinite_nearest false _
  | negative i => exact Double.isFinite_nearest true _
  | double d => exact h

theorem yields_readNumber : readNumber.Yields Number.IsFinite := by
  unfold readNumber
  refine yields_bind fun p => ?_
  split
  · rename_i n hn
    exact yields_pure (Number.isFinite_value? hn)
  · exact yields_fail

def Scalar.IsFinite : Scalar → Prop
  | .number n => n.IsFinite
  | _ => True

theorem yields_readScalar : readScalar.Yields Scalar.IsFinite := by
  unfold readScalar
  refine yields_bind fun o => ?_
  cases o with
  | none => exact yields_fail
  | some b =>
    exact yields_ite (yields_bind fun _ => yields_bind fun _ => yields_pure trivial) <|
      yields_ite (yields_bind fun _ => yields_bind fun _ => yields_pure trivial) <|
      yields_ite (yields_bind fun _ => yields_bind fun _ => yields_pure trivial) <|
      yields_ite (yields_bind fun _ => yields_bind fun _ => yields_pure trivial) <|
      yields_ite (yields_readNumber.bind fun _ hn => yields_pure hn) yields_fail

theorem yields_readAs {α : Type} {project : Scalar → Option α} {P : α → Prop}
    (h : ∀ v, v.IsFinite → ∀ a ∈ project v, P a) : (readAs project).Yields P := by
  unfold readAs
  exact yields_bind fun _ => yields_ite yields_fail
    (yields_readScalar.bind fun v hv => yields_orMismatch (h v hv))

theorem yields_refuse {α : Type} {P : α → Prop} : (refuse : Reader α).Yields P :=
  yields_readAs fun _ _ _ ha => by cases ha

/-- A scalar that was kept is finite; what is inside containers is not looked at. -/
def Buffered.IsFinite : Buffered → Prop
  | .scalar v => v.IsFinite
  | _ => True

theorem yields_readBuffered (room : Nat) : (readBuffered room).Yields Buffered.IsFinite := by
  have hwith (inner? : Option (Reader Buffered)) :
      (readBufferedWith inner?).Yields Buffered.IsFinite := by
    unfold readBufferedWith
    refine yields_bind fun o => ?_
    cases o with
    | none => exact yields_fail
    | some b =>
      refine yields_ite ?_ (yields_readScalar.bind fun _ hv => yields_pure hv)
      cases inner? with
      | none => exact yields_fail
      | some inner =>
        exact yields_bind fun _ => yields_ite (yields_bind fun _ => yields_pure trivial)
          (yields_bind fun _ => yields_pure trivial)
  cases room with
  | zero => exact hwith none
  | succ room => exact hwith _

/-! ## Records -/

def Codec.Yields {α : Type} (c : Codec α) (P : α → Prop) : Prop := ∀ depth, (c.read depth).Yields P

theorem Codec.yields_true {α : Type} (c : Codec α) : c.Yields fun _ => True :=
  fun depth => Reader.yields_true (c.read depth)

theorem Codec.yields_list {α : Type} {item : Codec α} {P : α → Prop} (h : item.Yields P) :
    (list item).Yields fun items => ∀ a ∈ items, P a :=
  fun depth => yields_bind fun _ => yields_ite (yields_bind fun _ => yields_readList (h (depth + 1)))
    yields_refuse

theorem Codec.yields_optional {α : Type} {value : Codec α} {P : α → Prop} (h : value.Yields P) :
    value.optional.Yields fun o => ∀ a ∈ o, P a := by
  refine fun depth => yields_bind fun _ => yields_ite
    (yields_bind fun _ => yields_bind fun _ => yields_pure nofun)
    ((h depth).bind fun a ha => yields_pure fun b hb => ?_)
  cases hb
  exact ha

section Records
variable {σ α β : Type}

/-- A value that is read for the field, or stands for a missing one, has the property. -/
structure Field.Yields (f : Field σ α) (P : α → Prop) : Prop where
  read : f.codec.Yields P
  absent : ∀ a ∈ f.absent, P a

/-- What the fields hold in the draft, and what they are read as, makes the record have the
property. -/
def Record.Keeps : {β : Type} → (r : Record σ β) → (β → Prop) → r.Draft → Prop
  | _, .build b, Q, _ => Q b
  | _, .field (α := α) front last, Q, draft =>
    ∃ P : α → Prop, last.Yields P ∧ (∀ a ∈ draft.2, P a) ∧
      front.Keeps (fun f => ∀ a, P a → Q (f a)) draft.1

theorem Record.keeps_finish (r : Record σ β) {Q : β → Prop} {draft : r.Draft} {b : β}
    (h : r.Keeps Q draft) (hb : r.finish draft = some b) : Q b := by
  induction r with
  | build c =>
    cases hb
    exact h
  | field front last ih =>
    obtain ⟨P, hlast, hplace, hfront⟩ := h
    unfold finish at hb
    split at hb
    · rename_i f a hf ha
      obtain rfl := Option.some.inj hb
      refine ih hfront hf a ?_
      cases hdraft : draft.2 with
      | none => exact hlast.absent a (by rw [hdraft] at ha; exact ha)
      | some a' =>
        rw [hdraft] at ha
        cases ha
        exact hplace a hdraft
    · cases hb

theorem Record.keeps_readMember (r : Record σ β) (depth : Nat) (other : Reader Unit) (key : String)
    {Q : β → Prop} {draft : r.Draft} (h : r.Keeps Q draft) :
    (r.readMember depth other key draft).Yields (r.Keeps Q) := by
  induction r with
  | build b => exact (Reader.yields_true other).mono fun _ _ => h
  | field front last ih =>
    obtain ⟨P, hlast, hplace, hfront⟩ := h
    obtain ⟨d, o⟩ := draft
    refine yields_ite (yields_ite yields_fail ?_) ((ih hfront).bind fun d' hd' => ?_)
    · exact yields_bind fun _ => (hlast.read (depth + 1)).bind fun a ha =>
        yields_pure ⟨P, hlast, fun b hb => by cases hb; exact ha, hfront⟩
    · exact yields_pure ⟨P, hlast, hplace, hd'⟩

theorem Record.keeps_readElements (r : Record σ β) (depth : Nat) {Q : β → Prop}
    (h : r.Keeps Q r.blank) : (r.readElements depth).Yields fun x => r.Keeps Q x.1 := by
  induction r with
  | build b => exact yields_pure h
  | field front last ih =>
    obtain ⟨P, hlast, hplace, hfront⟩ := h
    refine (ih hfront).bind fun x hx => ?_
    obtain ⟨d, isFirst⟩ := x
    refine yields_bind fun goes => yields_ite ((hlast.read (depth + 1)).bind fun a ha => ?_) ?_
    · exact yields_pure ⟨P, hlast, fun b hb => by cases hb; exact ha, hx⟩
    · exact yields_pure ⟨P, hlast, nofun, hx⟩

/-- A record has what its fields make it have. -/
theorem Codec.yields_record {r : Record σ σ} {Q : σ → Prop} (h : r.Keeps Q r.blank) :
    (record r).Yields Q := by
  have hfinish {draft : r.Draft} (hdraft : r.Keeps Q draft) :
      ∀ v ∈ (r.finish draft).bind some, Q v := by
    intro v hv
    rw [Option.bind_fun_some] at hv
    exact r.keeps_finish hdraft hv
  refine fun depth => yields_bind fun _ => yields_ite (yields_bind fun _ => ?_)
    (yields_ite (yields_bind fun _ => ?_) yields_refuse)
  · exact (r.keeps_readElements depth h).bind fun x hx =>
      (yields_orMismatch (hfinish hx)).bind fun v hv => yields_bind fun _ => yields_pure hv
  · exact (yields_readObject (fun key d hd => r.keeps_readMember depth _ key hd) h).bind
      fun d hd => yields_orMismatch (hfinish hd)

end Records

/-! ## Tagged unions -/

section Unions
variable {σ : Type}

/-- The variant reads only values with the property, directly or from a buffered content. -/
structure Variant.Yields (v : Variant σ) (Q : σ → Prop) : Prop where
  read : ∀ depth, (v.read depth).Yields Q
  ofBuffered : ∀ b : Buffered, b.IsFinite → ∀ a ∈ v.ofBuffered b, Q a
  bare : ∀ a ∈ v.bare, Q a

/-- What has been read so far can only come to a value with the property. -/
def Union.Progress.Keeps (Q : σ → Prop) : Union.Progress σ → Prop
  | .nothing => True
  | .tag v => v.Yields Q
  | .content b => b.IsFinite
  | .value a => Q a

theorem Union.yields_readTag {u : Union σ} {Q : σ → Prop} (h : ∀ v ∈ u.variants, v.Yields Q)
    (depth : Nat) : (u.readTag depth).Yields fun v => v.Yields Q := by
  have hfind (s : String) : ∀ v ∈ Codec.named? Variant.name u.variants s, v.Yields Q :=
    fun v hv => h v (List.mem_of_find?_eq_some hv)
  unfold readTag Codec.readNamed
  refine yields_bind fun o => ?_
  cases o with
  | none => exact yields_fail
  | some b =>
    exact yields_ite (yields_bind fun s => yields_orMismatch (hfind s)) <|
      yields_ite (yields_bind fun _ => yields_bind fun s =>
        (yields_orMismatch (hfind s)).bind fun v hv =>
          yields_bind fun _ => yields_bind fun _ => yields_bind fun _ => yields_pure hv) yields_fail

theorem Union.keeps_readMember {u : Union σ} {Q : σ → Prop} (h : ∀ v ∈ u.variants, v.Yields Q)
    (depth : Nat) (key : String) {p : Progress σ} (hp : p.Keeps Q) :
    (u.readMember depth key p).Yields (Progress.Keeps Q) := by
  have hother : (readMember.other p).Yields (Progress.Keeps Q) :=
    yields_bind fun _ => yields_bind fun _ => yields_pure hp
  cases p with
  | nothing =>
    exact yields_ite (yields_bind fun _ => (u.yields_readTag h depth).bind fun _ hv => yields_pure hv)
      (yields_ite (yields_bind fun _ => (yields_readBuffered _).bind fun _ hb => yields_pure hb)
        hother)
  | tag v =>
    exact yields_ite yields_fail
      (yields_ite (yields_bind fun _ => (hp.read depth).bind fun _ ha => yields_pure ha) hother)
  | content b =>
    exact yields_ite (yields_bind fun _ => (u.yields_readTag h depth).bind fun _ hv =>
      (yields_orMismatch (hv.ofBuffered b hp)).bind fun _ ha => yields_pure ha)
      (yields_ite yields_fail hother)
  | value a => exact yields_ite yields_fail (yields_ite yields_fail hother)

theorem Codec.yields_union {u : Union σ} {Q : σ → Prop} (h : ∀ v ∈ u.variants, v.Yields Q) :
    u.codec.Yields Q := by
  refine fun depth => yields_bind fun _ => yields_ite (yields_bind fun _ => ?_)
    (yields_ite (yields_bind fun _ => ?_) yields_refuse)
  · exact yields_bind fun _ => yields_ite ((u.yields_readTag h _).bind fun v hv =>
      yields_bind fun _ => yields_ite ((hv.read _).bind fun a ha => yields_bind fun _ =>
        yields_pure ha) yields_fail) yields_fail
  · have hnothing : (Union.Progress.nothing : Union.Progress σ).Keeps Q := trivial
    refine (yields_readObject (fun key p hp => u.keeps_readMember h (depth + 1) key hp) hnothing).bind
      fun p hp => yields_orMismatch fun a ha => ?_
    cases p with
    | nothing => cases ha
    | tag v => exact hp.bare a ha
    | content b => cases ha
    | value b =>
      cases ha
      exact hp

end Unions

/-! ## Messages -/

namespace Codec

theorem yields_holding {σ α : Type} {name : String} {codec : FlexibleCodec α} {wrap : α → σ}
    {unwrap : σ → Option α} {Q : σ → Prop} (h : ∀ a, Q (wrap a)) :
    (Variant.holding name codec wrap unwrap).Yields Q := by
  refine ⟨fun depth => yields_bind fun a => yields_pure (h a), fun b _ a ha => ?_, nofun⟩
  obtain ⟨a, -, rfl⟩ := Option.map_eq_some_iff.1 ha
  exact h a

theorem yields_double {name : String} {unwrap : AttributeValue → Option Double} :
    (Variant.holding name double .double unwrap).Yields AttributeValue.IsFinite := by
  have hproject (v : Scalar) (hv : v.IsFinite) : ∀ d ∈ (match v with
      | .number n => some n.toDouble
      | _ => none), d.isFinite = true := by
    intro d hd
    cases v with
    | number n =>
      cases hd
      exact Number.isFinite_toDouble hv
    | _ => cases hd
  refine ⟨fun depth => (yields_readAs hproject).bind fun d hd => yields_pure hd, fun b hb a ha => ?_,
    nofun⟩
  obtain ⟨d, hd, rfl⟩ := Option.map_eq_some_iff.1 ha
  cases b with
  | scalar v => exact hproject v hb d hd
  | list items => cases hd
  | object members => cases hd

theorem yields_attributeValue : attributeValue.Yields AttributeValue.IsFinite := by
  refine yields_union fun v hv => ?_
  simp only [attributeValueUnion, List.mem_cons, List.not_mem_nil, or_false] at hv
  rcases hv with rfl | rfl | rfl | rfl | rfl
  · exact yields_holding fun _ => trivial
  · exact yields_holding fun _ => trivial
  · exact yields_double
  · exact yields_holding fun _ => trivial
  · exact yields_holding fun _ => trivial

/-- A field of which nothing is asked. -/
theorem yields_any {σ α : Type} (f : Field σ α) : f.Yields fun _ => True :=
  ⟨f.codec.yields_true, fun _ _ => trivial⟩

theorem yields_attributeEntry : attributeEntry.Yields fun a => a.value.IsFinite :=
  yields_record ⟨_, ⟨yields_attributeValue, nofun⟩, nofun, _, yields_any _, nofun,
    fun _ _ _ hv => hv⟩

theorem yields_description : description.Yields Description.IsFinite :=
  yields_record ⟨_, ⟨yields_list yields_attributeEntry, fun _ h => by cases h; exact nofun⟩, nofun, _,
    ⟨yields_list yields_attributeEntry, fun _ h => by cases h; exact nofun⟩, nofun,
    fun _ hi _ hn => ⟨hi, hn⟩⟩

theorem yields_report : report.Yields Report.IsFinite :=
  yields_record ⟨_, yields_any _, nofun, _, yields_any _, nofun, _, yields_any _, nofun,
    _, yields_any _, nofun, _, yields_any _, nofun,
    _, ⟨yields_optional yields_description, fun _ h => by cases h; exact nofun⟩, nofun,
    _, yields_any _, nofun, _, yields_any _, nofun, _, yields_any _, nofun,
    fun _ _ _ _ _ _ _ hd _ _ _ _ _ _ _ _ _ _ => hd⟩

theorem yields_startSettings : startSettings.Yields StartSettings.IsFinite :=
  yields_record ⟨_, yields_any _, nofun, _, yields_any _, nofun, _, yields_any _, nofun,
    _, yields_any _, nofun, _, yields_any _, nofun,
    _, ⟨yields_optional yields_description, fun _ h => by cases h; exact nofun⟩, nofun,
    _, yields_any _, nofun, _, yields_any _, nofun, _, yields_any _, nofun,
    fun _ _ _ _ _ _ _ hd _ _ _ _ _ _ _ _ _ _ => hd⟩

/-- A whole text is decoded to what its value is read as. -/
theorem exists_run_of_decode {α : Type} {c : Codec α} {text : Bytes} {a : α}
    (h : c.decode text = .ok a) : ∃ rest, (c.read 0).run text = .ok (a, rest) := by
  unfold decode at h
  cases hrun : ManagedAgent.Reader.run (c.read 0 >>= fun a => finished >>= fun _ => pure a :
      Reader α) text with
  | error e =>
    rw [hrun] at h
    cases h
  | ok x =>
    rw [hrun] at h
    obtain ⟨a', rest, hread, hmore⟩ := ManagedAgent.Reader.exists_of_run_bind_eq_ok hrun
    obtain ⟨u, rest', -, hpure⟩ := ManagedAgent.Reader.exists_of_run_bind_eq_ok hmore
    cases hpure
    cases h
    exact ⟨rest, hread⟩

/-- Whatever is read of a whole text has the property. -/
theorem of_decode {α : Type} {c : Codec α} {P : α → Prop} (h : c.Yields P) {text : Bytes} {a : α}
    (hdecode : c.decode text = .ok a) : P a := by
  obtain ⟨rest, hread⟩ := exists_run_of_decode hdecode
  exact h 0 hread

end Codec

end ManagedAgent.Wire
