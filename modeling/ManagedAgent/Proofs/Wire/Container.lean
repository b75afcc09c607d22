import ManagedAgent.Proofs.Wire.Scalar
import ManagedAgent.Wire.Record
import ManagedAgent.Wire.Tagged

/-!
# Containers are read as they were written

A codec of a container reads what the codecs of the values inside read. For an object this is
said of its members: `TakesMembers` follows the draft from member to member. A container that is cut
short never ends, whatever is left of the value in which the cut is.

* `readsAs_list`, `recovers_optional`, `readsBack_map` : one type inside;
* `readsAs_checkedRecord` : a record whose fields are read, with names of their own;
* `readsAs_union` : a tag that names its variant, and the content of the variant.
-/

set_option autoImplicit false

namespace ManagedAgent.Wire

open ManagedAgent.Wire.Reader
open ManagedAgent.Reader (run_bind_of_ok)

/-! ## Objects -/

section Objects
variable {δ : Type} {member : String → δ → Reader δ}

/-- Reading these members one after another leads from one draft to another. -/
inductive TakesMembers (member : String → δ → Reader δ) : List (String × Bytes) → δ → δ → Prop where
  | nil (d : δ) : TakesMembers member [] d d
  | cons {key : String} {value : Bytes} {rest : List (String × Bytes)} {d d' d'' : δ}
      (first : (member key d).Reads (0x3A :: value) d')
      (cut : (member key d).Fades (0x3A :: value) fun _ => True)
      (others : TakesMembers member rest d' d'') :
      TakesMembers member ((key, value) :: rest) d d''

theorem TakesMembers.append {ms ns : List (String × Bytes)} {d d' d'' : δ}
    (h : TakesMembers member ms d d') (h' : TakesMembers member ns d' d'') :
    TakesMembers member (ms ++ ns) d d'' := by
  induction h with
  | nil => exact h'
  | cons first cut _ ih => exact .cons first cut (ih h')

/-- A value that is read behind a colon. -/
theorem reads_member {α : Type} {p : Reader α} {value : Bytes} {a : α} (h : p.Recovers value a)
    (f : α → δ) :
    (expectToken 0x3A >>= fun _ => p >>= fun a => pure (f a)).Reads (0x3A :: value) (f a) :=
  (takes_expectToken rfl).bind_reads (h.reads.map f)

theorem fades_member {α : Type} {p : Reader α} {value : Bytes} {a : α} (h : p.Recovers value a)
    (f : α → δ) :
    (expectToken 0x3A >>= fun _ => p >>= fun a => pure (f a)).Fades (0x3A :: value)
      fun _ => True :=
  Fades.bind (takes_expectToken rfl) (breaks_expectToken 0x3A)
    (h.fades.map f fun _ _ => trivial)

/-- A member as it is written, after the opening quote of its key. -/
def memberText (key : String) (value : Bytes) : Bytes :=
  (utf8 key).flatMap escape ++ [0x22] ++ 0x3A :: value

theorem writeMember_eq (key : String) (value : Bytes) :
    writeMember (key, value) = 0x22 :: memberText key value := rfl

theorem reads_readMember {key : String} {value : Bytes} {d d' : δ}
    (h : (member key d).Reads (0x3A :: value) d') :
    (readMember member d).Reads (memberText key value) d' :=
  (takes_readText key).bind_reads h

theorem fades_readMember {key : String} {value : Bytes} {d : δ}
    (h : (member key d).Fades (0x3A :: value) fun _ => True) :
    (readMember member d).Fades (memberText key value) fun _ => True :=
  Fades.bind (takes_readText key) (breaks_readText key) h

/-- A comma and another member. -/
theorem run_readObjectStep (d : δ) (r : Bytes) :
    (readObjectStep member d 0x2C).run (0x22 :: r) =
      (readMember member d >>= fun d => pure (.inl d) : Reader (δ ⊕ δ)).run r := by
  show (peekToken >>= _ : Reader _).run _ = _
  rw [run_bind_of_ok (run_peekToken rfl r)]
  show (ManagedAgent.Reader.advance >>= fun _ => readMember member d >>= fun d => pure (.inl d) :
    Reader (δ ⊕ δ)).run _ = _
  rw [run_bind_of_ok (ManagedAgent.Reader.run_advance _), List.tail_cons]

theorem reads_readObjectStep {key : String} {value : Bytes} {d d' : δ}
    (h : (member key d).Reads (0x3A :: value) d') :
    (readObjectStep member d 0x2C).Reads (writeMember (key, value)) (.inl d') := by
  intro rest hrest
  rw [writeMember_eq, List.cons_append, run_readObjectStep,
    run_bind_of_ok (reads_readMember h rest hrest)]
  rfl

theorem fades_readObjectStep {key : String} {value : Bytes} {d : δ}
    (h : (member key d).Fades (0x3A :: value) fun _ => True) :
    (readObjectStep member d 0x2C).Fades (writeMember (key, value))
      fun x => ∃ state, x = .inl state :=
  Fades.cons rfl (run_readObjectStep d) ((fades_readMember h).map _ fun d _ => ⟨d, rfl⟩)

theorem run_loop_readObjectStep {ms : List (String × Bytes)} {d d' : δ}
    (h : TakesMembers member ms d d') (rest : Bytes) :
    ManagedAgent.Reader.run (loop (readObjectStep member) d)
        ((ms.map writeMember).flatMap (0x2C :: ·) ++ 0x7D :: rest) = .ok (d', rest) := by
  induction h with
  | nil d => exact run_loop_inr rfl rfl
  | @cons key value ms d d' d'' first _ others ih =>
    have hends : Ends ((ms.map writeMember).flatMap (0x2C :: ·) ++ 0x7D :: rest) :=
      ends_separated _ (.inr rfl) rest
    rw [List.map_cons, List.flatMap_cons, List.append_assoc, List.cons_append,
      run_loop_inl rfl (reads_readObjectStep first _ hends)]
    exact ih

theorem breaks_loop_readObjectStep {ms : List (String × Bytes)} {d d' : δ}
    (h : TakesMembers member ms d d') :
    Breaks (loop (readObjectStep member) d)
      ((ms.map writeMember).flatMap (0x2C :: ·) ++ [0x7D]) := by
  induction h with
  | nil d => exact breaks_singleton (run_loop_nil _ d) 0x7D
  | @cons key value ms d d' d'' first cut others ih =>
    rw [List.map_cons, List.flatMap_cons, List.append_assoc, List.cons_append]
    exact breaks_loop_cons rfl (reads_readObjectStep first) (fades_readObjectStep cut)
      (ends_separated _ (.inr rfl) []) ih

/-- The first member of an object. -/
theorem run_readObject (d : δ) (r : Bytes) :
    (readObject member d).run (0x22 :: r) =
      (readMember member d >>= fun d => loop (readObjectStep member) d : Reader δ).run r := by
  unfold readObject
  rw [run_bind_of_ok (run_peekToken rfl r)]
  show (ManagedAgent.Reader.advance >>= fun _ => readMember member d >>= fun d =>
    loop (readObjectStep member) d : Reader δ).run _ = _
  rw [run_bind_of_ok (ManagedAgent.Reader.run_advance _), List.tail_cons]

theorem takes_readObject {ms : List (String × Bytes)} {d d' : δ}
    (h : TakesMembers member ms d d') :
    (readObject member d).Takes (separate (ms.map writeMember) ++ [0x7D]) d' := by
  intro rest
  rw [List.append_assoc, List.singleton_append]
  cases h with
  | nil =>
    unfold readObject
    rw [show separate (([] : List (String × Bytes)).map writeMember) ++ 0x7D :: rest = 0x7D :: rest
      from rfl, run_bind_of_ok (run_peekToken rfl rest)]
    rfl
  | @cons key value ms _ d' _ first _ others =>
    have hends : Ends ((ms.map writeMember).flatMap (0x2C :: ·) ++ 0x7D :: rest) :=
      ends_separated _ (.inr rfl) rest
    rw [List.map_cons, separate_cons, List.append_assoc, writeMember_eq, List.cons_append,
      run_readObject]
    refine (run_bind_of_ok (reads_readMember first _ hends)).trans ?_
    exact run_loop_readObjectStep others rest

/-- An object that is cut short does not end, wherever the cut is. -/
theorem breaks_readObject {ms : List (String × Bytes)} {d d' : δ}
    (h : TakesMembers member ms d d') :
    (readObject member d).Breaks (separate (ms.map writeMember) ++ [0x7D]) := by
  cases h with
  | nil => exact breaks_singleton rfl 0x7D
  | @cons key value ms _ d' _ first cut others =>
    rw [List.map_cons, separate_cons, List.append_assoc, writeMember_eq, List.cons_append]
    exact Fades.cons rfl (run_readObject d) ((reads_readMember first).breaks_bind
      (fades_readMember cut) (ends_separated _ (.inr rfl) []) (fun d => run_loop_nil _ d)
      (breaks_loop_readObjectStep others))

end Objects

theorem opens_writeObject (ms : List (String × Bytes)) : Opens (writeObject ms) :=
  ⟨0x7B, _, rfl, by decide, by decide, by decide⟩

/-- A container is known by its opening bracket; behind it its content is read. -/
theorem recovers_of_run {α : Type} {p u : Reader α} {b : UInt8} {s : Bytes} {a : α}
    (hnil : p.run [] = .error .truncated) (hrun : ∀ r, p.run (b :: r) = u.run r)
    (ht : u.Takes s a) (hs : u.Breaks s) : p.Recovers (b :: s) a := by
  refine ⟨fun rest _ => ?_, (Fades.cons hnil hrun hs).mono fun _ => False.elim⟩
  rw [List.cons_append, hrun]
  exact ht rest

theorem run_enter {depth : Nat} (h : depth < maxDepth) (b : UInt8) (r : Bytes) :
    (enter depth).run (b :: r) = .ok ((), r) := takes_enter h b r

namespace Codec
variable {α : Type}

/-! ## One type inside -/

theorem run_read_list {item : Codec α} {depth : Nat} (h : depth < maxDepth) (r : Bytes) :
    ((list item).read depth).run (0x5B :: r) = (readList (item.read (depth + 1))).run r := by
  show (peekToken >>= fun b => if b == some 0x5B then
    enter depth >>= fun _ => readList (item.read (depth + 1)) else refuse : Reader (List α)).run
      _ = _
  rw [run_bind_of_ok (run_peekToken rfl r), if_pos (beq_self_eq_true _),
    run_bind_of_ok (run_enter h 0x5B r)]

theorem readsAs_list {item : Codec α} {height : Nat} {items : List α} {f : α → α}
    (h : ∀ a ∈ items, item.ReadsAs height a (f a)) :
    (list item).ReadsAs (height + 1) items (items.map f) := by
  refine ⟨⟨0x5B, _, rfl, by decide, by decide, by decide⟩, fun depth hdepth => ?_⟩
  have hopens (a : α) (ha : a ∈ items) : Opens (item.write a) := (h a ha).opens
  have hitem (a : α) (ha : a ∈ items) : (item.read (depth + 1)).Recovers (item.write a) (f a) :=
    (h a ha).recovers (depth + 1) (by omega)
  exact recovers_of_run rfl (run_read_list (by omega))
    (takes_readList hopens fun a ha => (hitem a ha).reads)
    (breaks_readList hopens (fun a ha => (hitem a ha).reads)
      fun a ha => (hitem a ha).fades.mono fun _ _ => trivial)

theorem readsBack_list {item : Codec α} {height : Nat} {items : List α}
    (h : ∀ a ∈ items, item.ReadsBack height a) : (list item).ReadsBack (height + 1) items := by
  have hlist := readsAs_list (f := id) h
  rwa [List.map_id] at hlist

theorem readsBack_bytes {height : Nat} (b : Bytes) : bytes.ReadsBack (height + 1) b :=
  readsBack_list fun a _ => readsBack_byte a

theorem run_read_optional_null {value : Codec α} (depth : Nat) (r : Bytes) :
    (value.optional.read depth).run (0x6E :: r) =
      (readLiteral [0x75, 0x6C, 0x6C] >>= fun _ => pure none : Reader (Option α)).run r := by
  show (peekToken >>= fun b => if b == some 0x6E then
    ManagedAgent.Reader.advance >>= fun _ => readLiteral [0x75, 0x6C, 0x6C] >>= fun _ => pure none
    else value.read depth >>= fun a => pure (some a) : Reader (Option α)).run _ = _
  rw [run_bind_of_ok (run_peekToken rfl r), if_pos (beq_self_eq_true _),
    run_bind_of_ok (ManagedAgent.Reader.run_advance _), List.tail_cons]

theorem run_read_optional {value : Codec α} (depth : Nat) {b : UInt8} (hb : isBlank b = false)
    (hne : b ≠ 0x6E) (r : Bytes) :
    (value.optional.read depth).run (b :: r) =
      (value.read depth >>= fun a => pure (some a) : Reader (Option α)).run (b :: r) := by
  show (peekToken >>= fun b => if b == some 0x6E then
    ManagedAgent.Reader.advance >>= fun _ => readLiteral [0x75, 0x6C, 0x6C] >>= fun _ => pure none
    else value.read depth >>= fun a => pure (some a) : Reader (Option α)).run _ = _
  rw [run_bind_of_ok (run_peekToken hb r), if_neg (by simpa using hne)]

theorem recovers_map {value : Codec α} {height : Nat} {o : Option α} {f : α → α}
    (hnil : ∀ depth, (value.read depth).run [] = .error .truncated)
    (h : ∀ a ∈ o, value.ReadsAs height a (f a)) :
    value.optional.Recovers height o (o.map f) := by
  intro depth hdepth
  have hnil : (value.optional.read depth).run [] = .error .truncated := by
    have hpeek : peekToken.run [] = .ok (none, []) := rfl
    refine (run_bind_of_ok hpeek).trans ?_
    exact run_bind_of_error (hnil depth)
  cases o with
  | none =>
    have hliteral := (breaks_readLiteral [0x75, 0x6C, 0x6C]).bind
      fun _ => (pure none : Reader (Option α))
    exact recovers_of_run hnil (run_read_optional_null depth)
      ((takes_readLiteral _).map fun _ => none) hliteral
  | some a =>
    have hopens := (h a rfl).opens
    have ha := (h a rfl).recovers depth hdepth
    show (value.optional.read depth).Recovers (value.write a) (some (f a))
    obtain ⟨b, more, heq, hblank, -, hne⟩ := hopens
    rw [heq] at ha ⊢
    refine ⟨fun rest hrest => ?_, ?_⟩
    · rw [List.cons_append, run_read_optional depth hblank hne, ← List.cons_append]
      exact ha.reads.map some rest hrest
    · exact Fades.congr hnil (run_read_optional depth hblank hne)
        (ha.fades.map some fun _ hbare => hbare)

theorem recovers_optional {value : Codec α} {height : Nat} {o : Option α}
    (hnil : ∀ depth, (value.read depth).run [] = .error .truncated)
    (h : ∀ a ∈ o, value.ReadsBack height a) : value.optional.Recovers height o o := by
  have hmap := recovers_map (f := id) hnil h
  rwa [Option.map_id] at hmap

end Codec

/-- The entries of a map in their order build the map. -/
theorem insertEntry_of_forall_lt {α : Type} {name : String} {value : α} {l : List (String × α)}
    (h : ∀ e ∈ l, e.1 < name) : NameMap.insertEntry name value l = l ++ [(name, value)] := by
  induction l with
  | nil => rfl
  | cons e l ih =>
    obtain ⟨n, v⟩ := e
    have hlt : n < name := h (n, v) List.mem_cons_self
    unfold NameMap.insertEntry
    rw [if_neg (String.lt_asymm hlt), if_neg (String.ne_of_lt hlt).symm,
      ih fun e he => h e (List.mem_cons_of_mem _ he)]
    rfl

namespace Codec
variable {α : Type}

theorem takesMembers_map {value : Codec α} {height depth : Nat}
    (hdepth : depth + (height + 1) ≤ maxDepth) {before : NameMap α} {l : List (String × α)}
    {m : NameMap α} (hm : m.entries = before.entries ++ l)
    (h : ∀ e ∈ l, value.Recovers height e.2 e.2) :
    TakesMembers (fun key before => do
        expectToken 0x3A
        return before.insert key (← value.read (depth + 1)))
      (l.map fun e => (e.1, value.write e.2)) before m := by
  induction l generalizing before with
  | nil =>
    obtain ⟨entries, sorted⟩ := before
    obtain rfl : m = ⟨entries, sorted⟩ := by
      obtain ⟨entries', _⟩ := m
      simpa using hm
    exact .nil _
  | cons e l ih =>
    obtain ⟨name, a⟩ := e
    have hsorted := m.sorted
    rw [hm, List.pairwise_append] at hsorted
    have hinsert : (before.insert name a).entries = before.entries ++ [(name, a)] :=
      insertEntry_of_forall_lt fun e he => hsorted.2.2 e he (name, a) List.mem_cons_self
    have hentries : m.entries = (before.insert name a).entries ++ l := by
      rw [hm, hinsert, List.append_assoc]
      rfl
    have ha := h (name, a) List.mem_cons_self (depth + 1) (by omega)
    exact .cons (reads_member ha (before.insert name)) (fades_member ha (before.insert name))
      (ih hentries fun e he => h e (List.mem_cons_of_mem _ he))

theorem readsBack_map {value : Codec α} {height : Nat} {m : NameMap α}
    (h : ∀ e ∈ m.entries, value.Recovers height e.2 e.2) : (map value).ReadsBack (height + 1) m := by
  refine ⟨opens_writeObject _, fun depth hdepth => ?_⟩
  have hmembers :=
    takesMembers_map hdepth (show m.entries = NameMap.empty.entries ++ m.entries from rfl) h
  refine recovers_of_run rfl (fun r => ?_) (takes_readObject hmembers) (breaks_readObject hmembers)
  show (peekToken >>= fun b => if b == some 0x7B then enter depth >>= fun _ => readObject _ .empty
    else refuse : Reader (NameMap α)).run _ = _
  rw [run_bind_of_ok (run_peekToken rfl r), if_pos (beq_self_eq_true _),
    run_bind_of_ok (run_enter (by omega) 0x7B r)]

end Codec

/-! ## Records -/

section Records
variable {σ α : Type}

/-- A field of `v` is read as that of `w`, and may stand for what it leaves out. -/
structure Field.Recovers (f : Field σ α) (height : Nat) (v w : σ) : Prop where
  omitted : f.omits (f.get v) = true → f.absent = some (f.get w)
  written : f.codec.Recovers height (f.get v) (f.get w)

namespace Field
variable {name : String} {get : σ → α} {codec : Codec α} {height : Nat} {v w : σ}

theorem recovers_required (h : codec.Recovers height (get v) (get w)) :
    (required name get codec).Recovers height v w :=
  ⟨nofun, h⟩

theorem recovers_defaulted {value : α} (h : codec.Recovers height (get v) (get w)) :
    (defaulted name get codec value).Recovers height v w :=
  ⟨nofun, h⟩

theorem recovers_sparse [DecidableEq α] {value : α} (hw : get w = get v)
    (h : codec.Recovers height (get v) (get v)) :
    (sparse name get codec value).Recovers height v w where
  omitted heq := congrArg some ((of_decide_eq_true heq).symm.trans hw.symm)
  written := by
    show codec.Recovers height (get v) (get w)
    rwa [hw]

theorem recovers_map {get : σ → Option α} {f : α → α} (hw : get w = (get v).map f)
    (hnil : ∀ depth, (codec.read depth).run [] = .error .truncated)
    (h : ∀ a ∈ get v, codec.ReadsAs height a (f a)) :
    (optional name get codec).Recovers height v w where
  omitted hnone := by
    have hget : get v = none := Option.isNone_iff_eq_none.1 hnone
    show some none = some (get w)
    rw [hw, hget]
    rfl
  written := by
    show codec.optional.Recovers height (get v) (get w)
    rw [hw]
    exact Codec.recovers_map hnil h

theorem recovers_optional {get : σ → Option α} (hw : get w = get v)
    (hnil : ∀ depth, (codec.read depth).run [] = .error .truncated)
    (h : ∀ a ∈ get v, codec.ReadsBack height a) :
    (optional name get codec).Recovers height v w :=
  recovers_map (f := id) (by rw [hw, Option.map_id, id]) hnil h

end Field

namespace Record

def names : {β : Type} → Record σ β → List String
  | _, .build _ => []
  | _, .field front last => front.names ++ [last.name]

def Recovers : {β : Type} → Record σ β → Nat → σ → σ → Prop
  | _, .build _, _, _, _ => True
  | _, .field front last, height, v, w => front.Recovers height v w ∧ last.Recovers height v w

/-- The draft that `v` is read into, when its fields are read as those of `w`. -/
def drafted : {β : Type} → (r : Record σ β) → σ → σ → r.Draft
  | _, .build _, _, _ => ()
  | _, .field front last, v, w =>
    (front.drafted v w, if last.omits (last.get v) then none else some (last.get w))

theorem finish_drafted {β : Type} (r : Record σ β) {height : Nat} {v w : σ}
    (h : r.Recovers height v w) : r.finish (r.drafted v w) = some (r.rebuild w) := by
  induction r with
  | build b => rfl
  | field front last ih =>
    obtain ⟨hfront, hlast⟩ := h
    have hvalue : ((if last.omits (last.get v) then none else some (last.get w)) <|> last.absent) =
        some (last.get w) := by
      split
      · rename_i homits
        exact hlast.omitted homits
      · rfl
    unfold finish drafted rebuild
    dsimp only
    rw [ih hfront, hvalue]

theorem fst_mem_names {β : Type} (r : Record σ β) {v : σ} {m : String × Bytes}
    (h : m ∈ r.members v) : m.1 ∈ r.names := by
  induction r with
  | build b => cases h
  | field front last ih =>
    unfold members at h
    unfold names
    rcases List.mem_append.1 h with h | h
    · exact List.mem_append_left _ (ih h)
    · refine List.mem_append_right _ ?_
      split at h
      · cases h
      · obtain rfl := List.mem_singleton.1 h
        exact List.mem_cons_self

/-- What is done with a member of a record that ends with this field. -/
theorem run_readMember_field {β γ : Type} (front : Record σ (γ → β)) (last : Field σ γ)
    (depth : Nat) (other : Reader Unit) (key : String) (d : front.Draft) (o : Option γ) (s : Bytes) :
    ((front.field last).readMember depth other key (d, o)).run s =
      (if key = last.name then
        if o.isSome then Reader.fail .mismatch
        else expectToken 0x3A >>= fun _ => last.codec.read (depth + 1) >>= fun a => pure (d, some a)
      else front.readMember depth other key d >>= fun d => pure (d, o) :
        Reader (front.Draft × Option γ)).run s := rfl

/-- Members of the fields in front go to their places, whatever the last field holds. -/
theorem takesMembers_front {β γ : Type} {front : Record σ (γ → β)} {last : Field σ γ} {depth : Nat}
    {other : Reader Unit} {ms : List (String × Bytes)} {d d' : front.Draft} (o : Option γ)
    (h : TakesMembers (fun key draft => front.readMember depth other key draft) ms d d')
    (hname : ∀ m ∈ ms, m.1 ≠ last.name) :
    TakesMembers (fun key draft => (front.field last).readMember depth other key draft) ms
      (d, o) (d', o) := by
  induction h with
  | nil d => exact .nil _
  | @cons key value ms d d' d'' first cut _ ih =>
    have hne : key ≠ last.name := hname (key, value) List.mem_cons_self
    have hrun (s : Bytes) :
        ((front.field last).readMember depth other key (d, o)).run s =
          (front.readMember depth other key d >>= fun d => pure (d, o) :
            Reader (front.Draft × Option γ)).run s := by
      rw [run_readMember_field, if_neg hne]
    refine .cons (fun rest hrest => ?_) ?_ (ih fun m hm => hname m (List.mem_cons_of_mem _ hm))
    · rw [hrun]
      exact first.map (fun d => (d, o)) rest hrest
    · exact Fades.of_run_eq hrun (cut.map (fun d => (d, o)) fun _ _ => trivial)

theorem takesMembers {β : Type} (r : Record σ β) {height depth : Nat} {v w : σ}
    (other : Reader Unit) (hnames : r.names.Nodup) (h : r.Recovers height v w)
    (hdepth : depth + (height + 1) ≤ maxDepth) :
    TakesMembers (fun key draft => r.readMember depth other key draft) (r.members v) r.blank
      (r.drafted v w) := by
  induction r with
  | build b => exact .nil _
  | field front last ih =>
    obtain ⟨hfront, hlast⟩ := h
    unfold names at hnames
    rw [List.nodup_append] at hnames
    obtain ⟨hnodup, -, hdisjoint⟩ := hnames
    have hfirst := takesMembers_front none (ih hnodup hfront) fun m hm =>
      hdisjoint m.1 (front.fst_mem_names hm) last.name List.mem_cons_self
    refine hfirst.append ?_
    show TakesMembers _ (if last.omits (last.get v) then [] else _) (front.drafted v w, none)
      (front.drafted v w, if last.omits (last.get v) then none else some (last.get w))
    split
    · exact .nil _
    · have hvalue := hlast.written (depth + 1) (by omega)
      have hrun (s : Bytes) :
          ((front.field last).readMember depth other last.name (front.drafted v w, none)).run s =
            (expectToken 0x3A >>= fun _ => last.codec.read (depth + 1) >>= fun a =>
              pure (front.drafted v w, some a) : Reader (front.Draft × Option _)).run s := by
        rw [run_readMember_field, if_pos rfl, if_neg nofun]
      refine .cons (fun rest hrest => (hrun _).trans ?_) ?_ (.nil _)
      · exact reads_member hvalue (Prod.mk (front.drafted v w) ∘ some) rest hrest
      · exact Fades.of_run_eq hrun (fades_member hvalue (Prod.mk (front.drafted v w) ∘ some))

end Record

/-- The members of an object, and what becomes of them. -/
theorem takes_readObject_orMismatch {δ : Type} {member : String → δ → Reader δ}
    {ms : List (String × Bytes)} {d d' : δ} (h : TakesMembers member ms d d') {f : δ → Option α}
    {a : α} (hf : f d' = some a) :
    (readObject member d >>= fun d => orMismatch (f d) : Reader α).Takes
      (separate (ms.map writeMember) ++ [0x7D]) a := by
  intro rest
  rw [run_bind_of_ok (takes_readObject h rest), hf]
  rfl

theorem Codec.readsAs_checkedRecord {β : Type} {unknown : Unknown} {r : Record σ β}
    {check : β → Option σ} {height : Nat} {v w : σ} (hnames : r.names.Nodup)
    (h : r.Recovers height v w) (hcheck : check (r.rebuild w) = some w) :
    (checkedRecord unknown r check).ReadsAs (height + 1) v w := by
  refine ⟨opens_writeObject _, fun depth hdepth => ?_⟩
  have hmembers := r.takesMembers unknown.read hnames h hdepth
  have hfinish : (r.finish (r.drafted v w)).bind check = some w := by
    rw [r.finish_drafted h]
    exact hcheck
  refine recovers_of_run rfl (fun rest => ?_)
    (takes_readObject_orMismatch (f := fun d => (r.finish d).bind check) hmembers hfinish)
    ((breaks_readObject hmembers).bind _)
  unfold checkedRecord
  dsimp only
  rw [run_bind_of_ok (run_peekToken rfl rest), if_neg (by decide), if_pos (beq_self_eq_true _),
    run_bind_of_ok (run_enter (by omega) 0x7B rest)]

theorem Codec.readsAs_record {r : Record σ σ} {height : Nat} {v w : σ} (hnames : r.names.Nodup)
    (h : r.Recovers height v w) (hw : r.rebuild w = w) : (record r).ReadsAs (height + 1) v w :=
  readsAs_checkedRecord hnames h (congrArg some hw)

end Records

/-! ## Tagged unions -/

section Unions
variable {σ α : Type}

/-- The content of `a` is read as `b` by its variant, or nothing is written for it. -/
def Variant.Recovers (v : Variant σ) (height : Nat) (a b : σ) : Prop :=
  match v.write a with
  | none => v.bare = some b
  | some content => ∀ depth, depth + height ≤ maxDepth → (v.read depth).Recovers content b

theorem Variant.recovers_holding {name : String} {codec : FlexibleCodec α} {wrap : α → σ}
    {unwrap : σ → Option α} {height : Nat} {a b : α} (hunwrap : unwrap (wrap a) = some a)
    (h : codec.Recovers height a b) :
    (holding name codec wrap unwrap).Recovers height (wrap a) (wrap b) := by
  unfold Variant.Recovers holding
  dsimp only
  rw [hunwrap]
  exact fun depth hdepth =>
    ⟨(h depth hdepth).reads.map wrap, (h depth hdepth).fades.map wrap fun _ hbare => hbare⟩

theorem Variant.recovers_constant (name : String) (a : σ) (height : Nat) :
    (constant name a).Recovers height a a := rfl

/-- The tag is read as the variant that it names. -/
theorem Union.recovers_tag {u : Union σ} {depth : Nat} (hdepth : depth ≤ maxDepth)
    {v : Variant σ} (h : Codec.named? Variant.name u.variants v.name = some v) :
    (u.readTag depth).Recovers (writeText v.name) v := by
  have hback : (Codec.enumeration Variant.name u.variants).ReadsBack 0 v :=
    Codec.readsBack_enumeration h
  exact hback.recovers depth hdepth

theorem Union.run_readMember_tag (u : Union σ) (depth : Nat) (s : Bytes) :
    (u.readMember depth u.tagKey .nothing).run s =
      (expectToken 0x3A >>= fun _ => u.readTag depth >>= fun v => pure (.tag v) :
        Reader (Progress σ)).run s := by
  unfold Union.readMember
  rw [if_pos rfl]

theorem Union.run_readMember_content {u : Union σ} (hkeys : u.contentKey ≠ u.tagKey) (depth : Nat)
    (v : Variant σ) (s : Bytes) :
    (u.readMember depth u.contentKey (.tag v)).run s =
      (expectToken 0x3A >>= fun _ => v.read depth >>= fun a => pure (.value a) :
        Reader (Progress σ)).run s := by
  unfold Union.readMember
  dsimp only
  rw [if_neg hkeys, if_pos rfl]

/-- The members of a union are read as far as its value. -/
theorem Union.takesMembers {u : Union σ} {height depth : Nat} {a b : σ}
    (hdepth : depth + height ≤ maxDepth) (hkeys : u.contentKey ≠ u.tagKey)
    (hname : Codec.named? Variant.name u.variants (u.variantOf a).name = some (u.variantOf a))
    (h : (u.variantOf a).Recovers height a b) :
    ∃ p : Progress σ, p.finish = some b ∧
      TakesMembers (u.readMember depth) ((u.tagKey, writeText (u.variantOf a).name) ::
        (((u.variantOf a).write a).map (u.contentKey, ·)).toList) .nothing p := by
  have htag := Union.recovers_tag (by omega : depth ≤ maxDepth) hname
  have first {ms : List (String × Bytes)} {p : Progress σ}
      (others : TakesMembers (u.readMember depth) ms (.tag (u.variantOf a)) p) :
      TakesMembers (u.readMember depth) ((u.tagKey, writeText (u.variantOf a).name) :: ms)
        .nothing p := by
    refine .cons (fun rest hrest => ?_) ?_ others
    · rw [u.run_readMember_tag]
      exact reads_member htag Progress.tag rest hrest
    · exact Fades.of_run_eq (u.run_readMember_tag depth) (fades_member htag Progress.tag)
  unfold Variant.Recovers at h
  cases hwrite : (u.variantOf a).write a with
  | none =>
    rw [hwrite] at h
    exact ⟨.tag (u.variantOf a), h, first (.nil _)⟩
  | some content =>
    rw [hwrite] at h
    have hcontent := h depth hdepth
    refine ⟨.value b, rfl, first (.cons (fun rest hrest => ?_) ?_ (.nil _))⟩
    · rw [Union.run_readMember_content hkeys]
      exact reads_member hcontent Progress.value rest hrest
    · exact Fades.of_run_eq (Union.run_readMember_content hkeys depth (u.variantOf a))
        (fades_member hcontent Progress.value)

theorem Codec.readsAs_union {u : Union σ} {height : Nat} {a b : σ} (hkeys : u.contentKey ≠ u.tagKey)
    (hname : named? Variant.name u.variants (u.variantOf a).name = some (u.variantOf a))
    (h : (u.variantOf a).Recovers height a b) : u.codec.ReadsAs (height + 1) a b := by
  refine ⟨opens_writeObject _, fun depth hdepth => ?_⟩
  have hinside : depth + 1 + height ≤ maxDepth := by omega
  obtain ⟨p, hp, hmembers⟩ := u.takesMembers hinside hkeys hname h
  refine recovers_of_run rfl (fun rest => ?_) (takes_readObject_orMismatch hmembers hp)
    ((breaks_readObject hmembers).bind _)
  unfold Union.codec
  dsimp only
  rw [run_bind_of_ok (run_peekToken rfl rest), if_neg (by decide), if_pos (beq_self_eq_true _),
    run_bind_of_ok (run_enter (by omega) 0x7B rest)]

end Unions

end ManagedAgent.Wire
