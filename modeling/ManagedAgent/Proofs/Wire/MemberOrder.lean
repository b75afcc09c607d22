import Mathlib.Data.List.TakeWhile
import Mathlib.Logic.Relation
import ManagedAgent.Proofs.Wire.Layout

/-!
# Only known members matter, and in no order

A message that is accepted is the text of a document. The document may be rearranged, step by step,
and written anew with other blanks: the message has the value that it had.

* `Codec.Heeds.decode_of_changes` : any number of changes, for every codec that heeds a shape;
* `decoding_ignores_order_and_additions` : for both messages;
* `tag_stays_behind_an_empty_name` : what may not be changed.
-/

set_option autoImplicit false

namespace ManagedAgent.Wire

open ManagedAgent.Wire.Reader
open Relation (ReflTransGen)

/-! ## Whole texts -/

theorem Closes.of_blanks {blanks : Bytes} (h : Blanks blanks) : Closes blanks :=
  fun b hb => .inl (h b (List.mem_of_mem_head? hb))

theorem accept_finished {s : Bytes} {x : Unit × Bytes} :
    accept finished s = some x ↔ Blanks s ∧ x = ((), []) := by
  unfold finished
  rw [accept_bind, accept_peekToken_eq, Option.bind_some]
  cases hs : s.dropWhile isBlank with
  | nil =>
    have hblanks : Blanks s := List.dropWhile_eq_nil_iff.1 hs
    simp [hblanks, eq_comm]
  | cons b r =>
    have hvisible : ¬ Blanks s := by
      intro hblanks
      rw [List.dropWhile_eq_nil_iff.2 hblanks] at hs
      cases hs
    simp [hvisible]

namespace Codec
variable {α : Type} {c : Codec α} {text : Bytes} {v : α}

/-- A whole text is one that is read up to blanks. -/
theorem decode_eq_ok_iff :
    c.decode text = .ok v ↔ ∃ blanks, accept (c.read 0) text = some (v, blanks) ∧ Blanks blanks := by
  have haccept : c.decode text = .ok v ↔ ∃ rest, accept (c.read 0 >>= fun a => finished >>= fun _ =>
      (pure a : Reader α)) text = some (v, rest) := by
    unfold decode accept
    cases ManagedAgent.Reader.run (c.read 0 >>= fun a => finished >>= fun _ => (pure a : Reader α))
      text with
    | error e => exact ⟨nofun, nofun⟩
    | ok x =>
      obtain ⟨a, rest⟩ := x
      constructor
      · intro h
        cases h
        exact ⟨rest, rfl⟩
      · rintro ⟨rest, h⟩
        cases h
        rfl
  rw [haccept]
  constructor
  · rintro ⟨rest, h⟩
    obtain ⟨a, blanks, ha, hmore⟩ := exists_of_accept_bind h
    obtain ⟨_, s, hfinished, hpure⟩ := exists_of_accept_bind hmore
    cases hpure
    exact ⟨blanks, ha, (accept_finished.1 hfinished).1⟩
  · rintro ⟨blanks, ha, hblanks⟩
    refine ⟨[], ?_⟩
    rw [accept_bind, ha, Option.bind_some, accept_bind, accept_finished.2 ⟨hblanks, rfl⟩]
    rfl

/-- Of a text that says what a document says, the value is what the document means. -/
theorem decode_eq_ok_iff_meaning (hc : c.Exact) {d : Doc} (htext : d.Spells text) :
    c.decode text = .ok v ↔ (c.read 0).meaning d = some v := by
  obtain ⟨front, blanks, rfl, hfront, hblanks⟩ := htext
  rw [decode_eq_ok_iff, hc 0 d front blanks hfront (.of_blanks hblanks)]
  constructor
  · rintro ⟨_, hmeaning, -⟩
    obtain ⟨_, ha, heq⟩ := Option.map_eq_some_iff.1 hmeaning
    cases heq
    exact ha
  · intro hmeaning
    exact ⟨blanks, by rw [hmeaning]; rfl, hblanks⟩

/-- A text that is accepted is that of a document. -/
theorem exists_spells_of_decode (hc : c.TakesDocs) (hv : c.decode text = .ok v) :
    ∃ d : Doc, d.Spells text := by
  obtain ⟨blanks, hread, hblanks⟩ := decode_eq_ok_iff.1 hv
  obtain ⟨front, rfl, d, hd⟩ := hc 0 hread
  exact ⟨d, front, blanks, rfl, hd, hblanks⟩

/-- One change after another leaves the value as it is. -/
theorem Heeds.meaning_of_changes {s : Shape} (h : c.Heeds s) {depth : Nat} {d d' : Doc}
    (hchanges : ReflTransGen (Change s) d d') (hv : (c.read depth).meaning d = some v) :
    (c.read depth).meaning d' = some v := by
  induction hchanges with
  | refl => exact hv
  | tail _ hchange ih => exact h.stable hchange ih

theorem Heeds.decode_of_changes {s : Shape} (h : c.Heeds s) {d d' : Doc} {text' : Bytes}
    (htext : d.Spells text) (hchanges : ReflTransGen (Change s) d d') (htext' : d'.Spells text')
    (hv : c.decode text = .ok v) : c.decode text' = .ok v :=
  (decode_eq_ok_iff_meaning h.exact htext').2 <|
    h.meaning_of_changes hchanges ((decode_eq_ok_iff_meaning h.exact htext).1 hv)

end Codec

/-! ## The two messages -/

/-- Every accepted message is the text of a document, and of every such document: members may be put
into another order in each object, and members with unknown keys added and changed, without an effect
on the value. A tag may not be moved before its content where that is a name with an empty object. -/
theorem decoding_ignores_order_and_additions :
    (∀ {text : Bytes} {v : Report}, Codec.report.decode text = .ok v →
      (∃ d : Doc, d.Spells text) ∧ ∀ {d d' : Doc} {text' : Bytes}, d.Spells text →
        ReflTransGen (Change .report) d d' → d'.Spells text' → Codec.report.decode text' = .ok v) ∧
    ∀ {text : Bytes} {v : Instruction}, Codec.instruction.decode text = .ok v →
      (∃ d : Doc, d.Spells text) ∧ ∀ {d d' : Doc} {text' : Bytes}, d.Spells text →
        ReflTransGen (Change .instruction) d d' → d'.Spells text' →
          Codec.instruction.decode text' = .ok v :=
  ⟨fun hv => ⟨Codec.exists_spells_of_decode Codec.heeds_report.takes hv,
      fun htext hchanges htext' => Codec.heeds_report.decode_of_changes htext hchanges htext' hv⟩,
    fun hv => ⟨Codec.exists_spells_of_decode Codec.heeds_instruction.takes hv,
      fun htext hchanges htext' => Codec.heeds_instruction.decode_of_changes htext hchanges htext' hv⟩⟩

/-! ### A verdict about a connection -/

theorem Doc.spells_flatten (d : Doc) : d.Spells d.tokens.flatten :=
  ⟨_, [], (List.append_nil _).symm, spaced_flatten _, blanks_nil⟩

/-- A text that is written is one of the grammar. -/
theorem isText_writeText (s : String) : IsText (writeText s) := by
  obtain ⟨t, heq, ht⟩ := consumes_readText (accept_of_run (takes_readText s []))
  rw [List.append_nil, List.append_nil] at heq
  rw [writeText_eq, heq]
  exact ht.isText

def Key.of (name : String) : Key := ⟨writeText name, isText_writeText name⟩

@[simp] theorem Key.name?_of (name : String) : (Key.of name).name? = some name := by
  have hread := accept_of_run (takes_readText name [])
  rw [List.append_nil] at hread
  exact congrArg (Option.map Prod.fst) hread

def Doc.text (s : String) : Doc := .scalar (writeText s) (.text (isText_writeText s))

def Doc.zero : Doc := .scalar [0x30] (.number (.mk (.inl rfl) isWhole_zero .absent .absent))

/-- A report that a connection of this kind was accepted. -/
def verdictReport (kind : List (Key × Doc)) : Doc :=
  .object [(.of "instance_uid", .text "a"), (.of "sequence_num", .zero),
    (.of "connection_statuses", .list [.object [(.of "kind", .object kind),
      (.of "status", .text "accepted")]])]

def verdictOf (kind : ConnectionKind) : Report :=
  { instanceUid := "a", sequenceNumber := 0,
    connectionStatuses := [{ kind, verdict := .accepted, error := "" }] }

/-- A change of the kind is one of the report. -/
theorem change_verdictReport {kind kind' : List (Key × Doc)}
    (h : Change .connectionKind (.object kind) (.object kind')) :
    Change .report (verdictReport kind) (verdictReport kind') := by
  have hstatus := @Change.member .connectionStatus _ [] [(.of "status", .text "accepted")] _ _ _ _
    (Key.name?_of "kind") (List.mem_cons_self : _ ∈ [_, _, _]) h
  have hlist := @Change.element (.list .connectionStatus) _ [] [] _ _ rfl hstatus
  exact @Change.member .report _ [(.of "instance_uid", .text "a"), (.of "sequence_num", .zero)] [] _ _
    _ _ (Key.name?_of "connection_statuses") (by simp [Shape.Under, Shape.report]) hlist

/-- The tag is moved before the name, and a list that nobody asked for comes between them. -/
theorem decoding_ignores_order_and_additions_verdict :
    Codec.report.decode (verdictReport [(.of "kind", .text "other"), (.of "note", .list [.list []]),
      (.of "name", .text "b")]).tokens.flatten = .ok (verdictOf (.other "b")) := by
  have hdecode : Codec.report.decode (verdictReport [(.of "name", .text "b"),
      (.of "kind", .text "other")]).tokens.flatten = .ok (verdictOf (.other "b")) := by
    decide +kernel
  have hreorder : Change .connectionKind
      (.object [(.of "name", .text "b"), (.of "kind", .text "other")])
      (.object [(.of "kind", .text "other"), (.of "name", .text "b")]) := by
    refine .reorder (.inl ?_) (.swap _ _ _) (by simp [keyNames])
    simp [Doc.IsEmptyName, Doc.text]
  have hinsert : Change .connectionKind
      (.object [(.of "kind", .text "other"), (.of "name", .text "b")])
      (.object [(.of "kind", .text "other"), (.of "note", .list [.list []]),
        (.of "name", .text "b")]) :=
    @Change.insert _ [(.of "kind", .text "other")] _ _ _ _ (Key.name?_of "note")
      ⟨by decide, by decide⟩
  exact (decoding_ignores_order_and_additions.1 hdecode).2 (Doc.spells_flatten _)
    ((ReflTransGen.single (change_verdictReport hreorder)).tail (change_verdictReport hinsert))
    (Doc.spells_flatten _)

/-- Half a surrogate pair, which is no name. -/
def Key.lone : Key :=
  ⟨[0x22, 0x5C, 0x75, 0x64, 0x38, 0x30, 0x30, 0x22], [0x5C, 0x75, 0x64, 0x38, 0x30, 0x30], rfl,
    .code (by decide) .nil⟩

/-- Content that was kept may be a name with an empty object, which is refused behind its tag; and a
key has to be a name even where its member is passed over. -/
theorem tag_stays_behind_an_empty_name :
    (Codec.report.decode (verdictReport [(.of "name", .object [(.of "metrics", .object [])]),
        (.of "kind", .text "own_telemetry")]).tokens.flatten = .ok (verdictOf (.telemetry .metrics)) ∧
      Codec.report.decode (verdictReport [(.of "kind", .text "own_telemetry"),
        (.of "name", .object [(.of "metrics", .object [])])]).tokens.flatten = .error .mismatch) ∧
    Codec.report.decode (verdictReport [(.of "kind", .text "opamp")]).tokens.flatten =
        .ok (verdictOf .management) ∧
      Codec.report.decode (verdictReport [(.of "kind", .text "opamp"),
        (.lone, .zero)]).tokens.flatten = .error .malformed := by
  refine ⟨⟨?_, ?_⟩, ?_, ?_⟩ <;> decide +kernel

end ManagedAgent.Wire
