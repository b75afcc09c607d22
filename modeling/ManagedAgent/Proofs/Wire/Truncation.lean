import ManagedAgent.Proofs.Gzip.Stable
import ManagedAgent.Proofs.Wire.Compression

/-!
# Bodies that are cut short

A message has to arrive whole. A record ends with its bracket, so that a plain body which is cut
short ends too early, and is never found wrong in another way or taken for a shorter message. A
compressed body which is cut short is no compressed data.

* `OnlyWhole` : a body of either kind is decoded whole, and refused when it is cut short;
* `truncated_bodies_are_refused` : for every report and every instruction.
-/

set_option autoImplicit false

namespace ManagedAgent.Wire

namespace Codec

theorem Opened.not_bare {α : Type} {c : Codec α} (h : c.Opened) (a : α) : ¬ Bare (c.write a) := by
  intro hbare
  obtain ⟨rest, hrest⟩ := h.write a
  rw [hrest] at hbare
  exact (hbare 0x7B rfl).2 rfl

end Codec

namespace Body
variable {α β : Type} {c : Codec α}

/-- Of a plain and a compressed body: each is decoded if it is whole. Cut short, with something left
of it, the plain one ends too early, and the compressed one is no compressed data. -/
structure OnlyWhole (decoder : Bool → Bytes → Except TransportError β) (body : Bool → Bytes) (b : β) :
    Prop where
  whole (compressed : Bool) : decoder compressed (body compressed) = .ok b
  plain {q : Bytes} (hfront : q <+: body false) (hne : q ≠ body false) (hnil : q ≠ []) :
    decoder false q = .error (.decode .truncated)
  /-- It does not matter how the text was compressed. -/
  compressed {data q : Bytes} (h : Gzip.member data = Gzip.member (body true)) (hfront : q <+: data)
    (hne : q ≠ data) (hnil : q ≠ []) : ∃ reason, decoder true q = .error (.compression reason)

theorem decode_plain_cut (hc : c.Opened) {height : Nat} {a b : α} (h : c.ReadsAs height a b)
    (hheight : height ≤ maxDepth) {q : Bytes} (hq : Cut q (c.write a)) :
    decode c false q = .error (.decode .truncated) := by
  rw [decode_plain, Codec.decode_cut h hheight (hc.not_bare a) hq]
  rfl

theorem decode_compressed_cut (c : Codec α) {data text q : Bytes}
    (h : Gzip.member data = .ok (text, [])) (hq : Cut q data) :
    ∃ reason, decode c true q = .error (.compression reason) :=
  decode_uncompressed (Gzip.not_decompressed_of_cut h hq)

theorem onlyWhole_report {r : Report} (h : r.IsFinite) :
    OnlyWhole (decode Codec.report) (fun compressed => encode Codec.report compressed r)
      (r.mapDoubles reread) where
  whole := (isTransparent_report h).decodes
  plain hfront hne _ :=
    have hread : Codec.report.ReadsAs (0 + 6) r (r.mapDoubles reread) := Codec.readsAs_report h
    decode_plain_cut Codec.opened_report hread (by decide) (cut_of_isPrefix hfront hne)
  compressed hdata hfront hne _ :=
    decode_compressed_cut _ (hdata.trans (Gzip.member_compress _)) (cut_of_isPrefix hfront hne)

theorem onlyWhole_instruction (i : Instruction) :
    OnlyWhole decodeInstruction (fun compressed => encode Codec.instruction compressed i)
      (some i) where
  whole := (isTransparent_instruction i).decodes
  plain hfront hne hnil := by
    have hback : Codec.instruction.ReadsBack (0 + 6) i := Codec.readsBack_instruction i
    rw [decodeInstruction_of_ne_nil hnil, decode_plain_cut Codec.opened_instruction hback (by decide)
      (cut_of_isPrefix hfront hne)]
    rfl
  compressed hdata hfront hne hnil := by
    obtain ⟨reason, hreason⟩ := decode_compressed_cut Codec.instruction
      (hdata.trans (Gzip.member_compress _)) (cut_of_isPrefix hfront hne)
    rw [decodeInstruction_of_ne_nil hnil, hreason]
    exact ⟨reason, rfl⟩

/-- **A body that is cut short is never taken for a message.** A whole report is decoded with its
doubles as they are read. Nothing at all is no instruction, and it is refused as a report. -/
theorem truncated_bodies_are_refused :
    (∀ r : Report, r.IsFinite →
      OnlyWhole (decode Codec.report) (fun compressed => encode Codec.report compressed r)
        (r.mapDoubles reread)) ∧
    (∀ i : Instruction,
      OnlyWhole decodeInstruction (fun compressed => encode Codec.instruction compressed i)
        (some i)) ∧
    (∀ compressed, decodeInstruction compressed [] = .ok none) ∧
    decode Codec.report false [] = .error (.decode .truncated) ∧
    ∃ reason, decode Codec.report true [] = .error (.compression reason) := by
  refine ⟨fun r h => onlyWhole_report h, onlyWhole_instruction, fun _ => rfl, rfl, ?_⟩
  exact decode_uncompressed fun text htext => ne_nil_of_decompress htext rfl

/-- Of the last byte only, the plain body misses its bracket and the compressed one a part of its
length. -/
theorem truncated_bodies_are_refused_lastByte :
    trickyReport.IsFinite ∧
      decode Codec.report false (encode Codec.report false trickyReport).dropLast =
        .error (.decode .truncated) ∧
      ∃ reason, decode Codec.report true (encode Codec.report true trickyReport).dropLast =
        .error (.compression reason) := by
  have hwhole := truncated_bodies_are_refused.1 trickyReport isFinite_trickyReport
  have hfront (s : Bytes) : s.dropLast <+: s := List.dropLast_prefix s
  have hne {s : Bytes} (h : s.dropLast ≠ []) : s.dropLast ≠ s := by
    intro heq
    have hlength := congrArg List.length heq
    have hpos := List.length_pos_iff.2 h
    rw [List.length_dropLast] at hlength hpos
    omega
  have hplain : (encode Codec.report false trickyReport).dropLast ≠ [] := by
    show (0x7B :: separate _ ++ [0x7D]).dropLast ≠ []
    rw [List.dropLast_concat]
    exact List.cons_ne_nil _ _
  have hcompressed : (encode Codec.report true trickyReport).dropLast ≠ [] := by
    obtain ⟨rest, hrest⟩ :=
      Gzip.exists_eq_cons_of_decompress (Gzip.decompress_compress (Codec.report.write trickyReport))
    show (Gzip.compress (Codec.report.write trickyReport)).dropLast ≠ []
    rw [hrest]
    exact List.cons_ne_nil _ _
  exact ⟨isFinite_trickyReport, hwhole.plain (hfront _) (hne hplain) hplain,
    hwhole.compressed rfl (hfront _) (hne hcompressed) hcompressed⟩

end Body

end ManagedAgent.Wire
