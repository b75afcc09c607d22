import ManagedAgent.Proofs.Gzip.Members
import ManagedAgent.Proofs.Wire.RoundTrip

/-!
# Compressed and plain bodies

A compressed body is decoded to what its text says, and the two kinds of bodies are told apart by
their first byte: compressed data begins with one that no record begins with.

* `Opened` : what the texts of reports and of instructions begin with;
* `isTransparent_encode` : a body of either kind is decoded as what it is, and refused as what it is
  not, however it was compressed;
* `not_accepted_as_both` : no body is accepted both as plain and as compressed.
-/

set_option autoImplicit false

namespace ManagedAgent.Wire

open ManagedAgent.Wire.Reader

/-! ## What records begin with -/

namespace Codec
variable {α σ β : Type}

/-- Texts begin with an opening bracket, and so does what is decoded, once the blanks are gone. -/
structure Opened (c : Codec α) : Prop where
  write (a : α) : ∃ rest, c.write a = 0x7B :: rest
  decode {b : UInt8} {rest : Bytes} (hb : isBlank b = false) (hlist : b ≠ 0x5B) (hobject : b ≠ 0x7B)
    (a : α) : c.decode (b :: rest) ≠ .ok a

theorem opened_checkedRecord (unknown : Unknown) (r : Record σ β) (check : β → Option σ) :
    (checkedRecord unknown r check).Opened where
  write v := ⟨_, rfl⟩
  decode {b rest} hb hlist hobject a h := by
    obtain ⟨t, hread⟩ := exists_run_of_decode h
    obtain ⟨o, r', hpeek, hmore⟩ := ManagedAgent.Reader.exists_of_run_bind_eq_ok hread
    rw [run_peekToken hb rest] at hpeek
    cases hpeek
    rw [if_neg (by simpa using hlist), if_neg (by simpa using hobject)] at hmore
    exact yields_refuse (P := fun _ => False) hmore

theorem opened_report : report.Opened := opened_checkedRecord _ _ _

theorem opened_instruction : instruction.Opened := opened_checkedRecord _ _ _

theorem Opened.write_ne_nil {c : Codec α} (h : c.Opened) (a : α) : c.write a ≠ [] := by
  obtain ⟨rest, hrest⟩ := h.write a
  rw [hrest]
  exact List.cons_ne_nil _ _

/-- Compressed data is not decoded. -/
theorem Opened.decode_of_decompress {c : Codec α} (h : c.Opened) {data text : Bytes}
    (hdata : Gzip.decompress data = .ok text) (a : α) : c.decode data ≠ .ok a := by
  obtain ⟨rest, rfl⟩ := Gzip.exists_eq_cons_of_decompress hdata
  exact h.decode rfl (by decide) (by decide) a

end Codec

namespace Body
variable {α β : Type} {c : Codec α}

/-! ## Bodies of either kind -/

theorem decode_plain (c : Codec α) (body : Bytes) :
    decode c false body = (c.decode body).mapError TransportError.decode :=
  rfl

theorem decode_compressed {body text : Bytes} (h : Gzip.decompress body = .ok text) :
    decode c true body = (c.decode text).mapError TransportError.decode := by
  unfold decode Body.text
  rw [if_pos rfl, h]
  rfl

/-- What is not compressed data is refused as such. -/
theorem decode_uncompressed {body : Bytes} (h : ∀ text, Gzip.decompress body ≠ .ok text) :
    ∃ reason, decode c true body = .error (.compression reason) := by
  cases hbody : Gzip.decompress body with
  | error e =>
    refine ⟨e.message, ?_⟩
    unfold decode Body.text
    rw [if_pos rfl, hbody]
    rfl
  | ok text => exact absurd hbody (h text)

theorem decode_plain_of_ne_ok {body : Bytes} (h : ∀ a, c.decode body ≠ .ok a) :
    ∃ f, decode c false body = .error (.decode f) := by
  rw [decode_plain]
  cases hbody : c.decode body with
  | error f => exact ⟨f, rfl⟩
  | ok a => exact absurd hbody (h a)

/-- A text that is decoded is not compressed data. -/
theorem not_decompressed_of_decode (hc : c.Opened) {body : Bytes} {a : α} (h : c.decode body = .ok a)
    (text : Bytes) : Gzip.decompress body ≠ .ok text :=
  fun htext => hc.decode_of_decompress htext a h

/-- No body is accepted both as plain and as compressed. -/
theorem not_accepted_as_both (hc : c.Opened) {body : Bytes} {a b : α}
    (hplain : decode c false body = .ok a) (hcompressed : decode c true body = .ok b) : False := by
  obtain ⟨text, htext, hdecode⟩ := decode_eq_ok hplain
  cases htext
  obtain ⟨reason, hrefused⟩ := decode_uncompressed (not_decompressed_of_decode hc hdecode)
  rw [hrefused] at hcompressed
  cases hcompressed

/-! ## Bodies of messages -/

/-- Of a plain and a compressed body: each is decoded as what it is, and refused as what it is
not. -/
structure IsTransparent (decoder : Bool → Bytes → Except TransportError β) (body : Bool → Bytes)
    (b : β) : Prop where
  decodes (compressed : Bool) : decoder compressed (body compressed) = .ok b
  compressed_as_plain : ∃ f, decoder false (body true) = .error (.decode f)
  plain_as_compressed : ∃ reason, decoder true (body false) = .error (.compression reason)
  /-- It does not matter how the text was compressed. -/
  recompressed {data : Bytes} (h : Gzip.decompress data = Gzip.decompress (body true)) :
    decoder true data = .ok b ∧ ∃ f, decoder false data = .error (.decode f)

theorem isTransparent_encode (hc : c.Opened) {a b : α} (ha : c.decode (c.write a) = .ok b) :
    IsTransparent (decode c) (fun compressed => encode c compressed a) b := by
  have htext : Gzip.decompress (encode c true a) = .ok (c.write a) := Gzip.decompress_compress _
  have hcompressed {data : Bytes} (h : Gzip.decompress data = .ok (c.write a)) :
      decode c true data = .ok b ∧ ∃ f, decode c false data = .error (.decode f) := by
    rw [decode_compressed h, ha]
    exact ⟨rfl, decode_plain_of_ne_ok (hc.decode_of_decompress h)⟩
  refine ⟨fun compressed => ?_, (hcompressed htext).2,
    decode_uncompressed (not_decompressed_of_decode hc ha), fun h => hcompressed (h.trans htext)⟩
  cases compressed with
  | false => exact decode_encode_plain ha
  | true => exact (hcompressed htext).1

theorem ne_nil_of_decompress {data text : Bytes} (h : Gzip.decompress data = .ok text) : data ≠ [] := by
  obtain ⟨rest, rfl⟩ := Gzip.exists_eq_cons_of_decompress h
  exact List.cons_ne_nil _ _

/-- An instruction is there if the body is not empty. -/
theorem IsTransparent.instruction {body : Bool → Bytes} {i : Instruction}
    (h : IsTransparent (decode Codec.instruction) body i) (hplain : body false ≠ []) {text : Bytes}
    (htext : Gzip.decompress (body true) = .ok text) :
    IsTransparent decodeInstruction body (some i) := by
  have hcompressed {data : Bytes} (hdata : Gzip.decompress data = Gzip.decompress (body true)) :
      decodeInstruction true data = .ok (some i) ∧
        ∃ f, decodeInstruction false data = .error (.decode f) := by
    obtain ⟨hdecodes, f, hf⟩ := h.recompressed hdata
    have hne := ne_nil_of_decompress (hdata.trans htext)
    rw [decodeInstruction_of_ne_nil hne, decodeInstruction_of_ne_nil hne, hdecodes, hf]
    exact ⟨rfl, f, rfl⟩
  obtain ⟨reason, hreason⟩ := h.plain_as_compressed
  refine ⟨fun compressed => ?_, (hcompressed rfl).2,
    ⟨reason, by rw [decodeInstruction_of_ne_nil hplain, hreason]; rfl⟩, hcompressed⟩
  cases compressed with
  | false =>
    rw [decodeInstruction_of_ne_nil hplain, h.decodes false]
    rfl
  | true => exact (hcompressed rfl).1

theorem isTransparent_report {r : Report} (h : r.IsFinite) :
    IsTransparent (decode Codec.report) (fun compressed => encode Codec.report compressed r)
      (r.mapDoubles reread) :=
  isTransparent_encode Codec.opened_report (Codec.decode_write_report h)

theorem isTransparent_instruction (i : Instruction) :
    IsTransparent decodeInstruction (fun compressed => encode Codec.instruction compressed i) (some i) :=
  (isTransparent_encode Codec.opened_instruction (Codec.decode_write_instruction i)).instruction
    (Codec.opened_instruction.write_ne_nil i) (Gzip.decompress_compress _)

/-- The message of a body that is an instruction. -/
theorem exists_decode_of_decodeInstruction {compressed : Bool} {body : Bytes} (hbody : body ≠ [])
    {o : Option Instruction} (h : decodeInstruction compressed body = .ok o) :
    ∃ i, decode Codec.instruction compressed body = .ok i := by
  rw [decodeInstruction_of_ne_nil hbody] at h
  cases hdecode : decode Codec.instruction compressed body with
  | error e =>
    rw [hdecode] at h
    cases h
  | ok i => exact ⟨i, rfl⟩

end Body

end ManagedAgent.Wire
