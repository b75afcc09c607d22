import ManagedAgent.Proofs.Wire.Finite
import ManagedAgent.Proofs.Wire.Messages
import ManagedAgent.Wire.Body

/-!
# Decoding undoes encoding

A report, an instruction or start settings with finite doubles are what their encoding is decoded to,
if their doubles are read back. Whatever a body is decoded to has finite doubles only, so that it may
be encoded again.

* `decode_write_report`, `decode_write_startSettings` : in general each double is read as `reread`
  says;
* `decoding_undoes_encoding` : messages whose doubles are read back, for all three kinds.
-/

set_option autoImplicit false

namespace ManagedAgent

/-! ## The doubles of a message -/

section Doubles
variable {f : Double → Double}

theorem AttributeValue.mapDoubles_eq_self {v : AttributeValue} :
    v.mapDoubles f = v ↔ ∀ d ∈ v.doubles, f d = d := by
  cases v <;> simp [mapDoubles, doubles]

theorem Attribute.mapDoubles_eq_self {a : Attribute} :
    a.mapDoubles f = a ↔ ∀ d ∈ a.value.doubles, f d = d := by
  rw [← AttributeValue.mapDoubles_eq_self]
  exact ⟨congrArg Attribute.value, fun h => congrArg (Attribute.mk a.key) h⟩

theorem Attribute.map_mapDoubles_eq_self {l : List Attribute} :
    l.map (·.mapDoubles f) = l ↔ ∀ d ∈ l.flatMap (·.value.doubles), f d = d := by
  induction l with
  | nil => simp
  | cons a l ih =>
    rw [List.map_cons, List.cons_eq_cons, Attribute.mapDoubles_eq_self, ih, List.flatMap_cons,
      List.forall_mem_append]

theorem Description.mapDoubles_eq_self {d : Description} :
    d.mapDoubles f = d ↔ ∀ x ∈ d.doubles, f x = x := by
  unfold doubles
  rw [List.forall_mem_append, ← Attribute.map_mapDoubles_eq_self,
    ← Attribute.map_mapDoubles_eq_self]
  exact ⟨fun h => ⟨congrArg identifying h, congrArg nonIdentifying h⟩,
    fun h => congrArg₂ Description.mk h.1 h.2⟩

theorem map_mapDoubles_eq_self {o : Option Description} :
    o.map (·.mapDoubles f) = o ↔ ∀ x ∈ o.elim [] (·.doubles), f x = x := by
  cases o with
  | none => simp
  | some d => simp [Description.mapDoubles_eq_self]

/-- A report stays the same exactly if each of its doubles does. -/
theorem Report.mapDoubles_eq_self {r : Report} :
    r.mapDoubles f = r ↔ ∀ d ∈ r.doubles, f d = d := by
  refine Iff.trans ⟨congrArg Report.description, fun h => ?_⟩ map_mapDoubles_eq_self
  exact congrArg (fun o => { r with description := o }) h

theorem StartSettings.mapDoubles_eq_self {s : StartSettings} :
    s.mapDoubles f = s ↔ ∀ d ∈ s.doubles, f d = d := by
  refine Iff.trans ⟨congrArg StartSettings.description, fun h => ?_⟩ map_mapDoubles_eq_self
  exact congrArg (fun o => { s with description := o }) h

end Doubles

namespace Wire

namespace Body
variable {α : Type} {c : Codec α}

theorem decode_encode_plain {a b : α} (h : c.decode (c.write a) = .ok b) :
    decode c false (encode c false a) = .ok b := by
  show (c.decode (c.write a)).mapError TransportError.decode = _
  rw [h]
  rfl

/-- A body is decoded to what its text is. -/
theorem decode_eq_ok {compressed : Bool} {body : Bytes} {a : α} (h : decode c compressed body = .ok a) :
    ∃ t, text compressed body = .ok t ∧ c.decode t = .ok a := by
  unfold decode at h
  cases ht : text compressed body with
  | error e =>
    rw [ht] at h
    cases h
  | ok t =>
    rw [ht] at h
    refine ⟨t, rfl, ?_⟩
    change (c.decode t).mapError TransportError.decode = .ok a at h
    cases hc : c.decode t with
    | error e =>
      rw [hc] at h
      cases h
    | ok b =>
      rw [hc] at h
      exact congrArg Except.ok (Except.ok.inj h)

theorem decodeInstruction_of_ne_nil {compressed : Bool} {body : Bytes} (h : body ≠ []) :
    decodeInstruction compressed body = some <$> decode Codec.instruction compressed body := by
  unfold decodeInstruction
  rw [if_neg (by simpa using h)]

end Body

theorem Opens.ne_nil {s : Bytes} (h : Opens s) : s ≠ [] := by
  obtain ⟨b, rest, rfl, -⟩ := h
  exact List.cons_ne_nil b rest

namespace Codec

theorem decode_write_report {r : Report} (h : r.IsFinite) :
    report.decode (report.write r) = .ok (r.mapDoubles reread) :=
  decode_write (readsAs_report h : report.ReadsAs (0 + 6) r _) (by decide)

theorem decode_write_instruction (i : Instruction) :
    instruction.decode (instruction.write i) = .ok i :=
  decode_write (readsBack_instruction i : instruction.ReadsBack (0 + 6) i) (by decide)

theorem decode_write_startSettings {s : StartSettings} (h : s.IsFinite) :
    startSettings.decode (startSettings.write s) = .ok (s.mapDoubles reread) :=
  decode_write (readsAs_startSettings h : startSettings.ReadsAs (0 + 6) s _) (by decide)

end Codec

namespace Body

theorem decodeInstruction_encode_plain (i : Instruction) :
    decodeInstruction false (encode Codec.instruction false i) = .ok (some i) := by
  have hback : Codec.instruction.ReadsBack (0 + 6) i := Codec.readsBack_instruction i
  have hne : encode Codec.instruction false i ≠ [] := hback.opens.ne_nil
  rw [decodeInstruction_of_ne_nil hne, decode_encode_plain (Codec.decode_write_instruction i)]
  rfl

/-- **Decoding undoes encoding.** A message with finite doubles that are read back is what its plain
body is decoded to. Whatever is decoded, plain or compressed, has finite doubles only and, when they
are read back, is what its own plain body is decoded to. -/
theorem decoding_undoes_encoding :
    (∀ r : Report, r.IsFinite → (∀ d ∈ r.doubles, reread d = d) →
      decode Codec.report false (encode Codec.report false r) = .ok r) ∧
    (∀ i : Instruction,
      decodeInstruction false (encode Codec.instruction false i) = .ok (some i)) ∧
    (∀ s : StartSettings, s.IsFinite → (∀ d ∈ s.doubles, reread d = d) →
      Codec.startSettings.decode (Codec.startSettings.write s) = .ok s) ∧
    (∀ compressed body r, decode Codec.report compressed body = .ok r → r.IsFinite ∧
      ((∀ d ∈ r.doubles, reread d = d) →
        decode Codec.report false (encode Codec.report false r) = .ok r)) ∧
    (∀ compressed body i, decodeInstruction compressed body = .ok (some i) →
      decodeInstruction false (encode Codec.instruction false i) = .ok (some i)) ∧
    ∀ body s, Codec.startSettings.decode body = .ok s → s.IsFinite ∧
      ((∀ d ∈ s.doubles, reread d = d) →
        Codec.startSettings.decode (Codec.startSettings.write s) = .ok s) := by
  have hreport (r : Report) (h : r.IsFinite) (hback : ∀ d ∈ r.doubles, reread d = d) :
      decode Codec.report false (encode Codec.report false r) = .ok r := by
    have hdecode := decode_encode_plain (Codec.decode_write_report h)
    rwa [Report.mapDoubles_eq_self.2 hback] at hdecode
  have hsettings (s : StartSettings) (h : s.IsFinite) (hback : ∀ d ∈ s.doubles, reread d = d) :
      Codec.startSettings.decode (Codec.startSettings.write s) = .ok s := by
    have hdecode := Codec.decode_write_startSettings h
    rwa [StartSettings.mapDoubles_eq_self.2 hback] at hdecode
  refine ⟨hreport, decodeInstruction_encode_plain, hsettings, ?_,
    fun _ _ i _ => decodeInstruction_encode_plain i, ?_⟩
  · intro compressed body r h
    obtain ⟨t, -, hdecode⟩ := decode_eq_ok h
    have hfinite := Codec.of_decode Codec.yields_report hdecode
    exact ⟨hfinite, hreport r hfinite⟩
  · intro body s h
    have hfinite := Codec.of_decode Codec.yields_startSettings h
    exact ⟨hfinite, hsettings s hfinite⟩

/-- A report with escapes in its texts, the largest number, and doubles that need all their digits:
a tenth, negative zero, the least and the largest one. -/
def trickyReport : Report where
  instanceUid := "\"\\\n\u0001é"
  sequenceNumber := 0xFFFFFFFFFFFFFFFF
  description := some
    { identifying := [⟨"tenth", .double ⟨0x3FB999999999999A⟩⟩, ⟨"", .double ⟨0x8000000000000000⟩⟩]
      nonIdentifying := [⟨"least", .double ⟨1⟩⟩, ⟨"largest", .double ⟨0x7FEFFFFFFFFFFFFF⟩⟩] }
  connectionStatuses := [{ kind := .management, verdict := .accepted }]

theorem isFinite_trickyReport : trickyReport.IsFinite := by
  rintro d ⟨⟩
  refine ⟨fun a ha => ?_, fun a ha => ?_⟩
  · simp only [List.mem_cons, List.not_mem_nil, or_false] at ha
    rcases ha with rfl | rfl <;> rfl
  · simp only [List.mem_cons, List.not_mem_nil, or_false] at ha
    rcases ha with rfl | rfl <;> rfl

def trickySettings : StartSettings where
  serverUrl := ""
  description := trickyReport.description
  pollingInterval := some ⟨0xFFFFFFFFFFFFFFFF, Fin.last 999999999⟩

theorem reread_trickyReport : ∀ d ∈ trickyReport.doubles, reread d = d := by decide +kernel

theorem decoding_undoes_encoding_tricky :
    trickyReport.IsFinite ∧ (∀ d ∈ trickyReport.doubles, reread d = d) ∧
      decode Codec.report false (encode Codec.report false trickyReport) = .ok trickyReport ∧
      trickySettings.IsFinite ∧ (∀ d ∈ trickySettings.doubles, reread d = d) ∧
      Codec.startSettings.decode (Codec.startSettings.write trickySettings) = .ok trickySettings :=
  ⟨isFinite_trickyReport, reread_trickyReport,
    decoding_undoes_encoding.1 trickyReport isFinite_trickyReport reread_trickyReport,
    isFinite_trickyReport, reread_trickyReport,
    decoding_undoes_encoding.2.2.1 trickySettings isFinite_trickyReport reread_trickyReport⟩

end Body

end Wire

end ManagedAgent
