import ManagedAgent.Http.Secured
import ManagedAgent.Proofs.Wire.Compression
import Mathlib

/-!
# Requests say how their bodies are encoded

The body of a request is compressed exactly if its headers say so, unless the settings ask for a
header of their own that says something else.

* `Request.Carries` : the report of a request, read as its headers say;
* `Sender.Reached` : what configuring a sender, and changing it since, can make of it;
* `compression_is_transparent` : the same of whole bodies, and of requests.
-/

set_option autoImplicit false

namespace ManagedAgent.Http

def encodingName : String := "content-encoding"

/-! ## Headers that settings ask for -/

theorem Headers.get?_add {headers added : Headers} {name value : String}
    (h : headers.add name value = .ok added) (k : String) :
    added.get? k = if k = Text.lower name then some value else headers.get? k := by
  unfold add at h
  split at h
  · cases h
  · split at h
    · cases h
    · cases h
      exact NameMap.get?_insert headers (Text.lower name) value k

/-- A header is there only if the settings ask for it. -/
theorem Headers.get?_ofSettings_eq_none {wanted : NameMap String} {headers : Headers} {k : String}
    (h : ofSettings wanted = .ok headers) (hk : ∀ w ∈ wanted.entries, Text.lower w.1 ≠ k) :
    headers.get? k = none := by
  -- the headers so far have no such name, whatever entries are still to come
  have hfold (entries : List (String × String)) (hentries : ∀ w ∈ entries, Text.lower w.1 ≠ k)
      (start : Headers) (hstart : start.get? k = none)
      (h : entries.foldlM (fun headers e => headers.add e.1 e.2) start = .ok headers) :
      headers.get? k = none := by
    induction entries generalizing start with
    | nil =>
      cases h
      exact hstart
    | cons w rest ih =>
      rw [List.foldlM_cons] at h
      cases hadd : start.add w.1 w.2 with
      | error e =>
        rw [hadd] at h
        cases h
      | ok next =>
        rw [hadd] at h
        refine ih (fun x hx => hentries x (List.mem_cons_of_mem w hx)) next ?_ h
        rw [get?_add hadd, if_neg (Ne.symm (hentries w List.mem_cons_self))]
        exact hstart
  exact hfold wanted.entries hk .empty (NameMap.get?_empty k) h

def SetsEncoding (settings : ConnectionSettings) : Prop :=
  ∃ w ∈ settings.headers.entries, Text.lower w.1 = encodingName

theorem Endpoint.Built.get?_encodingName {e : Endpoint} (h : e.Built) (hs : ¬ SetsEncoding e.settings) :
    e.headers.get? encodingName = none :=
  Headers.get?_ofSettings_eq_none h.2 fun w hw hname => hs ⟨w, hw, hname⟩

/-! ## Bodies of requests -/

namespace Request

/-- Whether the body is compressed, as the headers say; an encoding of another name is unknown. -/
def isCompressed? (q : Request) : Option Bool :=
  match q.headers.get? encodingName with
  | none => some false
  | some encoding =>
    if Text.equalsIgnoringCase encoding Wire.Body.compressedEncoding then some true else none

def report? (q : Request) : Option (Except TransportError Report) :=
  q.isCompressed?.map fun compressed => Wire.Body.decode Wire.Codec.report compressed q.body

/-- Read as its headers say, the request is this report. -/
structure Carries (q : Request) (r : Report) : Prop where
  report : q.report? = some (.ok r)
  /-- It does not matter how the text was compressed. -/
  recompressed {data : Bytes} (hq : q.isCompressed? = some true)
    (h : Gzip.decompress data = Gzip.decompress q.body) :
    ({ q with body := data } : Request).report? = some (.ok r)

end Request

theorem Endpoint.isCompressed?_request {e : Endpoint} (he : e.headers.get? encodingName = none)
    (compress : Bool) (r : Report) : (e.request compress r).isCompressed? = some compress := by
  have hauthorization : encodingName ≠ "authorization" := by decide
  have htype : encodingName ≠ "content-type" := by decide
  have hheaders : (e.request compress r).headers.get? encodingName =
      if compress then some Wire.Body.compressedEncoding else none := by
    unfold Endpoint.request
    cases compress with
    | false =>
      cases authorization? e.url <;>
        simp only [NameMap.get?_insert, if_neg hauthorization, if_neg htype, he, Bool.false_eq_true,
          if_false]
    | true =>
      dsimp only
      rw [if_pos rfl, if_pos rfl, NameMap.get?_insert]
      exact if_pos rfl
  unfold Request.isCompressed?
  rw [hheaders]
  cases compress with
  | false => rfl
  | true =>
    show (if Text.equalsIgnoringCase _ Wire.Body.compressedEncoding then some true else none) = some true
    exact if_pos (beq_self_eq_true _)

theorem Endpoint.carries_request {e : Endpoint} (he : e.headers.get? encodingName = none)
    (compress : Bool) {r : Report} (hr : r.IsFinite) :
    (e.request compress r).Carries (r.mapDoubles Wire.reread) := by
  have hbody := Wire.Body.isTransparent_report hr
  have hkind := isCompressed?_request he compress r
  refine ⟨?_, fun {data} hq hdata => ?_⟩
  · unfold Request.report?
    rw [hkind, Option.map_some]
    exact congrArg some (hbody.decodes compress)
  · obtain rfl : compress = true := Option.some.inj (hkind.symm.trans hq)
    show ((e.request true r).isCompressed?).map (Wire.Body.decode Wire.Codec.report · data) = _
    rw [hq, Option.map_some]
    exact congrArg some (hbody.recompressed hdata).1

/-! ## Senders that were configured -/

namespace Sender

/-- What calls can make of a new sender, whatever TLS library they meet. -/
inductive Reached : Sender → Prop
  | new : Reached {}
  | configure {s : Sender} (h : Reached s) (lib : TlsLibrary) (settings : StartSettings) :
    Reached ((configureWith lib settings).on s).2
  | apply {s : Sender} (h : Reached s) (lib : TlsLibrary) (settings : ConnectionSettings) :
    Reached ((applyWith lib settings).on s).2
  | setInterval {s : Sender} (h : Reached s) (interval : Duration) :
    Reached (s.setInterval interval)

theorem Reached.built {s : Sender} (h : s.Reached) : ∀ e, s.endpoint = some e → e.Built := by
  induction h with
  | new => exact nofun
  | @configure s h lib settings ih =>
    rw [configureWith_on]
    split
    · exact ih
    · next e he => exact fun _ h => Option.some.inj h ▸ (Endpoint.build_eq_ok_iff.1 he).1
  | @apply s h lib settings ih =>
    rw [applyWith_on]
    split
    · exact ih
    · split
      · exact ih
      · next e he => exact fun _ h => Option.some.inj h ▸ (Endpoint.build_eq_ok_iff.1 he).1
  | setInterval _ _ ih => exact ih

theorem exchange_of_endpoint {s : Sender} {e : Endpoint} (h : s.endpoint = some e) (cancelled : Bool)
    (r : Report) (delivery : Delivery) :
    (s.exchange cancelled r delivery).1 =
      if cancelled then none else some (e.request s.compress r) := by
  unfold exchange request
  rw [h]
  cases cancelled <;> rfl

end Sender

/-! ## Compression -/

open Wire (Codec reread)
open Wire.Body (IsTransparent decode decodeInstruction encode)

/-- **Compression is transparent and never confused with plain text.** A message is what its body,
plain or compressed, is decoded to, up to its doubles: each of them is what is read of its shortest
digits. A message is the same exactly if all its doubles are read back, as those of few digits are.
A body read as the other kind is an error of that kind; no body is accepted as both. So the body of a
request, read as the headers of the request say, is the report that was to be sent, with the doubles
that are read of it. -/
theorem compression_is_transparent :
    (∀ r : Report, r.IsFinite →
      IsTransparent (decode Codec.report) (fun compressed => encode Codec.report compressed r)
        (r.mapDoubles reread)) ∧
    (∀ r : Report, r.mapDoubles reread = r ↔ ∀ d ∈ r.doubles, reread d = d) ∧
    (∀ d : Double, d.isFinite = true → (Wire.writeDouble d).length ≤ 16 → 0x65 ∉ Wire.writeDouble d →
      reread d = d) ∧
    (∀ i : Instruction,
      IsTransparent decodeInstruction (fun compressed => encode Codec.instruction compressed i)
        (some i)) ∧
    (∀ body r r', ¬ (decode Codec.report false body = .ok r ∧ decode Codec.report true body = .ok r')) ∧
    (∀ body, body ≠ [] → ∀ o o',
      ¬ (decodeInstruction false body = .ok o ∧ decodeInstruction true body = .ok o')) ∧
    ∀ s : Sender, s.Reached → ∀ e, s.endpoint = some e → ¬ SetsEncoding e.settings →
      ∀ r : Report, r.IsFinite →
        ∃ q : Request, q.Carries (r.mapDoubles reread) ∧ ∀ cancelled delivery,
          (s.exchange cancelled r delivery).1 = if cancelled then none else some q := by
  refine ⟨fun r hr => Wire.Body.isTransparent_report hr, fun r => Report.mapDoubles_eq_self,
    fun d hd => Wire.reread_of_length_le hd, Wire.Body.isTransparent_instruction, ?_, ?_, ?_⟩
  · rintro body r r' ⟨hplain, hcompressed⟩
    exact Wire.Body.not_accepted_as_both Codec.opened_report hplain hcompressed
  · rintro body hbody o o' ⟨hplain, hcompressed⟩
    obtain ⟨i, hi⟩ := Wire.Body.exists_decode_of_decodeInstruction hbody hplain
    obtain ⟨i', hi'⟩ := Wire.Body.exists_decode_of_decodeInstruction hbody hcompressed
    exact Wire.Body.not_accepted_as_both Codec.opened_instruction hi hi'
  · intro s hs e hendpoint hencoding r hr
    have hheader := (hs.built e hendpoint).get?_encodingName hencoding
    exact ⟨e.request s.compress r, Endpoint.carries_request hheader s.compress hr,
      fun cancelled delivery => Sender.exchange_of_endpoint hendpoint cancelled r delivery⟩

theorem exists_parseUrl_loopback : ∃ url, Endpoint.parseUrl "http://[::1]/" = .ok url := by
  have hurl : (Url.parse "http://[::1]/").isOk = true := by cbv
  cases hparse : Url.parse "http://[::1]/" with
  | error p =>
    rw [hparse] at hurl
    cases hurl
  | ok url =>
    refine ⟨url, ?_⟩
    unfold Endpoint.parseUrl
    rw [hparse]
    rfl

def compressingSettings : StartSettings where
  serverUrl := "http://[::1]/"
  enableCompression := true
  headers := NameMap.empty.insert "X-Token" "t"

theorem exists_configure_compressingSettings : ∃ s e, Sender.Reached s ∧ s.compress = true ∧
    s.endpoint = some e ∧ e.settings = compressingSettings.connection := by
  have hheaders : Headers.ofSettings compressingSettings.headers =
      .ok (NameMap.empty.insert "x-token" "t") := by
    have hname : Headers.isName "X-Token" = true := by
      simp [Headers.isName, Headers.isToken, Headers.maxName]
      decide
    have hvalue : Headers.isValue "t" = true := by decide +kernel
    show Headers.add .empty "X-Token" "t" >>= _ = _
    unfold Headers.add
    rw [hname, hvalue]
    rfl
  obtain ⟨url, hparse⟩ := exists_parseUrl_loopback
  have hbuild : Endpoint.build .lenient compressingSettings.tls compressingSettings.connection =
      .ok ⟨url, NameMap.empty.insert "x-token" "t", compressingSettings.connection⟩ :=
    Endpoint.build_eq_ok_iff.2 ⟨⟨hparse, hheaders⟩, rfl, rfl⟩
  have hs := Sender.Reached.new.configure .lenient compressingSettings
  rw [Sender.configureWith_on, hbuild] at hs
  exact ⟨_, _, hs, rfl, rfl, rfl⟩

theorem not_setsEncoding_compressingSettings : ¬ SetsEncoding compressingSettings.connection := by
  rintro ⟨w, hw, hname⟩
  obtain rfl : w = ("X-Token", "t") := List.mem_singleton.1 hw
  exact absurd hname (by decide +kernel)

theorem compression_is_transparent_compressing :
    Wire.Body.trickyReport.IsFinite ∧
      IsTransparent (decode Codec.report)
        (fun compressed => encode Codec.report compressed Wire.Body.trickyReport)
        Wire.Body.trickyReport ∧
      encode Codec.instruction true {} ≠ [] ∧
      (∀ o o', ¬ (decodeInstruction false (encode Codec.instruction true {}) = .ok o ∧
        decodeInstruction true (encode Codec.instruction true {}) = .ok o')) ∧
      ∃ s e, Sender.Reached s ∧ s.compress = true ∧ s.endpoint = some e ∧
        ¬ SetsEncoding e.settings ∧
        ∃ q : Request, q.Carries Wire.Body.trickyReport ∧
          (s.exchange false Wire.Body.trickyReport .stalls).1 = some q := by
  have hfinite := Wire.Body.isFinite_trickyReport
  have hback := (compression_is_transparent.2.1 _).2 Wire.Body.reread_trickyReport
  have hne : encode Codec.instruction true {} ≠ [] := List.cons_ne_nil _ _
  obtain ⟨s, e, hs, hcompress, hendpoint, hsettings⟩ := exists_configure_compressingSettings
  have hencoding : ¬ SetsEncoding e.settings := hsettings ▸ not_setsEncoding_compressingSettings
  obtain ⟨-, -, -, -, -, hboth, hrequest⟩ := compression_is_transparent
  obtain ⟨q, hq, hsent⟩ := hrequest s hs e hendpoint hencoding _ hfinite
  have htransparent := compression_is_transparent.1 _ hfinite
  rw [hback] at hq htransparent
  exact ⟨hfinite, htransparent, hne, hboth _ hne, s, e, hs, hcompress, hendpoint, hencoding, q, hq,
    hsent false .stalls⟩

/-- A report with a double that needs seventeen digits. -/
def preciseReport : Report where
  instanceUid := "a"
  sequenceNumber := 0
  description := some { identifying := [⟨"load", .double ⟨0x3FDBAF85DA2E5318⟩⟩] }

/-- `0.43258806521161963` is read as the double before it, `0.4325880652116196`. -/
theorem preciseReport_is_not_decoded_back :
    preciseReport.IsFinite ∧
      decode Codec.report false (encode Codec.report false preciseReport) =
        .ok { preciseReport with
          description := some { identifying := [⟨"load", .double ⟨0x3FDBAF85DA2E5317⟩⟩] } } ∧
      decode Codec.report false (encode Codec.report false preciseReport) ≠ .ok preciseReport := by
  have hfinite : preciseReport.IsFinite := by
    rintro d ⟨⟩
    refine ⟨fun a ha => ?_, nofun⟩
    obtain rfl := List.mem_singleton.1 ha
    exact rfl
  have hread : reread ⟨0x3FDBAF85DA2E5318⟩ = ⟨0x3FDBAF85DA2E5317⟩ := by decide +kernel
  have hdecode := (Wire.Body.isTransparent_report hfinite).decodes false
  have hmap : preciseReport.mapDoubles reread = { preciseReport with
      description := some { identifying := [⟨"load", .double ⟨0x3FDBAF85DA2E5317⟩⟩] } } := by
    rw [← hread]
    rfl
  rw [hmap] at hdecode
  refine ⟨hfinite, hdecode, ?_⟩
  rw [hdecode]
  decide

end ManagedAgent.Http
