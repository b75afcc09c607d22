import ManagedAgent.Proofs.Wire.Container
import ManagedAgent.Proofs.Wire.Double
import ManagedAgent.Wire.Format

/-!
# What written messages are read as

One lemma for each type of message, over the codecs of what is inside. A message is read back up to
its doubles, each of which is read as `reread` says. A height counts the containers that a value
opens, one inside the other.
-/

set_option autoImplicit false

namespace ManagedAgent.Wire.Codec

open ManagedAgent.Wire.Field ManagedAgent.Wire.Variant

variable {height : Nat}

/-! ## Attributes -/

theorem readsAs_attributeValue {v : AttributeValue} (h : v.IsFinite) :
    attributeValue.ReadsAs (height + 2) v (v.mapDoubles reread) := by
  cases v with
  | string s => exact readsAs_union (by decide) rfl (recovers_holding rfl (readsBack_text s).recovers)
  | int i => exact readsAs_union (by decide) rfl (recovers_holding rfl (readsBack_int64 i).recovers)
  | double d => exact readsAs_union (by decide) rfl (recovers_holding rfl (readsAs_double h).recovers)
  | bool b => exact readsAs_union (by decide) rfl (recovers_holding rfl (readsBack_bool b).recovers)
  | bytes b => exact readsAs_union (by decide) rfl (recovers_holding rfl (readsBack_bytes b).recovers)

theorem readsAs_attributeEntry {a : Attribute} (h : a.value.IsFinite) :
    attributeEntry.ReadsAs (height + 3) a (a.mapDoubles reread) :=
  readsAs_record (by decide)
    ⟨⟨trivial, recovers_required (readsBack_text _).recovers⟩,
      recovers_required (readsAs_attributeValue h).recovers⟩ rfl

theorem readsAs_description {d : Description} (h : d.IsFinite) :
    description.ReadsAs (height + 5) d (d.mapDoubles reread) :=
  readsAs_record (by decide)
    ⟨⟨trivial, recovers_defaulted (readsAs_list fun a ha =>
        readsAs_attributeEntry (h.1 a ha)).recovers⟩,
      recovers_defaulted (readsAs_list fun a ha =>
        readsAs_attributeEntry (h.2 a ha)).recovers⟩ rfl

/-! ## Configurations -/

theorem readsBack_configFile (f : ConfigFile) : configFile.ReadsBack (height + 2) f :=
  readsAs_record (by decide)
    ⟨⟨trivial, recovers_defaulted (readsBack_bytes _).recovers⟩,
      recovers_defaulted (readsBack_text _).recovers⟩ rfl

theorem readsBack_configMap (m : ConfigMap) : configMap.ReadsBack (height + 4) m :=
  readsAs_record (by decide)
    ⟨trivial, recovers_defaulted (readsBack_map fun e _ => (readsBack_configFile e.2).recovers).recovers⟩
    rfl

theorem readsBack_effectiveConfig (c : EffectiveConfig) :
    effectiveConfig.ReadsBack (height + 5) c :=
  readsAs_record (by decide)
    ⟨⟨trivial, recovers_defaulted (readsBack_configMap _).recovers⟩,
      recovers_defaulted (readsBack_bytes _).recovers⟩ rfl

theorem readsBack_remoteConfig (c : RemoteConfig) : remoteConfig.ReadsBack (height + 5) c :=
  readsAs_record (by decide)
    ⟨⟨trivial, recovers_defaulted (readsBack_configMap _).recovers⟩,
      recovers_defaulted (readsBack_bytes _).recovers⟩ rfl

theorem readsBack_applyState (s : ApplyState) : applyState.ReadsBack height s :=
  readsBack_enumeration (by cases s <;> rfl)

theorem readsBack_remoteConfigStatus (s : RemoteConfigStatus) :
    remoteConfigStatus.ReadsBack (height + 2) s :=
  readsAs_record (by decide)
    ⟨⟨⟨trivial, recovers_defaulted (readsBack_bytes _).recovers⟩,
      recovers_defaulted (readsBack_applyState _).recovers⟩,
      recovers_sparse rfl (readsBack_text _).recovers⟩ rfl

theorem readsBack_health (h : Health) : health.ReadsBack (height + 1) h :=
  readsAs_record (by decide)
    ⟨⟨⟨⟨trivial, recovers_required (readsBack_bool _).recovers⟩,
      recovers_defaulted (readsBack_uint64 _).recovers⟩,
      recovers_sparse rfl (readsBack_text _).recovers⟩,
      recovers_sparse rfl (readsBack_text _).recovers⟩ rfl

/-! ## Connections -/

theorem readsBack_certificate (c : Certificate) : certificate.ReadsBack (height + 2) c :=
  readsAs_record (by decide)
    ⟨⟨⟨trivial, recovers_defaulted (readsBack_bytes _).recovers⟩,
      recovers_defaulted (readsBack_bytes _).recovers⟩,
      recovers_defaulted (readsBack_bytes _).recovers⟩ rfl

theorem readsBack_textMap (m : NameMap String) : (map text.toCodec).ReadsBack (height + 1) m :=
  readsBack_map fun e _ => (readsBack_text e.2).recovers

theorem readsBack_connectionSettings (s : ConnectionSettings) :
    connectionSettings.ReadsBack (height + 3) s :=
  readsAs_record (by decide)
    ⟨⟨⟨trivial, recovers_defaulted (readsBack_text _).recovers⟩,
      recovers_sparse rfl (readsBack_textMap _).recovers⟩,
      Field.recovers_optional rfl (fun _ => rfl) fun c _ => readsBack_certificate c⟩ rfl

theorem readsBack_connectionOffers (o : ConnectionOffers) :
    connectionOffers.ReadsBack (height + 5) o :=
  readsAs_record (by decide)
    ⟨⟨⟨⟨⟨⟨trivial, recovers_defaulted (readsBack_bytes _).recovers⟩,
      Field.recovers_optional rfl (fun _ => rfl) fun s _ => readsBack_connectionSettings s⟩,
      Field.recovers_optional rfl (fun _ => rfl) fun s _ => readsBack_connectionSettings s⟩,
      Field.recovers_optional rfl (fun _ => rfl) fun s _ => readsBack_connectionSettings s⟩,
      Field.recovers_optional rfl (fun _ => rfl) fun s _ => readsBack_connectionSettings s⟩,
      recovers_sparse rfl
        (readsBack_map fun e _ => (readsBack_connectionSettings e.2).recovers).recovers⟩ rfl

theorem readsBack_telemetry (t : Telemetry) : telemetry.ReadsBack height t :=
  readsBack_enumeration (by cases t <;> rfl)

theorem readsBack_connectionKind (k : ConnectionKind) : connectionKind.ReadsBack (height + 1) k := by
  cases k with
  | management => exact readsAs_union (by decide) rfl (recovers_constant _ _ _)
  | telemetry t =>
    exact readsAs_union (by decide) rfl (recovers_holding rfl (readsBack_telemetry t).recovers)
  | other name =>
    exact readsAs_union (by decide) rfl (recovers_holding rfl (readsBack_text name).recovers)

theorem readsBack_verdict (v : Verdict) : verdict.ReadsBack height v :=
  readsBack_enumeration (by cases v <;> rfl)

theorem readsBack_connectionStatus (s : ConnectionStatus) :
    connectionStatus.ReadsBack (height + 2) s :=
  readsAs_record (by decide)
    ⟨⟨⟨trivial, recovers_required (readsBack_connectionKind _).recovers⟩,
      recovers_required (readsBack_verdict _).recovers⟩,
      recovers_sparse rfl (readsBack_text _).recovers⟩ rfl

/-! ## Packages -/

theorem readsBack_packageType (t : PackageType) : packageType.ReadsBack height t :=
  readsBack_enumeration (by cases t <;> rfl)

theorem readsBack_downloadableFile (f : DownloadableFile) :
    downloadableFile.ReadsBack (height + 2) f :=
  readsAs_record (by decide)
    ⟨⟨⟨trivial, recovers_required (readsBack_text _).recovers⟩,
      recovers_defaulted (readsBack_bytes _).recovers⟩,
      recovers_defaulted (readsBack_bytes _).recovers⟩ rfl

theorem readsBack_packageAvailable (p : PackageAvailable) :
    packageAvailable.ReadsBack (height + 3) p :=
  readsAs_record (by decide)
    ⟨⟨⟨⟨trivial, recovers_defaulted (readsBack_packageType _).recovers⟩,
      recovers_defaulted (readsBack_text _).recovers⟩,
      Field.recovers_optional rfl (fun _ => rfl) fun f _ => readsBack_downloadableFile f⟩,
      recovers_defaulted (readsBack_bytes _).recovers⟩ rfl

theorem readsBack_packagesAvailable (p : PackagesAvailable) :
    packagesAvailable.ReadsBack (height + 5) p :=
  readsAs_record (by decide)
    ⟨⟨trivial, recovers_defaulted
        (readsBack_map fun e _ => (readsBack_packageAvailable e.2).recovers).recovers⟩,
      recovers_defaulted (readsBack_bytes _).recovers⟩ rfl

theorem readsBack_packageState (s : PackageState) : packageState.ReadsBack height s :=
  readsBack_enumeration (by cases s <;> rfl)

theorem readsBack_packageStatus (s : PackageStatus) : packageStatus.ReadsBack (height + 2) s :=
  readsAs_record (by decide)
    ⟨⟨⟨⟨⟨⟨⟨trivial, recovers_required (readsBack_text _).recovers⟩,
      recovers_defaulted (readsBack_text _).recovers⟩,
      recovers_defaulted (readsBack_bytes _).recovers⟩,
      recovers_defaulted (readsBack_text _).recovers⟩,
      recovers_defaulted (readsBack_bytes _).recovers⟩,
      recovers_defaulted (readsBack_packageState _).recovers⟩,
      recovers_sparse rfl (readsBack_text _).recovers⟩ rfl

theorem readsBack_packageStatuses (s : PackageStatuses) :
    packageStatuses.ReadsBack (height + 4) s :=
  readsAs_record (by decide)
    ⟨⟨⟨trivial, recovers_defaulted
        (readsBack_map fun e _ => (readsBack_packageStatus e.2).recovers).recovers⟩,
      recovers_defaulted (readsBack_bytes _).recovers⟩,
      recovers_sparse rfl (readsBack_text _).recovers⟩ rfl

/-! ## The server's instruction -/

theorem readsBack_errorKind (k : ErrorKind) : errorKind.ReadsBack height k :=
  readsBack_enumeration (by cases k <;> rfl)

theorem readsBack_retryInfo (n : UInt64) : retryInfo.ReadsBack (height + 1) n :=
  readsAs_record (by decide) ⟨trivial, recovers_required (readsBack_uint64 _).recovers⟩ rfl

theorem readsBack_serverError (e : ServerError) : serverError.ReadsBack (height + 2) e :=
  readsAs_record (by decide)
    ⟨⟨⟨trivial, recovers_defaulted (readsBack_errorKind _).recovers⟩,
      recovers_defaulted (readsBack_text _).recovers⟩,
      Field.recovers_optional rfl (fun _ => rfl) fun n _ => readsBack_retryInfo n⟩ rfl

theorem readsBack_identification (i : Identification) :
    identification.ReadsBack (height + 1) i :=
  readsAs_record (by decide) ⟨trivial, recovers_required (readsBack_text _).recovers⟩ rfl

theorem readsBack_command (c : Command) : command.ReadsBack (height + 1) c :=
  readsAs_record (by decide)
    ⟨trivial, recovers_required (readsBack_enumeration (by cases c; rfl)).recovers⟩ rfl

theorem readsBack_instruction (i : Instruction) : instruction.ReadsBack (height + 6) i :=
  readsAs_record (by decide)
    ⟨⟨⟨⟨⟨⟨⟨⟨trivial, recovers_defaulted (readsBack_text _).recovers⟩,
      Field.recovers_optional rfl (fun _ => rfl) fun e _ => readsBack_serverError e⟩,
      Field.recovers_optional rfl (fun _ => rfl) fun c _ => readsBack_remoteConfig c⟩,
      Field.recovers_optional rfl (fun _ => rfl) fun o _ => readsBack_connectionOffers o⟩,
      Field.recovers_optional rfl (fun _ => rfl) fun p _ => readsBack_packagesAvailable p⟩,
      recovers_sparse rfl (readsBack_bool _).recovers⟩,
      Field.recovers_optional rfl (fun _ => rfl) fun i _ => readsBack_identification i⟩,
      Field.recovers_optional rfl (fun _ => rfl) fun c _ => readsBack_command c⟩ rfl

/-! ## The agent's report -/

theorem readsAs_report {r : Report} (h : r.IsFinite) :
    report.ReadsAs (height + 6) r (r.mapDoubles reread) :=
  readsAs_record (by decide)
    ⟨⟨⟨⟨⟨⟨⟨⟨⟨trivial, recovers_required (readsBack_text _).recovers⟩,
      recovers_required (readsBack_uint64 _).recovers⟩,
      recovers_defaulted (readsBack_uint64 _).recovers⟩,
      Field.recovers_map rfl (fun _ => rfl) fun d hd => readsAs_description (h d hd)⟩,
      Field.recovers_optional rfl (fun _ => rfl) fun h _ => readsBack_health h⟩,
      Field.recovers_optional rfl (fun _ => rfl) fun c _ => readsBack_effectiveConfig c⟩,
      Field.recovers_optional rfl (fun _ => rfl) fun s _ => readsBack_remoteConfigStatus s⟩,
      Field.recovers_optional rfl (fun _ => rfl) fun s _ => readsBack_packageStatuses s⟩,
      recovers_sparse rfl (readsBack_list fun s _ => readsBack_connectionStatus s).recovers⟩ rfl

/-! ## Start settings -/

theorem readsBack_tlsSettings (t : TlsSettings) : tlsSettings.ReadsBack (height + 1) t :=
  readsAs_record (by decide)
    ⟨⟨trivial, recovers_defaulted (Codec.recovers_optional (fun _ => rfl) fun s _ => readsBack_text s)⟩,
      recovers_defaulted (readsBack_bool _).recovers⟩ rfl

/-- A duration has less than a second in its nanoseconds, so that nothing is carried. -/
theorem normalize?_nanos (d : Duration) :
    Duration.normalize? d.secs (UInt32.ofNat d.nanos.val) = some d := by
  obtain ⟨secs, nanos, hlt⟩ := d
  have hnanos : (UInt32.ofNat nanos).toNat = nanos :=
    UInt32.toNat_ofNat_of_lt (Nat.lt_trans hlt (by decide))
  have hdiv : (secs.toNat * 1000000000 + nanos) / 1000000000 = secs.toNat := by omega
  have hmod : (secs.toNat * 1000000000 + nanos) % 1000000000 = nanos := by omega
  unfold Duration.normalize? Duration.ofNanos
  dsimp only
  rw [hnanos, hdiv, if_pos secs.toNat_lt, UInt64.ofNat_toNat]
  congr 2
  exact Fin.ext hmod

theorem readsBack_duration (d : Duration) : duration.ReadsBack (height + 1) d :=
  readsAs_checkedRecord (by decide)
    ⟨⟨trivial, recovers_required (readsBack_uint64 _).recovers⟩,
      recovers_required (readsBack_uint32 _).recovers⟩ (normalize?_nanos d)

theorem readsAs_startSettings {s : StartSettings} (h : s.IsFinite) :
    startSettings.ReadsAs (height + 6) s (s.mapDoubles reread) :=
  readsAs_record (by decide)
    ⟨⟨⟨⟨⟨⟨⟨⟨⟨trivial, recovers_required (readsBack_text _).recovers⟩,
      recovers_defaulted (readsBack_bool _).recovers⟩,
      recovers_defaulted (Codec.recovers_optional (fun _ => rfl) fun s _ => readsBack_text s)⟩,
      recovers_defaulted (Codec.recovers_map (fun _ => rfl) fun d hd => readsAs_description (h d hd))⟩,
      recovers_defaulted (Codec.recovers_optional (fun _ => rfl) fun s _ => readsBack_remoteConfigStatus s)⟩,
      recovers_defaulted (Codec.recovers_optional (fun _ => rfl) fun b _ => readsBack_bytes b)⟩,
      recovers_defaulted (readsBack_textMap _).recovers⟩,
      recovers_defaulted (readsBack_tlsSettings _).recovers⟩,
      recovers_defaulted (Codec.recovers_optional (fun _ => rfl) fun d _ => readsBack_duration d)⟩ rfl

end ManagedAgent.Wire.Codec
