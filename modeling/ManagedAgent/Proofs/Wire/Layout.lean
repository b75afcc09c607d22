import ManagedAgent.Proofs.Wire.Buffering
import ManagedAgent.Wire.Format

/-!
# The shapes of the messages

One shape for each type of message, and the lemma that its codec heeds it: the keys that an object
knows, and what stands under them.

* `Shape.report`, `Shape.instruction` : the shapes of whole messages;
* `Codec.heeds_report`, `Codec.heeds_instruction` : their codecs heed them.
-/

set_option autoImplicit false

namespace ManagedAgent.Wire

open ManagedAgent.Wire.Reader

/-! ## Shapes -/

namespace Shape

def attributeValue : Shape := .tagged "type" "value"

def attributeEntry : Shape := .record [("key", .plain), ("value", attributeValue)]

def description : Shape :=
  .record [("identifying_attributes", .list attributeEntry),
    ("non_identifying_attributes", .list attributeEntry)]

def configFile : Shape := .record [("body", .plain), ("content_type", .plain)]

def configMap : Shape := .record [("config_map", .map configFile)]

def effectiveConfig : Shape := .record [("config_map", configMap), ("hash", .plain)]

def remoteConfig : Shape := .record [("config", configMap), ("config_hash", .plain)]

def remoteConfigStatus : Shape :=
  .record [("last_remote_config_hash", .plain), ("status", .plain), ("error_message", .plain)]

def health : Shape :=
  .record [("healthy", .plain), ("start_time_unix_nano", .plain), ("last_error", .plain),
    ("status", .plain)]

def certificate : Shape :=
  .record [("public_key", .plain), ("private_key", .plain), ("ca_public_key", .plain)]

def connectionSettings : Shape :=
  .record [("destination_endpoint", .plain), ("headers", .map .plain), ("certificate", certificate)]

def connectionOffers : Shape :=
  .record [("hash", .plain), ("opamp", connectionSettings), ("own_metrics", connectionSettings),
    ("own_traces", connectionSettings), ("own_logs", connectionSettings),
    ("other_connections", .map connectionSettings)]

def connectionKind : Shape := .tagged "kind" "name"

def connectionStatus : Shape :=
  .record [("kind", connectionKind), ("status", .plain), ("error_message", .plain)]

def downloadableFile : Shape :=
  .record [("download_url", .plain), ("content_hash", .plain), ("signature", .plain)]

def packageAvailable : Shape :=
  .record [("package_type", .plain), ("version", .plain), ("file", downloadableFile),
    ("hash", .plain)]

def packagesAvailable : Shape :=
  .record [("packages", .map packageAvailable), ("all_packages_hash", .plain)]

def packageStatus : Shape :=
  .record [("name", .plain), ("agent_has_version", .plain), ("agent_has_hash", .plain),
    ("server_offered_version", .plain), ("server_offered_hash", .plain), ("status", .plain),
    ("error_message", .plain)]

def packageStatuses : Shape :=
  .record [("packages", .map packageStatus), ("server_provided_all_packages_hash", .plain),
    ("error_message", .plain)]

def retryInfo : Shape := .record [("retry_after_nanoseconds", .plain)]

def serverError : Shape :=
  .record [("error_type", .plain), ("error_message", .plain), ("retry_info", retryInfo)]

def identification : Shape := .record [("new_instance_uid", .plain)]

def command : Shape := .record [("command_type", .plain)]

def instruction : Shape :=
  .record [("instance_uid", .plain), ("error_response", serverError),
    ("remote_config", remoteConfig), ("connection_settings", connectionOffers),
    ("packages_available", packagesAvailable), ("report_full_state", .plain),
    ("agent_identification", identification), ("command", command)]

def report : Shape :=
  .record [("instance_uid", .plain), ("sequence_num", .plain), ("capabilities", .plain),
    ("agent_description", description), ("health", health), ("effective_config", effectiveConfig),
    ("remote_config_status", remoteConfigStatus), ("package_statuses", packageStatuses),
    ("connection_statuses", .list connectionStatus)]

end Shape

/-! ## Codecs -/

namespace Codec

theorem heeds_scalar {α : Type} (write : α → Bytes) (project : Scalar → Option α) :
    (scalar write project).toCodec.Heeds .plain :=
  heeds_plain (fun _ => takesDoc_readAs project) fun _ => (means_readAs project).meaning

theorem heeds_text : text.toCodec.Heeds .plain := heeds_scalar _ _

theorem heeds_bool : bool.toCodec.Heeds .plain := heeds_scalar _ _

theorem heeds_uint64 : uint64.toCodec.Heeds .plain := heeds_scalar _ _

theorem heeds_bytes : bytes.toCodec.Heeds .plain :=
  heeds_plain agrees_bytes.takesDoc agrees_bytes.exact

theorem heeds_enumeration {α : Type} (name : α → String) (all : List α) :
    (enumeration name all).toCodec.Heeds .plain :=
  heeds_plain (takesDocs_enumeration name all) (exact_enumeration name all)

/-! ### Attributes -/

theorem agrees_holding {σ α : Type} {name : String} {codec : FlexibleCodec α} {wrap : α → σ}
    {unwrap : σ → Option α} (h : Agrees codec.read codec.ofBuffered) :
    Agrees (Variant.holding name codec wrap unwrap).read
      (Variant.holding name codec wrap unwrap).ofBuffered := h.map wrap

theorem heeds_attributeValue : attributeValue.Heeds .attributeValue := by
  refine heeds_union (fun v hv => ?_) (by decide)
  simp only [attributeValueUnion, List.mem_cons, List.not_mem_nil, or_false] at hv
  rcases hv with rfl | rfl | rfl | rfl | rfl
  · exact agrees_holding (agrees_scalar _)
  · exact agrees_holding (agrees_scalar _)
  · exact agrees_holding (agrees_scalar _)
  · exact agrees_holding (agrees_scalar _)
  · exact agrees_holding agrees_bytes

theorem heeds_attributeEntry : attributeEntry.Heeds .attributeEntry :=
  heeds_record (.snoc (.snoc (.build _) heeds_text rfl) heeds_attributeValue rfl) (by decide)

theorem heeds_description : description.Heeds .description :=
  heeds_record (.snoc (.snoc (.build _) (heeds_list heeds_attributeEntry) rfl)
    (heeds_list heeds_attributeEntry) rfl) (by decide)

/-! ### Configurations -/

theorem heeds_configFile : configFile.Heeds .configFile :=
  heeds_record (.snoc (.snoc (.build _) heeds_bytes rfl) heeds_text rfl) (by decide)

theorem heeds_configMap : configMap.Heeds .configMap :=
  heeds_record (.snoc (.build _) (heeds_map heeds_configFile) rfl) (by decide)

theorem heeds_effectiveConfig : effectiveConfig.Heeds .effectiveConfig :=
  heeds_record (.snoc (.snoc (.build _) heeds_configMap rfl) heeds_bytes rfl) (by decide)

theorem heeds_remoteConfig : remoteConfig.Heeds .remoteConfig :=
  heeds_record (.snoc (.snoc (.build _) heeds_configMap rfl) heeds_bytes rfl) (by decide)

theorem heeds_remoteConfigStatus : remoteConfigStatus.Heeds .remoteConfigStatus :=
  heeds_record (.snoc (.snoc (.snoc (.build _) heeds_bytes rfl) (heeds_enumeration _ _) rfl)
    heeds_text rfl) (by decide)

theorem heeds_health : health.Heeds .health :=
  heeds_record (.snoc (.snoc (.snoc (.snoc (.build _) heeds_bool rfl) heeds_uint64 rfl)
    heeds_text rfl) heeds_text rfl) (by decide)

/-! ### Connections -/

theorem heeds_certificate : certificate.Heeds .certificate :=
  heeds_record (.snoc (.snoc (.snoc (.build _) heeds_bytes rfl) heeds_bytes rfl) heeds_bytes rfl)
    (by decide)

theorem heeds_connectionSettings : connectionSettings.Heeds .connectionSettings :=
  heeds_record (.snoc (.snoc (.snoc (.build _) heeds_text rfl) (heeds_map heeds_text) rfl)
    (heeds_optional heeds_certificate) rfl) (by decide)

theorem heeds_connectionOffers : connectionOffers.Heeds .connectionOffers :=
  heeds_record (.snoc (.snoc (.snoc (.snoc (.snoc (.snoc (.build _) heeds_bytes rfl)
    (heeds_optional heeds_connectionSettings) rfl) (heeds_optional heeds_connectionSettings) rfl)
    (heeds_optional heeds_connectionSettings) rfl) (heeds_optional heeds_connectionSettings) rfl)
    (heeds_map heeds_connectionSettings) rfl) (by decide)

theorem heeds_connectionKind : connectionKind.Heeds .connectionKind := by
  refine heeds_union (fun v hv => ?_) (by decide)
  simp only [connectionKindUnion, List.mem_cons, List.not_mem_nil, or_false] at hv
  rcases hv with rfl | rfl | rfl
  · exact (agrees_scalar _).map fun _ => ConnectionKind.management
  · exact agrees_holding (agrees_enumeration _ _)
  · exact agrees_holding (agrees_scalar _)

theorem heeds_connectionStatus : connectionStatus.Heeds .connectionStatus :=
  heeds_record (.snoc (.snoc (.snoc (.build _) heeds_connectionKind rfl) (heeds_enumeration _ _) rfl)
    heeds_text rfl) (by decide)

/-! ### Packages -/

theorem heeds_downloadableFile : downloadableFile.Heeds .downloadableFile :=
  heeds_record (.snoc (.snoc (.snoc (.build _) heeds_text rfl) heeds_bytes rfl) heeds_bytes rfl)
    (by decide)

theorem heeds_packageAvailable : packageAvailable.Heeds .packageAvailable :=
  heeds_record (.snoc (.snoc (.snoc (.snoc (.build _) (heeds_enumeration _ _) rfl) heeds_text rfl)
    (heeds_optional heeds_downloadableFile) rfl) heeds_bytes rfl) (by decide)

theorem heeds_packagesAvailable : packagesAvailable.Heeds .packagesAvailable :=
  heeds_record (.snoc (.snoc (.build _) (heeds_map heeds_packageAvailable) rfl) heeds_bytes rfl)
    (by decide)

theorem heeds_packageStatus : packageStatus.Heeds .packageStatus :=
  heeds_record (.snoc (.snoc (.snoc (.snoc (.snoc (.snoc (.snoc (.build _) heeds_text rfl)
    heeds_text rfl) heeds_bytes rfl) heeds_text rfl) heeds_bytes rfl) (heeds_enumeration _ _) rfl)
    heeds_text rfl) (by decide)

theorem heeds_packageStatuses : packageStatuses.Heeds .packageStatuses :=
  heeds_record (.snoc (.snoc (.snoc (.build _) (heeds_map heeds_packageStatus) rfl) heeds_bytes rfl)
    heeds_text rfl) (by decide)

/-! ### Whole messages -/

theorem heeds_retryInfo : retryInfo.Heeds .retryInfo :=
  heeds_record (.snoc (.build _) heeds_uint64 rfl) (by decide)

theorem heeds_serverError : serverError.Heeds .serverError :=
  heeds_record (.snoc (.snoc (.snoc (.build _) (heeds_enumeration _ _) rfl) heeds_text rfl)
    (heeds_optional heeds_retryInfo) rfl) (by decide)

theorem heeds_identification : identification.Heeds .identification :=
  heeds_record (.snoc (.build _) heeds_text rfl) (by decide)

theorem heeds_command : command.Heeds .command :=
  heeds_record (.snoc (.build _) (heeds_enumeration _ _) rfl) (by decide)

theorem heeds_instruction : instruction.Heeds .instruction :=
  heeds_record (.snoc (.snoc (.snoc (.snoc (.snoc (.snoc (.snoc (.snoc (.build _) heeds_text rfl)
    (heeds_optional heeds_serverError) rfl) (heeds_optional heeds_remoteConfig) rfl)
    (heeds_optional heeds_connectionOffers) rfl) (heeds_optional heeds_packagesAvailable) rfl)
    heeds_bool rfl) (heeds_optional heeds_identification) rfl) (heeds_optional heeds_command) rfl)
    (by decide)

theorem heeds_report : report.Heeds .report :=
  heeds_record (.snoc (.snoc (.snoc (.snoc (.snoc (.snoc (.snoc (.snoc (.snoc (.build _)
    heeds_text rfl) heeds_uint64 rfl) heeds_uint64 rfl) (heeds_optional heeds_description) rfl)
    (heeds_optional heeds_health) rfl) (heeds_optional heeds_effectiveConfig) rfl)
    (heeds_optional heeds_remoteConfigStatus) rfl) (heeds_optional heeds_packageStatuses) rfl)
    (heeds_list heeds_connectionStatus) rfl) (by decide)

end Codec

end ManagedAgent.Wire
