import ManagedAgent.Message.Instruction
import ManagedAgent.Message.Report
import ManagedAgent.Settings
import ManagedAgent.Wire.Record
import ManagedAgent.Wire.Tagged

/-!
# The wire format of every message

Each type has its codec: the keys of its members, in the order in which they are written, what a
missing member stands for, and which members are left out. `decode` reads a whole text.
-/

set_option autoImplicit false

namespace ManagedAgent.Wire

namespace Codec

/-! ## Attributes -/

def attributeValueUnion : Union AttributeValue :=
  let string := Variant.holding "string" text .string fun | .string s => some s | _ => none
  let int := Variant.holding "int" int64 .int fun | .int i => some i | _ => none
  let double := Variant.holding "double" double .double fun | .double d => some d | _ => none
  let bool := Variant.holding "bool" bool .bool fun | .bool b => some b | _ => none
  let bytes := Variant.holding "bytes" bytes .bytes fun | .bytes b => some b | _ => none
  { tagKey := "type", contentKey := "value", variants := [string, int, double, bool, bytes]
    variantOf := fun
      | .string _ => string
      | .int _ => int
      | .double _ => double
      | .bool _ => bool
      | .bytes _ => bytes }

def attributeValue : Codec AttributeValue := attributeValueUnion.codec

def attributeEntry : Codec Attribute := record <|
  Record.of Attribute Attribute.mk
    |>.field (.required "key" (·.key) text.toCodec)
    |>.field (.required "value" (·.value) attributeValue)

def description : Codec Description := record <|
  Record.of Description Description.mk
    |>.field (.defaulted "identifying_attributes" (·.identifying) (list attributeEntry) [])
    |>.field (.defaulted "non_identifying_attributes" (·.nonIdentifying) (list attributeEntry) [])

/-! ## Configurations -/

def configFile : Codec ConfigFile := record <|
  Record.of ConfigFile ConfigFile.mk
    |>.field (.defaulted "body" (·.body) bytes.toCodec [])
    |>.field (.defaulted "content_type" (·.contentType) text.toCodec "")

def configMap : Codec ConfigMap := record <|
  Record.of ConfigMap ConfigMap.mk
    |>.field (.defaulted "config_map" (·.files) (map configFile) .empty)

def effectiveConfig : Codec EffectiveConfig := record <|
  Record.of EffectiveConfig EffectiveConfig.mk
    |>.field (.defaulted "config_map" (·.config) configMap {})
    |>.field (.defaulted "hash" (·.hash) bytes.toCodec [])

def remoteConfig : Codec RemoteConfig := record <|
  Record.of RemoteConfig RemoteConfig.mk
    |>.field (.defaulted "config" (·.config) configMap {})
    |>.field (.defaulted "config_hash" (·.hash) bytes.toCodec [])

def applyStateName : ApplyState → String
  | .unset => "unset"
  | .applied => "applied"
  | .applying => "applying"
  | .failed => "failed"

def applyState : FlexibleCodec ApplyState :=
  enumeration applyStateName [.unset, .applied, .applying, .failed]

def remoteConfigStatus : Codec RemoteConfigStatus := record <|
  Record.of RemoteConfigStatus RemoteConfigStatus.mk
    |>.field (.defaulted "last_remote_config_hash" (·.hash) bytes.toCodec [])
    |>.field (.defaulted "status" (·.state) applyState.toCodec .unset)
    |>.field (.sparse "error_message" (·.error) text.toCodec "")

def health : Codec Health := record <|
  Record.of Health Health.mk
    |>.field (.required "healthy" (·.healthy) bool.toCodec)
    |>.field (.defaulted "start_time_unix_nano" (·.startTime) uint64.toCodec 0)
    |>.field (.sparse "last_error" (·.lastError) text.toCodec "")
    |>.field (.sparse "status" (·.status) text.toCodec "")

/-! ## Connections -/

def certificate : Codec Certificate := record <|
  Record.of Certificate Certificate.mk
    |>.field (.defaulted "public_key" (·.publicKey) bytes.toCodec [])
    |>.field (.defaulted "private_key" (·.privateKey) bytes.toCodec [])
    |>.field (.defaulted "ca_public_key" (·.caPublicKey) bytes.toCodec [])

def connectionSettings : Codec ConnectionSettings := record <|
  Record.of ConnectionSettings ConnectionSettings.mk
    |>.field (.defaulted "destination_endpoint" (·.endpoint) text.toCodec "")
    |>.field (.sparse "headers" (·.headers) (map text.toCodec) .empty)
    |>.field (.optional "certificate" (·.certificate) certificate)

def connectionOffers : Codec ConnectionOffers := record <|
  Record.of ConnectionOffers ConnectionOffers.mk
    |>.field (.defaulted "hash" (·.hash) bytes.toCodec [])
    |>.field (.optional "opamp" (·.management) connectionSettings)
    |>.field (.optional "own_metrics" (·.metrics) connectionSettings)
    |>.field (.optional "own_traces" (·.traces) connectionSettings)
    |>.field (.optional "own_logs" (·.logs) connectionSettings)
    |>.field (.sparse "other_connections" (·.others) (map connectionSettings) .empty)

def telemetryName : Telemetry → String
  | .metrics => "metrics"
  | .traces => "traces"
  | .logs => "logs"

def telemetry : FlexibleCodec Telemetry := enumeration telemetryName [.metrics, .traces, .logs]

def connectionKindUnion : Union ConnectionKind :=
  let management := Variant.constant "opamp" .management
  let own := Variant.holding "own_telemetry" telemetry .telemetry fun
    | .telemetry t => some t
    | _ => none
  let other := Variant.holding "other" text .other fun | .other name => some name | _ => none
  { tagKey := "kind", contentKey := "name", variants := [management, own, other]
    variantOf := fun
      | .management => management
      | .telemetry _ => own
      | .other _ => other }

def connectionKind : Codec ConnectionKind := connectionKindUnion.codec

def verdictName : Verdict → String
  | .accepted => "accepted"
  | .rejected => "rejected"

def verdict : FlexibleCodec Verdict := enumeration verdictName [.accepted, .rejected]

def connectionStatus : Codec ConnectionStatus := record <|
  Record.of ConnectionStatus ConnectionStatus.mk
    |>.field (.required "kind" (·.kind) connectionKind)
    |>.field (.required "status" (·.verdict) verdict.toCodec)
    |>.field (.sparse "error_message" (·.error) text.toCodec "")

/-! ## Packages -/

def packageTypeName : PackageType → String
  | .topLevel => "top_level"
  | .addon => "addon"

def packageType : FlexibleCodec PackageType := enumeration packageTypeName [.topLevel, .addon]

def downloadableFile : Codec DownloadableFile := record <|
  Record.of DownloadableFile DownloadableFile.mk
    |>.field (.required "download_url" (·.url) text.toCodec)
    |>.field (.defaulted "content_hash" (·.contentHash) bytes.toCodec [])
    |>.field (.defaulted "signature" (·.signature) bytes.toCodec [])

def packageAvailable : Codec PackageAvailable := record <|
  Record.of PackageAvailable PackageAvailable.mk
    |>.field (.defaulted "package_type" (·.type) packageType.toCodec .topLevel)
    |>.field (.defaulted "version" (·.version) text.toCodec "")
    |>.field (.optional "file" (·.file) downloadableFile)
    |>.field (.defaulted "hash" (·.hash) bytes.toCodec [])

def packagesAvailable : Codec PackagesAvailable := record <|
  Record.of PackagesAvailable PackagesAvailable.mk
    |>.field (.defaulted "packages" (·.packages) (map packageAvailable) .empty)
    |>.field (.defaulted "all_packages_hash" (·.allHash) bytes.toCodec [])

def packageStateName : PackageState → String
  | .installPending => "install_pending"
  | .installing => "installing"
  | .installed => "installed"
  | .installFailed => "install_failed"

def packageState : FlexibleCodec PackageState :=
  enumeration packageStateName [.installPending, .installing, .installed, .installFailed]

def packageStatus : Codec PackageStatus := record <|
  Record.of PackageStatus PackageStatus.mk
    |>.field (.required "name" (·.name) text.toCodec)
    |>.field (.defaulted "agent_has_version" (·.agentVersion) text.toCodec "")
    |>.field (.defaulted "agent_has_hash" (·.agentHash) bytes.toCodec [])
    |>.field (.defaulted "server_offered_version" (·.offeredVersion) text.toCodec "")
    |>.field (.defaulted "server_offered_hash" (·.offeredHash) bytes.toCodec [])
    |>.field (.defaulted "status" (·.state) packageState.toCodec .installPending)
    |>.field (.sparse "error_message" (·.error) text.toCodec "")

def packageStatuses : Codec PackageStatuses := record <|
  Record.of PackageStatuses PackageStatuses.mk
    |>.field (.defaulted "packages" (·.packages) (map packageStatus) .empty)
    |>.field (.defaulted "server_provided_all_packages_hash" (·.allHash) bytes.toCodec [])
    |>.field (.sparse "error_message" (·.error) text.toCodec "")

/-! ## The server's instruction -/

def errorKindName : ErrorKind → String
  | .unknown => "unknown"
  | .badRequest => "bad_request"
  | .unavailable => "unavailable"

def errorKind : FlexibleCodec ErrorKind :=
  enumeration errorKindName [.unknown, .badRequest, .unavailable]

/-- The wait that the server asks for stands in an object of its own. -/
def retryInfo : Codec UInt64 := record <|
  Record.of UInt64 (id : UInt64 → UInt64)
    |>.field (.required "retry_after_nanoseconds" id uint64.toCodec)

def serverError : Codec ServerError := record <|
  Record.of ServerError ServerError.mk
    |>.field (.defaulted "error_type" (·.kind) errorKind.toCodec .unknown)
    |>.field (.defaulted "error_message" (·.message) text.toCodec "")
    |>.field (.optional "retry_info" (·.retryAfter) retryInfo)

def identification : Codec Identification := record <|
  Record.of Identification Identification.mk
    |>.field (.required "new_instance_uid" (·.instanceUid) text.toCodec)

def commandName : Command → String
  | .restart => "restart"

/-- A command stands in an object of its own. -/
def command : Codec Command := record <|
  Record.of Command (id : Command → Command)
    |>.field (.required "command_type" id (enumeration commandName [.restart]).toCodec)

def instruction : Codec Instruction := record <|
  Record.of Instruction Instruction.mk
    |>.field (.defaulted "instance_uid" (·.instanceUid) text.toCodec "")
    |>.field (.optional "error_response" (·.error) serverError)
    |>.field (.optional "remote_config" (·.remoteConfig) remoteConfig)
    |>.field (.optional "connection_settings" (·.connections) connectionOffers)
    |>.field (.optional "packages_available" (·.packages) packagesAvailable)
    |>.field (.sparse "report_full_state" (·.fullState) bool.toCodec false)
    |>.field (.optional "agent_identification" (·.identification) identification)
    |>.field (.optional "command" (·.command) command)

/-! ## The agent's report -/

def report : Codec Report := record <|
  Record.of Report Report.mk
    |>.field (.required "instance_uid" (·.instanceUid) text.toCodec)
    |>.field (.required "sequence_num" (·.sequenceNumber) uint64.toCodec)
    |>.field (.defaulted "capabilities" (·.capabilities) uint64.toCodec 0)
    |>.field (.optional "agent_description" (·.description) description)
    |>.field (.optional "health" (·.health) health)
    |>.field (.optional "effective_config" (·.effectiveConfig) effectiveConfig)
    |>.field (.optional "remote_config_status" (·.remoteConfigStatus) remoteConfigStatus)
    |>.field (.optional "package_statuses" (·.packageStatuses) packageStatuses)
    |>.field (.sparse "connection_statuses" (·.connectionStatuses) (list connectionStatus) [])

/-! ## Start settings -/

def tlsSettings : Codec TlsSettings := record <|
  Record.of TlsSettings TlsSettings.mk
    |>.field (.defaulted "ca_pem" (·.caPem) text.toCodec.optional none)
    |>.field (.defaulted "insecure_skip_verify" (·.insecureSkipVerify) bool.toCodec false)

/-- Seconds and nanoseconds, and no other member. Nanoseconds beyond one second are carried. -/
def duration : Codec Duration :=
  checkedRecord (β := UInt64 × UInt32) .refused
    (Record.of Duration Prod.mk
      |>.field (.required "secs" (·.secs) uint64.toCodec)
      |>.field (.required "nanos" (fun d => UInt32.ofNat d.nanos.val) uint32.toCodec))
    fun parts => Duration.normalize? parts.1 parts.2

def startSettings : Codec StartSettings := record <|
  Record.of StartSettings StartSettings.mk
    |>.field (.required "server_url" (·.serverUrl) text.toCodec)
    |>.field (.defaulted "enable_compression" (·.enableCompression) bool.toCodec false)
    |>.field (.defaulted "instance_uid" (·.instanceUid) text.toCodec.optional none)
    |>.field (.defaulted "agent_description" (·.description) description.optional none)
    |>.field (.defaulted "remote_config_status" (·.remoteConfigStatus)
        remoteConfigStatus.optional none)
    |>.field (.defaulted "last_packages_hash" (·.lastPackagesHash) bytes.toCodec.optional none)
    |>.field (.defaulted "headers" (·.headers) (map text.toCodec) .empty)
    |>.field (.defaulted "tls" (·.tls) tlsSettings {})
    |>.field (.defaulted "polling_interval" (·.pollingInterval) duration.optional none)

end Codec

/-! ## Whole texts -/

/-- Nothing but blanks is left. -/
def finished : Reader Unit := do
  match ← Reader.peekToken with
  | none => pure ()
  | some _ => Reader.fail .malformed

/-- The value of a whole text. -/
def Codec.decode {α : Type} (c : Codec α) (text : Bytes) : Except Failure α :=
  (do
    let a ← c.read 0
    finished
    return a : Reader α).run text |>.map (·.1)

end ManagedAgent.Wire
