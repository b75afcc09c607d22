import ManagedAgent.Decimal.Shortest
import ManagedAgent.Settings

/-!
# Settings as they are shown

Settings are shown on one line: of the headers only the names, since their values may be secret.
-/

set_option autoImplicit false

namespace ManagedAgent.Display

def list (items : List String) : String := "[" ++ ", ".intercalate items ++ "]"

/-- A record with named fields; an open one has fields that are not shown. -/
def record (name : String) (fields : List (String × String)) (isOpen : Bool) : String :=
  let shown := fields.map fun f => f.1 ++ ": " ++ f.2
  let shown := if isOpen then shown ++ [".."] else shown
  name ++ " \x7b " ++ ", ".intercalate shown ++ " \x7d"

def variant (name content : String) : String := name ++ "(" ++ content ++ ")"

def option {α : Type} (show' : α → String) : Option α → String
  | none => "None"
  | some a => variant "Some" (show' a)

def bool (b : Bool) : String := if b then "true" else "false"

def bytes (b : Bytes) : String := list (b.map fun x => toString x.toNat)

def attributeValue : AttributeValue → String
  | .string s => variant "String" (Text.quoted s)
  | .int i => variant "Int" (toString i.toInt)
  | .double d => variant "Double" (String.ofList (d.text .display))
  | .bool b => variant "Bool" (bool b)
  | .bytes b => variant "Bytes" (bytes b)

def attributes (as : List Attribute) : String :=
  list <| as.map fun a =>
    record "KeyValue" [("key", Text.quoted a.key), ("value", attributeValue a.value)] false

def description (d : Description) : String :=
  record "AgentDescription"
    [("identifying_attributes", attributes d.identifying),
     ("non_identifying_attributes", attributes d.nonIdentifying)] false

def applyState : ApplyState → String
  | .unset => "Unset"
  | .applied => "Applied"
  | .applying => "Applying"
  | .failed => "Failed"

def remoteConfigStatus (s : RemoteConfigStatus) : String :=
  record "RemoteConfigStatus"
    [("last_remote_config_hash", bytes s.hash), ("status", applyState s.state),
     ("error_message", Text.quoted s.error)] false

def tlsSettings (t : TlsSettings) : String :=
  record "TlsSettings"
    [("ca_pem", option Text.quoted t.caPem),
     ("insecure_skip_verify", bool t.insecureSkipVerify)] false

/-- Start settings, and whether the agent's handlers are set. -/
def startSettings (s : StartSettings) (hasHandlers : Bool) : String :=
  record "StartSettings"
    [("server_url", Text.quoted s.serverUrl),
     ("enable_compression", bool s.enableCompression),
     ("instance_uid", option Text.quoted s.instanceUid),
     ("agent_description", option description s.description),
     ("remote_config_status", option remoteConfigStatus s.remoteConfigStatus),
     ("headers", list (s.headers.keys.map Text.quoted)),
     ("tls", tlsSettings s.tls),
     ("polling_interval", option Duration.text s.pollingInterval),
     ("callbacks", bool hasHandlers)] true

end ManagedAgent.Display
