import ManagedAgent.Duration
import ManagedAgent.Error
import ManagedAgent.Message.Config
import ManagedAgent.Message.Connection
import ManagedAgent.Text.Quoted

/-!
# What a session is started with

`StartSettings` says where the server is and what to resume from. The agent's handlers are given to
a session beside its settings.
-/

set_option autoImplicit false

namespace ManagedAgent

structure TlsSettings where
  /-- A further root certificate to trust. -/
  caPem : Option String := none
  insecureSkipVerify : Bool := false
  deriving DecidableEq, Inhabited

/-- Everything a session needs to start. -/
structure StartSettings where
  serverUrl : String
  enableCompression : Bool := false
  /-- The agent's identity; a fresh one is used when it is missing or empty. -/
  instanceUid : Option String := none
  description : Option Description := none
  /-- Saved by an earlier session. -/
  remoteConfigStatus : Option RemoteConfigStatus := none
  /-- The packages that an earlier session acknowledged last. -/
  lastPackagesHash : Option Bytes := none
  headers : NameMap String := .empty
  tls : TlsSettings := {}
  pollingInterval : Option Duration := none
  deriving DecidableEq, Inhabited

namespace StartSettings

def IsFinite (s : StartSettings) : Prop := ∀ d ∈ s.description, d.IsFinite

def doubles (s : StartSettings) : List Double := s.description.elim [] (·.doubles)

def mapDoubles (f : Double → Double) (s : StartSettings) : StartSettings :=
  { s with description := s.description.map (·.mapDoubles f) }

/-- The wait between exchanges when the settings name none. -/
def defaultInterval : Duration := .ofSecs 30

def connection (s : StartSettings) : ConnectionSettings :=
  { endpoint := s.serverUrl, headers := s.headers }

/-- The configured identity, or the fresh one. -/
def resolvedUid (s : StartSettings) (fresh : String) : String :=
  match s.instanceUid with
  | some uid => if uid = "" then fresh else uid
  | none => fresh

/-- A session cannot start without a server address and without handlers. -/
def validate (s : StartSettings) (hasHandlers : Bool) : Except ClientError Unit :=
  if Text.isBlank s.serverUrl then .error .missingServerAddress
  else if hasHandlers then .ok ()
  else .error .missingCallbacks

end StartSettings

end ManagedAgent
