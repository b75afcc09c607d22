import ManagedAgent.Message.Config
import ManagedAgent.Message.Connection
import ManagedAgent.Message.Package

/-!
# The agent's report
-/

set_option autoImplicit false

namespace ManagedAgent

/-- What the agent tells the server. A part that is `none` says nothing new. -/
structure Report where
  instanceUid : String
  sequenceNumber : UInt64
  capabilities : UInt64 := 0
  description : Option Description := none
  health : Option Health := none
  effectiveConfig : Option EffectiveConfig := none
  remoteConfigStatus : Option RemoteConfigStatus := none
  packageStatuses : Option PackageStatuses := none
  connectionStatuses : List ConnectionStatus := []
  deriving DecidableEq, Inhabited

namespace Report

def IsFinite (r : Report) : Prop := ∀ d ∈ r.description, d.IsFinite

def doubles (r : Report) : List Double := r.description.elim [] (·.doubles)

def mapDoubles (f : Double → Double) (r : Report) : Report :=
  { r with description := r.description.map (·.mapDoubles f) }

end Report

/-! ## Capabilities -/

namespace Capability

def reportsStatus : UInt64 := 0x1
def acceptsRemoteConfig : UInt64 := 0x2
def reportsEffectiveConfig : UInt64 := 0x4
def acceptsPackages : UInt64 := 0x8
def reportsPackageStatuses : UInt64 := 0x10
def acceptsManagementSettings : UInt64 := 0x100
def acceptsOtherSettings : UInt64 := 0x200
def acceptsRestartCommand : UInt64 := 0x400
def reportsHealth : UInt64 := 0x800

/-- Everything the agent can do; every report carries these bits. -/
def all : UInt64 :=
  reportsStatus ||| acceptsRemoteConfig ||| reportsEffectiveConfig ||| acceptsPackages
    ||| reportsPackageStatuses ||| acceptsManagementSettings ||| acceptsOtherSettings
    ||| acceptsRestartCommand ||| reportsHealth

end Capability

end ManagedAgent
