import ManagedAgent.Message.Attribute
import ManagedAgent.NameMap

/-!
# Configurations: offered, in force, and how an offer went
-/

set_option autoImplicit false

namespace ManagedAgent

structure ConfigFile where
  body : Bytes := []
  contentType : String := ""
  deriving DecidableEq, Inhabited

/-- Configuration files by name. -/
structure ConfigMap where
  files : NameMap ConfigFile := .empty
  deriving DecidableEq, Inhabited

def ConfigMap.single (name contentType : String) (body : Bytes) : ConfigMap :=
  ⟨NameMap.empty.insert name ⟨body, contentType⟩⟩

/-- A configuration in force on the agent, with the hash that goes with it. -/
structure EffectiveConfig where
  config : ConfigMap := {}
  hash : Bytes := []
  deriving DecidableEq, Inhabited

/-- A configuration offered by the server. -/
structure RemoteConfig where
  config : ConfigMap := {}
  hash : Bytes := []
  deriving DecidableEq, Inhabited

/-- How far an offered configuration got. -/
inductive ApplyState where
  | unset
  | applied
  | applying
  | failed
  deriving DecidableEq, Inhabited

/-- What became of the offered configuration with this hash. -/
structure RemoteConfigStatus where
  hash : Bytes := []
  state : ApplyState := .unset
  error : String := ""
  deriving DecidableEq, Inhabited

structure Health where
  healthy : Bool := false
  startTime : UInt64 := 0
  lastError : String := ""
  status : String := ""
  deriving DecidableEq, Inhabited

end ManagedAgent
