import ManagedAgent.Error
import ManagedAgent.Message.Digest
import ManagedAgent.Message.Instruction

/-!
# The agent's handlers

A session calls the agent for everything that only the agent can do. A `Call` takes its time and
ends with an `Answer`; a `Notice` is over at once and has no answer. Unless the agent says
otherwise, it accepts what it is offered and has an empty configuration.
-/

set_option autoImplicit false

namespace ManagedAgent

/-- What applying an offered configuration led to. -/
structure ApplyOutcome where
  /-- The configuration in force has changed. -/
  changed : Bool := false
  /-- The configuration now in force; the session derives its hash. -/
  effective : Option EffectiveConfig := none
  deriving DecidableEq, Inhabited

namespace ApplyOutcome

def unchanged : ApplyOutcome := {}

def changedTo (effective : EffectiveConfig) : ApplyOutcome := ⟨true, some effective⟩

end ApplyOutcome

inductive Call where
  | applyRemoteConfig (config : RemoteConfig)
  | saveStatus (status : RemoteConfigStatus)
  | effectiveConfig
  | useConnection (kind : ConnectionKind) (settings : ConnectionSettings)
  | syncPackages (packages : PackagesAvailable)
  | identify (uid : String)
  | runCommand (command : Command)
  deriving DecidableEq, Inhabited

/-- Something the agent is told. -/
inductive Notice where
  | connected
  | connectFailed (error : TransportError)
  | serverError (error : ServerError)
  | connectionAccepted (kind : ConnectionKind) (settings : ConnectionSettings)
  deriving DecidableEq, Inhabited

/-- How a call ended. -/
inductive Answer where
  | applied (outcome : Except CallbackError ApplyOutcome)
  | effective (config : Except CallbackError EffectiveConfig)
  | done (result : Except CallbackError Unit)
  deriving Inhabited

/-- The answer of an agent that goes along with everything. -/
def Call.agree : Call → Answer
  | .applyRemoteConfig _ => .applied (.ok .unchanged)
  | .effectiveConfig => .effective (.ok (.of {}))
  | _ => .done (.ok ())

def Call.fail (e : CallbackError) : Call → Answer
  | .applyRemoteConfig _ => .applied (.error e)
  | .effectiveConfig => .effective (.error e)
  | _ => .done (.error e)

end ManagedAgent
