import ManagedAgent.Message.Attribute
import ManagedAgent.NameMap

/-!
# Connections: settings, offers of settings, and the answers to offers

`ConnectionOffers.toList` lists the offers of one instruction, the management connection first.
-/

set_option autoImplicit false

namespace ManagedAgent

/-- Key material of a connection. An empty field is not set. -/
structure Certificate where
  publicKey : Bytes := []
  privateKey : Bytes := []
  caPublicKey : Bytes := []
  deriving DecidableEq, Inhabited

/-- Where and how to connect. -/
structure ConnectionSettings where
  endpoint : String := ""
  headers : NameMap String := .empty
  certificate : Option Certificate := none
  deriving DecidableEq, Inhabited

/-- The agent's own telemetry. -/
inductive Telemetry where
  | metrics
  | traces
  | logs
  deriving DecidableEq, Inhabited

/-- What a connection is for. -/
inductive ConnectionKind where
  | management
  | telemetry (t : Telemetry)
  | other (name : String)
  deriving DecidableEq, Inhabited

namespace ConnectionKind

def display : ConnectionKind → String
  | .management => "opamp"
  | .telemetry .metrics => "own_metrics"
  | .telemetry .traces => "own_traces"
  | .telemetry .logs => "own_logs"
  | .other name => "other:" ++ name

/-- The place of a kind among the kinds that are not told apart by a name. -/
def rank : ConnectionKind → Nat
  | .management => 0
  | .telemetry .metrics => 1
  | .telemetry .traces => 2
  | .telemetry .logs => 3
  | .other _ => 4

/-- The management connection comes first, then telemetry, then the others by name. -/
def le (a b : ConnectionKind) : Bool :=
  match a, b with
  | .other m, .other n => decide (m ≤ n)
  | _, _ => a.rank ≤ b.rank

end ConnectionKind

/-- Connection settings offered by the server. -/
structure ConnectionOffers where
  hash : Bytes := []
  management : Option ConnectionSettings := none
  metrics : Option ConnectionSettings := none
  traces : Option ConnectionSettings := none
  logs : Option ConnectionSettings := none
  others : NameMap ConnectionSettings := .empty
  deriving DecidableEq, Inhabited

/-- The offers one by one: the management connection, then telemetry, then the others by name. -/
def ConnectionOffers.toList (o : ConnectionOffers) : List (ConnectionKind × ConnectionSettings) :=
  o.management.toList.map (.management, ·)
    ++ o.metrics.toList.map (.telemetry .metrics, ·)
    ++ o.traces.toList.map (.telemetry .traces, ·)
    ++ o.logs.toList.map (.telemetry .logs, ·)
    ++ o.others.entries.map fun e => (.other e.1, e.2)

/-- How an offer ended. -/
inductive Verdict where
  | accepted
  | rejected
  deriving DecidableEq, Inhabited

/-- The agent's answer to one offer. -/
structure ConnectionStatus where
  kind : ConnectionKind
  verdict : Verdict
  error : String := ""
  deriving DecidableEq, Inhabited

end ManagedAgent
