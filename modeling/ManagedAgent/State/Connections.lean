import ManagedAgent.Message.Connection
import ManagedAgent.Table

/-!
# Connections in use, and offers that are settled
-/

set_option autoImplicit false

namespace ManagedAgent

structure Connections where
  /-- The settings in use. -/
  current : Table ConnectionKind ConnectionSettings := {}
  /-- The last offer that was accepted or rejected. -/
  resolved : Table ConnectionKind ConnectionSettings := {}
  deriving DecidableEq, Inhabited

namespace Connections

def use (c : Connections) (kind : ConnectionKind) (s : ConnectionSettings) : Connections :=
  { c with current := c.current.insert kind s }

def resolve (c : Connections) (kind : ConnectionKind) (s : ConnectionSettings) : Connections :=
  { c with resolved := c.resolved.insert kind s }

/-- These settings are in use already, or were the last offer to be accepted or rejected. -/
def isSettled (c : Connections) (kind : ConnectionKind) (s : ConnectionSettings) : Bool :=
  c.current.get? kind == some s || c.resolved.get? kind == some s

/-- An offer without an endpoint keeps the endpoint in use. -/
def complete (c : Connections) (kind : ConnectionKind) (s : ConnectionSettings) :
    ConnectionSettings :=
  match c.current.get? kind with
  | some used => if s.endpoint = "" then { s with endpoint := used.endpoint } else s
  | none => s

end Connections

end ManagedAgent
