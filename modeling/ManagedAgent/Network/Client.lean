import ManagedAgent.Network
import ManagedAgent.Settings

/-!
# The agent's end of the network

A `Client` dials the endpoint of its settings. It has at most one open link; a new one takes the
place of the old one only once it is open. What has to wait for the other side is `none`, and has
no effect.
-/

set_option autoImplicit false

namespace ManagedAgent.Network

structure Client where
  /-- What the next connection is opened with. -/
  settings : ConnectionSettings := {}
  retryInterval : Duration := StartSettings.defaultInterval
  /-- The open connection. -/
  link : Option Nat := none
  deriving DecidableEq, Inhabited

namespace Client

def configure (c : Client) (s : StartSettings) : Except TransportError Client :=
  if s.serverUrl = "" then .error (.invalidEndpoint "empty endpoint")
  else
    .ok { c with
      settings := s.connection
      retryInterval := s.pollingInterval.getD c.retryInterval }

/-- Use other settings from the next connection on; without an endpoint the endpoint stays. The
answer is the settings before. -/
def apply (c : Client) (s : ConnectionSettings) : ConnectionSettings × Client :=
  let next := if s.endpoint = "" then { s with endpoint := c.settings.endpoint } else s
  (c.settings, { c with settings := next })

/-- The agent's end of the link is gone. -/
def hangUp (c : Client) (n : Network) : Network :=
  match c.link with
  | some id => n.modify id Connection.dropAgent
  | none => n

def connect (c : Client) (cancelled : Bool) (n : Network) :
    Except TransportError (Client × Network) :=
  if cancelled then .error .cancelled
  else
    match n.dial c.settings with
    | .error e => .error (.connect e.message)
    | .ok (id, n) => .ok ({ c with link := some id }, c.hangUp n)

def disconnect (c : Client) (n : Network) : Client × Network :=
  ({ c with link := none }, c.hangUp n)

def linked? (c : Client) (n : Network) : Option (Nat × Connection) := do
  let id ← c.link
  let connection ← n.connections[id]?
  some (id, connection)

def send (c : Client) (cancelled : Bool) (r : Report) (n : Network) :
    Option (Except TransportError Network) :=
  match c.linked? n with
  | none => some (.error .closed)
  | some (id, connection) =>
    if cancelled then some (.error .cancelled)
    else if !connection.serverOpen then some (.error .closed)
    else if capacity ≤ connection.reports.length then none
    else some (.ok (n.modify id fun c => { c with reports := c.reports ++ [r] }))

/-- Receive an instruction on the link; none when no more can come. -/
def receive (c : Client) (n : Network) :
    Option (Except TransportError (Option Instruction × Network)) :=
  match c.linked? n with
  | none => some (.error .closed)
  | some (id, connection) =>
    match connection.instructions with
    | i :: rest => some (.ok (some i, n.modify id fun c => { c with instructions := rest }))
    | [] => if connection.serverOpen then none else some (.ok (none, n))

end Client

end ManagedAgent.Network
