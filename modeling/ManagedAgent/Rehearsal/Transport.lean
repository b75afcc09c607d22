import ManagedAgent.Rehearsal.Script
import ManagedAgent.Session.Transport

/-!
# Transports for a rehearsal

A `Rehearsed` transport is set up like any other, but each of its operations may be made to fail by
a script. The exchanges of a polling one are answered by a script as well; a streaming one is a
client of an in-process network.
-/

set_option autoImplicit false

namespace ManagedAgent

/-- When an operation fails, and how: an entry without an error is a time when it is tried. -/
abbrev FaultScript : Type := Script (Option TransportError)

/-- The failures of each operation of a transport. -/
structure Faults where
  configure : FaultScript := {}
  apply : FaultScript := {}
  connect : FaultScript := {}
  send : FaultScript := {}
  receive : FaultScript := {}
  deriving Inhabited

/-- The next failure, if the operation fails this time. -/
def FaultScript.fault (s : FaultScript) : Option TransportError × FaultScript :=
  let (e, s) := Script.next s
  (e.join, s)

/-- What the transport is made of. -/
inductive Channel where
  | polling (settings : ConnectionSettings) (interval : Duration)
  | streaming (client : Network.Client)
  | http (sender : Http.Sender)

structure Rehearsed where
  channel : Channel
  faults : Faults := {}

namespace Channel

def mode : Channel → TransportMode
  | .polling .. => .polling
  | .streaming c => Transport.mode c
  | .http s => Transport.mode s

def configure (c : Channel) (s : StartSettings) : Except TransportError Unit × Channel :=
  match c with
  | .polling .. => (.ok (), .polling s.connection (s.pollingInterval.getD StartSettings.defaultInterval))
  | .streaming c => (Transport.configure c s).map id .streaming
  | .http sender => (Transport.configure sender s).map id .http

def apply (c : Channel) (s : ConnectionSettings) :
    Except TransportError ConnectionSettings × Channel :=
  match c with
  | .polling old interval => (.ok old, .polling s interval)
  | .streaming c => (Transport.apply c s).map id .streaming
  | .http sender => (Transport.apply sender s).map id .http

def interval : Channel → Duration
  | .polling _ interval => interval
  | .streaming c => Transport.interval c
  | .http s => Transport.interval s

def setInterval (c : Channel) (d : Duration) : Channel :=
  match c with
  | .polling s _ => .polling s d
  | .streaming c => .streaming (Transport.setInterval c d)
  | .http s => .http (Transport.setInterval s d)

/-- The client of the network, if the transport is one. -/
def client? : Channel → Option Network.Client
  | .streaming c => some c
  | _ => none

end Channel

instance : Transport Rehearsed where
  mode r := r.channel.mode
  configure r s :=
    match r.faults.configure.fault with
    | (some e, rest) => (.error e, { r with faults.configure := rest })
    | (none, rest) =>
      let (result, channel) := r.channel.configure s
      (result, { r with channel, faults.configure := rest })
  apply r s :=
    match r.faults.apply.fault with
    | (some e, rest) => (.error e, { r with faults.apply := rest })
    | (none, rest) =>
      let (result, channel) := r.channel.apply s
      (result, { r with channel, faults.apply := rest })
  interval r := r.channel.interval
  setInterval r d := { r with channel := r.channel.setInterval d }

end ManagedAgent
