import ManagedAgent.Message.Instruction
import ManagedAgent.Message.Report
import ManagedAgent.Table

/-!
# An in-process network

A `Network` has listeners and the connections that were ever dialed. One listener at a time is
registered under a name, and is the one that is dialed there; a server that holds another one, which
was registered before, still accepts what was dialed until then. A connection carries reports one way
and instructions the other; each way holds `capacity` messages. A listener gives its connections out
in the order in which they were dialed; accepted connections are numbered in the order in which they
were accepted.

What a server reads of a connection is what was sent on it, in order and once.
-/

set_option autoImplicit false

namespace ManagedAgent

/-- How many messages may wait in one direction. -/
def Network.capacity : Nat := 32

/-- A connection between an agent and a server. -/
structure Connection where
  /-- What the agent connected with. -/
  settings : ConnectionSettings
  /-- Sent by the agent and not read yet. -/
  reports : List Report := []
  /-- Sent by the server and not received yet. -/
  instructions : List Instruction := []
  agentOpen : Bool := true
  serverOpen : Bool := true
  deriving DecidableEq, Inhabited

namespace Connection

/-- The server's end is gone; reports that it did not read are lost. -/
def dropServer (c : Connection) : Connection := { c with reports := [], serverOpen := false }

/-- The agent's end is gone; instructions that it did not receive are lost. -/
def dropAgent (c : Connection) : Connection := { c with instructions := [], agentOpen := false }

end Connection

structure Listener where
  isOpen : Bool := true
  /-- The connections that were dialed and not accepted yet. -/
  dialed : List Nat := []
  deriving DecidableEq, Inhabited

structure Network where
  /-- All listeners, in the order in which they were opened. -/
  listeners : List Listener := []
  /-- The listener that is dialed under a name. -/
  registered : Table String Nat := {}
  /-- All connections, in the order in which they were dialed. -/
  connections : List Connection := []
  /-- The accepted ones, in the order in which they were accepted. -/
  accepted : List Nat := []
  deriving DecidableEq, Inhabited

namespace Network

def modify (n : Network) (id : Nat) (f : Connection → Connection) : Network :=
  { n with connections := n.connections.modify id f }

/-! ## Listeners -/

def register (n : Network) (name : String) : Network :=
  { n with
    listeners := n.listeners ++ [{}]
    registered := n.registered.insert name n.listeners.length }

/-- A listener is gone, and with it the connections that wait there. The name stays known. -/
def dropListener (n : Network) (k : Nat) : Network :=
  match n.listeners[k]? with
  | some l =>
    let n := l.dialed.foldl (fun n id => n.modify id Connection.dropServer) n
    { n with listeners := n.listeners.set k { isOpen := false } }
  | none => n

/-- The listener that is registered under a name, with its place. -/
def listener? (n : Network) (name : String) : Option (Nat × Listener) := do
  let k ← n.registered.get? name
  let l ← n.listeners[k]?
  some (k, l)

def listen (n : Network) (name : String) : Network :=
  match n.listener? name with
  | some (k, _) => (n.dropListener k).register name
  | none => n.register name

/-- Stop to listen; the name stays known. The answer says whether a listener was open. -/
def closeListener (n : Network) (name : String) : Bool × Network :=
  match n.listener? name with
  | some (k, l) => if l.isOpen then (true, n.dropListener k) else (false, n)
  | none => (false, n)

/-! ## The agent's side -/

/-- Why a call did not get through. -/
inductive Refusal where
  | unknown (name : String)
  | closed (name : String)
  deriving DecidableEq, Inhabited

def Refusal.message : Refusal → String
  | .unknown name => "no listener at " ++ name
  | .closed name => "listener at " ++ name ++ " is closed"

/-- Open a connection to the endpoint of `settings`; the answer is its number. -/
def dial (n : Network) (settings : ConnectionSettings) : Except Refusal (Nat × Network) :=
  let name := settings.endpoint
  match n.listener? name with
  | none => .error (.unknown name)
  | some (k, l) =>
    if l.isOpen then
      let id := n.connections.length
      .ok (id, { n with
        connections := n.connections ++ [{ settings }]
        listeners := n.listeners.set k { l with dialed := l.dialed ++ [id] } })
    else .error (.closed name)

/-! ## The server's side -/

/-- What a server that wants to accept gets. -/
inductive Acceptance where
  | noListener
  | nobody
  | accepted (number : Nat) (settings : ConnectionSettings)
  deriving DecidableEq, Inhabited

def settingsOf (n : Network) (id : Nat) : ConnectionSettings :=
  (n.connections[id]?.map (·.settings)).getD {}

/-- Accept the connection that was dialed first of those that wait at a listener. -/
def acceptAt (n : Network) (k : Nat) : Acceptance × Network :=
  match n.listeners[k]? with
  | none => (.noListener, n)
  | some l =>
    if !l.isOpen then (.noListener, n)
    else
      match l.dialed with
      | [] => (.nobody, n)
      | id :: dialed =>
        (.accepted n.accepted.length (n.settingsOf id),
          { n with
            accepted := n.accepted ++ [id]
            listeners := n.listeners.set k { l with dialed } })

/-- Accept a connection at the listener that is registered under a name. -/
def accept (n : Network) (name : String) : Acceptance × Network :=
  match n.listener? name with
  | none => (.noListener, n)
  | some (k, _) => n.acceptAt k

/-- The accepted connection of this number, with its place, unless the server dropped it. -/
def served? (n : Network) (number : Nat) : Option (Nat × Connection) := do
  let id ← n.accepted[number]?
  let c ← n.connections[id]?
  if c.serverOpen then some (id, c) else none

/-- Read the report that waits first. -/
def readNext (n : Network) (number : Nat) : Option Report × Network :=
  match n.served? number with
  | none => (none, n)
  | some (id, c) =>
    match c.reports with
    | r :: rest => (some r, n.modify id fun c => { c with reports := rest })
    | [] => (none, n)

/-- Read all reports that wait. The answer says besides whether no more can come; there is none for
an unknown connection. -/
def read (n : Network) (number : Nat) : Option (List Report × Bool) × Network :=
  match n.served? number with
  | none => (none, n)
  | some (id, c) => (some (c.reports, !c.agentOpen), n.modify id fun c => { c with reports := [] })

/-- What became of an instruction. -/
inductive Sending where
  | noConnection
  | closed
  /-- The instruction has to wait for room, and was not sent. -/
  | full
  | sent
  deriving DecidableEq, Inhabited

def serverSend (n : Network) (number : Nat) (i : Instruction) : Sending × Network :=
  match n.served? number with
  | none => (.noConnection, n)
  | some (id, c) =>
    if !c.agentOpen then (.closed, n)
    else if capacity ≤ c.instructions.length then (.full, n)
    else (.sent, n.modify id fun c => { c with instructions := c.instructions ++ [i] })

/-- Drop an accepted connection. The answer says whether it was there. -/
def dropConnection (n : Network) (number : Nat) : Bool × Network :=
  match n.served? number with
  | none => (false, n)
  | some (id, _) => (true, n.modify id Connection.dropServer)

end Network

end ManagedAgent
