import ManagedAgent.Session.Gate
import ManagedAgent.Session.Stage
import ManagedAgent.Session.Transport
import ManagedAgent.Slot
import ManagedAgent.State

/-!
# A session

A `Session` is everything that a started agent has: its transport, its state, the exchange loop, the
tasks that the server's instructions have started, and the time. It goes on by one actor at a time,
each up to the next thing it has to wait for; what concerns others is added to `history`.

On several threads the actors go on beside each other, and the operations of one step on the state,
the slots, the gate and the phase, each behind a lock of its own, may have those of another actor
between them. That a step is not interrupted is thus an assumption. Where what comes between can be
told, the step is taken apart: a change and the wake-up for it in `Session.Moment`, the phase and the
call about it in `Threads`, a handler and the recording of its answer in `Supervision`.

This module has the steps that all actors share.
-/

set_option autoImplicit false

namespace ManagedAgent

structure Session (τ : Type) where
  transport : τ
  state : State
  phase : Phase := .connecting
  /-- What is under way is to be given up. -/
  aborting : Bool := false
  /-- The time in ticks. -/
  now : Nat := 0
  loop : Loop := .fresh
  /-- The loop deals with these in their order. -/
  requests : List ReconnectRequest := []
  remoteConfig : Slot RemoteConfig := .idle
  offers : Table ConnectionKind (Slot ConnectionSettings) := {}
  /-- The agent's configuration is read by one at a time. -/
  gate : Gate Actor := {}
  tasks : Table Nat Task := {}
  nextTask : Nat := 0
  /-- What has happened, in its order. -/
  history : List Event := []
  deriving Inhabited

namespace Session
variable {τ : Type}

def emit (s : Session τ) (e : Event) : Session τ := { s with history := s.history ++ [e] }

def tell (s : Session τ) (n : Notice) : Session τ := s.emit (.told n)

def ready (s : Session τ) (a : Actor) : Session τ := s.emit (.ready a)

def call (s : Session τ) (a : Actor) (c : Call) : Session τ := s.emit (.called a c)

def isStopping (s : Session τ) : Bool := s.phase == .stopping || s.phase == .stopped

def isRunning (s : Session τ) : Bool := s.phase == .connecting || s.phase == .connected

/-- The loop waits for a wake-up and has none yet. -/
def isAsleep (s : Session τ) : Bool := s.state.wakeup.waiting && !s.state.wakeup.isSignalled

/-- Change the state. A wake-up that comes with the change gets the loop going. -/
def update (s : Session τ) (f : State → State) : Session τ :=
  let t := { s with state := f s.state }
  if s.isAsleep && t.state.wakeup.isSignalled then t.ready .loop else t

/-! ## Tasks -/

def setTask (s : Session τ) (id : Nat) (t : Task) : Session τ :=
  { s with tasks := s.tasks.insert id t }

def spawn (s : Session τ) (t : Task) : Session τ :=
  { s with tasks := s.tasks.insert s.nextTask t, nextTask := s.nextTask + 1 }.ready (.task s.nextTask)

def finish (s : Session τ) (id : Nat) : Session τ :=
  { s with tasks := s.tasks.erase id }.emit (.finished id)

/-- The loop has ended, and every task that a stop waits for. -/
def isDrained (s : Session τ) : Bool :=
  s.loop == .ended && s.tasks.entries.all fun t => !t.2.isTracked

/-! ## Reading the agent's configuration -/

def readyNext (s : Session τ) : Option Actor → Session τ
  | some a => s.ready a
  | none => s

/-- Ask the agent for its configuration, or wait for the turn to do so. The answer says which. -/
def enterGate (s : Session τ) (a : Actor) : Bool × Session τ :=
  let (isIn, gate) := s.gate.enter a
  let s := { s with gate }
  (isIn, if isIn then s.call a .effectiveConfig else s)

/-- The turn has come to ask the agent. -/
def hasTurn (s : Session τ) (a : Actor) : Bool := s.gate.holder == some a

def leaveGate (s : Session τ) (a : Actor) : Session τ :=
  let (next, gate) := s.gate.leave a
  { s with gate }.readyNext next

/-- Record the configuration that was read, if it was, and let the next one ask. The answer says
whether it is new. -/
def finishReading (s : Session τ) (a : Actor) (r : Except CallbackError EffectiveConfig) :
    Bool × Session τ :=
  match r with
  | .ok c =>
    let (changed, state) := s.state.setEffectiveConfig c
    (changed, { s with state }.leaveGate a)
  | .error _ => (false, s.leaveGate a)

/-! ## Reconnecting -/

/-- Ask the loop to reconnect. A loop that has ended does not answer. -/
def request (s : Session τ) (r : ReconnectRequest) : Session τ :=
  let s := { s with requests := s.requests ++ [r] }
  if s.loop.heedsRequests then s.ready .loop else s

/-- Answer the task that asked to reconnect. -/
def reply (s : Session τ) (task : Nat) (result : Except TransportError Unit) : Session τ :=
  match s.tasks.get? task with
  | some (.connection kind settings .requesting) =>
    (s.setTask task (.connection kind settings (.replied result))).ready (.task task)
  | _ => s

def applySettings [Transport τ] (s : Session τ) (settings : ConnectionSettings) :
    Except TransportError ConnectionSettings × Session τ :=
  let (result, transport) := Transport.apply s.transport settings
  (result, { s with transport }.emit (.applied settings))

/-! ## The phase -/

/-- The phase changes and the agent is told, in one step; in `Threads` they are two. -/
def markConnected (s : Session τ) : Session τ :=
  if s.phase = .connecting then { s with phase := .connected }.tell .connected else s

/-- An exchange failed, or the stream was lost. A busy server is no failure. -/
def markFailed (s : Session τ) (e : TransportError) : Session τ :=
  match e with
  | .unavailable _ => s
  | e =>
    let s := if s.phase = .connected then { s with phase := .connecting } else s
    s.tell (.connectFailed e)

end Session

end ManagedAgent
