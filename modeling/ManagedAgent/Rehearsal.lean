import ManagedAgent.Engine
import ManagedAgent.Rehearsal.Agent
import ManagedAgent.Rehearsal.Transport

/-!
# A rehearsal of a session

A `Rehearsal` runs an engine with an agent and a server that follow scripts, on a clock that stands
still until it is told to go on. It notes everything that a session does to others.

What a session waits for is an `Operation`. Who can go on is queued up; one at a time goes on, as
far as it gets.
-/

set_option autoImplicit false

namespace ManagedAgent

/-- How a server answers an exchange. -/
structure Reply where
  delay : Nat := 0
  result : Except TransportError (Option Instruction) := .ok none
  deriving Inhabited

/-- Something of note that a session does. -/
inductive Occurrence where
  | exchange (endpoint : String) (report : Report)
  | exchangeCancelled
  /-- A stream was opened, or not. -/
  | connect (endpoint : String) (isOpen : Bool)
  /-- The transport is asked to use other settings. -/
  | settings (settings : ConnectionSettings)
  | told (notice : Notice)
  | called (call : Call)
  | callCancelled (call : Call)
  | stopReturned (result : Except ClientError Unit) (phase : Phase)
  | refreshReturned (result : Except ClientError Unit)
  deriving Inhabited

/-- What an actor waits for. -/
inductive Work where
  | call (call : Call) (plan : Plan)
  /-- An exchange, with the answer at its time. -/
  | exchange (due : Nat) (result : Except TransportError (Option Instruction))
  | send (report : Report)
  | receive
  /-- Nothing: the actor can go on. -/
  | done (input : Input)
  deriving Inhabited

structure Operation where
  actor : Actor
  work : Work
  /-- The operation is given up once the session gives up what is under way. -/
  heedsAbort : Bool := false
  deriving Inhabited

structure StopCall where
  /-- What the call still has to do. One that has returned has nothing to do. -/
  role : Option StopRole := none
  /-- The caller's patience has run out. -/
  isCancelled : Bool := false
  /-- When the caller's patience runs out. -/
  cancelledAt : Option Nat := none
  deriving DecidableEq, Inhabited

/-- Who may go on. -/
inductive Runner where
  | actor (a : Actor)
  /-- A call to stop, by its number. -/
  | stop (n : Nat)
  /-- The one who cancels a call to stop. -/
  | timer (n : Nat)
  deriving DecidableEq, Inhabited

structure Rehearsal where
  engine : Engine Rehearsed
  /-- There may be no agent at all. -/
  agent : Option Agent
  /-- The answers of each endpoint; those of `*` are for all others. -/
  replies : Table String (Script Reply) := {}
  network : Network := {}
  /-- The time in ticks. -/
  now : Nat := 0
  /-- In the order in which they began. -/
  operations : List Operation := []
  /-- Who can go on, in order. -/
  queue : List Runner := []
  /-- Who is going on. -/
  active : Option Actor := none
  stops : List StopCall := []
  /-- The tasks that read the agent's configuration on demand, and whether that was cancelled. -/
  refreshes : Table Nat Bool := {}
  /-- The hash of the offer that each call about packages was for. -/
  offers : List Bytes := []
  /-- How much of what has happened in the session was dealt with. -/
  seen : Nat := 0
  /-- What was noted, with its time. -/
  notes : List (Nat × Occurrence) := []

namespace Rehearsal

def note (r : Rehearsal) (o : Occurrence) : Rehearsal := { r with notes := r.notes ++ [(r.now, o)] }

/-- Queue up, unless one is in the queue already. -/
def enqueue (r : Rehearsal) (x : Runner) : Rehearsal :=
  if r.queue.contains x then r else { r with queue := r.queue ++ [x] }

def session? (r : Rehearsal) : Option (Session Rehearsed) := r.engine.session?

/-- The session gives up what is under way. -/
def isAborting (r : Rehearsal) : Bool := r.session?.any (·.aborting)

/-! ## Operations -/

def operation? (r : Rehearsal) (a : Actor) : Option Operation :=
  r.operations.find? (·.actor = a)

/-- An actor waits no longer. -/
def drop (r : Rehearsal) (a : Actor) : Rehearsal :=
  { r with operations := r.operations.filter (·.actor ≠ a) }

def await (r : Rehearsal) (o : Operation) : Rehearsal :=
  let r := r.drop o.actor
  { r with operations := r.operations ++ [o] }

def transport? (r : Rehearsal) : Option Rehearsed := r.session?.map (·.transport)

def setTransport (r : Rehearsal) (t : Rehearsed) : Rehearsal :=
  { r with engine := r.engine.modify fun s => { s with transport := t } }

def endpoint (r : Rehearsal) : String :=
  match r.transport?.map Rehearsed.channel with
  | some (.polling settings _) => settings.endpoint
  | some (.streaming client) => client.settings.endpoint
  | _ => ""

/-! ## Calls of the agent -/

/-- Whether a call is to be cancelled, and whether it can still be. Commands are never cancelled;
reading on demand has a signal of its own, all else goes with the session. -/
def signal (r : Rehearsal) (a : Actor) (c : Call) : Bool × Bool :=
  match c, a with
  | .runCommand _, _ => (false, false)
  | _, .task id =>
    match r.refreshes.get? id with
    | some isCancelled => (isCancelled, false)
    | none => (r.isAborting, true)
  | _, .loop => (r.isAborting, true)

/-- Note a call of an agent that is of interest. -/
def noteCall (r : Rehearsal) (c : Call) : Rehearsal :=
  let r := r.note (.called c)
  match c with
  | .syncPackages p => { r with offers := r.offers ++ [p.allHash] }
  | _ => r

def cancelCall (r : Rehearsal) (a : Actor) (c : Call) : Rehearsal :=
  (r.note (.callCancelled c)).await ⟨a, .done (.answered (c.fail .cancelled)), false⟩

def beginCall (r : Rehearsal) (a : Actor) (c : Call) : Rehearsal :=
  match r.agent with
  | none => r
  | some agent =>
    let r := if agent.isScripted then r.noteCall c else r
    let (plan, agent) := agent.plan r.now c
    let r := { r with agent := some agent }
    let (isCancelled, canBeCancelled) := r.signal a c
    if isCancelled && !plan.ignoresCancel then r.cancelCall a c
    else r.await ⟨a, .call c plan, canBeCancelled && !plan.ignoresCancel⟩

/-! ## Exchanges -/

/-- The answer of an endpoint. Without a script it answers nothing at once. -/
def nextReply (r : Rehearsal) (endpoint : String) : Reply × Rehearsal :=
  let take (name : String) (s : Script Reply) : Reply × Rehearsal :=
    let (reply, rest) := s.next
    (reply.getD {}, { r with replies := r.replies.insert name rest })
  match r.replies.get? endpoint, r.replies.get? "*" with
  | some s, _ => take endpoint s
  | none, some s => take "*" s
  | none, none => ({}, r)

def beginExchange (r : Rehearsal) (report : Report) : Rehearsal :=
  match r.transport?.map Rehearsed.channel with
  | some (.polling settings _) =>
    let r := r.note (.exchange settings.endpoint report)
    let (reply, r) := r.nextReply settings.endpoint
    r.await ⟨.loop, .exchange (r.now + reply.delay) reply.result, true⟩
  | _ => r

/-! ## The stream -/

/-- Open a stream, unless that is to fail. -/
def connect (r : Rehearsal) (t : Rehearsed) : Except TransportError Unit × Rehearsal :=
  match t.faults.connect.fault with
  | (some e, rest) => (.error e, r.setTransport { t with faults.connect := rest })
  | (none, rest) =>
    let t := { t with faults.connect := rest }
    match t.channel.client? with
    | none => (.error .closed, r.setTransport t)
    | some client =>
      match client.connect r.isAborting r.network with
      | .error e => (.error e, r.setTransport t)
      | .ok (client, network) =>
        (.ok (), { r with network }.setTransport { t with channel := .streaming client })

def beginConnect (r : Rehearsal) : Rehearsal :=
  match r.transport? with
  | none => r
  | some t =>
    let (result, r) := r.connect t
    (r.note (.connect r.endpoint result.isOk)).await ⟨.loop, .done (.connected result), false⟩

def beginSend (r : Rehearsal) (report : Report) : Rehearsal :=
  match r.transport? with
  | none => r
  | some t =>
    let (e, rest) := t.faults.send.fault
    let r := r.setTransport { t with faults.send := rest }
    match e with
    | some e => r.await ⟨.loop, .done (.sent (.error e)), false⟩
    | none => r.await ⟨.loop, .send report, true⟩

def beginReceive (r : Rehearsal) : Rehearsal :=
  match r.transport? with
  | none => r
  | some t =>
    let (e, rest) := t.faults.receive.fault
    let r := r.setTransport { t with faults.receive := rest }
    match e with
    | some e => r.await ⟨.loop, .done (.received (.error e)), false⟩
    | none => r.await ⟨.loop, .receive, false⟩

/-! ## Events -/

/-- Let all calls to stop with this role go on. -/
def wakeStops (r : Rehearsal) (role : StopRole) : Rehearsal :=
  r.stops.zipIdx.foldl (fun r (s, n) => if s.role = some role then r.enqueue (.stop n) else r) r

def observe (r : Rehearsal) : Event → Rehearsal
  | .told n => if r.agent.any Agent.isScripted then r.note (.told n) else r
  | .called a c => r.beginCall a c
  | .exchanging report => r.beginExchange report
  | .connecting => r.beginConnect
  | .sending report => r.beginSend report
  | .receiving => r.beginReceive
  | .applied settings => r.note (.settings settings)
  | .routing _ => r
  | .ready a => r.enqueue (.actor a)
  | .refreshed _ result => r.note (.refreshReturned result)
  | .finished id =>
    let r := r.drop (.task id)
    if r.engine.isDrained then r.wakeStops .drain else r
  | .loopEnded => (r.drop .loop).wakeStops .drain

/-- Deal with what the session has done meanwhile. -/
def absorb (r : Rehearsal) : Rehearsal :=
  match r.engine with
  | .idle _ => r
  | .started s => (s.history.drop r.seen).foldl observe { r with seen := s.history.length }

def onSession (r : Rehearsal) (f : Session Rehearsed → Session Rehearsed) : Rehearsal :=
  { r with engine := r.engine.modify f }.absorb

def feed (r : Rehearsal) (a : Actor) (input : Input) : Rehearsal := r.onSession (·.run a input)

end Rehearsal

end ManagedAgent
