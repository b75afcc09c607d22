import ManagedAgent.Rehearsal

/-!
# Running a rehearsal

`settle` lets everyone go on until all wait; `advance` moves the clock from one moment at which
somebody can go on to the next. Whatever is done to the engine is followed by `settle`.
-/

set_option autoImplicit false

namespace ManagedAgent.Rehearsal

/-! ## Operations -/

/-- An operation has ended: its actor goes on with the result. -/
def complete (r : Rehearsal) (a : Actor) (input : Input) : Rehearsal := (r.drop a).feed a input

def reportFor (r : Rehearsal) (c : Call) (report : Option Session.SyncReport) : Rehearsal :=
  match c, report with
  | .syncPackages p, some report => r.onSession (·.reportSync p.allHash report)
  | _, _ => r

/-- A call goes on at its next moment. From the first on, it is not cancelled any more. -/
def continueCall (r : Rehearsal) (a : Actor) (c : Call) (plan : Plan) : Option Rehearsal :=
  match plan.moments with
  | [] => some (r.complete a (.answered plan.answer))
  | (time, report) :: rest =>
    if time ≤ r.now then
      some ((r.await ⟨a, .call c { plan with moments := rest }, false⟩).reportFor c report)
    else none

def trySend (r : Rehearsal) (a : Actor) (report : Report) : Option Rehearsal := do
  let t ← r.transport?
  let client ← t.channel.client?
  match ← client.send r.isAborting report r.network with
  | .error e => some (r.complete a (.sent (.error e)))
  | .ok network => some ({ r with network }.complete a (.sent (.ok ())))

def tryReceive (r : Rehearsal) (a : Actor) : Option Rehearsal := do
  let t ← r.transport?
  let client ← t.channel.client?
  match ← client.receive r.network with
  | .error e => some (r.complete a (.received (.error e)))
  | .ok (i, network) => some ({ r with network }.complete a (.received (.ok i)))

/-- Go on with what an actor waits for, if it is there. -/
def progress? (r : Rehearsal) (a : Actor) : Option Rehearsal := do
  let o ← r.operation? a
  let isGivenUp := o.heedsAbort && r.isAborting
  match o.work with
  | .call c plan => if isGivenUp then some (r.cancelCall a c) else r.continueCall a c plan
  | .exchange due result =>
    if isGivenUp then
      some ((r.note .exchangeCancelled).complete a (.exchanged (.error .cancelled)))
    else if due ≤ r.now then some (r.complete a (.exchanged result))
    else none
  | .send report => r.trySend a report
  | .receive => r.tryReceive a
  | .done input => some (r.complete a input)

/-! ## Stopping -/

/-- A call to stop has changed the engine: let those who heed that go on. What is under way heeds
that it is given up, and other calls to stop that the session is stopped. -/
def setStopped (r : Rehearsal) (engine : Engine Rehearsed) : Rehearsal :=
  let wasAborting := r.isAborting
  let wasStopped := decide (r.engine.phase = .stopped)
  let r := { r with engine }
  let r :=
    if !wasAborting && r.isAborting then
      r.operations.foldl (fun r o => if o.heedsAbort then r.enqueue (.actor o.actor) else r) r
    else r
  if !wasStopped && r.engine.phase = .stopped then r.wakeStops .wait else r

def returnStop (r : Rehearsal) (n : Nat) (result : Except ClientError Unit) : Rehearsal :=
  { r with stops := r.stops.modify n fun s => { s with role := none } }.note
    (.stopReturned result r.engine.phase)

def continueStop (r : Rehearsal) (n : Nat) : Rehearsal :=
  match r.stops[n]? with
  | some ⟨some role, isCancelled, _⟩ =>
    match r.engine.continueStop isCancelled role with
    | (none, _) => r
    | (some result, engine) => (r.setStopped engine).returnStop n result
  | _ => r

/-- The caller's patience runs out when its time has come. -/
def runTimer (r : Rehearsal) (n : Nat) : Rehearsal :=
  match r.stops[n]?.bind (·.cancelledAt) with
  | none => r
  | some due =>
    if due ≤ r.now then
      { r with stops := r.stops.modify n fun s => { s with isCancelled := true } }.enqueue (.stop n)
    else r

/-! ## Going on -/

def run (r : Rehearsal) : Runner → Rehearsal
  | .actor a => { r.feed a .look with active := some a }
  | .stop n => r.continueStop n
  | .timer n => r.runTimer n

/-- One actor goes on as far as it gets, then the first in the queue. -/
def settleFor : (fuel : Nat) → Rehearsal → Rehearsal
  | 0, r => r
  | fuel + 1, r =>
    match r.active with
    | some a =>
      match r.progress? a with
      | some r => settleFor fuel r
      | none => settleFor fuel { r with active := none }
    | none =>
      match r.queue with
      | [] => r
      | x :: rest => settleFor fuel ({ r with queue := rest }.run x)

/-- How many steps may be taken at one moment. -/
def patience : Nat := 1000000

/-- Everyone goes on until all wait. -/
def settle (r : Rehearsal) : Rehearsal := settleFor patience r

/-! ## The clock -/

/-- When an operation goes on by itself. -/
def due? (o : Operation) : Option Nat :=
  match o.work with
  | .call _ plan => plan.moments.head?.map (·.1)
  | .exchange due _ => some due
  | _ => none

/-- Who goes on by himself, and when. -/
def deadlines (r : Rehearsal) : List (Nat × Runner) :=
  let loop := (r.session?.bind (·.loop.deadline?)).toList.map fun t => (t, Runner.actor .loop)
  let operations := r.operations.filterMap fun o => (due? o).map fun t => (t, Runner.actor o.actor)
  let timers := r.stops.zipIdx.filterMap fun (s, n) => s.cancelledAt.map fun t => (t, Runner.timer n)
  loop ++ operations ++ timers

/-- The next moment up to `target` at which somebody goes on. -/
def nextMoment? (r : Rehearsal) (target : Nat) : Option Nat :=
  ((r.deadlines.map (·.1)).filter fun t => r.now < t && t ≤ target).min?

def setTime (r : Rehearsal) (now : Nat) : Rehearsal := { r with now }.onSession (·.setTime now)

/-- Let those go on whose time has come. -/
def wakeDue (r : Rehearsal) : Rehearsal :=
  r.deadlines.foldl (fun r (t, x) => if t = r.now then r.enqueue x else r) r

/-- Each moment is later than the one before, so that there are no more of them than ticks. -/
def advanceFor (target : Nat) : (ticks : Nat) → Rehearsal → Rehearsal
  | 0, r => r.setTime target
  | ticks + 1, r =>
    match r.nextMoment? target with
    | some t => advanceFor target ticks (r.setTime t).wakeDue.settle
    | none => r.setTime target

def advance (r : Rehearsal) (ticks : Nat) : Rehearsal := advanceFor (r.now + ticks) ticks r

/-! ## What is done to the engine -/

/-- Start a session. `fresh` is the identity of an agent that has none. -/
def start (r : Rehearsal) (settings : StartSettings) (fresh : String) (hasHandlers canSpawn : Bool) :
    Except ClientError Unit × Rehearsal :=
  let (result, engine) := r.engine.start settings fresh (hasHandlers && r.agent.isSome) canSpawn
  (result, ({ r with engine }.setTime r.now).settle)

def setHealth (r : Rehearsal) (h : Health) : Except ClientError Unit × Rehearsal :=
  let (result, engine) := r.engine.setHealth h
  (result, { r with engine }.absorb.settle)

def setDescription (r : Rehearsal) (d : Description) : Except ClientError Unit × Rehearsal :=
  let (result, engine) := r.engine.setDescription d
  (result, { r with engine }.absorb.settle)

def setInterval (r : Rehearsal) (d : Duration) : Rehearsal :=
  { r with engine := r.engine.setInterval d }

/-- Read the agent's configuration again, in a task that can only be cancelled from the start. -/
def refresh (r : Rehearsal) (isCancelled : Bool) : Rehearsal :=
  match r.session? with
  | some s =>
    if s.isRunning then
      let (id, s) := s.beginRefresh
      let r := { r with engine := .started s, refreshes := r.refreshes.insert id isCancelled }
      (r.run (.actor (.task id))).settle
    else r.note (.refreshReturned (.error .notStarted))
  | none => r.note (.refreshReturned (.error .notStarted))

/-- Call stop; the caller's patience has run out already, or will after so many ticks, or never. -/
def stop (r : Rehearsal) (isCancelled : Bool) (cancelAfter : Option Nat) : Rehearsal :=
  let n := r.stops.length
  let (role, engine) := r.engine.beginStop
  let call : StopCall :=
    { role := some role, isCancelled := isCancelled, cancelledAt := cancelAfter.map (r.now + ·) }
  let r := { r with stops := r.stops ++ [call] }
  let r := if cancelAfter.isSome then r.enqueue (.timer n) else r
  ({ r with engine }.absorb.continueStop n).settle

/-- Report about the packages of the call of this number. The answer says whether there was one. -/
def reportSync (r : Rehearsal) (number : Nat) (report : Session.SyncReport) : Bool × Rehearsal :=
  match r.offers[number]? with
  | some hash => (true, (r.onSession (·.reportSync hash report)).settle)
  | none => (false, r)

/-- The server's side has changed the network. -/
def setNetwork (r : Rehearsal) (network : Network) : Rehearsal :=
  let r := { r with network }
  (if (r.progress? .loop).isSome then r.enqueue (.actor .loop) else r).settle

end ManagedAgent.Rehearsal
