import ManagedAgent.Session.Dispatch

/-!
# The exchange loop

While it waits, the loop looks at four things, the first of them first: that stop is requested,
that a task asks it to reconnect, an urgent wake-up, and last the time or the stream. New settings
are kept if they prove themselves, and otherwise the previous ones are put back.
-/

set_option autoImplicit false

namespace ManagedAgent.Session
variable {τ : Type} [Transport τ]

/-- The loop is over; nobody answers requests any more. -/
def endLoop (s : Session τ) : Session τ :=
  let pending := s.requests
  let s := { s with loop := .ended, requests := [] }
  (pending.foldl (fun s r => s.reply r.task (.error .closed)) s).emit .loopEnded

def setWakeup (s : Session τ) (f : Wakeup → Wakeup) : Session τ :=
  { s with state := { s.state with wakeup := f s.state.wakeup } }

def nextReport (s : Session τ) : Report × Session τ :=
  let (report, state) := s.state.nextReport
  (report, { s with state })

/-! ## Polling -/

def poll (s : Session τ) : Session τ :=
  let (report, s) := s.nextReport
  { s with loop := .exchanging report.sequenceNumber }.emit (.exchanging report)

/-- Prove new settings with an exchange. -/
def verify (s : Session τ) (task : Nat) (previous : ConnectionSettings) (deadline : Nat) :
    Session τ :=
  let (report, s) := s.nextReport
  { s with loop := .verifying task previous report.sequenceNumber deadline }.emit (.exchanging report)

/-- Look for a wake-up, and then at the time. -/
def awaitPoll (s : Session τ) (deadline : Nat) : Session τ :=
  if s.state.wakeup.isSignalled then (s.setWakeup Wakeup.take).poll
  else if deadline ≤ s.now then (s.setWakeup Wakeup.leave).poll
  else { s with loop := .waiting deadline }.setWakeup Wakeup.wait

/-- Deal with requests before that. Settings that the transport refuses are answered at once. -/
def serveRequests (deadline : Nat) : List ReconnectRequest → Session τ → Session τ
  | [], s => s.awaitPoll deadline
  | r :: rest, s =>
    let s := { s with requests := rest }.setWakeup Wakeup.leave
    match s.applySettings r.settings with
    | (.error e, s) => serveRequests deadline rest (s.reply r.task (.error e))
    | (.ok previous, s) => s.verify r.task previous deadline

/-- Wait for the next exchange of the schedule, up to `deadline`. -/
def wait (s : Session τ) (deadline : Nat) : Session τ :=
  if s.isStopping then s.endLoop else serveRequests deadline s.requests s

/-- Wait as long as the interval says, or longer if the server asked for it. -/
def waitAtLeast (s : Session τ) (delay : Option Duration) : Session τ :=
  let interval := Transport.interval s.transport
  let length := match delay with
    | some d => d.max interval
    | none => interval
  s.wait (s.now + length.ticks)

/-! ## Streaming -/

/-- Open the stream. What to wait for before the next time is known by now. -/
def connect (s : Session τ) : Session τ :=
  if s.isStopping then s.endLoop
  else { s with loop := .connecting (Transport.interval s.transport) }.emit .connecting

/-- Open the stream again after a wait. -/
def connectAfter (s : Session τ) (length : Duration) : Session τ :=
  if length = .zero then s.connect
  else if s.isStopping then s.endLoop
  else { s with loop := .retrying (s.now + length.ticks) }

def lose (s : Session τ) (e : TransportError) (retry : Duration) : Session τ :=
  (s.markFailed e).connectAfter retry

def sendReport (s : Session τ) (retry : Duration) : Session τ :=
  let (report, s) := s.nextReport
  { s with loop := .sending report.sequenceNumber retry }.emit (.sending report)

def receive (s : Session τ) (retry : Duration) : Session τ :=
  ({ s with loop := .receiving retry }.setWakeup Wakeup.wait).emit .receiving

/-- Open a stream with new settings in place of this one. -/
def switch (s : Session τ) (task : Nat) (previous : ConnectionSettings) (retry : Duration) :
    Session τ :=
  { s with loop := .switching task previous retry }.emit .connecting

/-- Report what is new if `mayReport`, and then wait. Each of the `turns` deals with a request or a
wake-up. -/
def attend (retry : Duration) : (turns : Nat) → (mayReport : Bool) → Session τ → Session τ
  | 0, mayReport, s =>
    if mayReport && s.state.hasPendingChanges then s.sendReport retry
    else if s.isStopping then s.endLoop
    else s.receive retry
  | turns + 1, mayReport, s =>
    if mayReport && s.state.hasPendingChanges then s.sendReport retry
    else if s.isStopping then s.endLoop
    else
      match s.requests with
      | r :: rest =>
        let s := { s with requests := rest }.setWakeup Wakeup.leave
        match s.applySettings r.settings with
        | (.error e, s) => attend retry turns true (s.reply r.task (.error e))
        | (.ok previous, s) => s.switch r.task previous retry
      | [] =>
        if s.state.wakeup.isSignalled then attend retry turns true (s.setWakeup Wakeup.take)
        else s.receive retry

/-- The requests and the wake-ups that are there. -/
def turns (s : Session τ) : Nat := s.requests.length + s.state.wakeup.signals

/-- Report what is new, and then wait. -/
def stream (s : Session τ) (retry : Duration) : Session τ := attend retry s.turns true s

/-- Wait, where a report has just been sent. -/
def listen (s : Session τ) (retry : Duration) : Session τ := attend retry s.turns false s

/-- Report everything over the stream. -/
def streamAnew (s : Session τ) (retry : Duration) : Session τ :=
  (s.update State.requestFullState).stream retry

/-- Leave a busy server alone for a while. -/
def pause (s : Session τ) (length retry : Duration) : Session τ :=
  if s.isStopping then s.endLoop
  else if length = .zero then s.streamAnew retry
  else { s with loop := .pausing (s.now + length.ticks) retry }

/-! ## Instructions -/

def resume (s : Session τ) : Resume → Session τ
  | .scheduled => s.waitAtLeast none
  | .verified deadline => s.wait deadline
  | .stream retry => s.stream retry

/-- Deal with an instruction. A new identity comes first, and the loop waits for the agent to take
it. -/
def process (s : Session τ) (i : Instruction) (r : Resume) : Session τ :=
  let s := s.withPart i.error fun s e => s.tell (.serverError e)
  let s := if i.fullState then s.update State.requestFullState else s
  match i.identification with
  | some ⟨uid⟩ =>
    if uid = "" ∨ uid = s.state.uid then (s.dispatch i).resume r
    else { s with loop := .identifying uid i r }.call .loop (.identify uid)
  | none => (s.dispatch i).resume r

def identified (s : Session τ) (uid : String) (rest : Instruction) (r : Resume) :
    Except CallbackError Unit → Session τ
  | .ok () => ((s.update (·.setUid uid)).dispatch rest).resume r
  | .error _ => (s.dispatch rest).resume r

def delayOf (e : ServerError) : Option Duration := e.retryAfter.map fun n => .ofNanos n.toNat

/-- The server has taken the report. -/
def delivered (s : Session τ) (number : UInt64) : Session τ :=
  (s.update (·.delivered number)).markConnected

/-- The server has taken the report and answered. -/
def answered (s : Session τ) (number : UInt64) (i : Option Instruction) (r : Resume) : Session τ :=
  let s := s.delivered number
  match i with
  | some i => s.process i r
  | none => s.resume r

/-! ## Results -/

def exchanged (s : Session τ) (number : UInt64) :
    Except TransportError (Option Instruction) → Session τ
  | .error .cancelled => s.waitAtLeast none
  | .error e => (s.markFailed e).waitAtLeast e.retryAfter
  | .ok i =>
    match i.bind Instruction.unavailable? with
    | some e => s.waitAtLeast (delayOf e)
    | none => s.answered number i .scheduled

/-- The exchange has not proved the new settings: put the previous ones back. -/
def restore (s : Session τ) (task : Nat) (previous : ConnectionSettings) (e : TransportError) :
    Session τ :=
  (s.applySettings previous).2.reply task (.error e)

def verified (s : Session τ) (task : Nat) (previous : ConnectionSettings) (number : UInt64)
    (deadline : Nat) : Except TransportError (Option Instruction) → Session τ
  | .error e => (s.restore task previous e).wait deadline
  | .ok i =>
    match i.bind Instruction.unavailable? with
    | some e => (s.restore task previous (.unavailable (delayOf e))).wait deadline
    | none => (s.reply task (.ok ())).answered number i (.verified deadline)

def connected (s : Session τ) (retry : Duration) : Except TransportError Unit → Session τ
  | .ok () => s.streamAnew retry
  | .error .cancelled => s.endLoop
  | .error e => s.lose e retry

def switched (s : Session τ) (task : Nat) (previous : ConnectionSettings) (retry : Duration) :
    Except TransportError Unit → Session τ
  | .ok () => (s.reply task (.ok ())).streamAnew retry
  | .error e => (s.restore task previous e).connect

def sent (s : Session τ) (number : UInt64) (retry : Duration) :
    Except TransportError Unit → Session τ
  | .ok () => (s.delivered number).listen retry
  | .error .cancelled => s.endLoop
  | .error e => s.lose e retry

def received (s : Session τ) (retry : Duration) :
    Except TransportError (Option Instruction) → Session τ
  | .ok (some i) =>
    match i.unavailable? with
    | some e => s.pause ((delayOf e).getD (Transport.interval s.transport)) retry
    | none => s.markConnected.process i (.stream retry)
  | .ok none => s.lose .closed retry
  | .error e => s.lose e retry

/-- Start with the exchanges. -/
def begin (s : Session τ) : Session τ :=
  match Transport.mode s.transport with
  | .polling => s.wait s.now
  | .streaming => s.connect

/-- Give up the turn to read the agent's configuration. -/
def abandonReading (s : Session τ) : Session τ := (s.leaveGate .loop).endLoop

/-- Something that the stream has to wait for is there. -/
def isDistracted (s : Session τ) : Bool :=
  s.isStopping || !s.requests.isEmpty || s.state.wakeup.isSignalled

def runLoop (s : Session τ) (input : Input) : Session τ :=
  match s.loop, input with
  | .fresh, .look =>
    if s.isStopping then s.endLoop
    else
      let (isIn, s) := s.enterGate .loop
      { s with loop := if isIn then .reading else .queueing }
  | .queueing, .look =>
    if s.isStopping then s.abandonReading
    else if s.hasTurn .loop then { s with loop := .reading }.call .loop .effectiveConfig
    else s
  | .reading, .look => if s.isStopping then s.abandonReading else s
  | .reading, .answered (.effective r) =>
    if s.isStopping then s.abandonReading else (s.finishReading .loop r).2.begin
  | .waiting deadline, .look => s.wait deadline
  | .exchanging number, .exchanged r => s.exchanged number r
  | .verifying task previous number deadline, .exchanged r =>
    s.verified task previous number deadline r
  | .retrying deadline, .look =>
    if s.isStopping then s.endLoop else if deadline ≤ s.now then s.connect else s
  | .connecting _, .look => if s.isStopping then s.endLoop else s
  | .connecting retry, .connected r => if s.isStopping then s.endLoop else s.connected retry r
  | .sending number retry, .sent r => s.sent number retry r
  | .receiving retry, .look => if s.isDistracted then s.listen retry else s
  | .receiving retry, .received r =>
    if s.isDistracted then s.listen retry else (s.setWakeup Wakeup.leave).received retry r
  | .pausing deadline retry, .look =>
    if s.isStopping then s.endLoop else if deadline ≤ s.now then s.streamAnew retry else s
  | .switching task previous retry, .connected r => s.switched task previous retry r
  | .identifying uid rest resume, .answered (.done r) => s.identified uid rest resume r
  | _, _ => s

end ManagedAgent.Session
