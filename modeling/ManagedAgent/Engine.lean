import ManagedAgent.Session.Run

/-!
# The engine of an agent

An engine starts one session in its life and stops it. A start that fails leaves the engine idle.
-/

set_option autoImplicit false

namespace ManagedAgent

inductive Engine (τ : Type) where
  | idle (transport : τ)
  | started (session : Session τ)

/-- What a call to stop has to do. -/
inductive StopRole where
  | notStarted
  /-- The session is stopped already. -/
  | nothing
  /-- Wait until the session is drained, and mark it stopped. -/
  | drain
  /-- Wait until the session is stopped by another call. -/
  | wait
  deriving DecidableEq, Inhabited

namespace Engine
variable {τ : Type}

def session? : Engine τ → Option (Session τ)
  | .idle _ => none
  | .started s => some s

def transport : Engine τ → τ
  | .idle t => t
  | .started s => s.transport

def phase : Engine τ → Phase
  | .idle _ => .idle
  | .started s => s.phase

def modify (e : Engine τ) (f : Session τ → Session τ) : Engine τ :=
  match e with
  | .idle t => .idle t
  | .started s => .started (f s)

/-- Start a session. `fresh` is the identity of an agent that has none; `hasHandlers` says that the
agent has handlers, and `canSpawn` that tasks can be started here. -/
def start [Transport τ] (e : Engine τ) (settings : StartSettings) (fresh : String)
    (hasHandlers canSpawn : Bool) : Except ClientError Unit × Engine τ :=
  match e with
  | .started _ => (.error .alreadyStarted, e)
  | .idle transport =>
    match settings.validate hasHandlers with
    | .error err => (.error err, e)
    | .ok () =>
      if !canSpawn then
        (.error (.invalidArgument "start must be called within a Tokio runtime"), e)
      else
        match Transport.configure transport settings with
        | (.error err, transport) => (.error (.transport err), .idle transport)
        | (.ok (), transport) => (.ok (), .started (.start transport settings fresh))

def whileRunning (e : Engine τ) (f : Session τ → Session τ) : Except ClientError Unit × Engine τ :=
  match e with
  | .started s => if s.isRunning then (.ok (), .started (f s)) else (.error .notStarted, e)
  | .idle _ => (.error .notStarted, e)

def setDescription (e : Engine τ) (d : Description) : Except ClientError Unit × Engine τ :=
  if d.isEmpty then (.error (.invalidArgument "agent description must have attributes"), e)
  else e.whileRunning (·.setDescription d)

def setHealth (e : Engine τ) (h : Health) : Except ClientError Unit × Engine τ :=
  e.whileRunning (·.setHealth h)

def setInterval [Transport τ] (e : Engine τ) (d : Duration) : Engine τ :=
  match e with
  | .idle t => .idle (Transport.setInterval t d)
  | .started s => .started { s with transport := Transport.setInterval s.transport d }

def beginStop (e : Engine τ) : StopRole × Engine τ :=
  match e with
  | .idle _ => (.notStarted, e)
  | .started s =>
    match s.phase with
    | .stopped => (.nothing, e)
    | .stopping => (.wait, e)
    | _ => (.drain, .started s.requestStop)

def isDrained (e : Engine τ) : Bool := e.session?.any Session.isDrained

/-- A call to stop goes on: its result, once it has one, and the engine. That there is nothing left
to wait for counts before the caller's patience, which has run out if `isCancelled`. -/
def continueStop (e : Engine τ) (isCancelled : Bool) :
    StopRole → Option (Except ClientError Unit) × Engine τ
  | .notStarted => (some (.error .notStarted), e)
  | .nothing => (some (.ok ()), e)
  | .drain =>
    if e.isDrained then (some (.ok ()), e.modify .markStopped)
    else if isCancelled then (some (.error .cancelled), e.modify fun s => s.abort.markStopped)
    else (none, e)
  | .wait =>
    if e.phase = .stopped then (some (.ok ()), e)
    else if isCancelled then (some (.error .cancelled), e.modify .abort)
    else (none, e)

end Engine

end ManagedAgent
