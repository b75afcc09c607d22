import ManagedAgent.Session.Handlers
import ManagedAgent.Session.Loop

/-!
# Running a session

`Session.run` lets one actor go on with an input; an input that does not fit what the actor waits
for changes nothing. The agent's own calls are here too: they are over at once and may wake the
loop.
-/

set_option autoImplicit false

namespace ManagedAgent.Session
variable {τ : Type}

/-- The session of an agent that has just started. -/
def start (transport : τ) (settings : StartSettings) (fresh : String) : Session τ :=
  { transport, state := .start settings fresh : Session τ }.ready .loop

def run [Transport τ] (s : Session τ) (a : Actor) (input : Input) : Session τ :=
  match a with
  | .loop => s.runLoop input
  | .task id => s.runTask id input

def setTime (s : Session τ) (now : Nat) : Session τ := { s with now := max s.now now }

/-! ## Calls of the agent -/

def setDescription (s : Session τ) (d : Description) : Session τ :=
  s.update fun state => (state.setDescription d).notify

def setHealth (s : Session τ) (h : Health) : Session τ :=
  s.update fun state => (state.setHealth h).notify

/-- Read the agent's configuration again; the answer is the task that does. -/
def beginRefresh (s : Session τ) : Nat × Session τ :=
  (s.nextTask,
    { s with tasks := s.tasks.insert s.nextTask (.refresh .fresh), nextTask := s.nextTask + 1 })

/-- What the agent reports about the packages of an offer, at any time. -/
inductive SyncReport where
  | status (status : PackageStatus)
  | done
  | failed (error : String)
  deriving DecidableEq, Inhabited

def reportSync (s : Session τ) (hash : Bytes) : SyncReport → Session τ
  | .status status => s.update (·.reportPackage status)
  | .done => s.update (·.packagesDone hash)
  | .failed error => s.update (·.packagesFailed hash error)

/-! ## Stopping -/

/-- Start nothing new, and let what is under way come to its end. -/
def requestStop (s : Session τ) : Session τ :=
  let s := { s with phase := .stopping }
  if s.loop.heedsStop then s.ready .loop else s

/-- Give up what is under way. -/
def abort (s : Session τ) : Session τ := { s with aborting := true }

def markStopped (s : Session τ) : Session τ := { s with phase := .stopped }

end ManagedAgent.Session
