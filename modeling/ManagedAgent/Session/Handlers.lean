import ManagedAgent.Session.Dispatch

/-!
# The tasks of a session

A task asks the agent, records what came of it, and wakes the exchange loop so that the server
hears of it. A call that the agent gave up records nothing.
-/

set_option autoImplicit false

namespace ManagedAgent.Session
variable {τ : Type}

/-! ## Offered configurations -/

def applyConfig (s : Session τ) (id : Nat) (config : RemoteConfig) : Session τ :=
  (s.setTask id (.remoteConfig config .applying)).call (.task id) (.applyRemoteConfig config)

/-- Go on with the configuration that was offered meanwhile. Once stop is requested, nothing new
begins; a stop that comes between this look and the next one at the slot counts as one that comes
later. -/
def nextConfig (s : Session τ) (id : Nat) : Session τ :=
  if s.isStopping then s.finish id
  else
    match s.remoteConfig.finish with
    | (slot, none) => { s with remoteConfig := slot }.finish id
    | (slot, some config) =>
      if s.state.isHandled config then { s with remoteConfig := slot.finish.1 }.finish id
      else { s with remoteConfig := slot }.applyConfig id config

def startConfig (s : Session τ) (id : Nat) (config : RemoteConfig) : Session τ :=
  if s.state.isHandled config then s.nextConfig id else s.applyConfig id config

/-- Have the agent save the status before it is recorded. -/
def saveStatus (s : Session τ) (id : Nat) (config : RemoteConfig) (state : ApplyState)
    (error : String) : Session τ :=
  let status : RemoteConfigStatus := ⟨config.hash, state, error⟩
  (s.setTask id (.remoteConfig config (.saving status))).call (.task id) (.saveStatus status)

/-- Read the agent's configuration after it has changed. -/
def readConfig (s : Session τ) (id : Nat) (config : RemoteConfig) : Session τ :=
  let (isIn, s) := s.enterGate (.task id)
  s.setTask id (.remoteConfig config (if isIn then .reading else .queueing))

def configApplied (s : Session τ) (id : Nat) (config : RemoteConfig) :
    Except CallbackError ApplyOutcome → Session τ
  | .ok outcome =>
    match outcome.changed, outcome.effective with
    | true, some c => { s with state := (s.state.setEffectiveConfig c).2 }.saveStatus id config .applied ""
    | true, none => s.readConfig id config
    | false, _ => s.saveStatus id config .applied ""
  | .error .cancelled => s.nextConfig id
  | .error e => s.saveStatus id config .failed e.message

def statusSaved (s : Session τ) (id : Nat) (status : RemoteConfigStatus) : Session τ :=
  (s.update fun state => (state.setRemoteConfigStatus status).notify).nextConfig id

def runConfig (s : Session τ) (id : Nat) (config : RemoteConfig) :
    ConfigStage → Input → Session τ
  | .fresh, .look => s.startConfig id config
  | .applying, .answered (.applied r) => s.configApplied id config r
  | .queueing, .look =>
    if s.hasTurn (.task id) then
      (s.setTask id (.remoteConfig config .reading)).call (.task id) .effectiveConfig
    else s
  | .reading, .answered (.effective r) =>
    (s.finishReading (.task id) r).2.saveStatus id config .applied ""
  | .saving status, .answered _ => s.statusSaved id status
  | _, _ => s

/-! ## Offered connection settings -/

def askOffer (s : Session τ) (id : Nat) (kind : ConnectionKind) (settings : ConnectionSettings) :
    Session τ :=
  (s.setTask id (.connection kind settings .asking)).call (.task id) (.useConnection kind settings)

/-- Go on with the settings that were offered meanwhile. -/
def nextOffer (s : Session τ) (id : Nat) (kind : ConnectionKind) : Session τ :=
  if s.isStopping then s.finish id
  else
    match (s.offerSlot kind).finish with
    | (slot, none) => (s.setOfferSlot kind slot).finish id
    | (slot, some settings) =>
      if s.state.isSettled kind settings then (s.setOfferSlot kind slot.finish.1).finish id
      else (s.setOfferSlot kind slot).askOffer id kind settings

def startOffer (s : Session τ) (id : Nat) (kind : ConnectionKind) (settings : ConnectionSettings) :
    Session τ :=
  if s.state.isSettled kind settings then s.nextOffer id kind else s.askOffer id kind settings

def acceptOffer (s : Session τ) (id : Nat) (kind : ConnectionKind) (settings : ConnectionSettings) :
    Session τ :=
  let s := s.update fun state => (state.setConnection kind settings).resolveOffer kind settings
  let s := s.tell (.connectionAccepted kind settings)
  let s := s.update fun state => (state.recordConnectionStatus { kind, verdict := .accepted }).notify
  s.nextOffer id kind

def rejectOffer (s : Session τ) (id : Nat) (kind : ConnectionKind) (settings : ConnectionSettings)
    (error : String) : Session τ :=
  let s := s.update fun state =>
    ((state.resolveOffer kind settings).recordConnectionStatus
      { kind, verdict := .rejected, error }).notify
  s.nextOffer id kind

/-- Settings of the management connection are accepted once the loop has reconnected with them. -/
def reconnected (s : Session τ) (id : Nat) (kind : ConnectionKind) (settings : ConnectionSettings) :
    Except TransportError Unit → Session τ
  | .ok () => s.acceptOffer id kind settings
  | .error .cancelled => s.nextOffer id kind
  | .error e => s.rejectOffer id kind settings ("reconnect failed: " ++ e.message)

def reconnect (s : Session τ) (id : Nat) (kind : ConnectionKind) (settings : ConnectionSettings) :
    Session τ :=
  if s.loop = .ended then s.reconnected id kind settings (.error .closed)
  else (s.setTask id (.connection kind settings .requesting)).request ⟨id, settings⟩

def offerAnswered (s : Session τ) (id : Nat) (kind : ConnectionKind)
    (settings : ConnectionSettings) : Except CallbackError Unit → Session τ
  | .ok () =>
    if kind = .management then s.reconnect id kind settings else s.acceptOffer id kind settings
  | .error .cancelled => s.nextOffer id kind
  | .error e => s.rejectOffer id kind settings e.message

def runOffer (s : Session τ) (id : Nat) (kind : ConnectionKind) (settings : ConnectionSettings) :
    OfferStage → Input → Session τ
  | .fresh, .look => s.startOffer id kind settings
  | .asking, .answered (.done r) => s.offerAnswered id kind settings r
  | .replied r, .look => s.reconnected id kind settings r
  | _, _ => s

/-! ## Packages, commands, and reading on demand -/

def runPackages (s : Session τ) (id : Nat) (packages : PackagesAvailable) :
    CallStage → Input → Session τ
  | .fresh, .look =>
    (s.setTask id (.packages packages .calling)).call (.task id) (.syncPackages packages)
  | .calling, .answered (.done r) =>
    match r with
    | .ok () => s.finish id
    | .error .cancelled => (s.update fun state => state.endSync packages.allHash .cancelled).finish id
    | .error e => (s.update fun state => state.packagesFailed packages.allHash e.message).finish id
  | _, _ => s

def runCommand (s : Session τ) (id : Nat) (command : Command) : CallStage → Input → Session τ
  | .fresh, .look => (s.setTask id (.command command .calling)).call (.task id) (.runCommand command)
  | .calling, .answered _ => s.finish id
  | _, _ => s

/-- The agent's configuration was read on demand; a new one is reported right away. -/
def refreshed (s : Session τ) (id : Nat) (r : Except CallbackError EffectiveConfig) : Session τ :=
  let (changed, s) := s.finishReading (.task id) r
  let s := if changed then s.update State.notify else s
  (s.emit (.refreshed id ((r.mapError .callback).map fun _ => ()))).finish id

def runRefresh (s : Session τ) (id : Nat) : ReadStage → Input → Session τ
  | .fresh, .look =>
    let (isIn, s) := s.enterGate (.task id)
    s.setTask id (.refresh (if isIn then .reading else .queueing))
  | .queueing, .look =>
    if s.hasTurn (.task id) then
      (s.setTask id (.refresh .reading)).call (.task id) .effectiveConfig
    else s
  | .reading, .answered (.effective r) => s.refreshed id r
  | _, _ => s

/-! ## All tasks -/

def runTask (s : Session τ) (id : Nat) (input : Input) : Session τ :=
  match s.tasks.get? id with
  | some (.remoteConfig config stage) => s.runConfig id config stage input
  | some (.connection kind settings stage) => s.runOffer id kind settings stage input
  | some (.packages packages stage) => s.runPackages id packages stage input
  | some (.command command stage) => s.runCommand id command stage input
  | some (.refresh stage) => s.runRefresh id stage input
  | none => s

end ManagedAgent.Session
