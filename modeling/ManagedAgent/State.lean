import ManagedAgent.Message.Digest
import ManagedAgent.Settings
import ManagedAgent.State.Connections
import ManagedAgent.State.Outbox
import ManagedAgent.State.PackageSync
import ManagedAgent.State.Sequence
import ManagedAgent.State.Wakeup

/-!
# The state of one session

`State` collects what a session knows: its identity, what has to be reported, the connections in
use, the package offers worked on, and the wake-ups of the exchange loop. `nextReport` assembles a
report: one that was never delivered keeps its number, any other takes a fresh one.
-/

set_option autoImplicit false

namespace ManagedAgent

structure State where
  sequence : Sequence := {}
  uid : String
  outbox : Outbox := {}
  connections : Connections := {}
  packages : PackageSync := {}
  wakeup : Wakeup := {}
  deriving DecidableEq, Inhabited

namespace State

/-- The state at the start of a session; `fresh` is the identity of an agent that has none. -/
def start (settings : StartSettings) (fresh : String) : State :=
  { uid := settings.resolvedUid fresh
    outbox :=
      { description := ⟨settings.description, false⟩
        remoteConfigStatus := ⟨settings.remoteConfigStatus, false⟩
        fullState := true }
    connections := Connections.use {} .management settings.connection
    packages := { acknowledged := settings.lastPackagesHash } }

def setUid (s : State) (uid : String) : State := { s with uid }

/-! ## Reports -/

/-- The report to merge into: the pending one, or a blank one with a fresh number. -/
def base (s : State) : Report × Sequence :=
  match s.outbox.pending with
  | some r => (r, s.sequence)
  | none =>
    let (number, sequence) := s.sequence.next
    ({ instanceUid := "", sequenceNumber := number }, sequence)

def nextReport (s : State) : Report × State :=
  let (base, sequence) := s.base
  let report := s.outbox.fill s.uid base
  (report, { s with sequence, outbox := s.outbox.afterAssembly report })

/-- The server has the report of this number. -/
def delivered (s : State) (number : UInt64) : State :=
  { s with outbox := s.outbox.delivered number }

def hasPendingChanges (s : State) : Bool := s.outbox.hasPendingChanges

def requestFullState (s : State) : State := { s with outbox := { s.outbox with fullState := true } }

/-! ## Parts of the report -/

def setDescription (s : State) (d : Description) : State :=
  { s with outbox := { s.outbox with description := s.outbox.description.set d } }

def setHealth (s : State) (h : Health) : State :=
  { s with outbox := { s.outbox with health := s.outbox.health.set h } }

/-- Record the effective configuration under the hash of its content. The answer says whether the
content is new; one with the same hash changes nothing. -/
def setEffectiveConfig (s : State) (c : EffectiveConfig) : Bool × State :=
  let c := c.rehash
  if s.outbox.effectiveConfig.value.any (·.hash == c.hash) then (false, s)
  else
    (true, { s with outbox := { s.outbox with effectiveConfig := s.outbox.effectiveConfig.set c } })

def remoteConfigStatus (s : State) : Option RemoteConfigStatus := s.outbox.remoteConfigStatus.value

def setRemoteConfigStatus (s : State) (status : RemoteConfigStatus) : State :=
  { s with
    outbox := { s.outbox with remoteConfigStatus := s.outbox.remoteConfigStatus.set status } }

/-- An offered configuration of this hash has been dealt with already. -/
def isHandled (s : State) (config : RemoteConfig) : Bool :=
  s.remoteConfigStatus.any fun status => status.state != .unset && status.hash == config.hash

def recordConnectionStatus (s : State) (status : ConnectionStatus) : State :=
  { s with
    outbox := { s.outbox with connectionStatuses := s.outbox.connectionStatuses ++ [status] } }

/-! ## Connections -/

def connection (s : State) (kind : ConnectionKind) : Option ConnectionSettings :=
  s.connections.current.get? kind

def setConnection (s : State) (kind : ConnectionKind) (c : ConnectionSettings) : State :=
  { s with connections := s.connections.use kind c }

def resolveOffer (s : State) (kind : ConnectionKind) (c : ConnectionSettings) : State :=
  { s with connections := s.connections.resolve kind c }

def isSettled (s : State) (kind : ConnectionKind) (c : ConnectionSettings) : Bool :=
  s.connections.isSettled kind c

/-! ## Packages -/

/-- Change what is reported about packages. -/
def modifyPackageStatuses (s : State) (f : PackageStatuses → PackageStatuses) : State :=
  let part := s.outbox.packageStatuses
  { s with outbox := { s.outbox with packageStatuses := part.set (f (part.value.getD {})) } }

def setPackageStatus (s : State) (status : PackageStatus) : State :=
  s.modifyPackageStatuses fun p => { p with packages := p.packages.insert status.name status }

def setPackagesError (s : State) (error : String) : State :=
  s.modifyPackageStatuses fun p => { p with error }

/-- Take a package offer up; the answer says whether there is work to do. -/
def beginSync (s : State) (hash : Bytes) : Bool × State :=
  let (isNew, packages) := s.packages.claim hash
  (isNew, { s with packages })

/-- The work on a package offer has ended. Only work that is done acknowledges the offer. -/
def endSync (s : State) (hash : Bytes) (outcome : SyncOutcome) : State :=
  let s := { s with packages := s.packages.finish hash outcome }
  if outcome = .done then s.modifyPackageStatuses fun p => { p with allHash := hash, error := "" }
  else s

/-! ## Wake-ups -/

/-- Wake the exchange loop for a report right away. -/
def notify (s : State) : State := { s with wakeup := s.wakeup.notify }

/-! ## Progress of packages, as their handler reports it -/

def reportPackage (s : State) (status : PackageStatus) : State := (s.setPackageStatus status).notify

/-- The offered packages are in place. -/
def packagesDone (s : State) (hash : Bytes) : State := (s.endSync hash .done).notify

/-- The work on the offered packages failed as a whole. -/
def packagesFailed (s : State) (hash : Bytes) (error : String) : State :=
  ((s.setPackagesError error).endSync hash .failed).notify

end State

end ManagedAgent
