import ManagedAgent.Message.Report

/-!
# What has to be reported

An `Outbox` holds the agent's parts with their changes, the answers to connection offers, and the
last report that the server does not have yet. `assemble` merges what is new into that report, so
that nothing is forgotten when a delivery fails; `delivered` lets it go.
-/

set_option autoImplicit false

namespace ManagedAgent

/-- A part of the report, and whether it has changed since a report was last assembled. -/
structure Part (α : Type) where
  value : Option α := none
  changed : Bool := false
  deriving DecidableEq, Inhabited

namespace Part
variable {α : Type}

def set (_ : Part α) (a : α) : Part α := ⟨some a, true⟩

/-- The part as the next report has it, where `before` is what that report carried so far. -/
def carry (p : Part α) (full : Bool) (before : Option α) : Option α :=
  if full || p.changed then p.value else before

/-- The part after a report was assembled. -/
def clean (p : Part α) : Part α := { p with changed := false }

end Part

structure Outbox where
  description : Part Description := {}
  health : Part Health := {}
  effectiveConfig : Part EffectiveConfig := {}
  remoteConfigStatus : Part RemoteConfigStatus := {}
  packageStatuses : Part PackageStatuses := {}
  connectionStatuses : List ConnectionStatus := []
  /-- The next report carries every part. -/
  fullState : Bool := false
  /-- The last report, until the server has it. -/
  pending : Option Report := none
  deriving DecidableEq, Inhabited

namespace Outbox

def anyChanged (o : Outbox) : Bool :=
  o.description.changed || o.health.changed || o.effectiveConfig.changed
    || o.remoteConfigStatus.changed || o.packageStatuses.changed

/-- A report would tell something new. -/
def hasPendingChanges (o : Outbox) : Bool :=
  o.fullState || o.anyChanged || !o.connectionStatuses.isEmpty || o.pending.isSome

/-- The next report, on top of `base`. -/
def fill (o : Outbox) (uid : String) (base : Report) : Report :=
  { instanceUid := uid
    sequenceNumber := base.sequenceNumber
    capabilities := Capability.all
    description := o.description.carry o.fullState base.description
    health := o.health.carry o.fullState base.health
    effectiveConfig := o.effectiveConfig.carry o.fullState base.effectiveConfig
    remoteConfigStatus := o.remoteConfigStatus.carry o.fullState base.remoteConfigStatus
    packageStatuses := o.packageStatuses.carry o.fullState base.packageStatuses
    connectionStatuses := base.connectionStatuses ++ o.connectionStatuses }

/-- The outbox after `report` was assembled from it. -/
def afterAssembly (o : Outbox) (report : Report) : Outbox :=
  { description := o.description.clean
    health := o.health.clean
    effectiveConfig := o.effectiveConfig.clean
    remoteConfigStatus := o.remoteConfigStatus.clean
    packageStatuses := o.packageStatuses.clean
    connectionStatuses := []
    fullState := false
    pending := some report }

def delivered (o : Outbox) (number : UInt64) : Outbox :=
  match o.pending with
  | some r => if r.sequenceNumber = number then { o with pending := none } else o
  | none => o

end Outbox

end ManagedAgent
