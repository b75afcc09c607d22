import ManagedAgent.Message.Attribute

/-!
# Which package offer is being worked on

An offer is known by its hash. `claim` takes an offer up unless it is acknowledged, being synced,
or the one that failed last.
-/

set_option autoImplicit false

namespace ManagedAgent

/-- How the work on an offer ended. -/
inductive SyncOutcome where
  | done
  | failed
  /-- Stopped on the way; the offer may be taken up again. -/
  | cancelled
  deriving DecidableEq, Inhabited

structure PackageSync where
  acknowledged : Option Bytes := none
  syncing : Option Bytes := none
  failed : Option Bytes := none
  deriving DecidableEq, Inhabited

namespace PackageSync

/-- The offer needs no work. -/
def isKnown (p : PackageSync) (hash : Bytes) : Bool :=
  p.acknowledged == some hash || p.syncing == some hash || p.failed == some hash

/-- Take an offer up; the answer says whether there is work to do. -/
def claim (p : PackageSync) (hash : Bytes) : Bool × PackageSync :=
  if p.isKnown hash then (false, p) else (true, { p with syncing := some hash })

def finish (p : PackageSync) (hash : Bytes) (outcome : SyncOutcome) : PackageSync :=
  let p := if p.syncing = some hash then { p with syncing := none } else p
  match outcome with
  | .done => { p with acknowledged := some hash, failed := none }
  | .failed => { p with failed := some hash }
  | .cancelled => p

end PackageSync

end ManagedAgent
