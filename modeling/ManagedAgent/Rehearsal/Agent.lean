import ManagedAgent.Rehearsal.Script
import ManagedAgent.Supervisor

/-!
# Agents for a rehearsal

An agent either goes along with everything, or is a supervisor, or follows a script with one list of
outcomes for each of its handlers. Whatever it does is laid out in advance as a `Plan`: when it
reports something about packages, and with what answer it ends.
-/

set_option autoImplicit false

namespace ManagedAgent

/-- A handler of an agent; each has a script of its own. -/
inductive Handler where
  | remoteConfig
  | saveStatus
  | effectiveConfig
  | management
  | metrics
  | traces
  | logs
  | other
  | packages
  | identification
  | command
  deriving DecidableEq, Inhabited

def Handler.ofConnection : ConnectionKind → Handler
  | .management => .management
  | .telemetry .metrics => .metrics
  | .telemetry .traces => .traces
  | .telemetry .logs => .logs
  | .other _ => .other

def Call.handler : Call → Handler
  | .applyRemoteConfig _ => .remoteConfig
  | .saveStatus _ => .saveStatus
  | .effectiveConfig => .effectiveConfig
  | .useConnection kind _ => .ofConnection kind
  | .syncPackages _ => .packages
  | .identify _ => .identification
  | .runCommand _ => .command

/-- A report about packages, some time after what was done before. -/
structure SyncStep where
  delay : Nat := 0
  report : Session.SyncReport
  deriving Inhabited

/-- How a call of the agent goes. -/
structure Outcome where
  delay : Nat := 0
  error : Option CallbackError := none
  /-- The call goes on although it is cancelled. -/
  ignoresCancel : Bool := false
  changed : Bool := false
  effective : Option EffectiveConfig := none
  sync : List SyncStep := []
  /-- How the call fails after all. -/
  lateError : Option CallbackError := none
  deriving Inhabited

/-- The course of a call: the times at which it goes on, with what it reports then, and its
answer. -/
structure Plan where
  moments : List (Nat × Option Session.SyncReport)
  answer : Answer
  ignoresCancel : Bool := false
  deriving Inhabited

namespace Outcome

/-- The answer if the call does not fail. -/
def success (o : Outcome) : Call → Answer
  | .applyRemoteConfig _ => .applied (.ok ⟨o.changed, o.effective⟩)
  | .effectiveConfig => .effective (.ok (o.effective.getD (.of {})))
  | _ => .done (.ok ())

def answer (o : Outcome) (c : Call) : Answer :=
  match o.error.or o.lateError with
  | some e => c.fail e
  | none => o.success c

/-- The times of steps that follow one another. -/
def schedule (now : Nat) : List SyncStep → List (Nat × Option Session.SyncReport)
  | [] => []
  | s :: rest => (now + s.delay, some s.report) :: schedule (now + s.delay) rest

/-- A call that fails reports nothing; only a call about packages reports anything. -/
def steps (o : Outcome) : Call → List SyncStep
  | .syncPackages _ => if o.error.isSome then [] else o.sync
  | _ => []

def plan (o : Outcome) (now : Nat) (c : Call) : Plan where
  moments := (now + o.delay, none) :: schedule (now + o.delay) (o.steps c)
  answer := o.answer c
  ignoresCancel := o.ignoresCancel

end Outcome

inductive Agent where
  /-- The agent goes along with everything. -/
  | agreeing
  | supervised (supervisor : Supervisor)
  | scripted (script : Table Handler (Script Outcome))

namespace Agent

/-- What the agent does is of interest. -/
def isScripted : Agent → Bool
  | .scripted _ => true
  | _ => false

/-- The plan for a call that begins now, and the agent after that. -/
def plan (a : Agent) (now : Nat) (c : Call) : Plan × Agent :=
  match a with
  | .agreeing => ({ moments := [], answer := c.agree, ignoresCancel := true }, a)
  | .supervised s =>
    let (answer, s) := s.answer c
    let moments := (Supervisor.reports c).map fun r => (now, some r)
    ({ moments, answer, ignoresCancel := true }, .supervised s)
  | .scripted script =>
    let (outcome, rest) := ((script.get? c.handler).getD {}).next
    ((outcome.getD {}).plan now c, .scripted (script.insert c.handler rest))

end Agent

end ManagedAgent
