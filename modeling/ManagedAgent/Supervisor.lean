import ManagedAgent.Session.Run

/-!
# A supervisor of an agent

A supervisor takes every offered configuration as the one in force. It installs no packages and
leaves commands to its operator.
-/

set_option autoImplicit false

namespace ManagedAgent

/-- A supervisor holds the configuration in force. -/
structure Supervisor where
  effective : EffectiveConfig := .of {}
  deriving DecidableEq, Inhabited

namespace Supervisor

/-- Take an offered configuration over, unless it is in force already. -/
def takeConfig (s : Supervisor) (config : RemoteConfig) : ApplyOutcome × Supervisor :=
  let effective := EffectiveConfig.of config.config
  if s.effective = effective then (.unchanged, s) else (.changedTo effective, ⟨effective⟩)

/-- What is reported about one package. -/
def packageStatus (name : String) (p : PackageAvailable) : PackageStatus :=
  { name
    offeredVersion := p.version
    offeredHash := p.hash
    state := .installFailed
    error := "package installation is not supported" }

/-- Each package is reported, and then the offer is done with. -/
def syncReports (p : PackagesAvailable) : List Session.SyncReport :=
  p.packages.entries.map (fun e => .status (packageStatus e.1 e.2)) ++ [.done]

/-- What the supervisor reports about packages during a call. -/
def reports : Call → List Session.SyncReport
  | .syncPackages p => syncReports p
  | _ => []

def answer (s : Supervisor) : Call → Answer × Supervisor
  | .applyRemoteConfig config =>
    let (outcome, s) := s.takeConfig config
    (.applied (.ok outcome), s)
  | .effectiveConfig => (.effective (.ok s.effective), s)
  | .runCommand .restart => (.done (.error (.unsupported "Restart")), s)
  | c => (c.agree, s)

end Supervisor

end ManagedAgent
