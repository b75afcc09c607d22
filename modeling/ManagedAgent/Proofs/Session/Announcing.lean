import ManagedAgent.Proofs.Session.TaskSteps
import ManagedAgent.Proofs.State.Telling

/-!
# How changes are announced to the loop

What the agent and the tasks record is told by the next report, and the loop is woken for it. A task
that deals with an offered configuration is the exception: it puts a new configuration in force
(`Task.adopted?`) and wakes the loop only when it has recorded the status (`Task.isSaving`).

* `Announces` : nothing to tell, a record with a wake-up, or a configuration in force;
* `announces_runTask`, `announces_act` : every step of a task and every call is one of them.
-/

set_option autoImplicit false

namespace ManagedAgent

/-- The configuration that a step of the task puts in force before the status is recorded. -/
def Task.adopted? : Task → Input → Option EffectiveConfig
  | .remoteConfig _ .applying, .answered (.applied (.ok ⟨true, some c⟩)) => some c
  | .remoteConfig _ .reading, .answered (.effective (.ok c)) => some c
  | _, _ => none

def Task.isSaving : Task → Input → Bool
  | .remoteConfig _ (.saving _), .answered _ => true
  | _, _ => false

/-- How a step from `s` to `t` announces what it records. It may put a configuration in force, or it
is the step `isSaving` that records a status. -/
inductive State.Announces (s t : State) (adopted? : Option EffectiveConfig) (isSaving : Bool) : Prop
  | quiet (ho : t.outbox = s.outbox) (hw : t.wakeup = s.wakeup) (hs : isSaving = false)
  | wakes (u : State) (hc : s.Changes u) (ht : t = u.notify)
  | adopts (c : EffectiveConfig) (hc : adopted? = some c)
      (hn : (s.setEffectiveConfig c).1 = true) (ht : t = (s.setEffectiveConfig c).2)
      (hs : isSaving = false)

namespace State
variable {s t : State} {isSaving : Bool} {adopted? : Option EffectiveConfig}

theorem Announces.of_eq (h : t = s) (hs : isSaving = false) : s.Announces t adopted? isSaving :=
  .quiet (h ▸ rfl) (h ▸ rfl) hs

theorem Announces.of_ops (ops : List Operation) (ho : ∀ op ∈ ops, op ≠ .nextReport)
    (ht : t = (s.after ops).notify) : s.Announces t adopted? isSaving :=
  .wakes _ (.of_ops ops ho) ht

/-- A configuration that is in force already changes nothing. -/
theorem setEffectiveConfig_of_false {c : EffectiveConfig} (h : (s.setEffectiveConfig c).1 = false) :
    (s.setEffectiveConfig c).2 = s := by
  unfold setEffectiveConfig at h ⊢
  dsimp only at h ⊢
  split
  · rfl
  · next hs =>
    rw [if_neg hs] at h
    contradiction

theorem Announces.of_config {c : EffectiveConfig} (hc : adopted? = some c)
    (ht : t = (s.setEffectiveConfig c).2) (hs : isSaving = false) :
    s.Announces t adopted? isSaving := by
  cases hn : (s.setEffectiveConfig c).1 with
  | true => exact .adopts c hc hn ht hs
  | false => exact .of_eq (ht.trans (setEffectiveConfig_of_false hn)) hs

end State

namespace Session
variable {τ : Type}

/-! ## What leaves the state alone -/

@[simp] theorem state_leaveGate (s : Session τ) (a : Actor) : (s.leaveGate a).state = s.state := by
  unfold leaveGate readyNext; dsimp only; split <;> rfl

@[simp] theorem state_enterGate (s : Session τ) (a : Actor) :
    (s.enterGate a).2.state = s.state := by
  unfold enterGate; dsimp only; split <;> rfl

theorem state_finishReading (s : Session τ) (a : Actor)
    (r : Except CallbackError EffectiveConfig) :
    (s.finishReading a r).2.state = match r with
      | .ok c => (s.state.setEffectiveConfig c).2
      | .error _ => s.state := by
  cases r <;> exact state_leaveGate _ a

theorem state_nextConfig (s : Session τ) (id : Nat) : (s.nextConfig id).state = s.state := by
  rcases s.nextConfig_cases id with ⟨-, h⟩ | ⟨-, slot, next, -, h⟩
  · rw [h]
    rfl
  · rw [h]
    cases next <;> rfl

theorem state_nextOffer (s : Session τ) (id : Nat) (kind : ConnectionKind) :
    (s.nextOffer id kind).state = s.state := by
  rcases s.nextOffer_cases id kind with ⟨-, h⟩ | ⟨-, slot, next, -, h⟩
  · rw [h]
    rfl
  · rw [h]
    cases next <;> rfl

theorem state_request (s : Session τ) (r : ReconnectRequest) : (s.request r).state = s.state := by
  rcases request_eq s r with h | h
  · rw [h]
  · rw [h]
    rfl

/-! ## Tasks -/

theorem announces_runConfig (s : Session τ) (id : Nat) (config : RemoteConfig)
    (stage : ConfigStage) (input : Input) :
    s.state.Announces (s.runConfig id config stage input).state
      ((Task.remoteConfig config stage).adopted? input)
      ((Task.remoteConfig config stage).isSaving input) := by
  unfold runConfig
  split
  · unfold startConfig
    split
    · exact .of_eq (state_nextConfig s id) rfl
    · exact .of_eq rfl rfl
  · next r =>
    unfold configApplied
    split
    · next outcome =>
      obtain ⟨changed, effective⟩ := outcome
      split
      · next c hc he =>
        obtain rfl : changed = true := hc
        obtain rfl : effective = some c := he
        exact .of_config rfl rfl rfl
      · exact .of_eq (state_enterGate s _) rfl
      · exact .of_eq rfl rfl
    · exact .of_eq (state_nextConfig s id) rfl
    · exact .of_eq rfl rfl
  · split
    · exact .of_eq rfl rfl
    · exact .of_eq rfl rfl
  · next r =>
    cases r with
    | ok c => exact .of_config rfl (state_finishReading s _ (.ok c)) rfl
    | error e => exact .of_eq (state_finishReading s _ (.error e)) rfl
  · next status _ =>
    refine .of_ops [.setRemoteConfigStatus status] (by simp) ?_
    exact (state_nextConfig _ id).trans (state_update _ _)
  · refine .of_eq rfl ?_
    unfold Task.isSaving
    split <;> grind

theorem announces_conclude (s : Session τ) (kind : ConnectionKind) (settings : ConnectionSettings)
    (e : OfferEnd) : s.state.Announces (s.conclude kind settings e).state none false := by
  cases e with
  | accepted =>
    refine .of_ops [.setConnection kind settings, .resolveOffer kind settings,
      .recordConnectionStatus { kind, verdict := .accepted }]
      (by simp) ((state_update _ _).trans ?_)
    show (State.recordConnectionStatus (Session.update s _).state _).notify = _
    rw [state_update]
    rfl
  | rejected error =>
    exact .of_ops [.resolveOffer kind settings,
      .recordConnectionStatus { kind, verdict := .rejected, error }]
      (by simp) (state_update s _)
  | cancelled => exact .of_eq rfl rfl

theorem announces_runOffer (s : Session τ) (id : Nat) (kind : ConnectionKind)
    (settings : ConnectionSettings) (stage : OfferStage) (input : Input) :
    s.state.Announces (s.runOffer id kind settings stage input).state none false := by
  have hrun := runOffer_cases s id kind settings stage input
  generalize s.runOffer id kind settings stage input = t at hrun
  cases hrun with
  | stay => exact .of_eq rfl rfl
  | skip => exact .of_eq (state_nextOffer s id kind) rfl
  | ask => exact .of_eq rfl rfl
  | request => exact .of_eq (state_request _ _) rfl
  | conclude e =>
    rw [state_nextOffer]
    exact announces_conclude s kind settings e

theorem announces_packagesFailed (s : Session τ) (hash : Bytes) (error : String) :
    s.state.Announces (s.update (·.packagesFailed hash error)).state none false :=
  .of_ops [.setPackagesError error, .endSync hash .failed] (by simp)
    (state_update s _)

theorem announces_runPackages (s : Session τ) (id : Nat) (packages : PackagesAvailable)
    (stage : CallStage) (input : Input) :
    s.state.Announces (s.runPackages id packages stage input).state none false := by
  unfold runPackages
  split
  · exact .of_eq rfl rfl
  · split
    · exact .of_eq rfl rfl
    · have hs : (s.update fun state => state.endSync packages.allHash .cancelled).state =
          s.state.endSync packages.allHash .cancelled := state_update s _
      exact .quiet ((congrArg State.outbox hs).trans rfl) ((congrArg State.wakeup hs).trans rfl) rfl
    · exact announces_packagesFailed s _ _
  · exact .of_eq rfl rfl

theorem announces_runCommand (s : Session τ) (id : Nat) (command : Command) (stage : CallStage)
    (input : Input) :
    s.state.Announces (s.runCommand id command stage input).state none false := by
  unfold runCommand
  split <;> exact .of_eq rfl rfl

theorem announces_runRefresh (s : Session τ) (id : Nat) (stage : ReadStage) (input : Input) :
    s.state.Announces (s.runRefresh id stage input).state none false := by
  unfold runRefresh
  split
  · exact .of_eq (state_enterGate s _) rfl
  · split
    · exact .of_eq rfl rfl
    · exact .of_eq rfl rfl
  · next r =>
    unfold refreshed
    cases r with
    | error e => exact .of_eq (state_finishReading s (.task id) (.error e)) rfl
    | ok c =>
      have hr := state_finishReading s (.task id) (.ok c)
      have hc : (s.finishReading (.task id) (.ok c)).1 = (s.state.setEffectiveConfig c).1 := rfl
      generalize s.finishReading (.task id) (.ok c) = x at hr hc
      obtain ⟨changed, t⟩ := x
      dsimp only at hr hc
      cases changed with
      | false => exact .of_eq (hr.trans (State.setEffectiveConfig_of_false hc.symm)) rfl
      | true =>
        refine .of_ops [.setEffectiveConfig c] (by simp) ?_
        exact (state_update t State.notify).trans (congrArg State.notify hr)
  · exact .of_eq rfl rfl

theorem announces_runTask (s : Session τ) (id : Nat) (input : Input) :
    s.state.Announces (s.runTask id input).state ((s.tasks.get? id).bind (·.adopted? input))
      ((s.tasks.get? id).any (·.isSaving input)) := by
  unfold runTask
  split
  · next h =>
    rw [h]
    exact announces_runConfig s id _ _ input
  · next h =>
    rw [h]
    exact announces_runOffer s id _ _ _ input
  · next h =>
    rw [h]
    exact announces_runPackages s id _ _ input
  · next h =>
    rw [h]
    exact announces_runCommand s id _ _ input
  · next h =>
    rw [h]
    exact announces_runRefresh s id _ input
  · next h =>
    rw [h]
    exact .of_eq rfl rfl

/-! ## Calls -/

theorem announces_reportSync (s : Session τ) (hash : Bytes) (report : SyncReport) :
    s.state.Announces (s.reportSync hash report).state none false := by
  cases report with
  | status status =>
    exact .of_ops [.setPackageStatus status] (by simp)
      (state_update s _)
  | done =>
    exact .of_ops [.endSync hash .done] (by simp) (state_update s _)
  | failed error => exact announces_packagesFailed s hash error

variable [Transport τ] [Carrier τ]

def Action.isLoop : Action τ → Bool
  | .run .loop _ => true
  | _ => false

omit [Transport τ] in
theorem Action.loop_cases (a : Action τ) :
    (∃ input, a = .run .loop input) ∨ a.isLoop = false := by
  cases a with
  | run actor input =>
    cases actor with
    | loop => exact .inl ⟨input, rfl⟩
    | task => exact .inr rfl
  | _ => exact .inr rfl

def Action.adopted? (s : Session τ) : Action τ → Option EffectiveConfig
  | .run (.task id) input => (s.tasks.get? id).bind (·.adopted? input)
  | _ => none

def Action.isSaving (s : Session τ) : Action τ → Bool
  | .run (.task id) input => (s.tasks.get? id).any (·.isSaving input)
  | _ => false

theorem announces_act (s : Session τ) (a : Action τ) (h : a.isLoop = false) :
    s.state.Announces (s.act a).state (a.adopted? s) (a.isSaving s) := by
  cases a with
  | run actor input =>
    cases actor with
    | loop => contradiction
    | task id => exact announces_runTask s id input
  | setDescription d =>
    exact .of_ops [.setDescription d] (by simp) (state_update s _)
  | setHealth x =>
    exact .of_ops [.setHealth x] (by simp) (state_update s _)
  | reportSync hash report => exact announces_reportSync s hash report
  | use | setTime | setInterval | refresh => exact .of_eq rfl rfl
  | stop =>
    refine .of_eq ?_ rfl
    show (if s.isRunning then s.requestStop else s).state = s.state
    unfold requestStop
    dsimp only
    split
    · split <;> rfl
    · rfl
  | endStop =>
    refine .of_eq ?_ rfl
    show (if s.phase = .stopping ∧ s.isDrained then s.markStopped else s).state = s.state
    split <;> rfl
  | cancelStop isFirst =>
    refine .of_eq ?_ rfl
    show (if s.phase = .stopping then
      (if isFirst then s.abort.markStopped else s.abort) else s).state = s.state
    split
    · split <;> rfl
    · rfl

end Session

end ManagedAgent
