import ManagedAgent.Proofs.Session.Frame
import ManagedAgent.Session.Run

/-!
# The scopes of tasks

What is done about one part of an instruction, from its routing to the end of its task, has the
scope of that part.

* `frame_runConfig`, `frame_runOffer`, `frame_runPackages`, `frame_runCommand`, `frame_runRefresh` :
  a task goes on;
* `frame_dispatchRemoteConfig`, `frame_dispatchOffer`, `frame_dispatchPackages`,
  `frame_dispatchCommand` : a part of an instruction is routed.
-/

set_option autoImplicit false

namespace ManagedAgent.Session
variable {τ : Type}

@[simp] theorem tasks_emit (s : Session τ) (e : Event) : (s.emit e).tasks = s.tasks := rfl

/-- A change of the state adds no more than a wake-up of the loop to the history. -/
theorem update_eq (s : Session τ) (f : State → State) :
    s.update f = { s with state := f s.state } ∨
      s.update f = { s with state := f s.state }.ready .loop := by
  unfold update
  dsimp only
  split
  · exact .inr rfl
  · exact .inl rfl

/-- What a wake-up of the loop does not reach is as the change of the state leaves it. -/
theorem apply_update {α : Type} (g : Session τ → α) (hg : ∀ t : Session τ, g (t.ready .loop) = g t)
    (s : Session τ) (f : State → State) : g (s.update f) = g { s with state := f s.state } := by
  rcases s.update_eq f with h | h
  · rw [h]
  · rw [h]
    exact hg _

@[simp] theorem state_update (s : Session τ) (f : State → State) :
    (s.update f).state = f s.state := apply_update (·.state) (fun _ => rfl) s f

@[simp] theorem tasks_update (s : Session τ) (f : State → State) :
    (s.update f).tasks = s.tasks := apply_update (·.tasks) (fun _ => rfl) s f

@[simp] theorem nextTask_update (s : Session τ) (f : State → State) :
    (s.update f).nextTask = s.nextTask := apply_update (·.nextTask) (fun _ => rfl) s f

@[simp] theorem transport_update (s : Session τ) (f : State → State) :
    (s.update f).transport = s.transport := apply_update (·.transport) (fun _ => rfl) s f

@[simp] theorem requests_update (s : Session τ) (f : State → State) :
    (s.update f).requests = s.requests := apply_update (·.requests) (fun _ => rfl) s f

@[simp] theorem offers_update (s : Session τ) (f : State → State) :
    (s.update f).offers = s.offers := apply_update (·.offers) (fun _ => rfl) s f

@[simp] theorem isStopping_update (s : Session τ) (f : State → State) :
    (s.update f).isStopping = s.isStopping := apply_update (·.isStopping) (fun _ => rfl) s f

@[simp] theorem remoteConfig_update (s : Session τ) (f : State → State) :
    (s.update f).remoteConfig = s.remoteConfig := apply_update (·.remoteConfig) (fun _ => rfl) s f

@[simp] theorem tasks_leaveGate (s : Session τ) (a : Actor) : (s.leaveGate a).tasks = s.tasks := by
  unfold leaveGate readyNext; dsimp only; split <;> rfl

@[simp] theorem tasks_enterGate (s : Session τ) (a : Actor) :
    (s.enterGate a).2.tasks = s.tasks := by
  unfold enterGate; dsimp only; split <;> rfl

@[simp] theorem tasks_finishReading (s : Session τ) (a : Actor)
    (r : Except CallbackError EffectiveConfig) : (s.finishReading a r).2.tasks = s.tasks := by
  cases r <;> exact tasks_leaveGate _ a

namespace Scope

def config : Scope where
  may a := a ∈ [.remoteConfig, .gate, .state .effectiveConfig, .state .remoteConfigStatus,
    .state .marks, .state .wakeup]
  logs
    | .called .. | .ready _ | .finished _ => True
    | _ => False
  tasks
    | .remoteConfig .. => True
    | _ => False

def offer (kind : ConnectionKind) : Scope where
  may a := a ∈ [.offers kind, .state (.current kind), .state (.resolved kind),
    .state .connectionStatuses, .state .wakeup] ∨ a = .requests ∧ kind = .management
  logs
    | .told (.connectionAccepted k _) => k = kind
    | .called .. | .ready _ | .finished _ => True
    | _ => False
  tasks
    | .connection k _ _ => k = kind
    | _ => False

def packages : Scope where
  may a := a ∈ [.state .packages, .state .packageStatuses, .state .marks, .state .wakeup]
  logs
    | .called .. | .ready _ | .finished _ => True
    | _ => False
  tasks
    | .packages .. => True
    | _ => False

def command : Scope where
  logs
    | .called .. | .ready _ | .finished _ => True
    | _ => False
  tasks
    | .command .. => True
    | _ => False

def refresh : Scope where
  may a := a ∈ [.gate, .state .effectiveConfig, .state .marks, .state .wakeup]
  logs
    | .called .. | .ready _ | .refreshed .. | .finished _ => True
    | _ => False
  tasks
    | .refresh _ => True
    | _ => False

end Scope

/-- A task goes on to a call of the agent. -/
theorem Frame.goOn {S : Scope} (s : Session τ) (id : Nat) {old new : Task} (c : Call)
    (h : s.tasks.get? id = some old) (hold : S.tasks old) (hnew : S.tasks new)
    (hl : S.logs (.called (.task id) c)) :
    Frame S s ((s.setTask id new).call (.task id) c) :=
  (setTask s id old new h hold hnew).trans (call _ _ _ hl)

/-! ## Offered configurations -/

theorem frame_applyConfig (s : Session τ) (id : Nat) (config : RemoteConfig) {x : Task}
    (h : s.tasks.get? id = some x) (hx : Scope.config.tasks x) :
    Frame .config s (s.applyConfig id config) := by
  unfold applyConfig
  exact .goOn s id _ h hx trivial trivial

theorem frame_nextConfig (s : Session τ) (id : Nat) {x : Task} (h : s.tasks.get? id = some x)
    (hx : Scope.config.tasks x) : Frame .config s (s.nextConfig id) := by
  have keep (slot) : Frame .config s { s with remoteConfig := slot } :=
    .setConfigSlot s slot (by simp [Scope.config])
  unfold nextConfig
  split
  · exact .finish s id x h hx trivial
  · split
    · exact (keep _).trans (.finish _ id x h hx trivial)
    · next slot _ _ =>
      split
      · exact (keep _).trans (.finish _ id x h hx trivial)
      · exact (keep slot).trans (frame_applyConfig _ id _ h hx)

theorem frame_saveStatus (s : Session τ) (id : Nat) (config : RemoteConfig) (state : ApplyState)
    (error : String) {x : Task} (h : s.tasks.get? id = some x) (hx : Scope.config.tasks x) :
    Frame .config s (s.saveStatus id config state error) := by
  unfold saveStatus
  exact .goOn s id _ h hx trivial trivial

theorem frame_configApplied (s : Session τ) (id : Nat) (config : RemoteConfig)
    (r : Except CallbackError ApplyOutcome) {x : Task} (h : s.tasks.get? id = some x)
    (hx : Scope.config.tasks x) :
    Frame .config s (s.configApplied id config r) := by
  unfold configApplied
  split
  · split
    · next c _ _ =>
      have read : Frame .config s { s with state := (s.state.setEffectiveConfig c).2 } :=
        .setState s _ (.setEffectiveConfig _ c (by simp [Scope.config]) (by simp [Scope.config]))
      exact read.trans (frame_saveStatus _ id _ _ _ h hx)
    · unfold readConfig
      refine (Frame.enterGate s (.task id) (by simp [Scope.config]) trivial).trans ?_
      exact .setTask _ id x _ (by rwa [tasks_enterGate]) hx trivial
    · exact frame_saveStatus s id _ _ _ h hx
  · exact frame_nextConfig s id h hx
  · exact frame_saveStatus s id _ _ _ h hx

theorem frame_statusSaved (s : Session τ) (id : Nat) (status : RemoteConfigStatus) {x : Task}
    (h : s.tasks.get? id = some x) (hx : Scope.config.tasks x) :
    Frame .config s (s.statusSaved id status) := by
  unfold statusSaved
  refine .trans (.update s _ ?_ trivial) (frame_nextConfig _ id (by rwa [tasks_update]) hx)
  refine .trans (.setRemoteConfigStatus _ _ ?_ ?_) (.notify _ ?_)
  all_goals simp [Scope.config]

theorem frame_runConfig (s : Session τ) (id : Nat) (config : RemoteConfig) (stage : ConfigStage)
    (h : s.tasks.get? id = some (.remoteConfig config stage)) (input : Input) :
    Frame .config s (s.runConfig id config stage input) := by
  have hx : Scope.config.tasks (.remoteConfig config stage) := trivial
  unfold runConfig
  split
  · unfold startConfig
    split
    · exact frame_nextConfig s id h hx
    · exact frame_applyConfig s id config h hx
  · exact frame_configApplied s id config _ h hx
  · split
    · exact .goOn s id _ h hx trivial trivial
    · exact .refl s
  · refine .trans (.finishReading s _ _ ?_ ?_ ?_ fun _ => trivial)
      (frame_saveStatus _ id _ _ _ (by rwa [tasks_finishReading]) hx)
    all_goals simp [Scope.config]
  · exact frame_statusSaved s id _ h hx
  · exact .refl s

theorem frame_dispatchRemoteConfig (s : Session τ) (config : RemoteConfig) :
    Frame .config s (s.dispatchRemoteConfig config) := by
  have keep (slot) : Frame .config s { s with remoteConfig := slot } :=
    .setConfigSlot s slot (by simp [Scope.config])
  unfold dispatchRemoteConfig
  dsimp only
  split
  · exact .refl s
  · split
    · exact keep _
    · exact (keep _).trans (.spawn _ _ trivial trivial)

/-! ## Offered connection settings -/

section Offer
variable {kind : ConnectionKind}

theorem frame_setOfferSlot (s : Session τ) (slot : Slot ConnectionSettings) :
    Frame (.offer kind) s (s.setOfferSlot kind slot) :=
  .setOffers s kind slot (by simp [Scope.offer])

theorem frame_askOffer (s : Session τ) (id : Nat) (settings : ConnectionSettings) {x : Task}
    (h : s.tasks.get? id = some x) (hx : (Scope.offer kind).tasks x) :
    Frame (.offer kind) s (s.askOffer id kind settings) := by
  unfold askOffer
  exact .goOn s id _ h hx rfl trivial

theorem frame_nextOffer (s : Session τ) (id : Nat) {x : Task} (h : s.tasks.get? id = some x)
    (hx : (Scope.offer kind).tasks x) : Frame (.offer kind) s (s.nextOffer id kind) := by
  unfold nextOffer
  split
  · exact .finish s id x h hx trivial
  · split
    · exact (frame_setOfferSlot s _).trans (.finish _ id x h hx trivial)
    · next slot _ _ =>
      split
      · exact (frame_setOfferSlot s _).trans (.finish _ id x h hx trivial)
      · exact (frame_setOfferSlot s slot).trans (frame_askOffer _ id _ h hx)

theorem frame_acceptOffer (s : Session τ) (id : Nat) (settings : ConnectionSettings) {x : Task}
    (h : s.tasks.get? id = some x) (hx : (Scope.offer kind).tasks x) :
    Frame (.offer kind) s (s.acceptOffer id kind settings) := by
  unfold acceptOffer
  have told (t : Session τ) :
      Frame (.offer kind) t (t.tell (.connectionAccepted kind settings)) := .emit t _ rfl
  refine .trans (.update s _ ?_ trivial) (.trans (told _)
    (.trans (.update _ _ ?_ trivial) (frame_nextOffer _ id ?_ hx)))
  · exact .trans (.setConnection _ _ _ (by simp [Scope.offer]))
      (.resolveOffer _ _ _ (by simp [Scope.offer]))
  · exact .trans (.recordConnectionStatus _ _ (by simp [Scope.offer]))
      (.notify _ (by simp [Scope.offer]))
  · rwa [tasks_update, tell, tasks_emit, tasks_update]

theorem frame_rejectOffer (s : Session τ) (id : Nat) (settings : ConnectionSettings)
    (error : String) {x : Task} (h : s.tasks.get? id = some x)
    (hx : (Scope.offer kind).tasks x) :
    Frame (.offer kind) s (s.rejectOffer id kind settings error) := by
  refine .trans (.update s _ ?_ trivial) (frame_nextOffer _ id (by rwa [tasks_update]) hx)
  exact .trans (.resolveOffer _ _ _ (by simp [Scope.offer])) (.trans
    (.recordConnectionStatus _ _ (by simp [Scope.offer])) (.notify _ (by simp [Scope.offer])))

theorem frame_reconnected (s : Session τ) (id : Nat) (settings : ConnectionSettings)
    (r : Except TransportError Unit) {x : Task} (h : s.tasks.get? id = some x)
    (hx : (Scope.offer kind).tasks x) :
    Frame (.offer kind) s (s.reconnected id kind settings r) := by
  unfold reconnected
  split
  · exact frame_acceptOffer s id settings h hx
  · exact frame_nextOffer s id h hx
  · exact frame_rejectOffer s id settings _ h hx

theorem Frame.request {S : Scope} (s : Session τ) (r : ReconnectRequest) (h : S.may .requests)
    (hl : S.logs (.ready .loop)) : Frame S s (s.request r) := by
  unfold Session.request
  dsimp only
  split
  · exact (Frame.setRequests s _ h).trans (.ready _ _ hl)
  · exact .setRequests s _ h

theorem frame_offerAnswered (s : Session τ) (id : Nat) (settings : ConnectionSettings)
    (r : Except CallbackError Unit) {x : Task} (h : s.tasks.get? id = some x)
    (hx : (Scope.offer kind).tasks x) :
    Frame (.offer kind) s (s.offerAnswered id kind settings r) := by
  unfold offerAnswered
  split
  · split
    · next hk =>
      unfold reconnect
      split
      · exact frame_reconnected s id settings _ h hx
      · refine .trans (.setTask s id x (.connection kind settings .requesting) h hx rfl)
          (.request _ _ ?_ trivial)
        simp [Scope.offer, hk]
    · exact frame_acceptOffer s id settings h hx
  · exact frame_nextOffer s id h hx
  · exact frame_rejectOffer s id settings _ h hx

theorem frame_runOffer (s : Session τ) (id : Nat) (settings : ConnectionSettings)
    (stage : OfferStage) (h : s.tasks.get? id = some (.connection kind settings stage))
    (input : Input) : Frame (.offer kind) s (s.runOffer id kind settings stage input) := by
  have hx : (Scope.offer kind).tasks (.connection kind settings stage) := rfl
  unfold runOffer
  split
  · unfold startOffer
    split
    · exact frame_nextOffer s id h hx
    · exact frame_askOffer s id settings h hx
  · exact frame_offerAnswered s id settings _ h hx
  · exact frame_reconnected s id settings _ h hx
  · exact .refl s

theorem frame_dispatchOffer (s : Session τ) (settings : ConnectionSettings) :
    Frame (.offer kind) s (s.dispatchOffer kind settings) := by
  unfold dispatchOffer
  dsimp only
  split
  · exact .refl s
  · split
    · exact frame_setOfferSlot s _
    · exact (frame_setOfferSlot s _).trans (.spawn _ _ rfl trivial)

end Offer

/-! ## Packages, commands, and reading on demand -/

theorem frame_runPackages (s : Session τ) (id : Nat) (packages : PackagesAvailable)
    (stage : CallStage) (h : s.tasks.get? id = some (.packages packages stage)) (input : Input) :
    Frame .packages s (s.runPackages id packages stage input) := by
  have hx : Scope.packages.tasks (.packages packages stage) := trivial
  unfold runPackages
  split
  · exact .goOn s id _ h hx trivial trivial
  · split
    · exact .finish s id _ h hx trivial
    · refine .trans (.update s _ ?_ trivial) (.finish _ id _ (by rwa [tasks_update]) hx trivial)
      refine .endSync _ _ _ ?_ ?_ ?_
      all_goals simp [Scope.packages]
    · refine .trans (.update s _ ?_ trivial) (.finish _ id _ (by rwa [tasks_update]) hx trivial)
      refine .packagesFailed _ _ _ ?_ ?_ ?_ ?_
      all_goals simp [Scope.packages]
  · exact .refl s

theorem frame_dispatchPackages (s : Session τ) (packages : PackagesAvailable) :
    Frame .packages s (s.dispatchPackages packages) := by
  unfold dispatchPackages
  have hs : Frame .packages s { s with state := (s.state.beginSync packages.allHash).2 } :=
    .setState s _ (.setPackages _ _ (by simp [Scope.packages]))
  dsimp only
  split
  · exact hs.trans (.spawn _ _ trivial trivial)
  · exact hs

theorem frame_runCommand (s : Session τ) (id : Nat) (command : Command) (stage : CallStage)
    (h : s.tasks.get? id = some (.command command stage)) (input : Input) :
    Frame .command s (s.runCommand id command stage input) := by
  have hx : Scope.command.tasks (.command command stage) := trivial
  unfold runCommand
  split
  · exact .goOn s id _ h hx trivial trivial
  · exact .finish s id _ h hx trivial
  · exact .refl s

theorem frame_dispatchCommand (s : Session τ) (command : Command) :
    Frame .command s (s.dispatchCommand command) :=
  .spawn s _ trivial trivial

theorem frame_refreshed (s : Session τ) (id : Nat) (r : Except CallbackError EffectiveConfig)
    {x : Task} (h : s.tasks.get? id = some x) (hx : Scope.refresh.tasks x) :
    Frame .refresh s (s.refreshed id r) := by
  have read : Frame .refresh s (s.finishReading (.task id) r).2 :=
    .finishReading s _ r (by simp [Scope.refresh]) (by simp [Scope.refresh])
      (by simp [Scope.refresh]) fun _ => trivial
  unfold refreshed
  dsimp only
  split
  · refine read.trans (.trans (.update _ _ (.notify _ ?_) trivial)
      (.trans (.emit _ (.refreshed id _) trivial) (.finish _ id x ?_ hx trivial)))
    · simp [Scope.refresh]
    · rwa [tasks_emit, tasks_update, tasks_finishReading]
  · refine read.trans (.trans (.emit _ (.refreshed id _) trivial) (.finish _ id x ?_ hx trivial))
    rwa [tasks_emit, tasks_finishReading]

theorem frame_runRefresh (s : Session τ) (id : Nat) (stage : ReadStage)
    (h : s.tasks.get? id = some (.refresh stage)) (input : Input) :
    Frame .refresh s (s.runRefresh id stage input) := by
  have hx : Scope.refresh.tasks (.refresh stage) := trivial
  unfold runRefresh
  split
  · refine (Frame.enterGate s (.task id) (by simp [Scope.refresh]) trivial).trans ?_
    exact .setTask _ id _ _ (by rwa [tasks_enterGate]) hx trivial
  · split
    · exact .goOn s id _ h hx trivial trivial
    · exact .refl s
  · exact frame_refreshed s id _ h hx
  · exact .refl s

/-- Only the loop itself changes where it is. -/
theorem loop_runTask (s : Session τ) (id : Nat) (input : Input) :
    (s.runTask id input).loop = s.loop := by
  unfold runTask
  split
  · next h => exact (frame_runConfig s id _ _ h input).same .loop (by simp [Scope.config])
  · next h => exact (frame_runOffer s id _ _ h input).same .loop (by simp [Scope.offer])
  · next h => exact (frame_runPackages s id _ _ h input).same .loop (by simp [Scope.packages])
  · next h => exact (frame_runCommand s id _ _ h input).same .loop (by simp [Scope.command])
  · next h => exact (frame_runRefresh s id _ h input).same .loop (by simp [Scope.refresh])
  · rfl

end ManagedAgent.Session
