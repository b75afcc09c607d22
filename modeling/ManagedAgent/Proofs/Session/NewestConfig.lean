import ManagedAgent.Proofs.Session.LoopFrame

/-!
# Which of the offered configurations wins

One task at a time deals with offered configurations. `newestHash` is the hash of the configuration
that it comes to in the end: the one that waits, or else the one that it deals with, or else the one
of the recorded status. Nothing but an offer changes it (`OneConfigTask`), and an offer that is not
dropped makes it its own.

* `OneConfigTask.dispatchRemoteConfig` : an offer of the recorded hash changes nothing, any other is
  the newest;
* `newest_config_wins_iff` : once no task is active, the status is that of the last offer, unless
  this was dropped while another one was being dealt with.
-/

set_option autoImplicit false

namespace ManagedAgent

def Event.config? : Event → Option RemoteConfig
  | .routing i => i.remoteConfig
  | _ => none

def Task.config? : Task → Option (RemoteConfig × ConfigStage)
  | .remoteConfig config stage => some (config, stage)
  | _ => none

def ConfigStage.Fits (config : RemoteConfig) : ConfigStage → Prop
  | .saving status => status.hash = config.hash
  | _ => True

namespace Session
variable {τ : Type}

def offered (s : Session τ) : List RemoteConfig := s.history.filterMap Event.config?

def configTask? (s : Session τ) (id : Nat) : Option (RemoteConfig × ConfigStage) :=
  (s.tasks.get? id).bind Task.config?

def newestHash (s : Session τ) : Option Bytes :=
  match s.remoteConfig with
  | .idle => s.state.remoteConfigStatus.map (·.hash)
  | .running c => some c.hash
  | .runningThen _ d => some d.hash

/-- One task deals with the configuration that runs in the slot, and with none that is settled. -/
structure Runs (s : Session τ) (config : RemoteConfig) : Prop where
  fresh : s.state.isHandled config = false
  task : ∃ id stage, stage.Fits config ∧
    ∀ i, s.configTask? i = if i = id then some (config, stage) else none

/-- The slot tells which task there is. -/
def OneConfigTask (s : Session τ) : Prop :=
  match s.remoteConfig with
  | .idle => ∀ id, s.configTask? id = none
  | .running c => s.Runs c
  | .runningThen c d => s.Runs c ∧ s.state.isHandled d = false

theorem configTask?_of_tasks {s t : Session τ} (h : t.tasks = s.tasks) (id : Nat) :
    t.configTask? id = s.configTask? id := by
  unfold configTask?
  rw [h]

theorem configTask?_setTask (s : Session τ) (id : Nat) (config : RemoteConfig)
    (stage : ConfigStage) (i : Nat) :
    (s.setTask id (.remoteConfig config stage)).configTask? i =
      if i = id then some (config, stage) else s.configTask? i := by
  unfold configTask?
  show ((s.tasks.insert id (.remoteConfig config stage)).get? i).bind _ = _
  rw [Table.get?_insert]
  split <;> rfl

theorem configTask?_finish (s : Session τ) (id i : Nat) :
    (s.finish id).configTask? i = if i = id then none else s.configTask? i := by
  unfold configTask?
  show ((s.tasks.erase id).get? i).bind _ = _
  rw [Table.get?_erase]
  split <;> rfl

theorem configTask?_eq_some {s : Session τ} {id : Nat} {config : RemoteConfig}
    {stage : ConfigStage} :
    s.configTask? id = some (config, stage) ↔
      s.tasks.get? id = some (.remoteConfig config stage) := by
  unfold configTask?
  rw [Option.bind_eq_some_iff]
  constructor
  · rintro ⟨x, hx, hc⟩
    cases x with
    | remoteConfig => rw [hx]; cases hc; rfl
    | _ => exact absurd hc nofun
  · exact fun h => ⟨_, h, rfl⟩

theorem isHandled_of_status {s t : State} (h : t.remoteConfigStatus = s.remoteConfigStatus)
    (config : RemoteConfig) : t.isHandled config = s.isHandled config := by
  unfold State.isHandled
  rw [h]

theorem isHandled_iff {s : State} {config : RemoteConfig} :
    s.isHandled config = true ↔ ∃ status, s.remoteConfigStatus = some status ∧
      status.state ≠ .unset ∧ status.hash = config.hash := by
  unfold State.isHandled
  rw [Option.any_eq_true]
  refine exists_congr fun status => and_congr_right fun _ => ?_
  rw [Bool.and_eq_true, bne_iff_ne, beq_iff_eq]

/-- Two configurations of one hash are handled alike. -/
theorem isHandled_congr (s : State) {c d : RemoteConfig} (h : c.hash = d.hash) :
    s.isHandled c = s.isHandled d := by
  unfold State.isHandled
  rw [h]

namespace Scope

def apart : Scope where
  may a := a ≠ .remoteConfig ∧ a ≠ .state .remoteConfigStatus ∧ a ≠ .stopping
  logs e := e.config? = none
  tasks x := x.config? = none

end Scope

section Apart
variable {s t : Session τ}

theorem Frame.configSlot (h : Frame .apart s t) : t.remoteConfig = s.remoteConfig :=
  h.same .remoteConfig fun h => h.1 rfl

theorem Frame.status (h : Frame .apart s t) :
    t.state.remoteConfigStatus = s.state.remoteConfigStatus :=
  h.same (.state .remoteConfigStatus) fun h => h.2.1 rfl

theorem Frame.stopping (h : Frame .apart s t) : t.isStopping = s.isStopping :=
  h.same .stopping fun h => h.2.2 rfl

theorem Frame.offered_of_logs {S : Scope} (h : Frame S s t)
    (hl : ∀ e, S.logs e → e.config? = none) : t.offered = s.offered := by
  obtain ⟨es, he, hes⟩ := h.logged
  unfold Session.offered
  rw [he, List.filterMap_append, List.filterMap_eq_nil_iff.2 fun e hm => hl e (hes e hm),
    List.append_nil]

theorem Frame.offered (h : Frame .apart s t) : t.offered = s.offered :=
  h.offered_of_logs fun _ => id

theorem Frame.offered_of_config (h : Frame .config s t) : t.offered = s.offered := by
  refine h.offered_of_logs fun e he => ?_
  cases e with
  | called | ready | finished => rfl
  | _ => exact False.elim he

theorem Frame.stopping_of_config (h : Frame .config s t) : t.isStopping = s.isStopping :=
  h.same .stopping (by simp [Scope.config])

theorem Frame.configTask? (h : Frame .apart s t) (hn : s.Numbered) (id : Nat) :
    t.configTask? id = s.configTask? id := by
  refine Option.ext fun ⟨config, stage⟩ => ?_
  rw [configTask?_eq_some, configTask?_eq_some]
  exact h.task hn id _ nofun

theorem Frame.newestHash (h : Frame .apart s t) : t.newestHash = s.newestHash := by
  unfold Session.newestHash
  rw [h.configSlot, h.status]

theorem OneConfigTask.congr (hs : s.OneConfigTask) (hslot : t.remoteConfig = s.remoteConfig)
    (hstatus : t.state.remoteConfigStatus = s.state.remoteConfigStatus)
    (ht : ∀ i, t.configTask? i = s.configTask? i) : t.OneConfigTask := by
  have runs (c : RemoteConfig) (hc : s.Runs c) : t.Runs c := by
    obtain ⟨hf, id, stage, hfit, hid⟩ := hc
    exact ⟨(isHandled_of_status hstatus c).trans hf, id, stage, hfit, fun i => (ht i).trans (hid i)⟩
  unfold OneConfigTask at hs ⊢
  rw [hslot]
  cases h : s.remoteConfig with
  | idle =>
    rw [h] at hs
    exact fun id => (ht id).trans (hs id)
  | running c =>
    rw [h] at hs
    exact runs c hs
  | runningThen c d =>
    rw [h] at hs
    exact ⟨runs c hs.1, (isHandled_of_status hstatus d).trans hs.2⟩

theorem OneConfigTask.frame (hs : s.OneConfigTask) (hn : s.Numbered) (h : Frame .apart s t) :
    t.OneConfigTask :=
  hs.congr h.configSlot h.status (h.configTask? hn)

/-- Of all events only a routing can offer a configuration. -/
theorem Frame.apart_of {S : Scope} (h : Frame S s t) (hm : ∀ a, S.may a → Scope.apart.may a)
    (hl : ∀ i, ¬ S.logs (.routing i)) (ht : ∀ config stage, ¬ S.tasks (.remoteConfig config stage)) :
    Frame .apart s t := by
  refine h.mono hm (fun e he => ?_) fun x hx => ?_
  · cases e with
    | routing i => exact absurd he (hl i)
    | _ => rfl
  · cases x with
    | remoteConfig config stage => exact absurd hx (ht config stage)
    | _ => rfl

theorem Frame.apart_of_offer {kind : ConnectionKind} (h : Frame (.offer kind) s t) :
    Frame .apart s t :=
  h.apart_of (by simp [Scope.offer, Scope.apart, or_imp, forall_and]) (fun _ => id) fun _ _ => id

theorem Frame.apart_of_packages (h : Frame .packages s t) : Frame .apart s t :=
  h.apart_of (by simp [Scope.packages, Scope.apart]) (fun _ => id) fun _ _ => id

theorem Frame.apart_of_command (h : Frame .command s t) : Frame .apart s t :=
  h.apart_of (fun _ => False.elim) (fun _ => id) fun _ _ => id

theorem Frame.apart_of_refresh (h : Frame .refresh s t) : Frame .apart s t :=
  h.apart_of (by simp [Scope.refresh, Scope.apart]) (fun _ => id) fun _ _ => id

theorem Frame.apart_of_work (h : Frame .work s t) : Frame .apart s t :=
  h.apart_of (by simp [Scope.work, Scope.apart]) (fun _ => id) fun _ _ => id

theorem Frame.apart_of_rest (h : Frame .rest s t) : Frame .apart s t :=
  h.apart_of (by simp [Scope.rest, Scope.apart]) (fun _ => id) fun _ _ => id

theorem Frame.apart_of_calls (h : Frame .calls s t) : Frame .apart s t :=
  h.apart_of (by simp [Scope.calls, Scope.apart]) (fun _ => id) fun _ _ => id

end Apart

/-! ## The task -/

section Task
variable {s t : Session τ} {id : Nat} {config : RemoteConfig} {stage stage' : ConfigStage}

/-- What the slot has for the task that there is. -/
theorem OneConfigTask.slot (hs : s.OneConfigTask)
    (h : s.configTask? id = some (config, stage)) :
    s.Runs config ∧ stage.Fits config ∧ (∀ i, i ≠ id → s.configTask? i = none) ∧
      (s.remoteConfig = .running config ∨
        ∃ d, s.remoteConfig = .runningThen config d ∧ s.state.isHandled d = false) := by
  have own (c : RemoteConfig) (hc : s.Runs c) :
      c = config ∧ stage.Fits config ∧ ∀ i, i ≠ id → s.configTask? i = none := by
    obtain ⟨-, id', stage', hfit, ht⟩ := hc
    have hid := ht id
    rw [h] at hid
    split at hid
    · next hi =>
      subst hi
      obtain ⟨rfl, rfl⟩ := Prod.mk.inj (Option.some.inj hid)
      exact ⟨rfl, hfit, fun i hi => by rw [ht i, if_neg hi]⟩
    · contradiction
  unfold OneConfigTask at hs
  cases hslot : s.remoteConfig with
  | idle =>
    rw [hslot] at hs
    have := hs id
    rw [h] at this
    contradiction
  | running c =>
    rw [hslot] at hs
    obtain ⟨rfl, hfit, hothers⟩ := own c hs
    exact ⟨hs, hfit, hothers, .inl rfl⟩
  | runningThen c d =>
    rw [hslot] at hs
    obtain ⟨rfl, hfit, hothers⟩ := own c hs.1
    exact ⟨hs.1, hfit, hothers, .inr ⟨d, rfl, hs.2⟩⟩

/-- The task goes on to another stage. -/
theorem OneConfigTask.goOn (hs : s.OneConfigTask) (h : s.configTask? id = some (config, stage))
    (hslot : t.remoteConfig = s.remoteConfig)
    (hstatus : t.state.remoteConfigStatus = s.state.remoteConfigStatus)
    (ht : ∀ i, t.configTask? i = if i = id then some (config, stage') else s.configTask? i)
    (hfit : stage'.Fits config) : t.OneConfigTask := by
  obtain ⟨hruns, -, hothers, hcase⟩ := hs.slot h
  have runs : t.Runs config := by
    refine ⟨(isHandled_of_status hstatus config).trans hruns.fresh, id, stage', hfit, fun i => ?_⟩
    rw [ht i]
    split
    · rfl
    · next hi => exact hothers i hi
  unfold OneConfigTask
  rw [hslot]
  rcases hcase with hc | ⟨d, hc, hd⟩
  · rw [hc]
    exact runs
  · rw [hc]
    exact ⟨runs, (isHandled_of_status hstatus d).trans hd⟩

/-- The task has recorded the status of its configuration. -/
theorem nextConfig_spec (s : Session τ) (id : Nat) (config : RemoteConfig)
    (status : RemoteConfigStatus) (hgo : s.isStopping = false)
    (hothers : ∀ i, i ≠ id → s.configTask? i = none)
    (hslot : s.remoteConfig = .running config ∨ ∃ d, s.remoteConfig = .runningThen config d)
    (hstatus : s.state.remoteConfigStatus = some status) (hhash : status.hash = config.hash) :
    (s.nextConfig id).OneConfigTask ∧ (s.nextConfig id).newestHash = s.newestHash := by
  have ended (slot : Slot RemoteConfig) (i : Nat) :
      ({ s with remoteConfig := slot }.finish id).configTask? i = none := by
    rw [configTask?_finish]
    split
    · rfl
    · next hi => exact hothers i hi
  have hgo : ¬ s.isStopping = true := by rw [hgo]; exact Bool.false_ne_true
  unfold nextConfig
  rw [if_neg hgo]
  rcases hslot with hc | ⟨d, hc⟩
  · rw [hc]
    refine ⟨ended .idle, ?_⟩
    unfold newestHash
    rw [hc]
    show s.state.remoteConfigStatus.map (·.hash) = some config.hash
    rw [hstatus, ← hhash]
    rfl
  · rw [hc]
    show (if s.state.isHandled d = true then { s with remoteConfig := .idle }.finish id
      else { s with remoteConfig := .running d }.applyConfig id d).OneConfigTask ∧
      (if s.state.isHandled d = true then { s with remoteConfig := .idle }.finish id
      else { s with remoteConfig := .running d }.applyConfig id d).newestHash = _
    split
    · next hd =>
      obtain ⟨status', hs', -, hh⟩ := isHandled_iff.1 hd
      refine ⟨ended .idle, ?_⟩
      unfold newestHash
      rw [hc]
      show s.state.remoteConfigStatus.map (·.hash) = some d.hash
      rw [hs', ← hh]
      rfl
    · next hd =>
      refine ⟨⟨Bool.eq_false_iff.2 hd, id, .applying, trivial, fun i => ?_⟩, ?_⟩
      · show ({ s with remoteConfig := .running d }.setTask id
          (.remoteConfig d .applying)).configTask? i = _
        rw [configTask?_setTask]
        split
        · rfl
        · next hi => exact hothers i hi
      · unfold newestHash
        rw [hc]
        rfl

theorem OneConfigTask.statusSaved (hs : s.OneConfigTask) (hgo : s.isStopping = false)
    {status : RemoteConfigStatus} (h : s.configTask? id = some (config, .saving status)) :
    (s.statusSaved id status).OneConfigTask ∧
      (s.statusSaved id status).newestHash = s.newestHash := by
  obtain ⟨-, hhash, hothers, hcase⟩ := hs.slot h
  unfold Session.statusSaved
  have hspec := nextConfig_spec
    (s.update fun state => (state.setRemoteConfigStatus status).notify) id config status
  rw [remoteConfig_update, state_update] at hspec
  have hspec := hspec (by rw [isStopping_update]; exact hgo)
    (fun i hi => (configTask?_of_tasks (tasks_update _ _) i).trans (hothers i hi))
    (hcase.imp_right fun ⟨d, hd, _⟩ => ⟨d, hd⟩) rfl hhash
  refine ⟨hspec.1, hspec.2.trans ?_⟩
  unfold newestHash
  rw [remoteConfig_update]
  rcases hcase with hc | ⟨d, hc, -⟩
  · rw [hc]
  · rw [hc]

/-- A step of the task comes to the same configuration in the end. -/
theorem OneConfigTask.runConfig (hs : s.OneConfigTask) (hgo : s.isStopping = false)
    (h : s.tasks.get? id = some (.remoteConfig config stage)) {input : Input}
    (hc : input ≠ .answered (.applied (.error .cancelled))) :
    (s.runConfig id config stage input).OneConfigTask ∧
      (s.runConfig id config stage input).newestHash = s.newestHash := by
  have htask := configTask?_eq_some.2 h
  have advance (u : Session τ) (hu : Frame .apart s u) (ht : u.tasks = s.tasks)
      (stage' : ConfigStage) (hfit : stage'.Fits config) :
      (u.setTask id (.remoteConfig config stage')).OneConfigTask ∧
        (u.setTask id (.remoteConfig config stage')).newestHash = s.newestHash := by
    refine ⟨hs.goOn htask hu.configSlot hu.status (fun i => ?_) hfit, ?_⟩
    · rw [configTask?_setTask, configTask?_of_tasks ht]
    · exact hu.newestHash
  have call (u : Session τ) (hu : Frame .apart s u) (ht : u.tasks = s.tasks)
      (stage' : ConfigStage) (hfit : stage'.Fits config) (c : Call) :
      ((u.setTask id (.remoteConfig config stage')).call (.task id) c).OneConfigTask ∧
        ((u.setTask id (.remoteConfig config stage')).call (.task id) c).newestHash =
          s.newestHash := by
    obtain ⟨hone, hnew⟩ := advance u hu ht stage' hfit
    exact ⟨hone.congr rfl rfl fun _ => rfl, hnew⟩
  have save (u : Session τ) (hu : Frame .apart s u) (ht : u.tasks = s.tasks) (state : ApplyState)
      (error : String) : (u.saveStatus id config state error).OneConfigTask ∧
        (u.saveStatus id config state error).newestHash = s.newestHash :=
    call u hu ht (.saving ⟨config.hash, state, error⟩) rfl _
  have read (r : Except CallbackError EffectiveConfig) :
      Frame .apart s (s.finishReading (.task id) r).2 := by
    refine .finishReading s _ r ?_ ?_ ?_ fun _ => rfl
    all_goals simp [Scope.apart]
  unfold Session.runConfig
  split
  · unfold startConfig
    rw [(hs.slot htask).1.fresh, if_neg Bool.false_ne_true]
    exact call s (.refl s) rfl .applying trivial _
  · next r =>
    unfold configApplied
    split
    · split
      · next c _ _ =>
        have hu : Frame .apart s { s with state := (s.state.setEffectiveConfig c).2 } :=
          .setState s _ (.setEffectiveConfig _ c (by simp [Scope.apart]) (by simp [Scope.apart]))
        exact save _ hu rfl _ _
      · have hu : Frame .apart s (s.enterGate (.task id)).2 :=
          .enterGate s _ (by simp [Scope.apart]) rfl
        unfold readConfig
        refine advance _ hu (tasks_enterGate _ _) _ ?_
        split <;> trivial
      · exact save s (.refl s) rfl _ _
    · exact absurd rfl hc
    · exact save s (.refl s) rfl _ _
  · split
    · exact call s (.refl s) rfl .reading trivial _
    · exact ⟨hs, rfl⟩
  · exact save _ (read _) (tasks_finishReading _ _ _) _ _
  · exact hs.statusSaved hgo htask
  · exact ⟨hs, rfl⟩

end Task

/-! ## Offers -/

section Offer
variable {s : Session τ}

theorem OneConfigTask.runs (hs : s.OneConfigTask) {c : RemoteConfig}
    (h : s.remoteConfig.current? = some c) : s.Runs c := by
  unfold OneConfigTask at hs
  cases hslot : s.remoteConfig with
  | idle =>
    rw [hslot] at h
    cases h
  | running d =>
    rw [hslot] at h hs
    cases h
    exact hs
  | runningThen d _ =>
    rw [hslot] at h hs
    cases h
    exact hs.1

/-- An offer of the recorded hash changes nothing, and any other one is the newest. -/
theorem OneConfigTask.dispatchRemoteConfig (hs : s.OneConfigTask) (config : RemoteConfig) :
    (s.dispatchRemoteConfig config).OneConfigTask ∧
      (s.dispatchRemoteConfig config).newestHash =
        if s.state.isHandled config.withHash then s.newestHash else some config.withHash.hash := by
  unfold Session.dispatchRemoteConfig
  dsimp only
  split
  · exact ⟨hs, rfl⟩
  · next hnew =>
    have hnew : s.state.isHandled config.withHash = false := Bool.eq_false_iff.2 hnew
    cases hc : s.remoteConfig.current? with
    | none =>
      unfold OneConfigTask at hs
      rw [Slot.current?_eq_none.1 hc] at hs
      rw [Slot.offer_idle hc]
      refine ⟨⟨hnew, s.nextTask, .fresh, trivial, fun i => ?_⟩, rfl⟩
      show (s.setTask s.nextTask (.remoteConfig config.withHash .fresh)).configTask? i = _
      rw [configTask?_setTask, hs i]
    | some c =>
      have hruns := hs.runs hc
      rw [Slot.offer_busy hc]
      dsimp only
      split
      · next heq =>
        exact ⟨⟨hruns.fresh, hruns.task⟩, congrArg (fun c : RemoteConfig => some c.hash) heq⟩
      · exact ⟨⟨⟨hruns.fresh, hruns.task⟩, hnew⟩, rfl⟩

/-- The newest configuration is the recorded one exactly when no task is active. -/
theorem OneConfigTask.newestHash_eq_iff (hs : s.OneConfigTask) {config : RemoteConfig}
    (h : s.state.isHandled config = true) :
    s.newestHash = some config.hash ↔ ∀ id, s.configTask? id = none := by
  have other (c : RemoteConfig) (hc : s.state.isHandled c = false) :
      some c.hash ≠ some config.hash := fun he => by
    rw [isHandled_congr s.state (Option.some.inj he), h] at hc
    contradiction
  have busy (c : RemoteConfig) (hc : s.Runs c) : ¬ ∀ id, s.configTask? id = none := fun hn => by
    obtain ⟨-, id, stage, -, hid⟩ := hc
    have := hid id
    rw [hn id, if_pos rfl] at this
    contradiction
  unfold OneConfigTask at hs
  unfold newestHash
  cases hslot : s.remoteConfig with
  | idle =>
    rw [hslot] at hs
    obtain ⟨status, hstatus, -, hhash⟩ := isHandled_iff.1 h
    refine iff_of_true ?_ hs
    show s.state.remoteConfigStatus.map (·.hash) = _
    rw [hstatus, ← hhash]
    rfl
  | running c =>
    rw [hslot] at hs
    exact iff_of_false (other c hs.fresh) (busy c hs)
  | runningThen c d =>
    rw [hslot] at hs
    exact iff_of_false (other d hs.2) (busy c hs.1)

theorem OneConfigTask.newestHash_of_idle (hs : s.OneConfigTask)
    (h : ∀ id, s.configTask? id = none) :
    s.newestHash = s.state.remoteConfigStatus.map (·.hash) := by
  have idle (c : RemoteConfig) (hc : s.Runs c) : False := by
    obtain ⟨-, id, stage, -, hid⟩ := hc
    have := hid id
    rw [h id, if_pos rfl] at this
    contradiction
  unfold OneConfigTask at hs
  unfold newestHash
  cases hslot : s.remoteConfig with
  | idle => rfl
  | running c =>
    rw [hslot] at hs
    exact (idle c hs).elim
  | runningThen c d =>
    rw [hslot] at hs
    exact (idle c hs.1).elim

end Offer

/-! ## A step of the session -/

/-- The session goes on, and one task at a time deals with offered configurations. -/
structure Tended (s : Session τ) : Prop where
  numbered : s.Numbered
  going : s.isStopping = false
  one : s.OneConfigTask

/-- From `s` to `t` nothing is offered, and the newest configuration stays the newest. -/
structure Unmoved (s t : Session τ) : Prop where
  offered : t.offered = s.offered
  newest : t.newestHash = s.newestHash

structure Offers (s t : Session τ) (config : RemoteConfig) : Prop where
  offered : t.offered = s.offered ++ [config]
  newest : t.newestHash =
    if s.state.isHandled config.withHash then s.newestHash else some config.withHash.hash

section Step
variable {s t u : Session τ}

theorem Unmoved.trans (h₁ : Unmoved s t) (h₂ : Unmoved t u) : Unmoved s u :=
  ⟨h₂.offered.trans h₁.offered, h₂.newest.trans h₁.newest⟩

theorem Frame.unmoved (h : Frame .apart s t) : Unmoved s t := ⟨h.offered, h.newestHash⟩

theorem Tended.frame (hs : s.Tended) (h : Frame .apart s t) : t.Tended where
  numbered := h.numbered hs.numbered
  going := h.stopping.trans hs.going
  one := hs.one.frame hs.numbered h

theorem Offers.of_frame {config : RemoteConfig} (h : Frame .apart s t) (ho : Offers t u config) :
    Offers s u config where
  offered := by rw [ho.offered, h.offered]
  newest := by rw [ho.newest, isHandled_of_status h.status, h.newestHash]

theorem Offers.unmoved {config : RemoteConfig} (ho : Offers s t config) (h : Unmoved t u) :
    Offers s u config :=
  ⟨h.offered.trans ho.offered, h.newest.trans ho.newest⟩

theorem Tended.dispatch (hs : s.Tended) (i : Instruction) :
    (s.dispatch i).Tended ∧
      (Unmoved s (s.dispatch i) ∨ ∃ config, Offers s (s.dispatch i) config) := by
  have tail (t : Session τ) (h : (s.emit (.routing i)).withPart i.remoteConfig
      Session.dispatchRemoteConfig = t) : Frame .apart t (s.dispatch i) := by
    refine dispatch_tail (P := Frame .apart t) i ?_ ?_ ?_ s (by rw [h]; exact .refl t)
    · exact fun u _ c h => h.trans (frame_dispatchOffer u c).apart_of_offer
    · exact fun u p h => h.trans (frame_dispatchPackages u p).apart_of_packages
    · exact fun u c h => h.trans (frame_dispatchCommand u c).apart_of_command
  cases hi : i.remoteConfig with
  | none =>
    have h : Frame .apart s (s.dispatch i) :=
      .trans (.emit s (.routing i) hi) (tail _ (by rw [hi]; rfl))
    exact ⟨hs.frame h, .inl h.unmoved⟩
  | some config =>
    have hone : (s.emit (.routing i)).OneConfigTask := hs.one.congr rfl rfl fun _ => rfl
    have hdisp := hone.dispatchRemoteConfig config
    have hframe := frame_dispatchRemoteConfig (s.emit (.routing i)) config
    have htail := tail ((s.emit (.routing i)).dispatchRemoteConfig config) (by rw [hi]; rfl)
    have htended : ((s.emit (.routing i)).dispatchRemoteConfig config).Tended :=
      ⟨hframe.numbered hs.numbered, hframe.stopping_of_config.trans hs.going, hdisp.1⟩
    have hoffers : Offers s ((s.emit (.routing i)).dispatchRemoteConfig config) config := by
      refine ⟨hframe.offered_of_config.trans ?_, hdisp.2⟩
      have hroute : Event.config? (.routing i) = some config := hi
      show (s.history ++ [Event.routing i]).filterMap Event.config? = _
      rw [List.filterMap_append, List.filterMap_cons, hroute]
      rfl
    exact ⟨htended.frame htail, .inr ⟨config, hoffers.unmoved htail.unmoved⟩⟩

theorem Tended.runTask (hs : s.Tended) (id : Nat) {input : Input}
    (hc : input ≠ .answered (.applied (.error .cancelled))) :
    (s.runTask id input).Tended ∧ Unmoved s (s.runTask id input) := by
  have other {t : Session τ} (h : Frame .apart s t) : t.Tended ∧ Unmoved s t :=
    ⟨hs.frame h, h.unmoved⟩
  unfold Session.runTask
  split
  · next config stage h =>
    have hframe := frame_runConfig s id config stage h input
    have hrun := hs.one.runConfig hs.going h hc
    exact ⟨⟨hframe.numbered hs.numbered, hframe.stopping_of_config.trans hs.going, hrun.1⟩,
      hframe.offered_of_config, hrun.2⟩
  · next h => exact other (frame_runOffer s id _ _ h input).apart_of_offer
  · next h => exact other (frame_runPackages s id _ _ h input).apart_of_packages
  · next h => exact other (frame_runCommand s id _ _ h input).apart_of_command
  · next h => exact other (frame_runRefresh s id _ h input).apart_of_refresh
  · exact ⟨hs, rfl, rfl⟩

variable [Transport τ]

theorem Settles.apart {input : Input} (h : Settles s input t) : Frame .apart s t := by
  have reply (task : Nat) (r : Except TransportError Unit) : Frame .apart s (s.reply task r) :=
    .reply s task r (fun _ _ _ => rfl) rfl
  have restore (task : Nat) (previous : ConnectionSettings) (e : TransportError) :
      Frame .apart s (s.restore task previous e) :=
    .restore s task previous e (by simp [Scope.apart]) (fun _ _ _ => rfl) rfl rfl
  have take (u : Session τ) (number : UInt64) : Frame .apart u (u.update (·.delivered number)) :=
    .update u _ (.delivered _ number (by simp [Scope.apart])) rfl
  cases h with
  | nothing => exact .refl s
  | missed => exact .refl s
  | taken number => exact take s number
  | proved task previous number => exact (reply task _).trans (take _ number)
  | disproved task previous number e => exact restore task previous e
  | switched task previous => exact reply task _
  | unswitched task previous e => exact restore task previous e

theorem Goes.tended {routed : Option Instruction} (h : Goes routed s t) (hs : s.Tended) :
    t.Tended ∧ (Unmoved s t ∨ ∃ config, Offers s t config) ∧ (routed = none → Unmoved s t) := by
  induction h with
  | rest h =>
    have h := h.frame.apart_of_rest
    exact ⟨hs.frame h, .inl h.unmoved, fun _ => h.unmoved⟩
  | work h _ ih =>
    have h := h.frame.apart_of_work
    obtain ⟨ht, hmoved, hnone⟩ := ih (hs.frame h)
    refine ⟨ht, ?_, fun hr => h.unmoved.trans (hnone hr)⟩
    exact hmoved.imp h.unmoved.trans fun ⟨config, ho⟩ => ⟨config, ho.of_frame h⟩
  | route i _ ih =>
    obtain ⟨hd, hmoved⟩ := hs.dispatch i
    obtain ⟨ht, -, hnone⟩ := ih hd
    have hrest := hnone rfl
    refine ⟨ht, ?_, nofun⟩
    exact hmoved.imp (·.trans hrest) fun ⟨config, ho⟩ => ⟨config, ho.unmoved hrest⟩

theorem Tended.runLoop (hs : s.Tended) (input : Input) :
    (s.runLoop input).Tended ∧
      (Unmoved s (s.runLoop input) ∨ ∃ config, Offers s (s.runLoop input) config) := by
  rcases s.runLoop_cases input with ⟨-, h⟩ | ⟨u, routed, hset, hgo⟩
  · rw [h]
    exact ⟨hs, .inl ⟨rfl, rfl⟩⟩
  · obtain ⟨ht, hmoved, -⟩ := hgo.tended (hs.frame hset.apart)
    refine ⟨ht, ?_⟩
    exact hmoved.imp hset.apart.unmoved.trans fun ⟨config, ho⟩ => ⟨config, ho.of_frame hset.apart⟩

variable [Carrier τ]

/-- Stop is not requested, and the agent does not give up applying a configuration. -/
structure Undisturbed (actions : List (Action τ)) : Prop where
  going : Action.stop ∉ actions
  kept : ∀ id, Action.run (.task id) (.answered (.applied (.error .cancelled))) ∉ actions

theorem Tended.act (hs : s.Tended) {a : Action τ} (ha : Undisturbed [a]) :
    (s.act a).Tended ∧ (Unmoved s (s.act a) ∨ ∃ config, Offers s (s.act a) config) := by
  have other {t : Session τ} (h : Frame .apart s t) :
      t.Tended ∧ (Unmoved s t ∨ ∃ config, Offers s t config) := ⟨hs.frame h, .inl h.unmoved⟩
  by_cases hc : a.isCall = true
  · exact other (frame_act s a hc).apart_of_calls
  · cases a with
    | run actor input =>
      cases actor with
      | loop => exact hs.runLoop input
      | task id =>
        have hin : input ≠ .answered (.applied (.error .cancelled)) := by
          rintro rfl
          exact ha.kept id (List.mem_singleton.2 rfl)
        exact (hs.runTask id hin).imp_right .inl
    | use u => exact other (.setTransport s _ (by simp [Scope.apart]))
    | setInterval d => exact other (.setTransport s _ (by simp [Scope.apart]))
    | stop => exact absurd (List.mem_singleton.2 rfl) ha.going
    | _ => exact absurd rfl hc

/-- After the last offer nothing moves. -/
theorem Tended.after (hs : s.Tended) {actions : List (Action τ)} (ha : Undisturbed actions) :
    (s.after actions).Tended ∧ (Unmoved s (s.after actions) ∨
      ∃ before a later config, actions = before ++ a :: later ∧ (s.after before).Tended ∧
        Offers (s.after before) ((s.after before).act a) config ∧
        Unmoved ((s.after before).act a) (s.after actions)) := by
  induction actions generalizing s with
  | nil => exact ⟨hs, .inl ⟨rfl, rfl⟩⟩
  | cons a rest ih =>
    have hfirst : Undisturbed [a] :=
      ⟨fun h => ha.going (List.mem_cons.2 (.inl (List.mem_singleton.1 h))),
        fun id h => ha.kept id (List.mem_cons.2 (.inl (List.mem_singleton.1 h)))⟩
    have hrest : Undisturbed rest :=
      ⟨fun h => ha.going (List.mem_cons_of_mem _ h),
        fun id h => ha.kept id (List.mem_cons_of_mem _ h)⟩
    obtain ⟨ht, hmoved⟩ := hs.act hfirst
    obtain ⟨hu, hlast⟩ := ih ht hrest
    refine ⟨hu, ?_⟩
    rcases hlast with hstill | ⟨before, b, later, config, rfl, hb, ho, hl⟩
    · rcases hmoved with h | ⟨config, ho⟩
      · exact .inl (h.trans hstill)
      · exact .inr ⟨[], a, rest, config, rfl, hs, ho, hstill⟩
    · exact .inr ⟨a :: before, b, later, config, rfl, hb, ho, hl⟩

/-- **Which offered configuration wins.** Once no task deals with offered configurations, the status
is that of the last one offered, unless this was offered while a task was active and had the hash
of the status recorded then: such an offer is dropped, and what was under way wins. -/
theorem newest_config_wins_iff (transport : τ) (settings : StartSettings) (fresh : String)
    (actions : List (Action τ)) (ha : Undisturbed actions)
    (hidle : ∀ id, ((start transport settings fresh).after actions).configTask? id = none)
    (config : RemoteConfig)
    (hlast : ((start transport settings fresh).after actions).offered.getLast? = some config) :
    ∃ before a later, actions = before ++ a :: later ∧
      let s := (start transport settings fresh).after before
      let t := (start transport settings fresh).after actions
      (s.act a).offered = s.offered ++ [config] ∧ t.offered = (s.act a).offered ∧
        (t.state.remoteConfigStatus.map (·.hash) = some config.withHash.hash ↔
          ¬ ((∃ id task, s.configTask? id = some task) ∧
            s.state.isHandled config.withHash = true)) := by
  have hs : (start transport settings fresh).Tended := ⟨nofun, rfl, fun _ => rfl⟩
  obtain ⟨ht, hmoved⟩ := hs.after ha
  rcases hmoved with hstill | ⟨before, a, later, c, rfl, hb, ho, hl⟩
  · rw [hstill.offered] at hlast
    exact absurd hlast nofun
  · have hc : c = config := by
      rw [hl.offered, ho.offered, List.getLast?_concat] at hlast
      exact Option.some.inj hlast
    subst hc
    refine ⟨before, a, later, rfl, ho.offered, hl.offered, ?_⟩
    rw [← ht.one.newestHash_of_idle hidle, hl.newest, ho.newest]
    split
    · next hh =>
      rw [hb.one.newestHash_eq_iff hh]
      constructor
      · rintro hnone ⟨⟨id, task, htask⟩, -⟩
        rw [hnone id] at htask
        contradiction
      · intro hn id
        exact Option.eq_none_iff_forall_ne_some.2 fun task h => hn ⟨⟨id, task, h⟩, hh⟩
    · next hh => exact iff_of_true rfl fun h => hh h.2

/-! ## An offer that is dropped -/

/-- The configuration of the hash 2 is offered, and that of the hash 1 while the agent applies it. -/
def returning : List (Action Http.Sender) :=
  [.run .loop .look, .run .loop (.answered (.effective (.error .cancelled))),
    .run .loop (.exchanged (.ok (some { remoteConfig := some { hash := [2] } }))),
    .run (.task 0) .look, .setTime 30000, .run .loop .look,
    .run .loop (.exchanged (.ok (some { remoteConfig := some { hash := [1] } }))),
    .run (.task 0) (.answered (.applied (.ok {}))), .run (.task 0) (.answered (.done (.ok ())))]

def resumed : StartSettings :=
  { serverUrl := "http://a", remoteConfigStatus := some { hash := [1], state := .applied } }

theorem undisturbed_returning : Undisturbed returning where
  going h := by simp [returning] at h
  kept id h := by simp [returning] at h

theorem newest_config_wins_iff_returning :
    Undisturbed returning ∧ ∃ before a later, returning = before ++ a :: later ∧
      let s := (start ({} : Http.Sender) resumed "agent").after before
      let t := (start ({} : Http.Sender) resumed "agent").after returning
      (s.act a).offered = s.offered ++ [{ hash := [1] }] ∧ t.offered = (s.act a).offered ∧
        (t.state.remoteConfigStatus.map (·.hash) = some [1] ↔
          ¬ ((∃ id task, s.configTask? id = some task) ∧
            s.state.isHandled { hash := [1] } = true)) :=
  ⟨undisturbed_returning, newest_config_wins_iff {} resumed "agent" returning undisturbed_returning
    (fun _ => rfl) { hash := [1] } (by decide)⟩

/-- The configuration of the hash 1 is the last one offered, and that of the hash 2 wins. -/
theorem dropped_config_loses :
    let t := (start ({} : Http.Sender) resumed "agent").after returning
    Undisturbed returning ∧ (∀ id, t.configTask? id = none) ∧
      t.offered.getLast? = some { hash := [1] } ∧
      t.state.remoteConfigStatus.map (·.hash) = some [2] :=
  ⟨undisturbed_returning, fun _ => rfl, by decide, by decide⟩

end Step

end Session

end ManagedAgent
