import ManagedAgent.Proofs.Session.Knowledge
import ManagedAgent.Proofs.Session.Overlap

/-!
# The effects of an offered configuration, in their order

The agent's answer decides on the status of an offered configuration. The agent is asked to save the
status, and when it has done so the status is recorded and goes with the next report. What the
answer puts in force is recorded before that; reports may be assembled and get lost all the while.

* `exists_unrecorded_runConfig` : one task at a time has a status that is decided and not recorded;
* `remoteConfigStatus_act` : what is recorded is what was saved;
* `Fresh.act` : the server comes to know the configuration in force with the next report;
* `config_effects_come_in_order` : the account of a whole session.
-/

set_option autoImplicit false

namespace ManagedAgent

/-- After a configuration was put in force, one of its content is. -/
theorem State.exists_setEffectiveConfig (s : State) (c : EffectiveConfig) :
    ∃ d, (s.setEffectiveConfig c).2.outbox.effectiveConfig.value = some d ∧
      d.hash = c.rehash.hash := by
  unfold setEffectiveConfig
  dsimp only
  split
  · next h =>
    obtain ⟨d, hd, heq⟩ := (Option.any_eq_true _ _).1 h
    exact ⟨d, hd, beq_iff_eq.1 heq⟩
  · exact ⟨c.rehash, rfl, rfl⟩

/-! ## Statuses on their way -/

/-- The status that the agent's answer to the configuration decides on. A call that the agent gave
up decides nothing. -/
def RemoteConfig.verdict? (config : RemoteConfig) :
    Except CallbackError ApplyOutcome → Option RemoteConfigStatus
  | .ok _ => some ⟨config.hash, .applied, ""⟩
  | .error .cancelled => none
  | .error e => some ⟨config.hash, .failed, e.message⟩

namespace Task

def decided? : Task → Input → Option RemoteConfigStatus
  | .remoteConfig config .applying, .answered (.applied r) => config.verdict? r
  | _, _ => none

/-- The status that the agent has saved by a step of the task. -/
def saved? : Task → Input → Option RemoteConfigStatus
  | .remoteConfig _ (.saving status), .answered _ => some status
  | _, _ => none

/-- The status that the task has decided on and not recorded. -/
def unrecorded? : Task → Option RemoteConfigStatus
  | .remoteConfig config .queueing | .remoteConfig config .reading =>
    some ⟨config.hash, .applied, ""⟩
  | .remoteConfig _ (.saving status) => some status
  | _ => none

theorem unrecorded?_of_configRun? {x : Task} (h : x.configRun? = none) : x.unrecorded? = none := by
  cases x with
  | remoteConfig => cases h
  | _ => rfl

theorem unrecorded?_of_isFresh {x : Task} (h : x.isFresh = true) : x.unrecorded? = none := by
  cases x with
  | remoteConfig config stage =>
    cases stage with
    | fresh => rfl
    | _ => cases h
  | _ => rfl

theorem eq_of_call? {x : Task} {config : RemoteConfig}
    (h : x.call? = some (.applyRemoteConfig config)) : x = .remoteConfig config .applying := by
  unfold call? at h
  split at h
  all_goals cases h
  rfl

theorem unrecorded?_of_call? {x : Task} {status : RemoteConfigStatus}
    (h : x.call? = some (.saveStatus status)) : x.unrecorded? = some status := by
  unfold call? at h
  split at h
  all_goals cases h
  rfl

end Task

def Call.status? : Call → Option RemoteConfigStatus
  | .saveStatus status => some status
  | _ => none

namespace Session
variable {τ : Type} {s t : Session τ} {id : Nat}

def asked (s : Session τ) : List RemoteConfigStatus :=
  (s.begun .status).filterMap (·.2.status?)

theorem ignoresReplies_unrecorded : IgnoresReplies Task.unrecorded? := fun _ _ _ => rfl

/-! ## One status at a time -/

theorem view_unrecorded_nextConfig (s : Session τ) (id i : Nat) :
    (s.nextConfig id).view Task.unrecorded? i =
      if i = id then none else s.view Task.unrecorded? i := by
  rcases s.nextConfig_cases id with ⟨-, h⟩ | ⟨-, slot, next, -, h⟩
  · rw [h]
    exact view_finish s id i
  · rw [h]
    cases next with
    | none => exact view_finish { s with remoteConfig := slot } id i
    | some c => exact view_setTask { s with remoteConfig := slot } id (.remoteConfig c .applying) i

theorem runTask_of_config {config : RemoteConfig} {stage : ConfigStage}
    (h : s.tasks.get? id = some (.remoteConfig config stage)) (input : Input) :
    s.runTask id input = s.runConfig id config stage input := by
  unfold runTask
  rw [h]

/-- The task that has called the agent to apply the configuration. -/
theorem get?_of_applying {config : RemoteConfig}
    (h : s.calling? (.task id) = some (.applyRemoteConfig config)) :
    s.tasks.get? id = some (.remoteConfig config .applying) := by
  obtain ⟨x, hx, hcall⟩ := view_eq_some.1 h
  rw [hx, Task.eq_of_call? hcall]

/-- What is decided on waits in the task until it is recorded. -/
theorem exists_unrecorded_runConfig {config : RemoteConfig} {stage : ConfigStage}
    (h : s.tasks.get? id = some (.remoteConfig config stage)) (input : Input) :
    ∃ y : Option RemoteConfigStatus,
      (∀ i, (s.runConfig id config stage input).view Task.unrecorded? i =
        if i = id then y else s.view Task.unrecorded? i) ∧
      ((Task.remoteConfig config stage).saved? input).toList ++ y.toList =
        (s.view Task.unrecorded? id).toList ++
          ((Task.remoteConfig config stage).decided? input).toList := by
  have hnow : s.view Task.unrecorded? id = (Task.remoteConfig config stage).unrecorded? :=
    view_of_get? h
  have set {u : Session τ} (hu : u.tasks = s.tasks) (x : Task) (i : Nat) :
      (u.setTask id x).view Task.unrecorded? i =
        if i = id then x.unrecorded? else s.view Task.unrecorded? i := by
    rw [view_setTask, view_of_tasks hu]
  have stay (hx : (Task.remoteConfig config stage).saved? input = none)
      (hd : (Task.remoteConfig config stage).decided? input = none) :
      ∃ y : Option RemoteConfigStatus,
        (∀ i, s.view Task.unrecorded? i = if i = id then y else s.view Task.unrecorded? i) ∧
        ((Task.remoteConfig config stage).saved? input).toList ++ y.toList =
          (s.view Task.unrecorded? id).toList ++
            ((Task.remoteConfig config stage).decided? input).toList := by
    refine ⟨s.view Task.unrecorded? id, fun i => ?_, ?_⟩
    · split
      · next hi => rw [hi]
      · rfl
    · rw [hx, hd]
      exact (List.append_nil _).symm
  rw [hnow] at stay ⊢
  unfold runConfig
  split
  · unfold startConfig
    split
    · exact ⟨none, view_unrecorded_nextConfig s id, rfl⟩
    · exact ⟨none, set rfl (.remoteConfig config .applying), rfl⟩
  · unfold configApplied
    split
    · split
      · exact ⟨_, set rfl (.remoteConfig config (.saving ⟨config.hash, .applied, ""⟩)), rfl⟩
      · refine ⟨_, set (tasks_enterGate s (.task id)) (.remoteConfig config _), ?_⟩
        split <;> rfl
      · exact ⟨_, set rfl (.remoteConfig config (.saving ⟨config.hash, .applied, ""⟩)), rfl⟩
    · exact ⟨none, view_unrecorded_nextConfig s id, rfl⟩
    · next e hc =>
      refine ⟨_, set rfl (.remoteConfig config (.saving ⟨config.hash, .failed, e.message⟩)), ?_⟩
      cases e with
      | cancelled => exact absurd rfl hc
      | _ => rfl
  · split
    · exact ⟨_, set rfl (.remoteConfig config .reading), rfl⟩
    · exact stay rfl rfl
  · exact ⟨_, set (tasks_finishReading s _ _)
      (.remoteConfig config (.saving ⟨config.hash, .applied, ""⟩)), rfl⟩
  · next status _ =>
    refine ⟨none, fun i => ?_, rfl⟩
    refine (view_unrecorded_nextConfig _ id i).trans ?_
    rw [view_of_tasks (tasks_update s _)]
  · refine stay ?_ ?_
    · unfold Task.saved?
      split <;> grind
    · unfold Task.decided?
      split <;> grind

/-- From `s` to `t` the tasks decide on a status and have one saved, if they do: they keep what they
have not recorded, or the one task that has such a status goes on. -/
inductive Advances (s t : Session τ) (decided saved : Option RemoteConfigStatus) : Prop
  | stays (hv : ∀ i, t.view Task.unrecorded? i = s.view Task.unrecorded? i)
      (hd : decided = none) (hs : saved = none) : Advances s t decided saved
  | goes (id : Nat) (y : Option RemoteConfigStatus)
      (ho : ∀ i, i ≠ id → s.view Task.unrecorded? i = none)
      (hv : ∀ i, t.view Task.unrecorded? i = if i = id then y else s.view Task.unrecorded? i)
      (heq : saved.toList ++ y.toList = (s.view Task.unrecorded? id).toList ++ decided.toList) :
    Advances s t decided saved

/-- What was decided on is what was saved, and what one task has not recorded. -/
def Recounts (decided saved : List RemoteConfigStatus) (s : Session τ) : Prop :=
  ∃ r : Option (Nat × RemoteConfigStatus),
    (∀ i status, s.view Task.unrecorded? i = some status ↔ r = some (i, status)) ∧
      decided = saved ++ r.toList.map (·.2)

theorem Recounts.advance {decided saved : List RemoteConfigStatus}
    {d e : Option RemoteConfigStatus} (hs : Recounts decided saved s) (h : Advances s t d e) :
    Recounts (decided ++ d.toList) (saved ++ e.toList) t := by
  obtain ⟨r, hr, heq⟩ := hs
  cases h with
  | stays hv hd he =>
    subst hd he
    refine ⟨r, fun i status => by rw [hv, hr], ?_⟩
    rw [Option.toList_none, List.append_nil, List.append_nil, heq]
  | goes id y ho hv hstep =>
    have hlist : r.toList.map (·.2) = (s.view Task.unrecorded? id).toList := by
      cases hx : s.view Task.unrecorded? id with
      | none =>
        have hnone : r = none := by
          refine Option.eq_none_iff_forall_ne_some.2 fun ⟨i, status⟩ hri => ?_
          have hi := (hr i status).2 hri
          by_cases hne : i = id
          · rw [hne, hx] at hi
            contradiction
          · rw [ho i hne] at hi
            contradiction
        rw [hnone]
        rfl
      | some status =>
        rw [(hr id status).1 hx]
        rfl
    refine ⟨y.map (id, ·), fun i status => ?_, ?_⟩
    · rw [hv]
      by_cases hi : i = id
      · subst hi
        simp
      · rw [if_neg hi, ho i hi]
        simp [Ne.symm hi]
    · rw [heq, hlist, List.append_assoc, ← hstep, List.append_assoc]
      cases y <;> rfl

/-- A task that deals with an offered configuration is the only one. -/
theorem Orderly.view_unrecorded (hs : s.Orderly) {config : RemoteConfig} {stage : ConfigStage}
    (h : s.tasks.get? id = some (.remoteConfig config stage)) {i : Nat} (hi : i ≠ id) :
    s.view Task.unrecorded? i = none := by
  have hnone : s.view Task.configRun? i = none := by
    rw [(hs.config.only (view_configRun h)).2, if_neg hi]
  unfold view at hnone ⊢
  cases hx : s.tasks.get? i with
  | none => rfl
  | some x =>
    rw [hx] at hnone
    exact Task.unrecorded?_of_configRun? hnone

/-- A task of another sort neither decides on a status nor has one saved. -/
theorem Task.quiet_of_configRun? {x : Task} (h : x.configRun? = none) (input : Input) :
    x.decided? input = none ∧ x.saved? input = none := by
  cases x with
  | remoteConfig => cases h
  | _ => exact ⟨rfl, rfl⟩

theorem configRun?_of_scope {x y : Task} (hx : x.configRun? = none) (hy : (Scope.of x).tasks y) :
    y.configRun? = none := by
  cases x with
  | remoteConfig => cases hx
  | _ =>
    cases y with
    | remoteConfig => exact False.elim hy
    | _ => rfl

theorem advances_runTask (hs : s.Orderly) (id : Nat) (input : Input) :
    Advances s (s.runTask id input) ((s.tasks.get? id).bind (·.decided? input))
      ((s.tasks.get? id).bind (·.saved? input)) := by
  cases hx : s.tasks.get? id with
  | none =>
    rw [runTask_of_none hx]
    exact .stays (fun _ => rfl) rfl rfl
  | some x =>
    cases hc : x.configRun? with
    | none =>
      have hquiet := Task.quiet_of_configRun? hc input
      refine .stays (fun i => ?_) hquiet.1 hquiet.2
      exact (frame_runTask hx input).view hs.numbered
        (fun y hy => Task.unrecorded?_of_configRun? (configRun?_of_scope hc hy)) i
    | some run =>
      cases x with
      | remoteConfig config stage =>
        rw [runTask_of_config hx]
        obtain ⟨y, hv, heq⟩ := exists_unrecorded_runConfig hx input
        exact .goes id y (fun i hi => hs.view_unrecorded hx hi) hv heq
      | _ => cases hc

/-! ## What is recorded -/

theorem remoteConfigStatus_nextConfig (s : Session τ) (id : Nat) :
    (s.nextConfig id).state.remoteConfigStatus = s.state.remoteConfigStatus :=
  congrArg State.remoteConfigStatus (state_nextConfig s id)

theorem remoteConfigStatus_setEffectiveConfig (s : State) (c : EffectiveConfig) :
    (s.setEffectiveConfig c).2.remoteConfigStatus = s.remoteConfigStatus := by
  rcases s.setEffectiveConfig_snd c with h | h
  · rw [h]
  · rw [h]
    rfl

theorem remoteConfigStatus_runConfig (s : Session τ) (id : Nat) (config : RemoteConfig)
    (stage : ConfigStage) (input : Input) :
    (s.runConfig id config stage input).state.remoteConfigStatus =
      ((Task.remoteConfig config stage).saved? input).or s.state.remoteConfigStatus := by
  unfold runConfig
  split
  · unfold startConfig
    split
    · exact remoteConfigStatus_nextConfig s id
    · rfl
  · unfold configApplied
    split
    · split
      · exact remoteConfigStatus_setEffectiveConfig s.state _
      · exact congrArg State.remoteConfigStatus (state_enterGate s _)
      · rfl
    · exact remoteConfigStatus_nextConfig s id
    · rfl
  · split <;> rfl
  · next r =>
    refine (congrArg State.remoteConfigStatus (state_finishReading s _ r)).trans ?_
    cases r with
    | ok c => exact remoteConfigStatus_setEffectiveConfig s.state c
    | error => rfl
  · next status _ =>
    refine (remoteConfigStatus_nextConfig _ id).trans ?_
    rw [state_update]
    rfl
  · have hnone : (Task.remoteConfig config stage).saved? input = none := by
      unfold Task.saved?
      split <;> grind
    rw [hnone, Option.none_or]

theorem remoteConfigStatus_runTask (s : Session τ) (id : Nat) (input : Input) :
    (s.runTask id input).state.remoteConfigStatus =
      ((s.tasks.get? id).bind (·.saved? input)).or s.state.remoteConfigStatus := by
  cases hx : s.tasks.get? id with
  | none =>
    rw [runTask_of_none hx]
    rfl
  | some x =>
    have apart {S : Scope} (h : Frame S s (s.runTask id input))
        (hm : ¬ S.may (.state .remoteConfigStatus)) :
        (s.runTask id input).state.remoteConfigStatus = s.state.remoteConfigStatus :=
      h.same (.state .remoteConfigStatus) hm
    have hframe := frame_runTask hx input
    cases x with
    | remoteConfig config stage =>
      rw [runTask_of_config hx]
      exact remoteConfigStatus_runConfig s id config stage input
    | connection => exact apart hframe (by simp [Scope.of, Scope.offer])
    | packages => exact apart hframe (by simp [Scope.of, Scope.packages])
    | command => exact apart hframe fun h => h
    | refresh => exact apart hframe (by simp [Scope.of, Scope.refresh])

/-- The loop records no status. -/
theorem remoteConfigStatus_runLoop [Transport τ] (s : Session τ) (input : Input) :
    (s.runLoop input).state.remoteConfigStatus = s.state.remoteConfigStatus :=
  s.same_runLoop input (a := .state .remoteConfigStatus) (by simp [Scope.settling])
    (by simp [Scope.work]) id (by simp [Scope.rest])

/-! ## What the server comes to know -/

/-- The configuration in force is a good one. Every report after the first `n` tells of a good one,
and once the server has one of these reports, so does what the server knows. -/
structure Fresh (n : Nat) (good : EffectiveConfig → Prop) (attempts : List Attempt)
    (s : Session τ) : Prop where
  inForce : ∃ c, s.state.outbox.effectiveConfig.value = some c ∧ good c
  told : n < s.reports.length → ∃ c, (Parts.told s.reports).effectiveConfig = some c ∧ good c
  known : ∀ r, (r, true) ∈ attempts.drop n →
    ∃ c, (Parts.told (takenReports attempts)).effectiveConfig = some c ∧ good c

theorem Fresh.mono {n : Nat} {good good' : EffectiveConfig → Prop} {attempts : List Attempt}
    (hs : Fresh n good attempts s)
    (h : ∀ c, good c → good' c) : Fresh n good' attempts s where
  inForce := hs.inForce.imp fun c => And.imp_right (h c)
  told hn := (hs.told hn).imp fun c => And.imp_right (h c)
  known r hr := (hs.known r hr).imp fun c => And.imp_right (h c)

/-! ## What is saved -/

section Course
variable [Carrier τ]

def Action.decided? (s : Session τ) : Action τ → Option RemoteConfigStatus
  | .run (.task id) input => (s.tasks.get? id).bind (·.decided? input)
  | _ => none

def Action.saved? (s : Session τ) : Action τ → Option RemoteConfigStatus
  | .run (.task id) input => (s.tasks.get? id).bind (·.saved? input)
  | _ => none

/-- The calls to save that end are about the statuses that are saved. -/
theorem filterMap_ended_status (s : Session τ) (a : Action τ) :
    ((a.ended? s).filter (·.2.topic = .status)).toList.filterMap (·.2.status?) =
      (a.saved? s).toList := by
  have about (b : Actor) (c : Option Call) :
      ((c.map (b, ·)).filter (·.2.topic = .status)).toList.filterMap (·.2.status?) =
        (c.bind Call.status?).toList := by
    rw [filter_map_topic]
    cases c with
    | none => rfl
    | some c => cases c <;> rfl
  have dropped {c : Option Call} {p : Call → Bool} (h : c.bind Call.status? = none) :
      (c.filter p).bind Call.status? = none := by
    cases c with
    | none => rfl
    | some c =>
      rw [Option.filter_some]
      split
      · exact h
      · rfl
  cases a with
  | run actor input =>
    refine (about actor (s.ending? actor input)).trans (congrArg Option.toList ?_)
    cases actor with
    | loop =>
      refine dropped (c := s.loop.call?) ?_
      cases s.loop <;> rfl
    | task id =>
      show (((s.tasks.get? id).bind Task.call?).filter _).bind Call.status? =
        (s.tasks.get? id).bind (·.saved? input)
      cases s.tasks.get? id with
      | none => rfl
      | some x =>
        show (x.call?.filter _).bind Call.status? = x.saved? input
        cases x with
        | remoteConfig config stage =>
          cases stage with
          | saving status => cases input <;> rfl
          | _ => exact dropped rfl
        | connection kind settings stage =>
          refine dropped ?_
          cases stage <;> rfl
        | packages packages stage | command command stage | refresh stage =>
          refine dropped ?_
          cases stage <;> rfl
  | _ => rfl

variable [Transport τ]

def decided (s : Session τ) : List (Action τ) → List RemoteConfigStatus
  | [] => []
  | a :: rest => (a.decided? s).toList ++ (s.act a).decided rest

def saved (s : Session τ) : List (Action τ) → List RemoteConfigStatus
  | [] => []
  | a :: rest => (a.saved? s).toList ++ (s.act a).saved rest

theorem advances_act (hs : s.Orderly) (a : Action τ) :
    Advances s (s.act a) (a.decided? s) (a.saved? s) := by
  by_cases hc : a.isCall = true
  · have hv := view_act (v := Task.unrecorded?) s a hc hs.numbered rfl
    cases a with
    | run => cases hc
    | _ => exact .stays hv rfl rfl
  · cases a with
    | run actor input =>
      cases actor with
      | loop =>
        exact .stays (view_runLoop s hs.numbered input ignoresReplies_unrecorded
          fun _ => Task.unrecorded?_of_isFresh) rfl rfl
      | task id => exact advances_runTask hs id input
    | use u => exact .stays (fun _ => rfl) rfl rfl
    | setInterval d => exact .stays (fun _ => rfl) rfl rfl
    | stop => exact .stays ((frame_stop s).view hs.numbered fun _ => False.elim) rfl rfl
    | _ => exact absurd rfl hc

theorem Recounts.after {before done : List RemoteConfigStatus} (hs : Recounts before done s)
    (ho : s.Orderly) (actions : List (Action τ)) :
    Recounts (before ++ s.decided actions) (done ++ s.saved actions) (s.after actions) := by
  induction actions generalizing s before done with
  | nil =>
    rw [decided, saved, List.append_nil, List.append_nil]
    exact hs
  | cons a rest ih =>
    rw [decided, saved, ← List.append_assoc, ← List.append_assoc]
    exact ih (hs.advance (advances_act ho a)) (ho.act a)

/-- The recorded status is the one that was saved last. -/
theorem remoteConfigStatus_act (s : Session τ) (a : Action τ) :
    (s.act a).state.remoteConfigStatus = (a.saved? s).or s.state.remoteConfigStatus := by
  by_cases hc : a.isCall = true
  · have hv : (s.act a).state.remoteConfigStatus = s.state.remoteConfigStatus :=
      (frame_act s a hc).same (.state .remoteConfigStatus) (by simp [Scope.calls])
    cases a with
    | run => cases hc
    | _ => exact hv
  · cases a with
    | run actor input =>
      cases actor with
      | loop => exact remoteConfigStatus_runLoop s input
      | task id => exact remoteConfigStatus_runTask s id input
    | use u => rfl
    | setInterval d => rfl
    | stop => exact (frame_stop s).same (.state .remoteConfigStatus) (by simp [Scope.stop])
    | _ => exact absurd rfl hc

theorem remoteConfigStatus_after (s : Session τ) (actions : List (Action τ)) :
    (s.after actions).state.remoteConfigStatus =
      (s.saved actions).getLast?.or s.state.remoteConfigStatus := by
  induction actions generalizing s with
  | nil => rfl
  | cons a rest ih =>
    rw [after_cons, ih, remoteConfigStatus_act, saved, List.getLast?_append, Option.or_assoc]
    cases a.saved? s <;> rfl

theorem saved_eq_ended (s : Session τ) (actions : List (Action τ)) :
    (s.ended .status actions).filterMap (·.2.status?) = s.saved actions := by
  induction actions generalizing s with
  | nil => rfl
  | cons a rest ih => rw [ended, saved, List.filterMap_append, ih, filterMap_ended_status]

/-- The agent was asked to save what it has saved, and what it is asked to save now. -/
theorem asked_after (transport : τ) (settings : StartSettings) (fresh : String)
    (actions : List (Action τ)) :
    let s := start transport settings fresh
    let t := s.after actions
    t.asked = s.saved actions ∨
      ∃ id status, t.view Task.unrecorded? id = some status ∧
        t.asked = s.saved actions ++ [status] := by
  intro s t
  have hs : s.Separate := separate_start transport settings fresh
  have hr : s.Running .status none := fun a c => ⟨fun h => (by cases a <;> cases h.1), nofun⟩
  obtain ⟨r, hr, hb⟩ := hs.account (k := .status) ⟨nofun, nofun⟩ actions hr
    (show s.begun .status = [] ++ (none : Option (Actor × Call)).toList from rfl)
  have hasked : t.asked = s.saved actions ++ r.toList.filterMap (·.2.status?) := by
    unfold asked
    rw [hb, List.nil_append, List.filterMap_append, saved_eq_ended]
  cases r with
  | none => exact .inl (hasked.trans (List.append_nil _))
  | some x =>
    obtain ⟨actor, c⟩ := x
    obtain ⟨hcall, htopic⟩ := (hr actor c).2 rfl
    cases c with
    | saveStatus status =>
      cases actor with
      | loop => exact absurd (topic_of_loop hcall) (by rintro (h | h) <;> cases h)
      | task id =>
        obtain ⟨x, hx, hxc⟩ := view_eq_some.1 hcall
        exact .inr ⟨id, status, (view_of_get? hx).trans (Task.unrecorded?_of_call? hxc), hasked⟩
    | _ => cases htopic

/-- Statuses are decided on, then saved, and then recorded. -/
theorem asked_between (transport : τ) (settings : StartSettings) (fresh : String)
    (actions : List (Action τ)) :
    let s := start transport settings fresh
    let t := s.after actions
    s.saved actions <+: t.asked ∧ t.asked <+: s.decided actions ∧
      Recounts (s.decided actions) (s.saved actions) t := by
  intro s t
  have hnone : Recounts [] [] s := ⟨none, fun _ _ => ⟨nofun, nofun⟩, rfl⟩
  have hcounts := hnone.after (orderly_start transport settings fresh) actions
  rw [List.nil_append, List.nil_append] at hcounts
  have ⟨r, hr, hdecided⟩ := hcounts
  have hsaved : s.saved actions <+: s.decided actions := hdecided ▸ List.prefix_append _ _
  rcases asked_after transport settings fresh actions with hasked | ⟨id, status, hx, hasked⟩
  · have hasked : t.asked = s.saved actions := hasked
    rw [hasked]
    exact ⟨List.prefix_rfl, hsaved, hcounts⟩
  · obtain rfl := (hr id status).1 hx
    have hasked : t.asked = s.decided actions := hasked.trans hdecided.symm
    rw [hasked]
    exact ⟨hsaved, List.prefix_rfl, hcounts⟩

/-! ## The configuration in force -/

def Records (s : Session τ) (a : Action τ) (c : EffectiveConfig) : Prop :=
  s.state.outbox.effectiveConfig.value ≠ some c ∧
    (s.act a).state.outbox.effectiveConfig.value = some c

def Recorded (s : Session τ) (actions : List (Action τ)) (c : EffectiveConfig) : Prop :=
  ∃ before a later, actions = before ++ a :: later ∧ (s.after before).Records a c

theorem recorded_cons {a : Action τ} {rest : List (Action τ)} {c : EffectiveConfig}
    (h : s.Records a c ∨ (s.act a).Recorded rest c) : s.Recorded (a :: rest) c := by
  rcases h with h | ⟨before, b, later, rfl, h⟩
  · exact ⟨[], a, rest, rfl, h⟩
  · exact ⟨a :: before, b, later, rfl, h⟩

/-- What comes into force is good as well. -/
theorem Fresh.act {n : Nat} {good : EffectiveConfig → Prop} {attempts : List Attempt}
    (hs : Fresh n good attempts s) (hk : Known attempts s) (a : Action τ) :
    ∃ ended, Fresh n (fun c => good c ∨ s.Records a c) (attempts ++ ended) (s.act a) ∧
      Known (attempts ++ ended) (s.act a) ∧ ended.map (·.2) = (a.outcome? s).toList := by
  obtain ⟨ended, hend, ho, hview⟩ := hk.act a
  have hs : Fresh n (fun c => good c ∨ s.Records a c) attempts s := hs.mono fun c => .inl
  have hforce : ∃ c, (s.act a).state.outbox.effectiveConfig.value = some c ∧
      (good c ∨ s.Records a c) := by
    obtain ⟨c, hc, hgood⟩ := hs.inForce
    have hsome := isSome_effectiveConfig_act (s := s) a (hc ▸ rfl)
    obtain ⟨c', hc'⟩ := Option.isSome_iff_exists.1 hsome
    by_cases heq : c = c'
    · exact ⟨c, heq ▸ hc', hgood⟩
    · exact ⟨c', hc', .inr ⟨fun h => heq (Option.some.inj (hc.symm.trans h)), hc'⟩⟩
  refine ⟨ended, ⟨hforce, fun hn => ?_, fun r hr => ?_⟩, hend, ho⟩
  · by_cases hr : (s.act a).reports = s.reports
    · rw [hr] at hn ⊢
      exact hs.told hn
    · rw [told_act hk.tells hr]
      exact hforce
  · rw [hview]
    rw [List.drop_append] at hr
    cases hout : a.outcome? s with
    | none =>
      rw [hout] at ho
      obtain rfl := List.map_eq_nil_iff.1 ho
      rw [List.drop_nil, List.append_nil] at hr
      exact hs.known r hr
    | some isTaken =>
      rw [hout] at ho
      obtain ⟨x, rfl, rfl⟩ := List.map_eq_singleton_iff.1 ho
      by_cases htaken : x.2 = true
      · rw [htaken, if_pos rfl]
        refine hs.told (Nat.lt_of_not_le fun hle => ?_)
        have hflying : s.loop.number? ≠ none := fun hn => by
          rw [Action.outcome?_eq_none hn a] at hout
          contradiction
        rw [hk.along.length_reports hflying] at hle
        rw [List.drop_eq_nil_of_le (by omega), List.drop_eq_nil_of_le (by simp; omega)] at hr
        contradiction
      · rw [if_neg fun h => htaken (Option.some.inj h)]
        refine hs.known r ((List.mem_append.1 hr).resolve_right fun hx => htaken ?_)
        rw [← List.mem_singleton.1 (List.mem_of_mem_drop hx)]

theorem Fresh.after {n : Nat} {good : EffectiveConfig → Prop} {attempts : List Attempt}
    (hs : Fresh n good attempts s) (hk : Known attempts s) (actions : List (Action τ)) :
    ∃ ended, Fresh n (fun c => good c ∨ s.Recorded actions c) (attempts ++ ended)
      (s.after actions) ∧ Known (attempts ++ ended) (s.after actions) ∧
        ended.map (·.2) = s.outcomes actions := by
  induction actions generalizing s good attempts with
  | nil =>
    refine ⟨[], ?_, ?_, rfl⟩
    · rw [List.append_nil]
      exact hs.mono fun c => .inl
    · rwa [List.append_nil]
  | cons a rest ih =>
    obtain ⟨first, hfirst, hknown, hf⟩ := hs.act hk a
    obtain ⟨others, hothers, hk', ho⟩ := ih hfirst hknown
    refine ⟨first ++ others, ?_, by rwa [← List.append_assoc], by
      rw [List.map_append, hf, ho]; rfl⟩
    rw [← List.append_assoc]
    refine hothers.mono fun c hc => ?_
    rw [or_assoc] at hc
    exact hc.imp_right recorded_cons

/-- What the agent puts in force by its answer is in force then, or another of the same content. -/
theorem fresh_of_applied {attempts : List Attempt} (hk : Known attempts s) {config : RemoteConfig}
    (hx : s.tasks.get? id = some (.remoteConfig config .applying)) (c : EffectiveConfig) :
    let t := s.act (.run (.task id) (.answered (.applied (.ok ⟨true, some c⟩))))
    Fresh s.reports.length (fun d => d.hash = c.rehash.hash) attempts t ∧ Known attempts t := by
  intro t
  have ht : t = { s with state := (s.state.setEffectiveConfig c).2 }.saveStatus id config
      .applied "" := runTask_of_config hx _
  have hr : t.reports = s.reports := (frame_silent_runTask s id _).reports
  refine ⟨⟨?_, fun hn => ?_, fun r hm => ?_⟩, ?_⟩
  · rw [ht]
    exact s.state.exists_setEffectiveConfig c
  · rw [hr] at hn
    exact absurd hn (Nat.lt_irrefl _)
  · have hle : attempts.length ≤ s.reports.length := by
      have h := hk.along.ended_isPrefix.length_le
      rwa [List.length_map] at h
    rw [List.drop_eq_nil_of_le hle] at hm
    contradiction
  · obtain ⟨ended, hend, ho, -⟩ :=
      hk.act (.run (.task id) (.answered (.applied (.ok ⟨true, some c⟩))))
    obtain rfl := List.map_eq_nil_iff.1 ho
    rwa [List.append_nil] at hend

/-- The status that a report carries is the recorded one. -/
theorem remoteConfigStatus_of_report {statuses : List ConnectionStatus} (hs : s.Tells statuses)
    {a : Action τ} {r : Report} (hr : (s.act a).reports = s.reports ++ [r])
    {status : RemoteConfigStatus} (h : r.remoteConfigStatus = some status) :
    s.state.remoteConfigStatus = some status := by
  have hne : (s.act a).reports ≠ s.reports := by
    rw [hr]
    simp
  have hnow : (s.act a).state.remoteConfigStatus = some status := by
    have htold := told_act hs hne
    rw [hr, Parts.told_concat] at htold
    refine (congrArg Parts.remoteConfigStatus htold).symm.trans ?_
    show r.remoteConfigStatus.or _ = _
    rw [h]
    rfl
  rcases a.loop_cases with ⟨input, rfl⟩ | ha
  · exact (remoteConfigStatus_runLoop s input).symm.trans hnow
  · exact absurd ((frame_beside s a ha).filterMap_history fun _ he => he) hne

/-- A call that the agent gave up leaves the state as it is, and nothing is saved. -/
theorem asked_of_cancelled {config : RemoteConfig}
    (hx : s.tasks.get? id = some (.remoteConfig config .applying)) :
    let t := s.act (.run (.task id) (.answered (.applied (.error .cancelled))))
    t.state = s.state ∧ t.asked = s.asked := by
  intro t
  have ht : t = s.nextConfig id := runTask_of_config hx _
  refine ⟨by rw [ht, state_nextConfig], ?_⟩
  have hturn : Turn s (.task id) _ t := turn_runTask s id _
  refine congrArg (List.filterMap (·.2.status?)) (begun_of_turn hturn fun c hc htopic => ?_)
  cases c with
  | saveStatus status =>
    obtain ⟨x, hget, hcall⟩ := view_eq_some.1 hc
    have hv := (view_of_get? hget).trans (Task.unrecorded?_of_call? hcall)
    rw [ht, view_unrecorded_nextConfig, if_pos rfl] at hv
    contradiction
  | _ => cases htopic

/-- What the agent decides on, is asked to save and has saved in the course of a session, and what is
recorded. -/
structure SavedInOrder (s : Session τ) (resumed : Option RemoteConfigStatus)
    (actions : List (Action τ)) : Prop where
  /-- The last status that was saved is recorded, or the one of the start. -/
  recorded : (s.after actions).state.remoteConfigStatus = (s.saved actions).getLast?.or resumed
  saved : s.saved actions <+: (s.after actions).asked
  asked : (s.after actions).asked <+: s.decided actions
  /-- One status may be decided on and not recorded yet. -/
  decided : ∃ unrecorded? : Option (Nat × RemoteConfigStatus),
    (∀ id status, (s.after actions).view Task.unrecorded? id = some status ↔
      unrecorded? = some (id, status)) ∧
    s.decided actions = s.saved actions ++ unrecorded?.toList.map (·.2)

/-- What one action in the course of a session does about a configuration that is offered. -/
structure TakesEffect (s : Session τ) (resumed : Option RemoteConfigStatus)
    (before : List (Action τ)) (a : Action τ) (later : List (Action τ)) : Prop where
  /-- A report has the status that is recorded when it is assembled. -/
  report (r : Report) (hr : ((s.after before).act a).reports = (s.after before).reports ++ [r])
    (status : RemoteConfigStatus) (hstatus : r.remoteConfigStatus = some status) :
    (s.saved before).getLast?.or resumed = some status
  /-- A call that was given up leaves nothing behind. -/
  cancelled (id : Nat) (config : RemoteConfig)
    (hcall : (s.after before).calling? (.task id) = some (.applyRemoteConfig config))
    (ha : a = .run (.task id) (.answered (.applied (.error .cancelled)))) :
    ((s.after before).act a).state = (s.after before).state ∧
      ((s.after before).act a).asked = (s.after before).asked
  /-- Once the server has taken a report from after the call, it knows what the call put in force, or
  what came later. -/
  known (id : Nat) (config : RemoteConfig)
    (hcall : (s.after before).calling? (.task id) = some (.applyRemoteConfig config))
    (c : EffectiveConfig) (ha : a = .run (.task id) (.answered (.applied (.ok ⟨true, some c⟩)))) :
    let actions := before ++ a :: later
    let attempts := (s.after actions).reports.zip (s.outcomes actions)
    ∀ r, (r, true) ∈ attempts.drop (s.after before).reports.length →
      ∃ known, (Parts.told (takenReports attempts)).effectiveConfig = some known ∧
        (known.hash = c.rehash.hash ∨ ((s.after before).act a).Recorded later known)

/-- **The effects of an offered configuration come in order.** After any course of a session the
recorded status is the last one that the agent has saved, or the one of the start. What was saved,
what the agent was asked to save and what its answers have decided on are the same statuses in the
same order; of the last there may be one more, that of the task which is about to record it. A report
carries no other status than the one that is recorded when it is assembled. A call that the agent
gave up changes nothing and has nothing saved.

The reports with the status of a call that has put a configuration in force are assembled after the
call. Once the server has taken any report that is assembled after the call, it knows a configuration
of this content, or one that came into force later. -/
theorem config_effects_come_in_order (transport : τ) (settings : StartSettings) (fresh : String)
    (actions : List (Action τ)) :
    let s := start transport settings fresh
    SavedInOrder s settings.remoteConfigStatus actions ∧
      ∀ before a later, actions = before ++ a :: later →
        TakesEffect s settings.remoteConfigStatus before a later := by
  intro s
  have hrecorded (before : List (Action τ)) : (s.after before).state.remoteConfigStatus =
      (s.saved before).getLast?.or settings.remoteConfigStatus := s.remoteConfigStatus_after before
  obtain ⟨hsaved, hasked, hdecided⟩ := asked_between transport settings fresh actions
  refine ⟨⟨hrecorded actions, hsaved, hasked, hdecided⟩, ?_⟩
  rintro before a later rfl
  obtain ⟨first, hknown, hfirst⟩ := (known_start transport settings fresh).after before
  rw [List.nil_append] at hknown
  have hknown : Known first (s.after before) := hknown
  refine ⟨fun r hr status hstatus => ?_, fun id config hcall => ?_, fun id config hcall c ha => ?_⟩
  · rw [← hrecorded before]
    exact remoteConfigStatus_of_report hknown.tells hr hstatus
  · rintro rfl
    exact asked_of_cancelled (get?_of_applying hcall)
  · intro actions attempts r hr
    obtain ⟨hfresh, hk⟩ := fresh_of_applied hknown (get?_of_applying hcall) c
    rw [← ha] at hfresh hk
    obtain ⟨ended, hlater, hk, hended⟩ := hfresh.after hk later
    have ht : s.after actions = ((s.after before).act a).after later :=
      s.after_append before (a :: later)
    have hattempts : attempts = first ++ ended := by
      have houtcomes : s.outcomes actions = (first ++ ended).map (·.2) := by
        rw [outcomes_append, List.map_append, hfirst, hended, ha]
        rfl
      show (s.after actions).reports.zip (s.outcomes actions) = _
      rw [houtcomes, ht, hk.along.zip_reports]
    rw [hattempts] at hr ⊢
    exact hlater.known r hr

/-- The agent is asked to apply a configuration, and a report is under way meanwhile. -/
def untilApplied : List (Action Http.Sender) :=
  [.run .loop .look, .run .loop (.answered (.effective (.error .cancelled))),
    .run .loop (.exchanged (.ok (some { remoteConfig := some { hash := [1] } }))),
    .run (.task 0) .look, .setTime 30000, .run .loop .look]

/-- The report gets lost, and so does the next one, during which the status is saved. The one after
that has the status. -/
def untilReported : List (Action Http.Sender) :=
  [.run .loop (.exchanged (.error .closed)), .setTime 60000, .run .loop .look,
    .run (.task 0) (.answered (.done (.ok ()))), .run .loop (.exchanged (.error .closed)),
    .run .loop .look, .run .loop (.exchanged (.ok none))]

theorem config_effects_come_in_order_lost :
    let s := start ({} : Http.Sender) { serverUrl := "http://a" } "agent"
    let a : Action Http.Sender := .run (.task 0) (.answered (.applied (.ok (.changedTo {}))))
    let u := s.after untilApplied
    let t := s.after (untilApplied ++ a :: untilReported)
    let attempts := t.reports.zip (s.outcomes (untilApplied ++ a :: untilReported))
    u.calling? (.task 0) = some (.applyRemoteConfig { hash := [1] }) ∧
      t.reports.map (·.remoteConfigStatus) = [none, none, none, some ⟨[1], .applied, ""⟩] ∧
      s.saved (untilApplied ++ a :: untilReported) = [⟨[1], .applied, ""⟩] ∧
      ((attempts.drop u.reports.length).any (·.2)) = true ∧
      ∃ known, (Parts.told (takenReports attempts)).effectiveConfig = some known ∧
        (known.hash = (EffectiveConfig.rehash {}).hash ∨ (u.act a).Recorded untilReported known) := by
  intro s a u t attempts
  have hcall : u.calling? (.task 0) = some (.applyRemoteConfig { hash := [1] }) := by decide
  have htaken : ((attempts.drop u.reports.length).any (·.2)) = true := by decide
  refine ⟨hcall, by decide, by decide, htaken, ?_⟩
  obtain ⟨⟨r, isTaken⟩, hr, rfl⟩ := List.any_eq_true.1 htaken
  have h := (config_effects_come_in_order ({} : Http.Sender) { serverUrl := "http://a" } "agent"
    (untilApplied ++ a :: untilReported)).2 untilApplied a untilReported rfl
  exact h.known 0 _ hcall {} rfl r hr

end Course

end Session

end ManagedAgent
