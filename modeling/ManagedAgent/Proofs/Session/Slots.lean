import ManagedAgent.Proofs.Session.TaskSteps

/-!
# One task to a slot

What runs in a slot is dealt with by one task, and a slot in which nothing runs has no task. Only
when stop was requested a task ends without freeing its slot, so that nothing starts any more.

* `Slot.Served` : the invariant of one slot and its tasks;
* `Slot.Served.offer`, `Slot.Served.release` : an offer, and the end of a run;
* `Orderly.act` : the slot of offered configurations and that of every kind of connection have it.
-/

set_option autoImplicit false

namespace ManagedAgent

/-! ## One slot -/

namespace Slot
variable {α : Type}

/-- The one task that deals with what runs, and whether it has called the agent; or no task. -/
inductive Served (isStopping : Bool) (slot : Slot α) (task? : Nat → Option (α × Bool)) : Prop
  | vacant (hs : slot = .idle ∨ isStopping = true) (hn : ∀ i, task? i = none)
  | busy (id : Nat) (x : α × Bool) (hc : slot.current? = some x.1)
      (ho : ∀ i, task? i = if i = id then some x else none)

namespace Served
variable {isStopping : Bool} {slot slot' : Slot α} {f g : Nat → Option (α × Bool)} {id : Nat}
  {x : α × Bool}

/-- A task is the only one, and what runs is what it deals with. -/
theorem only (h : slot.Served isStopping f) (hx : f id = some x) :
    slot.current? = some x.1 ∧ ∀ i, f i = if i = id then some x else none := by
  cases h with
  | vacant _ hn =>
    rw [hn] at hx
    contradiction
  | busy i y hc ho =>
    rw [ho] at hx
    split at hx
    · next hi =>
      subst hi
      obtain rfl : y = x := Option.some.inj hx
      exact ⟨hc, ho⟩
    · contradiction

theorem congr (h : slot.Served isStopping f) (hg : ∀ i, g i = f i) : slot.Served isStopping g := by
  rwa [funext hg]

theorem stop (h : slot.Served isStopping f) : slot.Served true f := by
  cases h with
  | vacant _ hn => exact .vacant (.inr rfl) hn
  | busy id x hc ho => exact .busy id x hc ho

/-- The task goes on with what it deals with. -/
theorem goOn (h : slot.Served isStopping f) (hx : f id = some x) {b : Bool}
    (hg : ∀ i, g i = if i = id then some (x.1, b) else f i) : slot.Served isStopping g := by
  obtain ⟨hc, ho⟩ := h.only hx
  refine .busy id (x.1, b) hc fun i => ?_
  rw [hg, ho]
  split <;> rfl

theorem finish (h : slot.Served isStopping f) (hx : f id = some x)
    (hg : ∀ i, g i = if i = id then none else f i) (hs : slot' = .idle ∨ isStopping = true) :
    slot'.Served isStopping g := by
  refine .vacant hs fun i => ?_
  rw [hg, (h.only hx).2]
  split <;> rfl

/-- The task hands the slot on. -/
theorem release {settled : α → Prop} {next : Option α} (h : slot.Served isStopping f)
    (hx : f id = some x) (hr : slot.Release settled slot' next)
    (hg : ∀ i, g i = if i = id then next.map (·, true) else f i) : slot'.Served isStopping g := by
  cases hr with
  | empty => exact h.finish hx hg (.inl rfl)
  | drop => exact h.finish hx hg (.inl rfl)
  | take a =>
    refine .busy id (a, true) rfl fun i => ?_
    rw [hg, (h.only hx).2]
    split <;> rfl

/-- An offer starts a task only where there is none. -/
theorem offer [DecidableEq α] (h : slot.Served isStopping f) (a : α) (n : Nat) :
    (slot.offer a).1.Served isStopping fun i =>
      if i = n then (slot.offer a).2.elim (f i) fun a => some (a, false) else f i := by
  cases hc : slot.current? with
  | none =>
    rw [offer_idle hc]
    cases h with
    | vacant _ hn =>
      refine .busy n (a, false) rfl fun i => ?_
      rw [hn]
      rfl
    | busy _ _ hx =>
      rw [hc] at hx
      contradiction
  | some c =>
    rw [offer_busy hc]
    dsimp only
    refine congr (f := f) ?_ fun i => ite_self _
    cases h with
    | vacant hs hn =>
      refine .vacant (hs.imp_left fun hs => ?_) hn
      rw [hs] at hc
      cases hc
    | busy id x hx ho =>
      obtain rfl : c = x.1 := Option.some.inj (hc.symm.trans hx)
      refine .busy id x ?_ ho
      split <;> rfl

end Served

end Slot

/-! ## The slots of a session -/

def ConfigStage.isBegun : ConfigStage → Bool
  | .fresh => false
  | _ => true

def OfferStage.isBegun : OfferStage → Bool
  | .fresh => false
  | _ => true

def Task.configRun? : Task → Option (RemoteConfig × Bool)
  | .remoteConfig config stage => some (config, stage.isBegun)
  | _ => none

def Task.offerRun? (kind : ConnectionKind) : Task → Option (ConnectionSettings × Bool)
  | .connection k settings stage => if k = kind then some (settings, stage.isBegun) else none
  | _ => none

namespace Session
variable {τ : Type} {s t : Session τ} {id : Nat} {kind : ConnectionKind}

theorem ignoresReplies_configRun : IgnoresReplies Task.configRun? := fun _ _ _ => rfl

theorem ignoresReplies_offerRun (kind : ConnectionKind) : IgnoresReplies (Task.offerRun? kind) :=
  fun _ _ _ => rfl

theorem offerRun?_self (kind : ConnectionKind) (settings : ConnectionSettings)
    (stage : OfferStage) :
    (Task.connection kind settings stage).offerRun? kind = some (settings, stage.isBegun) :=
  if_pos rfl

def ServesConfig (s : Session τ) : Prop :=
  s.remoteConfig.Served s.isStopping (s.view Task.configRun?)

def ServesOffers (s : Session τ) (kind : ConnectionKind) : Prop :=
  (s.offerSlot kind).Served s.isStopping (s.view (Task.offerRun? kind))

/-- Every slot has one task for what runs in it. -/
structure Orderly (s : Session τ) : Prop where
  numbered : s.Numbered
  config : s.ServesConfig
  offers : ∀ kind, s.ServesOffers kind

section Frames
variable {S : Scope}

theorem ServesConfig.congr (hs : s.ServesConfig) (hslot : t.remoteConfig = s.remoteConfig)
    (hstop : t.isStopping = s.isStopping)
    (hv : ∀ i, t.view Task.configRun? i = s.view Task.configRun? i) : t.ServesConfig := by
  unfold ServesConfig
  rw [hslot, hstop]
  exact Slot.Served.congr hs hv

theorem ServesOffers.congr (hs : s.ServesOffers kind)
    (hslot : t.offerSlot kind = s.offerSlot kind) (hstop : t.isStopping = s.isStopping)
    (hv : ∀ i, t.view (Task.offerRun? kind) i = s.view (Task.offerRun? kind) i) :
    t.ServesOffers kind := by
  unfold ServesOffers
  rw [hslot, hstop]
  exact Slot.Served.congr hs hv

theorem ServesConfig.frame (hs : s.ServesConfig) (h : Frame S s t) (hn : s.Numbered)
    (hm : ¬ S.may .remoteConfig) (hstop : ¬ S.may .stopping)
    (hx : ∀ x, S.tasks x → x.configRun? = none) : t.ServesConfig :=
  hs.congr (h.same .remoteConfig hm) (h.same .stopping hstop) (h.view hn hx)

theorem Frame.offerSlot_of (h : Frame S s t) (hm : ¬ S.may (.offers kind)) :
    t.offerSlot kind = s.offerSlot kind := congrArg (·.getD .idle) (h.same (.offers kind) hm)

theorem ServesOffers.frame (hs : s.ServesOffers kind) (h : Frame S s t) (hn : s.Numbered)
    (hm : ¬ S.may (.offers kind)) (hstop : ¬ S.may .stopping)
    (hx : ∀ x, S.tasks x → x.offerRun? kind = none) : t.ServesOffers kind :=
  hs.congr (h.offerSlot_of hm) (h.same .stopping hstop) (h.view hn hx)

/-- A step that concerns no slot and none of its tasks. -/
theorem Orderly.frame (hs : s.Orderly) (h : Frame S s t) (hc : ¬ S.may .remoteConfig)
    (ho : ∀ kind, ¬ S.may (.offers kind)) (hstop : ¬ S.may .stopping)
    (hx : ∀ x, S.tasks x → x.configRun? = none ∧ ∀ kind, x.offerRun? kind = none) :
    t.Orderly where
  numbered := h.numbered hs.numbered
  config := hs.config.frame h hs.numbered hc hstop fun x hS => (hx x hS).1
  offers kind := (hs.offers kind).frame h hs.numbered (ho kind) hstop fun x hS => (hx x hS).2 kind

/-- A step that concerns no slot, and of whose tasks nothing is seen but what was. -/
theorem Orderly.of_view (hs : s.Orderly) (h : Frame S s t) (hc : ¬ S.may .remoteConfig)
    (ho : ∀ kind, ¬ S.may (.offers kind)) (hstop : ¬ S.may .stopping)
    (hv : ∀ {σ : Type} {v : Task → Option σ}, IgnoresReplies v → ∀ i, t.view v i = s.view v i) :
    t.Orderly where
  numbered := h.numbered hs.numbered
  config := hs.config.congr (h.same .remoteConfig hc) (h.same .stopping hstop)
    (hv ignoresReplies_configRun)
  offers kind := (hs.offers kind).congr (h.offerSlot_of (ho kind)) (h.same .stopping hstop)
    (hv (ignoresReplies_offerRun kind))

end Frames

/-! ## Offered configurations -/

section Config
variable {config : RemoteConfig} {stage : ConfigStage}

theorem view_configRun (h : s.tasks.get? id = some (.remoteConfig config stage)) :
    s.view Task.configRun? id = some (config, stage.isBegun) := view_of_get? h

/-- The task is over, or goes on with what was offered meanwhile. -/
theorem ServesConfig.nextConfig (hs : s.ServesConfig) {x : RemoteConfig × Bool}
    (h : s.view Task.configRun? id = some x) : (s.nextConfig id).ServesConfig := by
  rcases s.nextConfig_cases id with ⟨hstop, heq⟩ | ⟨-, slot, next, hr, heq⟩
  · rw [heq]
    exact Slot.Served.finish hs h (view_finish s id) (.inr hstop)
  · rw [heq]
    cases next with
    | none => exact Slot.Served.release hs h hr (view_finish { s with remoteConfig := slot } id)
    | some c =>
      exact Slot.Served.release hs h hr (view_setTask { s with remoteConfig := slot } id
        (.remoteConfig c .applying))

theorem ServesConfig.runConfig (hs : s.ServesConfig)
    (h : s.tasks.get? id = some (.remoteConfig config stage)) (input : Input) :
    (s.runConfig id config stage input).ServesConfig := by
  have hv := view_configRun h
  have hrun := runConfig_cases h input
  generalize s.runConfig id config stage input = t at hrun
  cases hrun with
  | stay => exact hs
  | skip => exact hs.nextConfig hv
  | ask => exact Slot.Served.goOn hs hv (view_setTask s id (.remoteConfig config .applying))
  | cancel => exact hs.nextConfig hv
  | move _ new hf _ ht hu =>
    unfold ServesConfig
    rw [hu.same .remoteConfig (by simp [Scope.heeding]), hu.same .stopping (by simp [Scope.heeding])]
    have ht : t.tasks = (s.setTask id (.remoteConfig config new)).tasks := ht
    exact Slot.Served.goOn hs hv fun i => (view_of_tasks ht i).trans (view_setTask s id _ i)
  | save status =>
    have hu := hs.congr (remoteConfig_update s _) (isStopping_update s _)
      (view_of_tasks (tasks_update s fun state => (state.setRemoteConfigStatus status).notify))
    exact hu.nextConfig ((view_of_tasks (tasks_update s _) id).trans hv)

theorem ServesConfig.dispatchRemoteConfig (hs : s.ServesConfig) (config : RemoteConfig) :
    (s.dispatchRemoteConfig config).ServesConfig := by
  have h := Slot.Served.offer hs config.withHash s.nextTask
  unfold Session.dispatchRemoteConfig
  dsimp only
  split
  · exact hs
  · split
    · next slot heq =>
      rw [heq] at h
      exact h.congr fun i => (ite_self _).symm
    · next slot c heq =>
      rw [heq] at h
      exact h.congr (view_spawn { s with remoteConfig := slot } (.remoteConfig c .fresh))

end Config

/-! ## Offered connection settings -/

section Offer
variable {settings : ConnectionSettings} {stage : OfferStage}

theorem offerSlot_setOfferSlot_self (s : Session τ) (kind : ConnectionKind)
    (slot : Slot ConnectionSettings) : (s.setOfferSlot kind slot).offerSlot kind = slot := by
  unfold offerSlot
  show ((s.offers.insert kind slot).get? kind).getD .idle = slot
  rw [Table.get?_insert, if_pos rfl]
  rfl

theorem view_offerRun (h : s.tasks.get? id = some (.connection kind settings stage)) :
    s.view (Task.offerRun? kind) id = some (settings, stage.isBegun) :=
  (view_of_get? h).trans (offerRun?_self kind settings stage)

theorem view_offerRun_eq_some {b : Bool} :
    s.view (Task.offerRun? kind) id = some (settings, b) ↔ ∃ stage, stage.isBegun = b ∧
      s.tasks.get? id = some (.connection kind settings stage) := by
  rw [view_eq_some]
  constructor
  · rintro ⟨x, hx, hv⟩
    unfold Task.offerRun? at hv
    split at hv
    · split at hv
      · next hk =>
        subst hk
        obtain ⟨rfl, rfl⟩ := Prod.mk.inj (Option.some.inj hv)
        exact ⟨_, rfl, hx⟩
      · contradiction
    · contradiction
  · rintro ⟨stage, rfl, h⟩
    exact ⟨_, h, offerRun?_self kind settings stage⟩

theorem view_setTask_offer (s : Session τ) (id : Nat) (kind : ConnectionKind)
    (settings : ConnectionSettings) (stage : OfferStage) (i : Nat) :
    (s.setTask id (.connection kind settings stage)).view (Task.offerRun? kind) i =
      if i = id then some (settings, stage.isBegun) else s.view (Task.offerRun? kind) i := by
  rw [view_setTask, offerRun?_self]

/-- The task is over, or goes on with what was offered meanwhile. -/
theorem ServesOffers.nextOffer (hs : s.ServesOffers kind) {x : ConnectionSettings × Bool}
    (h : s.view (Task.offerRun? kind) id = some x) : (s.nextOffer id kind).ServesOffers kind := by
  rcases s.nextOffer_cases id kind with ⟨hstop, heq⟩ | ⟨-, slot, next, hr, heq⟩
  · rw [heq]
    exact Slot.Served.finish hs h (view_finish s id) (.inr hstop)
  · have hslot := offerSlot_setOfferSlot_self s kind slot
    rw [heq]
    unfold ServesOffers
    cases next with
    | none =>
      show Slot.Served _ ((s.setOfferSlot kind slot).offerSlot kind) _
      rw [hslot]
      exact Slot.Served.release hs h hr (view_finish (s.setOfferSlot kind slot) id)
    | some c =>
      show Slot.Served _ ((s.setOfferSlot kind slot).offerSlot kind) _
      rw [hslot]
      exact Slot.Served.release hs h hr
        (view_setTask_offer (s.setOfferSlot kind slot) id kind c .asking)

theorem ServesOffers.runOffer (hs : s.ServesOffers kind)
    (h : s.tasks.get? id = some (.connection kind settings stage)) (input : Input) :
    (s.runOffer id kind settings stage input).ServesOffers kind := by
  have hv := view_offerRun h
  have hrun := runOffer_cases s id kind settings stage input
  generalize s.runOffer id kind settings stage input = t at hrun
  cases hrun with
  | stay => exact hs
  | skip => exact hs.nextOffer hv
  | ask => exact Slot.Served.goOn hs hv (view_setTask_offer s id kind settings .asking)
  | request =>
    have hset : (s.setTask id (.connection kind settings .requesting)).ServesOffers kind :=
      Slot.Served.goOn hs hv (view_setTask_offer s id kind settings .requesting)
    rcases request_eq (s.setTask id (.connection kind settings .requesting)) ⟨id, settings⟩ with
      h | h
    · rw [h]
      exact hset
    · rw [h]
      exact hset
  | conclude e =>
    have hc := frame_conclude s kind settings e
    have ht := tasks_conclude s kind settings e
    refine (hs.congr (hc.offerSlot_of ?_) (hc.same .stopping ?_) (view_of_tasks ht)).nextOffer
      ((view_of_tasks ht id).trans hv)
    all_goals simp [Scope.concluding]

theorem ServesOffers.dispatchOffer (hs : s.ServesOffers kind) (settings : ConnectionSettings) :
    (s.dispatchOffer kind settings).ServesOffers kind := by
  have h := Slot.Served.offer hs (s.state.connections.complete kind settings) s.nextTask
  unfold Session.dispatchOffer
  dsimp only
  split
  · exact hs
  · split
    · next slot heq =>
      rw [heq] at h
      unfold ServesOffers
      rw [offerSlot_setOfferSlot_self]
      exact h.congr fun i => (ite_self _).symm
    · next slot c heq =>
      rw [heq] at h
      unfold ServesOffers
      show Slot.Served _ ((s.setOfferSlot kind slot).offerSlot kind) _
      rw [offerSlot_setOfferSlot_self]
      exact h.congr fun i => view_setTask_offer (s.setOfferSlot kind slot) s.nextTask kind c .fresh i

end Offer

/-! ## A step of the session -/

section Step

theorem orderly_start (transport : τ) (settings : StartSettings) (fresh : String) :
    (start transport settings fresh).Orderly :=
  ⟨nofun, .vacant (.inl rfl) fun _ => rfl, fun _ => .vacant (.inl rfl) fun _ => rfl⟩

theorem Orderly.emit (hs : s.Orderly) (e : Event) : (s.emit e).Orderly :=
  ⟨hs.numbered, hs.config, hs.offers⟩

theorem offerRun?_of_ne {k : ConnectionKind} (h : k ≠ kind) (x : Task)
    (hx : (Scope.offer k).tasks x) : x.offerRun? kind = none := by
  cases x with
  | connection k' settings stage =>
    have hk : k' = k := hx
    exact if_neg (hk ▸ h)
  | _ => rfl

/-- Where the offered configuration alone is concerned, no other slot is. -/
theorem Orderly.of_config (hs : s.Orderly) (h : Frame .config s t) (hc : t.ServesConfig) :
    t.Orderly where
  numbered := h.numbered hs.numbered
  config := hc
  offers kind := by
    refine (hs.offers kind).frame h hs.numbered (by simp [Scope.config]) (by simp [Scope.config]) ?_
    intro x hx
    cases x with
    | remoteConfig => rfl
    | _ => exact False.elim hx

theorem Orderly.of_offer (hs : s.Orderly) (h : Frame (.offer kind) s t)
    (ho : t.ServesOffers kind) : t.Orderly where
  numbered := h.numbered hs.numbered
  config := by
    refine hs.config.frame h hs.numbered (by simp [Scope.offer]) (by simp [Scope.offer]) ?_
    intro x hx
    cases x with
    | connection => rfl
    | _ => exact False.elim hx
  offers k := by
    by_cases hk : kind = k
    · exact hk ▸ ho
    · refine (hs.offers k).frame h hs.numbered ?_ (by simp [Scope.offer]) (offerRun?_of_ne hk)
      simp [Scope.offer, Ne.symm hk]

theorem Orderly.of_packages (hs : s.Orderly) (h : Frame .packages s t) : t.Orderly := by
  refine hs.frame h (by simp [Scope.packages]) (by simp [Scope.packages])
    (by simp [Scope.packages]) ?_
  intro x hx
  cases x with
  | packages => exact ⟨rfl, fun _ => rfl⟩
  | _ => exact False.elim hx

theorem Orderly.of_command (hs : s.Orderly) (h : Frame .command s t) : t.Orderly := by
  refine hs.frame h id (fun _ => id) id ?_
  intro x hx
  cases x with
  | command => exact ⟨rfl, fun _ => rfl⟩
  | _ => exact False.elim hx

theorem Orderly.of_refresh (hs : s.Orderly) (h : Frame .refresh s t) : t.Orderly := by
  refine hs.frame h (by simp [Scope.refresh]) (by simp [Scope.refresh]) (by simp [Scope.refresh]) ?_
  intro x hx
  cases x with
  | refresh => exact ⟨rfl, fun _ => rfl⟩
  | _ => exact False.elim hx

theorem Orderly.runTask (hs : s.Orderly) (id : Nat) (input : Input) :
    (s.runTask id input).Orderly := by
  unfold Session.runTask
  split
  · next h => exact hs.of_config (frame_runConfig s id _ _ h input) (hs.config.runConfig h input)
  · next kind _ _ h =>
    exact hs.of_offer (frame_runOffer s id _ _ h input) ((hs.offers kind).runOffer h input)
  · next h => exact hs.of_packages (frame_runPackages s id _ _ h input)
  · next h => exact hs.of_command (frame_runCommand s id _ _ h input)
  · next h => exact hs.of_refresh (frame_runRefresh s id _ h input)
  · exact hs

theorem Orderly.dispatch (hs : s.Orderly) (i : Instruction) : (s.dispatch i).Orderly := by
  refine dispatch_induction (P := Orderly) i ?_ ?_ ?_ ?_ s (hs.emit _)
  · exact fun t c _ h =>
      h.of_config (frame_dispatchRemoteConfig t c) (h.config.dispatchRemoteConfig c)
  · exact fun t kind c h => h.of_offer (frame_dispatchOffer t c) ((h.offers kind).dispatchOffer c)
  · exact fun t p h => h.of_packages (frame_dispatchPackages t p)
  · exact fun t c h => h.of_command (frame_dispatchCommand t c)

variable [Transport τ]

theorem Orderly.runLoop (hs : s.Orderly) (input : Input) : (s.runLoop input).Orderly := by
  rcases s.runLoop_cases input with ⟨-, h⟩ | ⟨u, routed, hset, hgo⟩
  · rw [h]
    exact hs
  · refine hgo.elim (M := Orderly) ?_ (fun u i hu => hu.dispatch i) ?_ ?_
    · intro u v h hu
      refine hu.of_view h.frame ?_ ?_ ?_ fun hv => h.view hu.numbered hv
      all_goals simp [Scope.work]
    · intro u v h hu
      refine hu.of_view h.frame ?_ ?_ ?_ fun hv => h.view hu.numbered hv
      all_goals simp [Scope.rest]
    · refine hs.of_view hset.frame ?_ ?_ ?_ fun hv => hset.view hv
      all_goals simp [Scope.settling]

variable [Carrier τ]

theorem Orderly.act (hs : s.Orderly) (a : Action τ) : (s.act a).Orderly := by
  by_cases hc : a.isCall = true
  · have h := frame_act s a hc
    constructor
    · exact h.numbered hs.numbered
    · exact hs.config.congr (h.same .remoteConfig (by simp [Scope.calls]))
        (h.same .stopping (by simp [Scope.calls])) (view_act s a hc hs.numbered rfl)
    · exact fun kind => (hs.offers kind).congr (h.offerSlot_of (by simp [Scope.calls]))
        (h.same .stopping (by simp [Scope.calls])) (view_act s a hc hs.numbered rfl)
  · cases a with
    | run actor input =>
      cases actor with
      | loop => exact hs.runLoop input
      | task id => exact hs.runTask id input
    | use u => exact ⟨hs.numbered, hs.config, hs.offers⟩
    | setInterval d => exact ⟨hs.numbered, hs.config, hs.offers⟩
    | stop =>
      show (if s.isRunning then s.requestStop else s).Orderly
      have hstop : { s with phase := .stopping }.Orderly :=
        ⟨hs.numbered, hs.config.stop, fun kind => (hs.offers kind).stop⟩
      unfold requestStop
      dsimp only
      split
      · split
        · exact hstop.emit _
        · exact hstop
      · exact hs
    | _ => exact absurd rfl hc

theorem Orderly.after (hs : s.Orderly) (actions : List (Action τ)) : (s.after actions).Orderly :=
  after_induction (fun _ a h => h.act a) hs actions

end Step

end Session

end ManagedAgent
