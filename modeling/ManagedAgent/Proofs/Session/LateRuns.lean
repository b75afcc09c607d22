import ManagedAgent.Proofs.Session.Notices
import ManagedAgent.Proofs.Session.Slots

/-!
# What begins after a request to stop

Once stop is requested, no task goes on with what was offered meanwhile. A task that has not begun
still does: one that was started before, or one that an instruction still starts, for whoever routes
it does not look whether stop was requested.

* `begun_act_of_stopping` : the calls that begin are the first ones of tasks that had not begun;
* `Spent` : the slot of a topic is busy with a run that has begun, or was left so; it stays so;
* `late_runs_are_first_runs` : what begins after a request to stop, and how much.
-/

set_option autoImplicit false

namespace ManagedAgent

/-- The topics whose payloads go through a slot. -/
def Topic.isOffer : Topic → Bool
  | .remoteConfig | .connection _ => true
  | _ => false

/-- Whether the task, if it is about the topic, has called the agent. -/
def Task.begun? (k : Topic) (x : Task) : Option Bool :=
  match k, x with
  | .remoteConfig, x => x.configRun?.map (·.2)
  | .connection kind, x => (x.offerRun? kind).map (·.2)
  | _, _ => none

namespace Session
variable {τ : Type} {s t : Session τ} {id : Nat} {k : Topic}

/-- The first call of a task about the topic that has not begun, if there is something to do. -/
def firstCall? (s : Session τ) (k : Topic) (id : Nat) : Option (Actor × Call) :=
  match s.tasks.get? id with
  | some (.remoteConfig config .fresh) =>
    if k = .remoteConfig ∧ s.state.isHandled config = false then
      some (.task id, .applyRemoteConfig config)
    else none
  | some (.connection kind settings .fresh) =>
    if k = .connection kind ∧ s.state.isSettled kind settings = false then
      some (.task id, .useConnection kind settings)
    else none
  | _ => none

/-- A task that ends does not hand its slot on. -/
theorem nextConfig_of_stopping (h : s.isStopping = true) (id : Nat) :
    s.nextConfig id = s.finish id := by
  unfold nextConfig
  exact if_pos h

theorem nextOffer_of_stopping (h : s.isStopping = true) (id : Nat) (kind : ConnectionKind) :
    s.nextOffer id kind = s.finish id := by
  unfold nextOffer
  exact if_pos h

theorem begun_finish (s : Session τ) (id : Nat) (k : Topic) : (s.finish id).begun k = s.begun k :=
  begun_of_calls (calls_emit _ rfl)

theorem begun_runConfig_of_stopping (hs : s.isStopping = true) {config : RemoteConfig}
    {stage : ConfigStage} (h : s.tasks.get? id = some (.remoteConfig config stage))
    (hf : stage ≠ .fresh) (input : Input) :
    (s.runConfig id config stage input).begun .remoteConfig = s.begun .remoteConfig := by
  have hturn := turn_runConfig h input
  have hrun := runConfig_cases h input
  generalize s.runConfig id config stage input = t at hrun hturn
  cases hrun with
  | stay => rfl
  | skip hfresh => exact absurd hfresh hf
  | ask hfresh => exact absurd hfresh hf
  | cancel =>
    rw [nextConfig_of_stopping hs]
    exact begun_finish s id _
  | move _ new _ hn ht =>
    refine begun_of_turn hturn fun c hc => ?_
    have hget : t.tasks.get? id = some (.remoteConfig config new) := by
      rw [ht, Table.get?_insert, if_pos rfl]
    have hc : t.view Task.call? id = some c := hc
    rw [view_of_get? hget] at hc
    cases new with
    | fresh | applying => exact False.elim hn
    | queueing => cases hc
    | reading | saving => obtain rfl := Option.some.inj hc; exact nofun
  | save status =>
    have hu (f : State → State) : (s.update f).isStopping = true := by rwa [isStopping_update]
    unfold statusSaved
    rw [nextConfig_of_stopping (hu _), begun_finish]
    exact begun_of_calls (Calm.update s _).calls

theorem begun_runOffer_of_stopping (hs : s.isStopping = true) {kind : ConnectionKind}
    {settings : ConnectionSettings} {stage : OfferStage} (hf : stage ≠ .fresh) (input : Input) :
    (s.runOffer id kind settings stage input).begun (.connection kind) =
      s.begun (.connection kind) := by
  have hrun := runOffer_cases s id kind settings stage input
  generalize s.runOffer id kind settings stage input = t at hrun
  cases hrun with
  | stay => rfl
  | skip hfresh => exact absurd hfresh hf
  | ask hfresh => exact absurd hfresh hf
  | request => exact begun_of_calls (Calm.request _ _).calls
  | conclude e =>
    have hframe := frame_conclude s kind settings e
    have hu : (s.conclude kind settings e).isStopping = true :=
      Eq.trans (hframe.same .stopping (by simp [Scope.concluding])) hs
    rw [nextOffer_of_stopping hu, begun_finish]
    exact begun_of_calls (hframe.filterMap_history fun e he => by cases e <;> trivial)

/-- The tasks about a topic that have not begun. -/
theorem begun?_eq_false {x : Task} : x.begun? k = some false ↔
    (∃ config, k = .remoteConfig ∧ x = .remoteConfig config .fresh) ∨
      ∃ kind settings, k = .connection kind ∧ x = .connection kind settings .fresh := by
  constructor
  · intro h
    cases k with
    | remoteConfig =>
      cases x with
      | remoteConfig config stage =>
        cases stage with
        | fresh => exact .inl ⟨config, rfl, rfl⟩
        | _ => cases h
      | _ => cases h
    | connection kind =>
      cases x with
      | connection kind' settings stage =>
        by_cases hk : kind' = kind
        · subst hk
          have h : ((Task.connection kind' settings stage).offerRun? kind').map (·.2) = _ := h
          rw [offerRun?_self] at h
          cases stage with
          | fresh => exact .inr ⟨kind', settings, rfl, rfl⟩
          | _ => cases h
        · have h : ((Task.connection kind' settings stage).offerRun? kind).map (·.2) = _ := h
          rw [show (Task.connection kind' settings stage).offerRun? kind = none from if_neg hk] at h
          cases h
      | _ => cases h
    | _ => cases h
  · rintro (⟨config, rfl, rfl⟩ | ⟨kind, settings, rfl, rfl⟩)
    · rfl
    · exact congrArg (Option.map (·.2)) (offerRun?_self kind settings .fresh)

theorem firstCall?_eq_none {x : Task} (h : s.tasks.get? id = some x)
    (hx : x.begun? k ≠ some false) : s.firstCall? k id = none := by
  unfold firstCall?
  rw [h]
  split
  · next config he =>
    obtain rfl := Option.some.inj he
    exact if_neg fun hk => hx (begun?_eq_false.2 (.inl ⟨config, hk.1, rfl⟩))
  · next kind settings he =>
    obtain rfl := Option.some.inj he
    exact if_neg fun hk => hx (begun?_eq_false.2 (.inr ⟨kind, settings, hk.1, rfl⟩))
  · rfl

theorem eq_remoteConfig_of_mem (ho : k.isOffer = true) {config : RemoteConfig}
    {stage : ConfigStage} (hk : k ∈ (Task.remoteConfig config stage).topics) :
    k = .remoteConfig := by
  cases k with
  | remoteConfig => rfl
  | connection => simp [Task.topics] at hk
  | _ => cases ho

/-- A task that has begun calls the agent for no other payload. -/
theorem begun_runTask_of_begun (hs : s.isStopping = true) (hn : s.Numbered)
    (hk : k.isOffer = true) {x : Task} (h : s.tasks.get? id = some x)
    (hx : x.begun? k ≠ some false) (input : Input) :
    (s.runTask id input).begun k = s.begun k := by
  by_cases hmem : k ∈ x.topics
  · cases x with
    | remoteConfig config stage =>
      have hrun : s.runTask id input = s.runConfig id config stage input := by
        unfold runTask
        rw [h]
      obtain rfl := eq_remoteConfig_of_mem hk hmem
      rw [hrun]
      refine begun_runConfig_of_stopping hs h ?_ input
      rintro rfl
      exact hx rfl
    | connection kind settings stage =>
      have hrun : s.runTask id input = s.runOffer id kind settings stage input := by
        unfold runTask
        rw [h]
      obtain rfl := List.mem_singleton.1 hmem
      rw [hrun]
      refine begun_runOffer_of_stopping hs ?_ input
      rintro rfl
      exact hx (begun?_eq_false.2 (.inr ⟨kind, settings, rfl, rfl⟩))
    | _ =>
      obtain rfl := List.mem_singleton.1 hmem
      cases hk
  · exact begun_runTask hn h input hmem

/-- What a task that has not begun does first. -/
theorem begun_runTask_look (hs : s.isStopping = true) {x : Task} (h : s.tasks.get? id = some x)
    (hx : x.begun? k = some false) :
    (s.runTask id .look).begun k = s.begun k ++ (s.firstCall? k id).toList := by
  rcases begun?_eq_false.1 hx with ⟨config, rfl, rfl⟩ | ⟨kind, settings, rfl, rfl⟩
  · have hrun : s.runTask id .look = s.startConfig id config := by
      unfold runTask
      rw [h]
      rfl
    rw [hrun]
    unfold startConfig firstCall?
    rw [h]
    dsimp only
    split
    · next hd =>
      rw [nextConfig_of_stopping hs, begun_finish, if_neg (by simp [hd])]
      exact (List.append_nil _).symm
    · next hd =>
      rw [if_pos ⟨rfl, by simpa using hd⟩]
      exact begun_call (s.setTask id (.remoteConfig config .applying)) _ (.applyRemoteConfig config)
  · have hrun : s.runTask id .look = s.startOffer id kind settings := by
      unfold runTask
      rw [h]
      rfl
    rw [hrun]
    unfold startOffer firstCall?
    rw [h]
    dsimp only
    split
    · next hd =>
      rw [nextOffer_of_stopping hs, begun_finish, if_neg (by simp [hd])]
      exact (List.append_nil _).symm
    · next hd =>
      rw [if_pos ⟨rfl, by simpa using hd⟩]
      exact begun_call (s.setTask id (.connection kind settings .asking)) _
        (.useConnection kind settings)

/-- A task that has not begun waits for nothing. -/
theorem runTask_of_fresh {x : Task} (h : s.tasks.get? id = some x) (hx : x.begun? k = some false)
    {input : Input} (hi : input ≠ .look) : s.runTask id input = s := by
  unfold runTask
  rw [h]
  rcases begun?_eq_false.1 hx with ⟨config, rfl, rfl⟩ | ⟨kind, settings, rfl, rfl⟩
  · cases input with
    | look => exact absurd rfl hi
    | _ => rfl
  · cases input with
    | look => exact absurd rfl hi
    | _ => rfl

/-! ## A slot whose run has begun -/

def IsBusy (s : Session τ) : Topic → Prop
  | .remoteConfig => s.remoteConfig.current? ≠ none
  | .connection kind => (s.offerSlot kind).current? ≠ none
  | _ => False

/-- The slot of the topic is not free, and there is no task about it that has not begun. -/
structure Spent (k : Topic) (s : Session τ) : Prop where
  busy : s.IsBusy k
  begun : ∀ id, s.view (Task.begun? k) id ≠ some false

/-- A step after which the slot is not free if it was not, and that starts no task about it. -/
structure Idles (k : Topic) (s t : Session τ) : Prop where
  busy : s.IsBusy k → t.IsBusy k
  begun : ∀ id, t.view (Task.begun? k) id = some false → s.view (Task.begun? k) id = some false

theorem Idles.refl (k : Topic) (s : Session τ) : Idles k s s := ⟨id, fun _ h => h⟩

theorem Idles.trans {u : Session τ} (h₁ : Idles k s t) (h₂ : Idles k t u) : Idles k s u :=
  ⟨fun h => h₂.busy (h₁.busy h), fun id h => h₁.begun id (h₂.begun id h)⟩

theorem Spent.idles (h : s.Spent k) (hi : Idles k s t) : t.Spent k :=
  ⟨hi.busy h.busy, fun id hid => h.begun id (hi.begun id hid)⟩

theorem Spent.firstCall? (h : s.Spent k) (id : Nat) : s.firstCall? k id = none := by
  cases hx : s.tasks.get? id with
  | none =>
    unfold Session.firstCall?
    rw [hx]
  | some x =>
    refine firstCall?_eq_none hx ?_
    rw [← view_of_get? (v := Task.begun? k) hx]
    exact h.begun id

/-- The slot of the topic is the same. -/
theorem isBusy_of_frame {S : Scope} (h : Frame S s t)
    (hc : k = .remoteConfig → ¬ S.may .remoteConfig)
    (ho : ∀ kind, k = .connection kind → ¬ S.may (.offers kind)) (hb : s.IsBusy k) :
    t.IsBusy k := by
  cases k with
  | remoteConfig =>
    have hslot : t.remoteConfig = s.remoteConfig := h.same .remoteConfig (hc rfl)
    show t.remoteConfig.current? ≠ none
    rw [hslot]
    exact hb
  | connection kind =>
    show (t.offerSlot kind).current? ≠ none
    rw [h.offerSlot_of (ho kind rfl)]
    exact hb
  | _ => exact hb

theorem idles_of_frame {S : Scope} (h : Frame S s t) (hn : s.Numbered)
    (hc : k = .remoteConfig → ¬ S.may .remoteConfig)
    (ho : ∀ kind, k = .connection kind → ¬ S.may (.offers kind))
    (hx : ∀ x, S.tasks x → x.begun? k ≠ some false) : Idles k s t := by
  refine ⟨isBusy_of_frame h hc ho, fun id hid => ?_⟩
  obtain ⟨x, hget, hv⟩ := view_eq_some.1 hid
  exact view_eq_some.2 ⟨x, (h.task hn id x fun hS => hx x hS hv).1 hget, hv⟩

/-- A step of whose tasks nothing is seen but what was. -/
theorem idles_of_view {S : Scope} (h : Frame S s t) (hc : ¬ S.may .remoteConfig)
    (ho : ∀ kind, ¬ S.may (.offers kind))
    (hv : ∀ i, t.view (Task.begun? k) i = s.view (Task.begun? k) i) : Idles k s t :=
  ⟨isBusy_of_frame h (fun _ => hc) fun kind _ => ho kind, fun i hi => hv i ▸ hi⟩

/-! ## Tasks and the slot -/

theorem idles_finish (s : Session τ) (id : Nat) (k : Topic) : Idles k s (s.finish id) := by
  refine ⟨fun h => ?_, fun i hi => ?_⟩
  · cases k <;> exact h
  · rw [view_finish] at hi
    split at hi
    · contradiction
    · exact hi

/-- A task goes on to a stage in which it has begun. -/
theorem idles_setTask (s : Session τ) (id : Nat) {x : Task} (hx : x.begun? k ≠ some false) :
    Idles k s (s.setTask id x) := by
  refine ⟨fun h => ?_, fun i hi => ?_⟩
  · cases k <;> exact h
  · rw [view_setTask] at hi
    split at hi
    · exact absurd hi hx
    · exact hi

/-- What a task does that is about something else. -/
theorem idles_apart {x : Task} (h : Frame (.of x) s t) (hn : s.Numbered) (hk : k ∉ x.topics)
    (ho : k.isOffer = true) : Idles k s t := by
  refine idles_of_frame h hn ?_ ?_ ?_
  · rintro rfl
    cases x <;> simp [Task.topics] at hk <;>
      simp [Scope.of, Scope.offer, Scope.packages, Scope.command, Scope.refresh]
  · rintro kind rfl
    cases x <;> simp [Task.topics] at hk <;>
      simp [Scope.of, Scope.config, Scope.offer, Scope.packages, Scope.command, Scope.refresh, hk]
  · intro y hy hb
    rcases begun?_eq_false.1 hb with ⟨config, rfl, rfl⟩ | ⟨kind, settings, rfl, rfl⟩
    · cases x <;> simp [Task.topics] at hk <;> exact hy
    · cases x with
      | connection kind' =>
        have hy : kind = kind' := hy
        exact hk (hy ▸ List.mem_singleton.2 rfl)
      | _ => exact hy

theorem idles_runConfig (hs : s.isStopping = true) {config : RemoteConfig} {stage : ConfigStage}
    (h : s.tasks.get? id = some (.remoteConfig config stage)) (input : Input) :
    Idles .remoteConfig s (s.runConfig id config stage input) := by
  have hrun := runConfig_cases h input
  generalize s.runConfig id config stage input = t at hrun
  cases hrun with
  | stay => exact .refl _ s
  | skip | cancel =>
    rw [nextConfig_of_stopping hs]
    exact idles_finish s id _
  | ask =>
    have hx : (Task.remoteConfig config .applying).begun? .remoteConfig ≠ some false :=
      fun h => by cases h
    have hset := idles_setTask s id hx
    exact ⟨hset.busy, hset.begun⟩
  | move _ new _ hn ht hu =>
    have hnew : (Task.remoteConfig config new).begun? .remoteConfig ≠ some false := by
      cases new with
      | fresh => exact False.elim hn
      | _ => exact nofun
    have hset := idles_setTask s id hnew
    refine ⟨fun hb => ?_, fun i hi => hset.begun i ?_⟩
    · exact isBusy_of_frame hu (fun _ => by simp [Scope.heeding]) nofun hb
    · rwa [view_of_tasks (s := s.setTask id (.remoteConfig config new)) ht] at hi
  | save status =>
    have hu (f : State → State) : (s.update f).isStopping = true := by rwa [isStopping_update]
    unfold statusSaved
    rw [nextConfig_of_stopping (hu _)]
    refine .trans ⟨fun hb => ?_, fun i hi => ?_⟩ (idles_finish _ id _)
    · show (s.update _).remoteConfig.current? ≠ none
      rwa [remoteConfig_update]
    · rwa [view_of_tasks (tasks_update s _)] at hi

theorem idles_runOffer (hs : s.isStopping = true) {kind : ConnectionKind}
    {settings : ConnectionSettings} {stage : OfferStage} (input : Input) :
    Idles (.connection kind) s (s.runOffer id kind settings stage input) := by
  have begun {new : OfferStage} (h : new.isBegun = true) :
      (Task.connection kind settings new).begun? (.connection kind) ≠ some false := by
    show ((Task.connection kind settings new).offerRun? kind).map (·.2) ≠ some false
    rw [offerRun?_self, h]
    exact nofun
  have hrun := runOffer_cases s id kind settings stage input
  generalize s.runOffer id kind settings stage input = t at hrun
  cases hrun with
  | stay => exact .refl _ s
  | skip =>
    rw [nextOffer_of_stopping hs]
    exact idles_finish s id _
  | ask =>
    have hset := idles_setTask s id (begun (rfl : OfferStage.asking.isBegun = true))
    exact ⟨hset.busy, hset.begun⟩
  | request =>
    have hset := idles_setTask s id (begun (rfl : OfferStage.requesting.isBegun = true))
    rcases request_eq (s.setTask id (.connection kind settings .requesting)) ⟨id, settings⟩ with
      h | h
    · rw [h]
      exact ⟨hset.busy, hset.begun⟩
    · rw [h]
      exact ⟨hset.busy, hset.begun⟩
  | conclude e =>
    have hframe := frame_conclude s kind settings e
    have hu : (s.conclude kind settings e).isStopping = true :=
      Eq.trans (hframe.same .stopping (by simp [Scope.concluding])) hs
    rw [nextOffer_of_stopping hu]
    refine .trans ⟨isBusy_of_frame hframe (fun hk => by cases hk) fun _ _ => by
      simp [Scope.concluding], fun i hi => ?_⟩ (idles_finish _ id _)
    rwa [view_of_tasks (tasks_conclude s kind settings e)] at hi

theorem idles_runTask (hs : s.isStopping = true) (hn : s.Numbered) (ho : k.isOffer = true)
    (id : Nat) (input : Input) : Idles k s (s.runTask id input) := by
  cases hx : s.tasks.get? id with
  | none =>
    rw [runTask_of_none hx]
    exact .refl k s
  | some x =>
    by_cases hk : k ∈ x.topics
    · cases x with
      | remoteConfig config stage =>
        obtain rfl := eq_remoteConfig_of_mem ho hk
        have hrun : s.runTask id input = s.runConfig id config stage input := by
          unfold runTask
          rw [hx]
        rw [hrun]
        exact idles_runConfig hs hx input
      | connection kind settings stage =>
        obtain rfl := List.mem_singleton.1 hk
        have hrun : s.runTask id input = s.runOffer id kind settings stage input := by
          unfold runTask
          rw [hx]
        rw [hrun]
        exact idles_runOffer hs input
      | _ =>
        obtain rfl := List.mem_singleton.1 hk
        cases ho
    · exact idles_apart (frame_runTask hx input) hn hk ho

/-! ## Routing -/

/-- An offer to a slot that is not free starts nothing. -/
theorem Slot.offer_of_busy {α : Type} [DecidableEq α] {slot : Slot α} (h : slot.current? ≠ none)
    (a : α) : ∃ slot', slot.offer a = (slot', none) ∧ slot'.current? ≠ none := by
  obtain ⟨c, hc⟩ := Option.ne_none_iff_exists'.1 h
  refine ⟨_, Slot.offer_busy hc a, ?_⟩
  split <;> exact Option.some_ne_none _

theorem Spent.dispatchRemoteConfig (h : s.Spent .remoteConfig) (config : RemoteConfig) :
    (s.dispatchRemoteConfig config).Spent .remoteConfig := by
  obtain ⟨slot, ho, hb⟩ := Slot.offer_of_busy h.busy config.withHash
  unfold Session.dispatchRemoteConfig
  dsimp only
  split
  · exact h
  · rw [ho]
    exact ⟨hb, h.begun⟩

theorem Spent.dispatchOffer {kind : ConnectionKind} (h : s.Spent (.connection kind))
    (settings : ConnectionSettings) : (s.dispatchOffer kind settings).Spent (.connection kind) := by
  obtain ⟨slot, ho, hb⟩ :=
    Slot.offer_of_busy h.busy (s.state.connections.complete kind settings)
  unfold Session.dispatchOffer
  dsimp only
  split
  · exact h
  · rw [ho]
    refine ⟨?_, h.begun⟩
    show ((s.setOfferSlot kind slot).offerSlot kind).current? ≠ none
    rwa [offerSlot_setOfferSlot_self]

theorem Spent.dispatch (h : s.Spent k) (hn : s.Numbered) (hk : k.isOffer = true)
    (i : Instruction) : (s.dispatch i).Spent k := by
  have hemit : (s.emit (.routing i)).Spent k := by
    refine ⟨?_, h.begun⟩
    cases k <;> exact h.busy
  have apart {t u : Session τ} {x : Task} (hf : Frame (.of x) t u) (hx : k ∉ x.topics)
      (ht : t.Numbered ∧ t.Spent k) : u.Numbered ∧ u.Spent k :=
    ⟨hf.numbered ht.1, ht.2.idles (idles_apart hf ht.1 hx hk)⟩
  refine (dispatch_induction (P := fun t => t.Numbered ∧ t.Spent k) i ?_ ?_ ?_ ?_ s
    ⟨hn, hemit⟩).2
  · intro t config _ ht
    have hf := frame_dispatchRemoteConfig t config
    by_cases hx : k ∈ (Task.remoteConfig config .fresh).topics
    · obtain rfl := eq_remoteConfig_of_mem hk hx
      exact ⟨hf.numbered ht.1, ht.2.dispatchRemoteConfig config⟩
    · exact apart (x := .remoteConfig config .fresh) hf hx ht
  · intro t kind settings ht
    have hf : Frame (.offer kind) t (t.dispatchOffer kind settings) :=
      frame_dispatchOffer t settings
    by_cases hx : k = .connection kind
    · subst hx
      exact ⟨hf.numbered ht.1, ht.2.dispatchOffer settings⟩
    · exact apart (x := .connection kind settings .fresh) hf (by simpa [Task.topics] using hx) ht
  · intro t packages ht
    have hf := frame_dispatchPackages t packages
    refine apart (x := .packages packages .fresh) hf ?_ ht
    rintro hx
    obtain rfl := List.mem_singleton.1 hx
    cases hk
  · intro t command ht
    have hf := frame_dispatchCommand t command
    refine apart (x := .command command .fresh) hf ?_ ht
    rintro hx
    obtain rfl := List.mem_singleton.1 hx
    cases hk

/-! ## A step of the session -/

theorem ignoresReplies_begun (k : Topic) : IgnoresReplies (Task.begun? k) := by
  intro kind settings r
  cases k <;> rfl

/-- In a slot with a task there is no other task. -/
theorem Orderly.alone (hs : s.Orderly) {b : Bool} (h : s.view (Task.begun? k) id = some b) :
    s.IsBusy k ∧ ∀ i, s.view (Task.begun? k) i = if i = id then some b else none := by
  have map {α : Type} {v : Task → Option (α × Bool)} (i : Nat) :
      s.view (fun x => (v x).map (·.2)) i = (s.view v i).map (·.2) := by
    unfold view
    rw [Option.map_bind]
    rfl
  cases k with
  | remoteConfig =>
    have hmap := map (v := Task.configRun?)
    obtain ⟨x, hx, hb⟩ := Option.map_eq_some_iff.1 ((hmap id).symm.trans h)
    obtain ⟨hc, ho⟩ := hs.config.only hx
    refine ⟨by show s.remoteConfig.current? ≠ none; rw [hc]; exact nofun, fun i => ?_⟩
    refine (hmap i).trans ?_
    rw [ho, ← hb]
    split <;> rfl
  | connection kind =>
    have hmap := map (v := Task.offerRun? kind)
    obtain ⟨x, hx, hb⟩ := Option.map_eq_some_iff.1 ((hmap id).symm.trans h)
    obtain ⟨hc, ho⟩ := (hs.offers kind).only hx
    refine ⟨by show (s.offerSlot kind).current? ≠ none; rw [hc]; exact nofun, fun i => ?_⟩
    refine (hmap i).trans ?_
    rw [ho, ← hb]
    split <;> rfl
  | _ =>
    obtain ⟨x, -, hx⟩ := view_eq_some.1 h
    cases hx

/-- A run that has begun leaves its slot to nobody else. -/
theorem Orderly.spent (hs : s.Orderly) (h : s.view (Task.begun? k) id = some true) :
    s.Spent k := by
  obtain ⟨hb, ho⟩ := hs.alone h
  refine ⟨hb, fun i => ?_⟩
  rw [ho]
  split <;> exact nofun

/-- After its first call the task has begun. -/
theorem view_begun_of_firstCall? (h : s.firstCall? k id ≠ none) :
    (s.runTask id .look).view (Task.begun? k) id = some true := by
  have hset {t : Session τ} {x : Task} (ht : t.tasks = (s.setTask id x).tasks)
      (hx : x.begun? k = some true) : t.view (Task.begun? k) id = some true := by
    rw [view_of_tasks ht, view_setTask, if_pos rfl, hx]
  unfold firstCall? at h
  split at h
  · next config hget =>
    have hrun : s.runTask id .look = s.startConfig id config := by
      unfold runTask
      rw [hget]
      rfl
    rw [hrun]
    unfold startConfig
    split at h
    · next hk =>
      obtain ⟨rfl, hd⟩ := hk
      rw [if_neg (by simp [hd])]
      exact hset (x := .remoteConfig config .applying) rfl rfl
    · contradiction
  · next kind settings hget =>
    have hrun : s.runTask id .look = s.startOffer id kind settings := by
      unfold runTask
      rw [hget]
      rfl
    rw [hrun]
    unfold startOffer
    split at h
    · next hk =>
      obtain ⟨rfl, hd⟩ := hk
      rw [if_neg (by simp [hd])]
      refine hset (x := .connection kind settings .asking) rfl ?_
      exact congrArg (Option.map (·.2)) (offerRun?_self kind settings .asking)
    · contradiction
  · contradiction

variable [Transport τ]

theorem Spent.runLoop (h : s.Spent k) (hn : s.Numbered) (hk : k.isOffer = true) (input : Input) :
    (s.runLoop input).Spent k := by
  have hv := ignoresReplies_begun k
  rcases s.runLoop_cases input with ⟨-, hl⟩ | ⟨u, routed, hset, hgo⟩
  · rwa [hl]
  · refine (hgo.elim (M := fun t => t.Numbered ∧ t.Spent k) (P := fun t => t.Numbered ∧ t.Spent k)
      ?_ ?_ ?_ ⟨hset.frame.numbered hn, ?_⟩).2
    · intro t u h ht
      refine ⟨h.frame.numbered ht.1, ht.2.idles (idles_of_view h.frame ?_ ?_ (h.view ht.1 hv))⟩
      all_goals simp [Scope.work]
    · exact fun t i ht => ⟨(frame_dispatch t i).numbered ht.1, ht.2.dispatch ht.1 hk i⟩
    · intro t u h ht
      refine ⟨h.frame.numbered ht.1, ht.2.idles (idles_of_view h.frame ?_ ?_ (h.view ht.1 hv))⟩
      all_goals simp [Scope.rest]
    · refine h.idles (idles_of_view hset.frame ?_ ?_ (hset.view hv))
      all_goals simp [Scope.settling]

variable [Carrier τ]

def Action.firstCall? (s : Session τ) (k : Topic) : Action τ → Option (Actor × Call)
  | .run (.task id) .look => s.firstCall? k id
  | _ => none

def firstCalls (s : Session τ) (k : Topic) : List (Action τ) → List (Actor × Call)
  | [] => []
  | a :: rest => (a.firstCall? s k).toList ++ (s.act a).firstCalls k rest

/-- Once stop is requested, the calls that begin are the first ones of tasks. -/
theorem begun_act_of_stopping (hs : s.isStopping = true) (hn : s.Numbered) (hk : k.isOffer = true)
    (a : Action τ) : (s.act a).begun k = s.begun k ++ (a.firstCall? s k).toList := by
  have quiet {t : Session τ} (h : t.begun k = s.begun k) (ha : a.firstCall? s k = none) :
      t.begun k = s.begun k ++ (a.firstCall? s k).toList := by
    rw [h, ha]
    exact (List.append_nil _).symm
  cases a with
  | run actor input =>
    cases actor with
    | loop =>
      refine quiet (begun_runLoop hn input ?_ ?_) rfl
      all_goals
        rintro rfl
        cases hk
    | task id =>
      show (s.runTask id input).begun k = _
      cases hx : s.tasks.get? id with
      | none =>
        rw [runTask_of_none hx]
        refine quiet rfl ?_
        cases input with
        | look =>
          show s.firstCall? k id = none
          unfold firstCall?
          rw [hx]
        | _ => rfl
      | some x =>
        by_cases hb : x.begun? k = some false
        · cases input with
          | look => exact begun_runTask_look hs hx hb
          | _ => exact quiet (congrArg (begun · k) (runTask_of_fresh hx hb nofun)) rfl
        · refine quiet (begun_runTask_of_begun hs hn hk hx hb input) ?_
          cases input with
          | look => exact firstCall?_eq_none hx hb
          | _ => rfl
  | _ =>
    refine quiet (begun_of_calls (Calm.act _ ?_ hn).calls) rfl
    exact fun _ _ => nofun

theorem Spent.act (h : s.Spent k) (hs : s.isStopping = true) (hn : s.Numbered)
    (hk : k.isOffer = true) (a : Action τ) : (s.act a).Spent k := by
  by_cases hc : a.isCall = true
  · refine h.idles (idles_of_view (frame_act s a hc) ?_ ?_ (view_act s a hc hn ?_))
    · simp [Scope.calls]
    · simp [Scope.calls]
    · cases k <;> rfl
  · cases a with
    | run actor input =>
      cases actor with
      | loop => exact h.runLoop hn hk input
      | task id => exact h.idles (idles_runTask hs hn hk id input)
    | use u | setInterval d =>
      refine ⟨?_, h.begun⟩
      cases k <;> exact h.busy
    | stop =>
      have hr : s.act .stop = s := by
        refine if_neg fun hr => ?_
        cases hp : s.phase <;> simp [isStopping, isRunning, hp] at hs hr
      rwa [hr]
    | _ => exact absurd rfl hc

theorem firstCalls_of_spent (h : s.Spent k) (hs : s.isStopping = true) (hn : s.Numbered)
    (hk : k.isOffer = true) (actions : List (Action τ)) : s.firstCalls k actions = [] := by
  induction actions generalizing s with
  | nil => rfl
  | cons a rest ih =>
    have ha : a.firstCall? s k = none := by
      unfold Action.firstCall?
      split
      · exact h.firstCall? _
      · rfl
    show (a.firstCall? s k).toList ++ (s.act a).firstCalls k rest = []
    rw [ha, ih (h.act hs hn hk a) (isStopping_act_of_stopping hs a) ((frame_any s a).numbered hn)]
    rfl

/-- Of the tasks that go through one slot, at most one makes a first call. -/
theorem length_firstCalls_le (ho : s.Orderly) (hs : s.isStopping = true) (hk : k.isOffer = true)
    (actions : List (Action τ)) : (s.firstCalls k actions).length ≤ 1 := by
  induction actions generalizing s with
  | nil => exact Nat.zero_le 1
  | cons a rest ih =>
    have hs' := isStopping_act_of_stopping hs a
    show ((a.firstCall? s k).toList ++ (s.act a).firstCalls k rest).length ≤ 1
    cases ha : a.firstCall? s k with
    | none => exact ih (ho.act a) hs'
    | some c =>
      have hspent : (s.act a).Spent k := by
        unfold Action.firstCall? at ha
        split at ha
        · next id =>
          have hfirst : s.firstCall? k id ≠ none := by
            rw [ha]
            exact nofun
          exact (ho.act _).spent (view_begun_of_firstCall? hfirst)
        · contradiction
      rw [firstCalls_of_spent hspent hs' (ho.act a).numbered hk]
      exact Nat.le_refl 1

/-- The calls that begin once stop is requested. -/
theorem begun_after_of_stopping (hn : s.Numbered) (hs : s.isStopping = true)
    (hk : k.isOffer = true) (actions : List (Action τ)) :
    (s.after actions).begun k = s.begun k ++ s.firstCalls k actions := by
  induction actions generalizing s with
  | nil => exact (List.append_nil _).symm
  | cons a rest ih =>
    have hact := begun_act_of_stopping hs hn hk a
    have hrest := ih ((frame_any s a).numbered hn) (isStopping_act_of_stopping hs a)
    rw [after_cons, hrest, hact, List.append_assoc]
    rfl

/-- What a session begins about offered payloads once stop was requested: the first calls of tasks
that had not begun by then, for every slot at most one, and none where a run is under way. So it
begins none exactly when no such task has anything to do. -/
theorem late_runs_are_first_runs (transport : τ) (settings : StartSettings) (fresh : String)
    (earlier later : List (Action τ)) (hstop : Action.stop ∈ earlier) (k : Topic)
    (hk : k.isOffer = true) :
    let s := (start transport settings fresh).after earlier
    (s.after later).begun k = s.begun k ++ s.firstCalls k later ∧
      (s.firstCalls k later).length ≤ 1 ∧
      ((∃ id x, s.tasks.get? id = some x ∧ x.begun? k = some true) →
        (s.after later).begun k = s.begun k) := by
  intro s
  have ho : s.Orderly := (orderly_start transport settings fresh).after earlier
  have hs : s.isStopping = true :=
    ((mirrors_start transport settings fresh).isStopping_after earlier).2 (.inr hstop)
  have hbegun := begun_after_of_stopping ho.numbered hs hk later
  refine ⟨hbegun, length_firstCalls_le ho hs hk later, ?_⟩
  rintro ⟨id, x, hx, hrun⟩
  have hspent : s.Spent k := ho.spent ((view_of_get? hx).trans hrun)
  rw [hbegun, firstCalls_of_spent hspent hs ho.numbered hk later, List.append_nil]

def bothOffered : Instruction where
  remoteConfig := some { hash := [1] }
  connections := some { metrics := some { endpoint := "m" } }

/-- Stop is requested while the first report is on its way. -/
def stoppedWaiting : List (Action Http.Sender) :=
  [.run .loop .look, .run .loop (.answered (.effective (.error .cancelled))), .stop]

/-- The answer to the report comes, and the tasks that it starts go on. -/
def answeredLate : List (Action Http.Sender) :=
  [.run .loop (.exchanged (.ok (some bothOffered))), .run (.task 0) .look, .run (.task 1) .look]

/-- Stop is requested while the agent applies the configuration. -/
def stoppedApplying : List (Action Http.Sender) :=
  [.run .loop .look, .run .loop (.answered (.effective (.error .cancelled))),
    .run .loop (.exchanged (.ok (some bothOffered))), .run (.task 0) .look, .stop]

theorem late_runs_are_first_runs_answered :
    let s := (start ({} : Http.Sender) { serverUrl := "http://a" } "agent").after stoppedWaiting
    let t := (start ({} : Http.Sender) { serverUrl := "http://a" } "agent").after stoppedApplying
    (s.after answeredLate).begun .remoteConfig =
        s.begun .remoteConfig ++ [(.task 0, .applyRemoteConfig { hash := [1] })] ∧
      t.begun .remoteConfig = [(.task 0, .applyRemoteConfig { hash := [1] })] ∧
      ∀ later, (t.after later).begun .remoteConfig = t.begun .remoteConfig := by
  intro s t
  obtain ⟨hlate, -, -⟩ := late_runs_are_first_runs ({} : Http.Sender) { serverUrl := "http://a" }
    "agent" stoppedWaiting answeredLate (by simp [stoppedWaiting]) .remoteConfig rfl
  refine ⟨hlate, by decide, fun later => ?_⟩
  obtain ⟨-, -, hrun⟩ := late_runs_are_first_runs ({} : Http.Sender) { serverUrl := "http://a" }
    "agent" stoppedApplying later (by simp [stoppedApplying]) .remoteConfig rfl
  exact hrun ⟨0, .remoteConfig { hash := [1] } .applying, rfl, rfl⟩

/-- Nothing that was offered runs when stop is requested, and the agent is called about both. -/
theorem late_answer_begins_runs :
    let s := (start ({} : Http.Sender) { serverUrl := "http://a" } "agent").after stoppedWaiting
    s.phase = .stopping ∧ s.begun .remoteConfig = [] ∧
      s.begun (.connection (.telemetry .metrics)) = [] ∧
      (s.after answeredLate).begun .remoteConfig =
        [(.task 0, .applyRemoteConfig { hash := [1] })] ∧
      (s.after answeredLate).begun (.connection (.telemetry .metrics)) =
        [(.task 1, .useConnection (.telemetry .metrics) { endpoint := "m" })] := by
  decide

end Session

end ManagedAgent
