import ManagedAgent.Proofs.Session.Slots

/-!
# Handlers of one slot never overlap

One task at a time deals with offered configurations, and one with the settings of each kind of
connection (`Orderly`). The agent's own configuration is read by tasks of several sorts and by the
loop, of whom the gate lets one in (`Readers`). A task that has asked the loop to reconnect waits for
the answer, which it owes to no other task (`Owes`).

* `Passes.readers` : who reads the agent's configuration holds the gate;
* `Owes.act` : one request to reconnect at most is outstanding;
* `handlers_never_overlap` : one call at a time is about each of these topics.
-/

set_option autoImplicit false

namespace ManagedAgent

def Topic.IsExclusive (k : Topic) : Prop := k ≠ .packages ∧ k ≠ .command

theorem Gate.holder_enter {α : Type} {g : Gate α} {a b : α} (h : g.holder = some b) :
    (g.enter a).1 = false ∧ (g.enter a).2.holder = some b := by
  unfold enter
  rw [h]
  exact ⟨rfl, rfl⟩

theorem Gate.holder_of_enter {α : Type} {g : Gate α} {a : α} (h : (g.enter a).1 = true) :
    (g.enter a).2.holder = some a := by
  unfold enter at h ⊢
  split at h
  · next hn => rw [if_pos hn]
  · contradiction

theorem Gate.holder_leave {α : Type} [DecidableEq α] {g : Gate α} {a b : α}
    (h : g.holder = some b) (hb : b ≠ a) : (g.leave a).2.holder = some b := by
  unfold leave
  rw [h, if_neg fun h => hb (Option.some.inj h)]

namespace Session
variable {τ : Type} {s t : Session τ} {id : Nat}

/-! ## Reading the agent's configuration -/

/-- Who reads the agent's configuration holds the gate. -/
def Readers (s : Session τ) : Prop :=
  ∀ a, s.calling? a = some .effectiveConfig → s.gate.holder = some a

/-- What an actor that goes on does with the gate. -/
inductive Passes (s : Session τ) (a : Actor) (t : Session τ) : Prop
  | stay (hg : t.gate = s.gate)
      (hr : t.calling? a = some .effectiveConfig → s.calling? a = some .effectiveConfig)
  | enter (hg : t.gate = (s.gate.enter a).2)
      (hr : t.calling? a = some .effectiveConfig → (s.gate.enter a).1 = true)
  | turn (hg : t.gate = s.gate) (hh : s.hasTurn a = true)
  | leave (hg : t.gate = (s.gate.leave a).2) (hr : t.calling? a ≠ some .effectiveConfig)

theorem hasTurn_iff {a : Actor} : s.hasTurn a = true ↔ s.gate.holder = some a := beq_iff_eq

theorem Passes.readers {a : Actor} (h : Passes s a t) (hs : s.Readers)
    (ho : ∀ b, b ≠ a → t.calling? b = s.calling? b) : t.Readers := by
  intro b hb
  by_cases hba : b = a
  · subst hba
    cases h with
    | stay hg hr => exact (congrArg Gate.holder hg).trans (hs b (hr hb))
    | enter hg hr => exact (congrArg Gate.holder hg).trans (Gate.holder_of_enter (hr hb))
    | turn hg hh => exact (congrArg Gate.holder hg).trans (hasTurn_iff.1 hh)
    | leave _ hr => exact absurd hb hr
  · have hold := hs b ((ho b hba).symm.trans hb)
    cases h with
    | stay hg => exact (congrArg Gate.holder hg).trans hold
    | enter hg => exact (congrArg Gate.holder hg).trans (Gate.holder_enter hold).2
    | turn hg => exact (congrArg Gate.holder hg).trans hold
    | leave hg => exact (congrArg Gate.holder hg).trans (Gate.holder_leave hold hba)

@[simp] theorem gate_update (s : Session τ) (f : State → State) : (s.update f).gate = s.gate :=
  apply_update (·.gate) (fun _ => rfl) s f

theorem gate_enterGate (s : Session τ) (a : Actor) :
    (s.enterGate a).2.gate = (s.gate.enter a).2 ∧ (s.enterGate a).1 = (s.gate.enter a).1 := by
  unfold enterGate
  dsimp only
  split
  · exact ⟨rfl, rfl⟩
  · exact ⟨rfl, rfl⟩

theorem gate_leaveGate (s : Session τ) (a : Actor) : (s.leaveGate a).gate = (s.gate.leave a).2 := by
  unfold leaveGate readyNext
  dsimp only
  split <;> rfl

theorem gate_finishReading (s : Session τ) (a : Actor)
    (r : Except CallbackError EffectiveConfig) :
    (s.finishReading a r).2.gate = (s.gate.leave a).2 := by
  cases r <;> exact gate_leaveGate _ a

/-- A task whose scope has neither the gate nor such a call. -/
theorem Passes.of_frame {S : Scope} (h : Frame S s t) (hn : s.Numbered) {x : Task}
    (hx : s.tasks.get? id = some x) (hS : S.tasks x) (hg : ¬ S.may .gate)
    (hc : ∀ y, S.tasks y → y.call? ≠ some .effectiveConfig) : Passes s (.task id) t := by
  refine .stay (h.same .gate hg) fun hr => ?_
  obtain ⟨y, hy, hcall⟩ := view_eq_some.1 hr
  exact absurd hcall (hc y (h.scope_of_get? hn hx hS hy))

section Tasks

theorem calling?_nextConfig (u : Session τ) (id : Nat) :
    (u.nextConfig id).gate = u.gate ∧
      (u.nextConfig id).calling? (.task id) ≠ some .effectiveConfig := by
  have ends (v : Session τ) : (v.finish id).calling? (.task id) ≠ some .effectiveConfig := by
    rw [calling?_finish, if_pos rfl]
    nofun
  rcases u.nextConfig_cases id with ⟨-, heq⟩ | ⟨-, slot, next, -, heq⟩
  · rw [heq]
    exact ⟨rfl, ends u⟩
  · rw [heq]
    cases next with
    | none => exact ⟨rfl, ends _⟩
    | some c =>
      refine ⟨rfl, ?_⟩
      show ({ u with remoteConfig := slot }.setTask id (.remoteConfig c .applying)).calling?
        (.task id) ≠ _
      rw [calling?_setTask, if_pos rfl]
      nofun

theorem passes_runConfig {config : RemoteConfig} {stage : ConfigStage}
    (h : s.tasks.get? id = some (.remoteConfig config stage)) (input : Input) :
    Passes s (.task id) (s.runConfig id config stage input) := by
  have own (u : Session τ) (x : Task) : (u.setTask id x).calling? (.task id) = x.call? := by
    rw [calling?_setTask, if_pos rfl]
  have next (u : Session τ) (hu : u.gate = s.gate) : Passes s (.task id) (u.nextConfig id) := by
    obtain ⟨hg, hr⟩ := calling?_nextConfig u id
    exact .stay (hg.trans hu) fun h => absurd h hr
  have set (u : Session τ) (hu : u.gate = s.gate) (x : Task)
      (hx : x.call? ≠ some .effectiveConfig) (c : Call) :
      Passes s (.task id) ((u.setTask id x).call (.task id) c) :=
    .stay hu fun h => absurd ((own u x).symm.trans h) hx
  unfold runConfig
  split
  · unfold startConfig
    split
    · exact next s rfl
    · exact set s rfl (.remoteConfig config .applying) nofun _
  · unfold configApplied
    split
    · split
      · next c _ _ =>
        exact set { s with state := (s.state.setEffectiveConfig c).2 } rfl
          (.remoteConfig config (.saving ⟨config.hash, .applied, ""⟩)) nofun _
      · obtain ⟨hg, hin⟩ := gate_enterGate s (.task id)
        unfold readConfig
        generalize s.enterGate (.task id) = r at hg hin
        obtain ⟨isIn, u⟩ := r
        refine .enter hg fun hr => ?_
        rw [← hin]
        cases isIn with
        | true => rfl
        | false => exact absurd ((own u _).symm.trans hr) nofun
      · exact set s rfl (.remoteConfig config (.saving ⟨config.hash, .applied, ""⟩)) nofun _
    · exact next s rfl
    · next e _ =>
      exact set s rfl (.remoteConfig config (.saving ⟨config.hash, .failed, e.message⟩)) nofun _
  · split
    · next ht => exact .turn rfl ht
    · exact .stay rfl fun h => h
  · refine .leave (gate_finishReading s _ _) ?_
    intro hr
    exact absurd ((own _ _).symm.trans hr) nofun
  · exact next _ (gate_update s _)
  · exact .stay rfl fun h => h

theorem passes_runRefresh {stage : ReadStage} (h : s.tasks.get? id = some (.refresh stage))
    (input : Input) : Passes s (.task id) (s.runRefresh id stage input) := by
  have own (u : Session τ) (x : Task) : (u.setTask id x).calling? (.task id) = x.call? := by
    rw [calling?_setTask, if_pos rfl]
  unfold runRefresh
  split
  · obtain ⟨hg, hin⟩ := gate_enterGate s (.task id)
    generalize s.enterGate (.task id) = r at hg hin
    obtain ⟨isIn, u⟩ := r
    refine .enter hg fun hr => ?_
    rw [← hin]
    cases isIn with
    | true => rfl
    | false => exact absurd ((own u _).symm.trans hr) nofun
  · split
    · next ht => exact .turn rfl ht
    · exact .stay rfl fun h => h
  · next r =>
    have ends (u : Session τ) : (u.finish id).calling? (.task id) ≠ some .effectiveConfig := by
      rw [calling?_finish, if_pos rfl]
      nofun
    have hg := gate_finishReading s (.task id) r
    unfold refreshed
    generalize s.finishReading (.task id) r = q at hg
    obtain ⟨changed, u⟩ := q
    refine .leave ?_ (ends _)
    show (if changed then u.update State.notify else u).gate = _
    split
    · exact (gate_update u _).trans hg
    · exact hg
  · exact .stay rfl fun h => h

theorem Readers.runTask (hs : s.Readers) (hn : s.Numbered) (id : Nat) (input : Input) :
    (s.runTask id input).Readers := by
  have ho (b : Actor) (hb : b ≠ .task id) : (s.runTask id input).calling? b = s.calling? b := by
    cases s.turn_runTask id input with
    | stays hc _ => exact hc.calling b
    | goes _ _ ho => exact ho b hb
  refine Passes.readers (a := .task id) ?_ hs ho
  unfold Session.runTask
  split
  · next h => exact passes_runConfig h input
  · next h =>
    refine .of_frame (frame_runOffer s id _ _ h input) hn h rfl (by simp [Scope.offer]) ?_
    intro y hy
    cases y with
    | connection _ _ stage => cases stage <;> exact fun h => by cases h
    | _ => exact False.elim hy
  · next h =>
    refine .of_frame (frame_runPackages s id _ _ h input) hn h trivial (by simp [Scope.packages]) ?_
    intro y hy
    cases y with
    | packages _ stage => cases stage <;> exact fun h => by cases h
    | _ => exact False.elim hy
  · next h =>
    refine .of_frame (frame_runCommand s id _ _ h input) hn h trivial (by simp [Scope.command]) ?_
    intro y hy
    cases y with
    | command _ stage => cases stage <;> exact fun h => by cases h
    | _ => exact False.elim hy
  · next h => exact passes_runRefresh h input
  · exact .stay rfl fun h => h

end Tasks

/-! ### The loop -/

section Loop

structure TaskReaders (s : Session τ) : Prop where
  numbered : s.Numbered
  holder : ∀ id, s.calling? (.task id) = some .effectiveConfig → s.gate.holder = some (.task id)

theorem TaskReaders.of_gate (hs : s.TaskReaders) (hn : t.Numbered)
    (hc : ∀ id, t.calling? (.task id) = s.calling? (.task id))
    (hg : t.gate = s.gate ∨ t.gate = (s.gate.leave .loop).2) : t.TaskReaders := by
  refine ⟨hn, fun id hid => ?_⟩
  have hold := hs.holder id ((hc id).symm.trans hid)
  rcases hg with hg | hg
  · exact (congrArg Gate.holder hg).trans hold
  · exact (congrArg Gate.holder hg).trans (Gate.holder_leave hold nofun)

theorem gate_reply (s : Session τ) (task : Nat) (r : Except TransportError Unit) :
    (s.reply task r).gate = s.gate := by
  unfold reply
  split <;> rfl

variable [Transport τ]

/-- On its way the loop leaves the gate, or does not go near it. -/
theorem Works.gate (h : Works s t) : t.gate = s.gate ∨ t.gate = (s.gate.leave .loop).2 := by
  cases h with
  | connected =>
    unfold markConnected
    split
    · exact .inl rfl
    · exact .inl rfl
  | failed e =>
    unfold markFailed
    split
    · exact .inl rfl
    · dsimp only
      split
      · exact .inl rfl
      · exact .inl rfl
  | serverError e => exact .inl rfl
  | fullState => exact .inl (gate_update s _)
  | adopt uid => exact .inl (gate_update s _)
  | read r => exact .inr (gate_finishReading s _ r)
  | abandon => exact .inr (gate_leaveGate s _)
  | wakeup f => exact .inl rfl
  | refuse r rest e => exact .inl (gate_reply _ _ _)

theorem Rests.readers (h : Rests s t) (hs : s.TaskReaders) : t.Readers := by
  have tasks (id : Nat) : t.calling? (.task id) = s.calling? (.task id) :=
    h.view hs.numbered ignoresReplies_call id
  have quiet (hg : t.gate = s.gate) (hl : t.loop.call? ≠ some .effectiveConfig) : t.Readers := by
    intro a ha
    cases a with
    | loop => exact absurd ha hl
    | task id => exact (congrArg Gate.holder hg).trans (hs.holder id ((tasks id).symm.trans ha))
  cases h with
  | ended =>
    have h :
        Frame { may := (· ≠ .gate), logs := fun _ => True, tasks := fun _ => True } s s.endLoop :=
      .endLoop s nofun nofun (fun _ _ _ => trivial) (fun _ => trivial) trivial
    exact quiet (h.same .gate fun h => h rfl) (by rw [loop_endLoop]; nofun)
  | entering =>
    obtain ⟨hg, hin⟩ := gate_enterGate s .loop
    generalize s.enterGate .loop = r at hg hin tasks
    obtain ⟨isIn, u⟩ := r
    intro a ha
    cases a with
    | loop =>
      have ha : (if isIn then Loop.reading else .queueing).call? = some .effectiveConfig := ha
      cases isIn with
      | true => exact (congrArg Gate.holder hg).trans (Gate.holder_of_enter hin.symm)
      | false => cases ha
    | task id =>
      have hold := hs.holder id ((tasks id).symm.trans ha)
      exact (congrArg Gate.holder hg).trans (Gate.holder_enter hold).2
  | reading hstop ht =>
    intro a ha
    cases a with
    | loop => exact hasTurn_iff.1 ht
    | task id => exact hs.holder id ((tasks id).symm.trans ha)
  | waiting => exact quiet rfl nofun
  | retrying => exact quiet rfl nofun
  | pausing => exact quiet rfl nofun
  | poll => exact quiet rfl nofun
  | sendReport => exact quiet rfl nofun
  | connecting => exact quiet rfl nofun
  | receive => exact quiet rfl nofun
  | verify => exact quiet rfl nofun
  | switch => exact quiet rfl nofun
  | identifying => exact quiet rfl nofun

theorem Readers.runLoop (hs : s.Readers) (hn : s.Numbered) (input : Input) :
    (s.runLoop input).Readers := by
  rcases s.runLoop_cases input with ⟨-, h⟩ | ⟨u, routed, hset, hgo⟩
  · rw [h]
    exact hs
  · have hu : u.TaskReaders := by
      refine TaskReaders.of_gate ⟨hn, fun id => hs (.task id)⟩ (hset.frame.numbered hn)
        (hset.view ignoresReplies_call) (.inl (hset.frame.same .gate ?_))
      simp [Scope.settling]
    refine hgo.elim (M := TaskReaders) ?_ ?_ (fun _ _ h hu => h.readers hu) hu
    · intro u v h hu
      exact hu.of_gate (h.frame.numbered hu.numbered) (h.view hu.numbered ignoresReplies_call) h.gate
    · intro u i hu
      have h := still_dispatch u hu.numbered i
      exact hu.of_gate h.numbered h.calling (.inl ((frame_dispatch u i).same .gate id))

end Loop

/-! ## Requests to reconnect -/

def requested? : Task → Option (ConnectionKind × ConnectionSettings)
  | .connection kind settings .requesting => some (kind, settings)
  | _ => none

/-- The tasks whose requests the loop has not answered: those that it has not looked at, and the one
whose settings are on trial. -/
def outstanding (s : Session τ) : List Nat :=
  s.requests.map (·.task) ++ (s.loop.trial?.map (·.1)).toList

/-- Nobody waits for the loop to reconnect, or one task for the management connection does. -/
inductive Owes (s : Session τ) : List Nat → Prop
  | nobody (h : ∀ i, s.view requested? i = none) : Owes s []
  | one (id : Nat) (settings : ConnectionSettings)
      (h : ∀ i, s.view requested? i = if i = id then some (.management, settings) else none) :
    Owes s [id]

theorem Owes.congr {l : List Nat} (hs : s.Owes l)
    (hv : ∀ i, t.view requested? i = s.view requested? i) : t.Owes l := by
  cases hs with
  | nobody h => exact .nobody fun i => (hv i).trans (h i)
  | one id settings h => exact .one id settings fun i => (hv i).trans (h i)

theorem Owes.cons {task : Nat} {rest : List Nat} (hs : s.Owes (task :: rest)) : rest = [] := by
  cases hs
  rfl

theorem view_requested {kind : ConnectionKind} {settings : ConnectionSettings} :
    s.view requested? id = some (kind, settings) ↔
      s.tasks.get? id = some (.connection kind settings .requesting) := by
  rw [view_eq_some]
  constructor
  · rintro ⟨x, hx, hv⟩
    unfold requested? at hv
    split at hv
    · cases hv
      exact hx
    · contradiction
  · exact fun h => ⟨_, h, rfl⟩

theorem view_reply (s : Session τ) (task : Nat) (r : Except TransportError Unit) (i : Nat) :
    (s.reply task r).view requested? i = if i = task then none else s.view requested? i := by
  unfold reply
  split
  · exact view_setTask s task _ i
  · next h =>
    split
    · next hi =>
      subst hi
      exact Option.eq_none_iff_forall_ne_some.2 fun y hy => h y.1 y.2 (view_requested.1 hy)
    · rfl

/-- The task gets its answer. -/
theorem Owes.reply {task : Nat} {rest : List Nat} (hs : s.Owes (task :: rest))
    (r : Except TransportError Unit) : (s.reply task r).Owes [] := by
  cases hs with
  | one _ settings h =>
    refine .nobody fun i => ?_
    rw [view_reply, h]
    split <;> rfl

/-- The loop owes answers to the requests that it has not looked at, and no other. -/
structure OwesRequests (s : Session τ) : Prop where
  numbered : s.Numbered
  owes : s.Owes (s.requests.map (·.task))

theorem OwesRequests.congr (hs : s.OwesRequests) (hn : t.Numbered) (hr : t.requests = s.requests)
    (hv : ∀ i, t.view requested? i = s.view requested? i) : t.OwesRequests :=
  ⟨hn, by rw [hr]; exact hs.owes.congr hv⟩

theorem OwesRequests.outstanding (hs : s.OwesRequests) (ht : s.loop.trial? = none) :
    s.Owes s.outstanding := by
  unfold Session.outstanding
  rw [ht, Option.map_none, Option.toList_none, List.append_nil]
  exact hs.owes

theorem Owes.requests (hs : s.Owes s.outstanding) (hn : s.Numbered)
    (ht : s.loop.trial? = none) : s.OwesRequests := by
  unfold Session.outstanding at hs
  rw [ht, Option.map_none, Option.toList_none, List.append_nil] at hs
  exact ⟨hn, hs⟩

theorem OwesRequests.dispatch (hs : s.OwesRequests) (i : Instruction) :
    (s.dispatch i).OwesRequests := by
  have h := frame_dispatch s i
  refine hs.congr (h.numbered hs.numbered) (h.same .requests id) (h.view hs.numbered ?_)
  intro x hx
  cases x with
  | connection _ _ stage =>
    cases stage with
    | requesting => cases hx
    | _ => rfl
  | _ => rfl

theorem OwesRequests.endLoop (hs : s.OwesRequests) : s.endLoop.Owes s.endLoop.outstanding := by
  have howes := hs.owes
  have ends {u : Session τ} (hu : u.Owes []) (hr : u.requests = []) (hl : u.loop = .ended)
      (heq : s.endLoop = u.emit .loopEnded) : s.endLoop.Owes s.endLoop.outstanding := by
    unfold Session.outstanding
    rw [heq]
    show Owes _ (u.requests.map _ ++ (u.loop.trial?.map _).toList)
    rw [hr, hl]
    exact hu.congr fun _ => rfl
  cases hr : s.requests with
  | nil =>
    rw [hr] at howes
    refine ends (u := { s with loop := .ended, requests := [] }) (howes.congr fun _ => rfl) rfl rfl
      ?_
    unfold Session.endLoop
    rw [hr]
    rfl
  | cons r rest =>
    rw [hr, List.map_cons] at howes
    obtain rfl : rest = [] := List.map_eq_nil_iff.1 howes.cons
    have hu := howes.congr (t := { s with loop := .ended, requests := [] }) fun _ => rfl
    refine ends (hu.reply (.error .closed)) (reply_requests _ _ _) (reply_loop _ _ _) ?_
    unfold Session.endLoop
    rw [hr]
    rfl

/-- While settings are on trial no other request is outstanding. -/
theorem Owes.trial (hs : s.Owes s.outstanding) {task : Nat} {previous : ConnectionSettings}
    (ht : s.loop.trial? = some (task, previous)) : s.requests = [] ∧ s.Owes [task] := by
  unfold Session.outstanding at hs
  rw [ht, Option.map_some, Option.toList_some] at hs
  cases hr : s.requests with
  | nil =>
    rw [hr] at hs
    exact ⟨rfl, hs⟩
  | cons r rest =>
    rw [hr] at hs
    exact absurd (List.append_eq_nil_iff.1 hs.cons).2 nofun

theorem view_nextOffer (s : Session τ) (id : Nat) (kind : ConnectionKind) (i : Nat) :
    (s.nextOffer id kind).view requested? i = if i = id then none else s.view requested? i := by
  rcases s.nextOffer_cases id kind with ⟨-, heq⟩ | ⟨-, slot, next, -, heq⟩
  · rw [heq]
    exact view_finish s id i
  · rw [heq]
    cases next with
    | none => exact view_finish (s.setOfferSlot kind slot) id i
    | some c => exact view_setTask (s.setOfferSlot kind slot) id (.connection kind c .asking) i

theorem requests_nextOffer (s : Session τ) (id : Nat) (kind : ConnectionKind) :
    (s.nextOffer id kind).requests = s.requests ∧ (s.nextOffer id kind).loop = s.loop := by
  rcases s.nextOffer_cases id kind with ⟨-, heq⟩ | ⟨-, slot, next, -, heq⟩
  · rw [heq]
    exact ⟨rfl, rfl⟩
  · rw [heq]
    cases next <;> exact ⟨rfl, rfl⟩

/-- A task that was not waiting for the loop does not come to wait for it. -/
theorem Owes.of_view (hs : s.Owes s.outstanding) {x : Task} (hx : s.tasks.get? id = some x)
    (hreq : requested? x = none) (hr : t.requests = s.requests) (hl : t.loop = s.loop)
    (hv : ∀ i, t.view requested? i = if i = id then none else s.view requested? i) :
    t.Owes t.outstanding := by
  have hid : s.view requested? id = none := (view_of_get? hx).trans hreq
  unfold outstanding
  rw [hr, hl]
  refine hs.congr fun i => (hv i).trans ?_
  split
  · next hi => exact (hi ▸ hid).symm
  · rfl

/-- While the one task of the connection to the server does not wait for the loop, nobody does. -/
theorem Owes.outstanding_eq_nil (hs : s.Owes s.outstanding) (ho : s.ServesOffers .management)
    {settings : ConnectionSettings} {stage : OfferStage}
    (h : s.tasks.get? id = some (.connection .management settings stage))
    (hst : stage ≠ .requesting) : s.outstanding = [] := by
  generalize s.outstanding = l at hs
  cases hs with
  | nobody => rfl
  | one j settings' hj =>
    have hget := view_requested.1 ((hj j).trans (if_pos rfl))
    have honly := (Slot.Served.only ho (view_offerRun h)).2 j
    rw [view_offerRun hget] at honly
    split at honly
    · next hj =>
      rw [hj, h] at hget
      cases hget
      exact absurd rfl hst
    · cases honly

/-- A task asks the loop to reconnect, and waits for it. -/
theorem Owes.request (hs : s.Owes s.outstanding) (hnone : s.outstanding = [])
    (settings : ConnectionSettings) :
    ((s.setTask id (.connection .management settings .requesting)).request ⟨id, settings⟩).Owes
      ((s.setTask id (.connection .management settings .requesting)).request
        ⟨id, settings⟩).outstanding := by
  rw [hnone] at hs
  obtain ⟨hreqs, htrial⟩ := List.append_eq_nil_iff.1 hnone
  rw [List.map_eq_nil_iff] at hreqs
  have hset : (s.setTask id (.connection .management settings .requesting)).Owes [id] := by
    cases hs with
    | nobody hn =>
      refine .one id settings fun i => ?_
      rw [view_setTask, hn]
      rfl
  have asked {u : Session τ} (hr : u.requests = s.requests ++ [⟨id, settings⟩])
      (hl : u.loop = s.loop)
      (hu : u.tasks = s.tasks.insert id (.connection .management settings .requesting)) :
      u.Owes u.outstanding := by
    unfold outstanding
    rw [hr, hl, htrial, hreqs]
    exact hset.congr (view_of_tasks hu)
  rcases request_eq (s.setTask id (.connection .management settings .requesting)) ⟨id, settings⟩
    with heq | heq
  · rw [heq]
    exact asked rfl rfl rfl
  · rw [heq]
    exact asked rfl rfl rfl

theorem Owes.runOffer (hs : s.Owes s.outstanding) (ho : s.ServesOffers .management)
    {kind : ConnectionKind} {settings : ConnectionSettings} {stage : OfferStage}
    (h : s.tasks.get? id = some (.connection kind settings stage)) (input : Input) :
    (s.runOffer id kind settings stage input).Owes
      (s.runOffer id kind settings stage input).outstanding := by
  have hrun := runOffer_cases s id kind settings stage input
  generalize s.runOffer id kind settings stage input = t at hrun
  have hreq (hst : stage ≠ .requesting) : requested? (.connection kind settings stage) = none := by
    cases stage with
    | requesting => exact absurd rfl hst
    | _ => rfl
  have next (u : Session τ) (hst : stage ≠ .requesting) (hr : u.requests = s.requests)
      (hl : u.loop = s.loop) (hu : u.tasks = s.tasks) :
      (u.nextOffer id kind).Owes (u.nextOffer id kind).outstanding := by
    obtain ⟨hr', hl'⟩ := requests_nextOffer u id kind
    refine hs.of_view h (hreq hst) (hr'.trans hr) (hl'.trans hl) fun i => ?_
    rw [view_nextOffer, view_of_tasks hu]
  cases hrun with
  | stay => exact hs
  | skip hf => exact next s (by rw [hf]; nofun) rfl rfl rfl
  | ask hf =>
    exact hs.of_view h (hreq (by rw [hf]; nofun)) rfl rfl
      (view_setTask s id (.connection kind settings .asking))
  | request hf _ hk =>
    subst hf hk
    exact hs.request (hs.outstanding_eq_nil ho h nofun) settings
  | conclude e he =>
    have hc := frame_conclude s kind settings e
    refine next _ ?_ (hc.same .requests ?_) (hc.same .loop ?_) (tasks_conclude s kind settings e)
    · rintro rfl
      cases he
    all_goals simp [Scope.concluding]

section Loop
variable [Transport τ]

theorem Settles.owes {input : Input} (h : Settles s input t) (hn : s.Numbered)
    (hs : s.Owes s.outstanding) : t.OwesRequests := by
  have hnum := h.frame.numbered hn
  have keep (ht : s.loop.trial? = none) (hr : t.requests = s.requests) (hx : t.tasks = s.tasks) :
      t.OwesRequests := (hs.requests hn ht).congr hnum hr (view_of_tasks hx)
  have answer {task : Nat} {previous : ConnectionSettings}
      (ht : s.loop.trial? = some (task, previous)) {u : Session τ} (hu : u.tasks = s.tasks)
      (r : Except TransportError Unit) (hr : t.requests = s.requests)
      (hx : t.tasks = (u.reply task r).tasks) : t.OwesRequests := by
    obtain ⟨hnil, howes⟩ := hs.trial ht
    refine ⟨hnum, ?_⟩
    rw [hr, hnil]
    exact ((howes.congr (view_of_tasks hu)).reply r).congr (view_of_tasks hx)
  cases h with
  | nothing _ ht => exact keep ht rfl rfl
  | missed _ _ ht => exact keep ht rfl rfl
  | taken _ _ ht => exact keep ht (requests_update s _) (tasks_update s _)
  | proved task _ _ _ ht =>
    exact answer ht rfl (.ok ()) ((requests_update _ _).trans (reply_requests s task _))
      (tasks_update _ _)
  | disproved task _ _ e _ ht =>
    exact answer ht (u := (s.applySettings _).2) rfl (.error e) (reply_requests _ task _) rfl
  | switched task _ _ ht => exact answer ht rfl (.ok ()) (reply_requests s task _) rfl
  | unswitched task _ e _ ht =>
    exact answer ht (u := (s.applySettings _).2) rfl (.error e) (reply_requests _ task _) rfl

theorem Works.owes (h : Works s t) (hs : s.OwesRequests) : t.OwesRequests := by
  rcases h.errand_or_refuse with hf | ⟨r, rest, e, hr, -, rfl⟩
  · exact hs.congr (hf.numbered hs.numbered) (hf.same .requests (by simp [Scope.errand]))
      (hf.view hs.numbered fun _ => False.elim)
  · have howes := hs.owes
    rw [hr, List.map_cons] at howes
    have hnil : rest = [] := List.map_eq_nil_iff.1 howes.cons
    refine ⟨h.frame.numbered hs.numbered, ?_⟩
    rw [reply_requests]
    show Owes _ (rest.map (·.task))
    rw [hnil]
    exact (howes.congr (t := ({ s with requests := [] }.applySettings r.settings).2)
      fun _ => rfl).reply _

theorem Rests.owes (h : Rests s t) (hs : s.OwesRequests) : t.Owes t.outstanding := by
  rcases h.trial_or_quiet with rfl | ⟨hf, ht⟩ | ⟨r, rest, previous, hr, -, hf, ht⟩
  · exact hs.endLoop
  · refine OwesRequests.outstanding (hs.congr (hf.numbered hs.numbered) ?_ ?_) ht
    · exact hf.same .requests (by simp [Scope.settle])
    · exact hf.view hs.numbered fun _ => False.elim
  · have howes := hs.owes
    rw [hr, List.map_cons] at howes
    have hnil : rest = [] := List.map_eq_nil_iff.1 howes.cons
    have hreq : t.requests = rest := hf.same .requests (by simp [Scope.settle])
    unfold Session.outstanding
    rw [ht, hreq]
    rw [hnil] at howes ⊢
    exact howes.congr fun i =>
      hf.view (s := ({ s with requests := rest }.applySettings r.settings).2)
      hs.numbered (fun _ => False.elim) i

end Loop

/-! ## Who calls the agent -/

section Calling

/-- What keeps calls of one topic, and requests to reconnect, from overlapping. -/
structure Separate (s : Session τ) : Prop where
  orderly : s.Orderly
  readers : s.Readers
  owes : s.Owes s.outstanding

theorem separate_start (transport : τ) (settings : StartSettings) (fresh : String) :
    (start transport settings fresh).Separate where
  orderly := orderly_start transport settings fresh
  readers a ha := by cases a <;> cases ha
  owes := .nobody fun _ => rfl

/-- Only a task that deals with an offered configuration calls the agent about it. -/
theorem view_of_calling_config {a : Actor} {c : Call} (h : s.calling? a = some c)
    (ht : c.topic = .remoteConfig ∨ c.topic = .status) :
    ∃ id x, a = .task id ∧ s.view Task.configRun? id = some x := by
  cases a with
  | loop =>
    have h : s.loop.call? = some c := h
    unfold Loop.call? at h
    split at h
    all_goals cases h
    all_goals exact absurd ht (by simp [Call.topic])
  | task id =>
    obtain ⟨x, hx, hc⟩ := view_eq_some.1 h
    unfold Task.call? at hc
    split at hc
    all_goals cases hc
    all_goals first
      | exact ⟨id, _, rfl, view_of_get? hx⟩
      | exact absurd ht (by simp [Call.topic])

theorem view_of_calling_offer {kind : ConnectionKind} {a : Actor} {c : Call}
    (h : s.calling? a = some c) (ht : c.topic = .connection kind) :
    ∃ id x, a = .task id ∧ s.view (Task.offerRun? kind) id = some x := by
  cases a with
  | loop =>
    have h : s.loop.call? = some c := h
    unfold Loop.call? at h
    split at h
    all_goals cases h
    all_goals cases ht
  | task id =>
    obtain ⟨x, hx, hc⟩ := view_eq_some.1 h
    unfold Task.call? at hc
    split at hc
    all_goals cases hc
    all_goals cases ht
    exact ⟨id, _, rfl, view_offerRun hx⟩

theorem loop_of_calling_identity {a : Actor} {c : Call} (h : s.calling? a = some c)
    (ht : c.topic = .identity) : a = .loop := by
  cases a with
  | loop => rfl
  | task id =>
    obtain ⟨x, hx, hc⟩ := view_eq_some.1 h
    unfold Task.call? at hc
    split at hc
    all_goals cases hc
    all_goals cases ht

theorem eq_effectiveConfig {c : Call} (h : c.topic = .effectiveConfig) : c = .effectiveConfig := by
  cases c with
  | effectiveConfig => rfl
  | _ => cases h

/-- Two actors do not call the agent about one exclusive topic. -/
theorem Separate.unique (hs : s.Separate) {k : Topic} (hk : k.IsExclusive) {a b : Actor}
    {c d : Call} (ha : s.calling? a = some c) (hc : c.topic = k) (hb : s.calling? b = some d)
    (hd : d.topic = k) : a = b := by
  have config (hk : k = .remoteConfig ∨ k = .status) : a = b := by
    obtain ⟨i, x, rfl, hx⟩ := view_of_calling_config ha (hc ▸ hk)
    obtain ⟨j, y, rfl, hy⟩ := view_of_calling_config hb (hd ▸ hk)
    have honly := (Slot.Served.only hs.orderly.config hx).2 j
    rw [hy] at honly
    split at honly
    · next hj => rw [hj]
    · cases honly
  cases k with
  | remoteConfig => exact config (.inl rfl)
  | status => exact config (.inr rfl)
  | effectiveConfig =>
    rw [eq_effectiveConfig hc] at ha
    rw [eq_effectiveConfig hd] at hb
    exact Option.some.inj ((hs.readers a ha).symm.trans (hs.readers b hb))
  | connection kind =>
    obtain ⟨i, x, rfl, hx⟩ := view_of_calling_offer ha hc
    obtain ⟨j, y, rfl, hy⟩ := view_of_calling_offer hb hd
    have honly := (Slot.Served.only (hs.orderly.offers kind) hx).2 j
    rw [hy] at honly
    split at honly
    · next hj => rw [hj]
    · cases honly
  | identity => rw [loop_of_calling_identity ha hc, loop_of_calling_identity hb hd]
  | packages => exact absurd rfl hk.1
  | command => exact absurd rfl hk.2

/-- The call that is running about an exclusive topic, if there is one. -/
theorem Separate.running (hs : s.Separate) {k : Topic} (hk : k.IsExclusive) :
    ∃ r, s.Running k r := by
  by_cases h : ∃ a c, s.calling? a = some c ∧ c.topic = k
  · obtain ⟨a, c, ha, hc⟩ := h
    refine ⟨some (a, c), fun b d => ⟨fun ⟨hb, hd⟩ => ?_, fun heq => ?_⟩⟩
    · obtain rfl := hs.unique hk ha hc hb hd
      rw [Option.some.inj (ha.symm.trans hb)]
    · obtain ⟨rfl, rfl⟩ := Prod.mk.inj (Option.some.inj heq)
      exact ⟨ha, hc⟩
  · exact ⟨none, fun b d => ⟨fun hd => absurd ⟨b, d, hd⟩ h, nofun⟩⟩

end Calling

/-! ## A step of the session -/

section Step

theorem Owes.of_frame {S : Scope} (hs : s.Owes s.outstanding) (h : Frame S s t) (hn : s.Numbered)
    (hr : ¬ S.may .requests) (hl : ¬ S.may .loop) (hx : ∀ x, S.tasks x → requested? x = none) :
    t.Owes t.outstanding := by
  have hr : t.requests = s.requests := h.same .requests hr
  have hl : t.loop = s.loop := h.same .loop hl
  unfold outstanding
  rw [hr, hl]
  exact hs.congr (h.view hn hx)

theorem Owes.runTask (hs : s.Owes s.outstanding) (ho : s.Orderly) (id : Nat) (input : Input) :
    (s.runTask id input).Owes (s.runTask id input).outstanding := by
  unfold Session.runTask
  split
  · next h =>
    refine hs.of_frame (frame_runConfig s id _ _ h input) ho.numbered ?_ ?_ fun x hx => ?_
    · simp [Scope.config]
    · simp [Scope.config]
    · cases x with
      | remoteConfig => rfl
      | _ => exact False.elim hx
  · next h => exact hs.runOffer (ho.offers .management) h input
  · next h =>
    refine hs.of_frame (frame_runPackages s id _ _ h input) ho.numbered ?_ ?_ fun x hx => ?_
    · simp [Scope.packages]
    · simp [Scope.packages]
    · cases x with
      | packages => rfl
      | _ => exact False.elim hx
  · next h =>
    refine hs.of_frame (frame_runCommand s id _ _ h input) ho.numbered (fun h => h) (fun h => h)
      fun x hx => ?_
    cases x with
    | command => rfl
    | _ => exact False.elim hx
  · next h =>
    refine hs.of_frame (frame_runRefresh s id _ h input) ho.numbered ?_ ?_ fun x hx => ?_
    · simp [Scope.refresh]
    · simp [Scope.refresh]
    · cases x with
      | refresh => rfl
      | _ => exact False.elim hx
  · exact hs

variable [Transport τ]

theorem Owes.runLoop (hs : s.Owes s.outstanding) (hn : s.Numbered) (input : Input) :
    (s.runLoop input).Owes (s.runLoop input).outstanding := by
  rcases s.runLoop_cases input with ⟨-, h⟩ | ⟨u, routed, hset, hgo⟩
  · rw [h]
    exact hs
  · exact hgo.elim (M := OwesRequests) (fun _ _ h hu => h.owes hu) (fun _ i hu => hu.dispatch i)
      (fun _ _ h hu => h.owes hu) (hset.owes hn hs)

variable [Carrier τ]

theorem Separate.act (hs : s.Separate) (a : Action τ) : (s.act a).Separate := by
  have hn := hs.orderly.numbered
  have quiet {S : Scope} (ha : ∀ actor input, a ≠ .run actor input) (h : Frame S s (s.act a))
      (hg : ¬ S.may .gate) (hr : ¬ S.may .requests) (hl : ¬ S.may .loop)
      (hv : ∀ i, (s.act a).view requested? i = s.view requested? i) : (s.act a).Separate := by
    refine ⟨hs.orderly.act a, fun actor hc => ?_, ?_⟩
    · rw [(Calm.act a ha hn).calling] at hc
      exact (congrArg Gate.holder (h.same .gate hg)).trans (hs.readers actor hc)
    · have hr : (s.act a).requests = s.requests := h.same .requests hr
      have hl : (s.act a).loop = s.loop := h.same .loop hl
      unfold outstanding
      rw [hr, hl]
      exact hs.owes.congr hv
  by_cases hc : a.isCall = true
  · refine quiet ?_ (frame_act s a hc) ?_ ?_ ?_ (view_act s a hc hn rfl)
    · rintro actor input rfl
      cases hc
    all_goals simp [Scope.calls]
  · cases a with
    | run actor input =>
      cases actor with
      | loop =>
        exact ⟨hs.orderly.runLoop input, hs.readers.runLoop hn input, hs.owes.runLoop hn input⟩
      | task id =>
        exact ⟨hs.orderly.runTask id input, hs.readers.runTask hn id input,
          hs.owes.runTask hs.orderly id input⟩
    | use u => exact ⟨hs.orderly.act (.use u), hs.readers, hs.owes.congr fun _ => rfl⟩
    | setInterval d =>
      exact ⟨hs.orderly.act (.setInterval d), hs.readers, hs.owes.congr fun _ => rfl⟩
    | stop =>
      refine quiet (fun _ _ h => by cases h) (frame_stop s) ?_ ?_ ?_
        ((frame_stop s).view hn fun _ => False.elim)
      all_goals simp [Scope.stop]
    | _ => exact absurd rfl hc

theorem Separate.account (hs : s.Separate) {k : Topic} (hk : k.IsExclusive)
    (actions : List (Action τ)) {before : List (Actor × Call)} {r : Option (Actor × Call)}
    (hr : s.Running k r) (hb : s.begun k = before ++ r.toList) :
    ∃ r', (s.after actions).Running k r' ∧
      (s.after actions).begun k = before ++ s.ended k actions ++ r'.toList := by
  induction actions generalizing s before r with
  | nil => exact ⟨r, hr, by rw [after_nil, ended, List.append_nil]; exact hb⟩
  | cons a rest ih =>
    obtain ⟨r', hr'⟩ := (hs.act a).running hk
    obtain ⟨actor, ending, he, hturn⟩ := turn_act s a hs.orderly.numbered
    obtain ⟨r'', hr'', hb''⟩ := ih (hs.act a) hr' (hr.turn hr' hturn hb)
    refine ⟨r'', hr'', hb''.trans ?_⟩
    rw [ended, he]
    simp only [List.append_assoc]

/-- **Handlers of one slot never overlap.** At every moment in the course of a session at most one
call about offered configurations is running, at most one about the settings of each kind of
connection, and at most one that reads the agent's configuration: the calls about such a topic that
have begun are those that have ended, and after them the one that is running, if there is one. At
most one request to reconnect is outstanding, and it is the one that a task waits for. -/
theorem handlers_never_overlap (transport : τ) (settings : StartSettings) (fresh : String)
    (actions : List (Action τ)) :
    let s := start transport settings fresh
    let t := s.after actions
    (∀ k : Topic, k.IsExclusive → ∃ running, t.Running k running ∧
        t.begun k = s.ended k actions ++ running.toList) ∧
      t.outstanding.length ≤ 1 ∧
      ∀ i, i ∈ t.outstanding ↔
        ∃ kind settings, t.tasks.get? i = some (.connection kind settings .requesting) := by
  intro s t
  have hs : s.Separate := separate_start transport settings fresh
  have ht : t.Separate := after_induction (fun _ a h => h.act a) hs actions
  refine ⟨fun k hk => ?_, ?_, fun i => ?_⟩
  · have hr : s.Running k none := fun a c => ⟨fun h => (by cases a <;> cases h.1), nofun⟩
    have hb : s.begun k = [] ++ (none : Option (Actor × Call)).toList := rfl
    obtain ⟨r, hr, hb⟩ := hs.account hk actions hr hb
    exact ⟨r, hr, hb⟩
  · have h := ht.owes
    generalize t.outstanding = l at h
    cases h with
    | nobody => exact Nat.zero_le 1
    | one => exact Nat.le_refl 1
  · simp only [← view_requested]
    have h := ht.owes
    generalize t.outstanding = l at h
    cases h with
    | nobody h => simp [h]
    | one id settings h => simp [h]

/-- While the agent applies one configuration, another one is offered. -/
def overtaken : List (Action Http.Sender) :=
  [.run .loop .look, .run .loop (.answered (.effective (.error .cancelled))),
    .run .loop (.exchanged (.ok (some { remoteConfig := some { hash := [1] } }))),
    .run (.task 0) .look, .setTime 30000, .run .loop .look,
    .run .loop (.exchanged (.ok (some { remoteConfig := some { hash := [2] } }))),
    .run (.task 0) (.answered (.applied (.ok {}))), .run (.task 0) (.answered (.done (.ok ())))]

theorem handlers_never_overlap_overtaken :
    let s := start ({} : Http.Sender) { serverUrl := "http://a" } "agent"
    let t := s.after overtaken
    Topic.IsExclusive .remoteConfig ∧
      (t.begun .remoteConfig = [(.task 0, .applyRemoteConfig { hash := [1] }),
        (.task 0, .applyRemoteConfig { hash := [2] })]) ∧
      s.ended .remoteConfig overtaken = [(.task 0, .applyRemoteConfig { hash := [1] })] ∧
      ∃ running, t.Running .remoteConfig running ∧
        t.begun .remoteConfig = s.ended .remoteConfig overtaken ++ running.toList :=
  ⟨⟨nofun, nofun⟩, by decide, by decide,
    (handlers_never_overlap ({} : Http.Sender) { serverUrl := "http://a" } "agent" overtaken).1
      .remoteConfig ⟨nofun, nofun⟩⟩

end Step

end Session

end ManagedAgent
