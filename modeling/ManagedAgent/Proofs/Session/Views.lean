import ManagedAgent.Proofs.Session.LoopFrame

/-!
# What is seen of the tasks

A view shows of every task what an invariant is about, and nothing of the other tasks. A step that
keeps to tasks of which nothing is seen does not change the view. The exchange loop changes a task
only by its answer to a request to reconnect, and routing only starts tasks.

* `Frame.view` : what is seen is kept by a step whose scope has no task that is seen;
* `Settles.view`, `Works.view`, `Rests.view` : a view that does not tell a request from its answer
  is kept by the loop, and by all of it (`view_runLoop`) if it shows no new task;
* `frame_dispatch` : the scope of routing;
* `frame_any` : no task ever has a number that was not handed out, and the history only grows.
-/

set_option autoImplicit false

namespace ManagedAgent

def Task.isFresh : Task → Bool
  | .remoteConfig _ .fresh | .connection _ _ .fresh | .packages _ .fresh | .command _ .fresh => true
  | .refresh .fresh => true
  | _ => false

namespace Session
variable {τ σ : Type} {v : Task → Option σ}

def view (v : Task → Option σ) (s : Session τ) (id : Nat) : Option σ := (s.tasks.get? id).bind v

theorem view_eq_some {s : Session τ} {id : Nat} {y : σ} :
    s.view v id = some y ↔ ∃ x, s.tasks.get? id = some x ∧ v x = some y := Option.bind_eq_some_iff

theorem view_of_get? {s : Session τ} {id : Nat} {x : Task} (h : s.tasks.get? id = some x) :
    s.view v id = v x := by
  unfold view
  rw [h]
  rfl

theorem view_of_tasks {s t : Session τ} (h : t.tasks = s.tasks) (id : Nat) :
    t.view v id = s.view v id := by
  unfold view
  rw [h]

theorem view_setTask (s : Session τ) (id : Nat) (x : Task) (i : Nat) :
    (s.setTask id x).view v i = if i = id then v x else s.view v i := by
  unfold view
  show ((s.tasks.insert id x).get? i).bind v = _
  rw [Table.get?_insert]
  split <;> rfl

theorem view_spawn (s : Session τ) (x : Task) (i : Nat) :
    (s.spawn x).view v i = if i = s.nextTask then v x else s.view v i := view_setTask s _ x i

theorem view_finish (s : Session τ) (id i : Nat) :
    (s.finish id).view v i = if i = id then none else s.view v i := by
  unfold view
  show ((s.tasks.erase id).get? i).bind v = _
  rw [Table.get?_erase]
  split <;> rfl

/-- The view does not tell a request to reconnect from its answer. -/
def IgnoresReplies (v : Task → Option σ) : Prop :=
  ∀ kind settings r, v (.connection kind settings (.replied r)) = v (.connection kind settings .requesting)

theorem IgnoresReplies.reply (hv : IgnoresReplies v) (s : Session τ) (task : Nat)
    (r : Except TransportError Unit) (i : Nat) : (s.reply task r).view v i = s.view v i := by
  unfold Session.reply
  split
  · next kind settings h =>
    show (s.setTask task _).view v i = _
    rw [view_setTask]
    split
    · next hi => rw [hi, view_of_get? h, hv]
    · rfl
  · rfl

theorem IgnoresReplies.endLoop (hv : IgnoresReplies v) (s : Session τ) (i : Nat) :
    s.endLoop.view v i = s.view v i := by
  have replies (rs : List ReconnectRequest) (t : Session τ) :
      (rs.foldl (fun s r => s.reply r.task (.error .closed)) t).view v i = t.view v i := by
    induction rs generalizing t with
    | nil => rfl
    | cons r rest ih => rw [List.foldl_cons, ih, hv.reply]
  exact replies s.requests { s with loop := .ended, requests := [] }

/-! ## Scopes -/

namespace Scope

def any : Scope where
  may _ := True
  logs _ := True
  tasks _ := True

def settling : Scope where
  may a := a ∈ [.transport, .state .pending]
  logs
    | .applied _ | .ready _ => True
    | _ => False
  tasks
    | .connection .. => True
    | _ => False

def routing : Scope where
  may
    | .remoteConfig | .offers _ | .state .packages => True
    | _ => False
  logs
    | .routing _ | .ready _ => True
    | _ => False
  tasks x := x.isFresh

end Scope

section Frames
variable {S : Scope} {s t : Session τ}

/-- What is seen is kept by a step that keeps to tasks of which nothing is seen. -/
theorem Frame.view (h : Frame S s t) (hn : s.Numbered) (hv : ∀ x, S.tasks x → v x = none)
    (i : Nat) :
    t.view v i = s.view v i := by
  refine Option.ext fun y => ?_
  rw [view_eq_some, view_eq_some]
  refine exists_congr fun x => and_congr_left fun hx => h.task hn i x fun hs => ?_
  rw [hv x hs] at hx
  contradiction

/-- A step that kept to a scope of tasks leaves a task of the scope in it. -/
theorem Frame.scope_of_get? (h : Frame S s t) (hn : s.Numbered) {id : Nat} {x y : Task}
    (hx : s.tasks.get? id = some x) (hS : S.tasks x) (hy : t.tasks.get? id = some y) :
    S.tasks y := by
  refine Classical.byContradiction fun hno => ?_
  have hy := (h.task hn id y hno).1 hy
  rw [hx] at hy
  exact hno (Option.some.inj hy ▸ hS)

theorem Frame.any (h : Frame S s t) : Frame .any s t :=
  h.mono (fun _ _ => trivial) (fun _ _ => trivial) fun _ _ => trivial

/-- Of the events that a step adds none is of the kind that the step does not log. -/
theorem Frame.filterMap_history {α : Type} {f : Event → Option α} (h : Frame S s t)
    (hl : ∀ e, S.logs e → f e = none) : t.history.filterMap f = s.history.filterMap f := by
  obtain ⟨es, he, hes⟩ := h.logged
  rw [he, List.filterMap_append, List.filterMap_eq_nil_iff.2 fun e hm => hl e (hes e hm),
    List.append_nil]

end Frames

def Scope.of : Task → Scope
  | .remoteConfig .. => .config
  | .connection kind .. => .offer kind
  | .packages .. => .packages
  | .command .. => .command
  | .refresh _ => .refresh

theorem Scope.tasks_of (x : Task) : (Scope.of x).tasks x := by
  cases x with
  | connection => rfl
  | _ => trivial

theorem frame_runTask {s : Session τ} {id : Nat} {x : Task} (h : s.tasks.get? id = some x)
    (input : Input) : Frame (.of x) s (s.runTask id input) := by
  unfold runTask
  rw [h]
  cases x with
  | remoteConfig => exact frame_runConfig s id _ _ h input
  | connection => exact frame_runOffer s id _ _ h input
  | packages => exact frame_runPackages s id _ _ h input
  | command => exact frame_runCommand s id _ _ h input
  | refresh => exact frame_runRefresh s id _ h input

theorem runTask_of_none {s : Session τ} {id : Nat} (h : s.tasks.get? id = none) (input : Input) :
    s.runTask id input = s := by
  unfold runTask
  rw [h]

theorem frame_any_runTask (s : Session τ) (id : Nat) (input : Input) :
    Frame .any s (s.runTask id input) := by
  cases h : s.tasks.get? id with
  | none =>
    rw [runTask_of_none h]
    exact .refl s
  | some x => exact (frame_runTask h input).any

theorem isStopping_runTask (s : Session τ) (id : Nat) (input : Input) :
    (s.runTask id input).isStopping = s.isStopping := by
  cases hx : s.tasks.get? id with
  | none => rw [runTask_of_none hx]
  | some x =>
    refine (frame_runTask hx input).same .stopping ?_
    cases x with
    | remoteConfig => simp [Scope.of, Scope.config]
    | connection => simp [Scope.of, Scope.offer]
    | packages => simp [Scope.of, Scope.packages]
    | command => exact fun h => h
    | refresh => simp [Scope.of, Scope.refresh]

/-! ## Routing -/

theorem frame_routing_spawn (s : Session τ) {x : Task} (hx : x.isFresh = true) :
    Frame .routing s (s.spawn x) := .spawn s x hx trivial

theorem frame_routing_remoteConfig (s : Session τ) (config : RemoteConfig) :
    Frame .routing s (s.dispatchRemoteConfig config) := by
  have keep (slot) : Frame .routing s { s with remoteConfig := slot } :=
    .setConfigSlot s slot trivial
  unfold dispatchRemoteConfig
  dsimp only
  split
  · exact .refl s
  · split
    · exact keep _
    · exact (keep _).trans (frame_routing_spawn _ rfl)

theorem frame_routing_offer (s : Session τ) (kind : ConnectionKind)
    (settings : ConnectionSettings) : Frame .routing s (s.dispatchOffer kind settings) := by
  have keep (slot) : Frame .routing s (s.setOfferSlot kind slot) := .setOffers s kind slot trivial
  unfold dispatchOffer
  dsimp only
  split
  · exact .refl s
  · split
    · exact keep _
    · exact (keep _).trans (frame_routing_spawn _ rfl)

theorem frame_routing_packages (s : Session τ) (packages : PackagesAvailable) :
    Frame .routing s (s.dispatchPackages packages) := by
  have hs : Frame .routing s { s with state := (s.state.beginSync packages.allHash).2 } :=
    .setState s _ (.setPackages _ _ trivial)
  unfold dispatchPackages
  dsimp only
  split
  · exact hs.trans (frame_routing_spawn _ rfl)
  · exact hs

theorem frame_dispatch (s : Session τ) (i : Instruction) : Frame .routing s (s.dispatch i) := by
  refine dispatch_induction (P := Frame .routing s) i ?_ ?_ ?_ ?_ s (.emit s _ trivial)
  · exact fun t config _ h => h.trans (frame_routing_remoteConfig t config)
  · exact fun t kind settings h => h.trans (frame_routing_offer t kind settings)
  · exact fun t packages h => h.trans (frame_routing_packages t packages)
  · exact fun t command h => h.trans (frame_routing_spawn t rfl)

/-! ## The loop -/

section Loop
variable [Transport τ] {s t : Session τ}

theorem Settles.frame {input : Input} (h : Settles s input t) : Frame .settling s t := by
  have reply (task : Nat) (r : Except TransportError Unit) : Frame .settling s (s.reply task r) :=
    .reply s task r (fun _ _ _ => trivial) trivial
  have restore (task : Nat) (previous : ConnectionSettings) (e : TransportError) :
      Frame .settling s (s.restore task previous e) :=
    .restore s task previous e (by simp [Scope.settling]) (fun _ _ _ => trivial) trivial trivial
  have take (u : Session τ) (number : UInt64) :
      Frame .settling u (u.update (·.delivered number)) :=
    .update u _ (.delivered _ number (by simp [Scope.settling])) trivial
  cases h with
  | nothing => exact .refl s
  | missed => exact .refl s
  | taken number => exact take s number
  | proved task previous number => exact (reply task _).trans (take _ number)
  | disproved task previous number e => exact restore task previous e
  | switched task previous => exact reply task _
  | unswitched task previous e => exact restore task previous e

theorem Settles.view {input : Input} (h : Settles s input t) (hv : IgnoresReplies v) (i : Nat) :
    t.view v i = s.view v i := by
  have restore (task : Nat) (previous : ConnectionSettings) (e : TransportError) :
      (s.restore task previous e).view v i = s.view v i := hv.reply _ task _ i
  cases h with
  | nothing => rfl
  | missed => rfl
  | taken number => exact view_of_tasks (tasks_update _ _) i
  | proved task previous number =>
    exact (view_of_tasks (tasks_update _ _) i).trans (hv.reply s task _ i)
  | disproved task previous number e => exact restore task previous e
  | switched task previous => exact hv.reply s task _ i
  | unswitched task previous e => exact restore task previous e

theorem Works.view (h : Works s t) (hn : s.Numbered) (hv : IgnoresReplies v) (i : Nat) :
    t.view v i = s.view v i := by
  rcases h.errand_or_refuse with h | ⟨r, rest, e, -, -, rfl⟩
  · exact h.view hn (fun _ => False.elim) i
  · exact hv.reply _ _ _ i

theorem Rests.view (h : Rests s t) (hn : s.Numbered) (hv : IgnoresReplies v) (i : Nat) :
    t.view v i = s.view v i := by
  rcases h.trial_or_quiet with rfl | ⟨h, -⟩ | ⟨r, rest, previous, -, -, h, -⟩
  · exact hv.endLoop s i
  · exact h.view hn (fun _ => False.elim) i
  · exact h.view (s := ({ s with requests := rest }.applySettings r.settings).2) hn
      (fun _ => False.elim) i

theorem frame_any_runLoop (s : Session τ) (input : Input) : Frame .any s (s.runLoop input) := by
  rcases s.runLoop_cases input with ⟨-, h⟩ | ⟨u, routed, hset, hgo⟩
  · rw [h]
    exact .refl s
  · refine hgo.elim (M := Frame .any s) (fun _ _ h hs => hs.trans h.frame.any) ?_
      (fun _ _ h hs => hs.trans h.frame.any) hset.frame.any
    exact fun u i hs => hs.trans (frame_dispatch u i).any

/-- What is seen neither of new tasks nor of replies is kept by the loop. -/
theorem view_runLoop (s : Session τ) (hn : s.Numbered) (input : Input) (hv : IgnoresReplies v)
    (hf : ∀ x : Task, x.isFresh = true → v x = none) (i : Nat) :
    (s.runLoop input).view v i = s.view v i := by
  rcases s.runLoop_cases input with ⟨-, h⟩ | ⟨u, routed, hset, hgo⟩
  · rw [h]
  · refine hgo.elim (M := fun u => u.Numbered ∧ u.view v i = s.view v i)
      (P := fun u => u.view v i = s.view v i) ?_ ?_ ?_ ⟨hset.frame.numbered hn, hset.view hv i⟩
    · exact fun _ _ h hu => ⟨h.frame.numbered hu.1, (h.view hu.1 hv i).trans hu.2⟩
    · exact fun u j hu => ⟨(frame_dispatch u j).numbered hu.1,
        ((frame_dispatch u j).view hu.1 hf i).trans hu.2⟩
    · exact fun _ _ h hu => (h.view hu.1 hv i).trans hu.2

/-- What neither work nor routing nor rest may change is the same at the end of the loop's way. -/
theorem Goes.same {routed : Option Instruction} (h : Goes routed s t) {a : Aspect}
    (hw : ¬ Scope.work.may a) (hd : ¬ Scope.routing.may a) (hr : ¬ Scope.rest.may a) :
    a.Same s t :=
  h.elim (M := fun u => a.Same s u) (P := fun u => a.Same s u)
    (fun _ _ h hu => hu.trans (h.frame.same a hw))
    (fun u i hu => hu.trans ((frame_dispatch u i).same a hd))
    (fun _ _ h hu => hu.trans (h.frame.same a hr)) (.refl s a)

theorem same_runLoop (s : Session τ) (input : Input) {a : Aspect} (hs : ¬ Scope.settling.may a)
    (hw : ¬ Scope.work.may a) (hd : ¬ Scope.routing.may a) (hr : ¬ Scope.rest.may a) :
    a.Same s (s.runLoop input) := by
  rcases s.runLoop_cases input with ⟨-, h⟩ | ⟨u, routed, hset, hgo⟩
  · rw [h]
    exact .refl s a
  · exact (hset.frame.same a hs).trans (hgo.same hw hd hr)

theorem isStopping_runLoop (s : Session τ) (input : Input) :
    (s.runLoop input).isStopping = s.isStopping :=
  s.same_runLoop input (a := .stopping) (by simp [Scope.settling]) (by simp [Scope.work]) id
    (by simp [Scope.rest])

variable [Carrier τ]

/-- A call from outside changes no task, but may start one that reads the agent's configuration. -/
theorem view_act (s : Session τ) (a : Action τ) (h : a.isCall = true) (hn : s.Numbered)
    (hv : v (.refresh .fresh) = none) (i : Nat) : (s.act a).view v i = s.view v i := by
  cases a with
  | setTime => rfl
  | setDescription | setHealth => exact view_of_tasks (tasks_update _ _) i
  | refresh =>
    show (s.setTask s.nextTask (.refresh .fresh)).view v i = _
    rw [view_setTask, hv]
    split
    · next hi =>
      rw [hi]
      unfold view
      rw [hn.get?_nextTask]
      rfl
    · rfl
  | reportSync hash report =>
    cases report with
    | _ => exact view_of_tasks (tasks_update _ _) i
  | endStop =>
    refine view_of_tasks ?_ i
    show (if s.phase = .stopping ∧ s.isDrained then s.markStopped else s).tasks = s.tasks
    split <;> rfl
  | cancelStop isFirst =>
    refine view_of_tasks ?_ i
    show (if s.phase = .stopping then
      (if isFirst then s.abort.markStopped else s.abort) else s).tasks = s.tasks
    split
    · split <;> rfl
    · rfl
  | _ => contradiction

theorem frame_any (s : Session τ) (a : Action τ) : Frame .any s (s.act a) := by
  by_cases hc : a.isCall = true
  · exact (frame_act s a hc).any
  · cases a with
    | run actor input =>
      cases actor with
      | loop => exact frame_any_runLoop s input
      | task id => exact frame_any_runTask s id input
    | use u => exact .setTransport s _ trivial
    | setInterval d => exact .setTransport s _ trivial
    | stop => exact (frame_stop s).any
    | _ => exact absurd rfl hc

/-- A call from outside leaves the phase alone, unless it ends a stop. -/
theorem phase_call (s : Session τ) (a : Action τ) (h : a.isCall = true) :
    (s.act a).phase = s.phase ∨ s.phase = .stopping ∧ (s.act a).phase = .stopped := by
  have update (f : State → State) : (s.update f).phase = s.phase :=
    apply_update (·.phase) (fun _ => rfl) s f
  cases a with
  | setTime | refresh => exact .inl rfl
  | setDescription | setHealth => exact .inl (update _)
  | reportSync hash report => cases report <;> exact .inl (update _)
  | endStop =>
    show (if s.phase = .stopping ∧ s.isDrained then s.markStopped else s).phase = _ ∨ _
    split
    · next hs => exact .inr ⟨hs.1, congrArg Session.phase (if_pos hs)⟩
    · exact .inl rfl
  | cancelStop isFirst =>
    show (if s.phase = .stopping then (if isFirst then s.abort.markStopped else s.abort)
      else s).phase = _ ∨ _
    split
    · next hs =>
      cases isFirst with
      | false => exact .inl rfl
      | true => exact .inr ⟨hs, congrArg Session.phase (if_pos hs)⟩
    · exact .inl rfl
  | _ => contradiction

/-- Nothing but a request to stop makes a session stop. -/
theorem isStopping_act (s : Session τ) {a : Action τ} (h : a ≠ .stop) :
    (s.act a).isStopping = s.isStopping := by
  by_cases hc : a.isCall = true
  · exact (frame_act s a hc).same .stopping (by simp [Scope.calls])
  · cases a with
    | run actor input =>
      cases actor with
      | loop => exact isStopping_runLoop s input
      | task id => exact isStopping_runTask s id input
    | use u => rfl
    | setInterval d => rfl
    | stop => exact absurd rfl h
    | _ => exact absurd rfl hc

/-- A running session stops when that is requested. -/
theorem isStopping_stop (h : s.isRunning = true) : (s.act .stop).isStopping = true := by
  have hact : s.act .stop = s.requestStop := if_pos h
  rw [hact]
  unfold requestStop
  dsimp only
  split <;> rfl

/-- A session that stops does not start again. -/
theorem isStopping_act_of_stopping (h : s.isStopping = true) (a : Action τ) :
    (s.act a).isStopping = true := by
  by_cases ha : a = .stop
  · subst ha
    by_cases hr : s.isRunning = true
    · exact isStopping_stop hr
    · rwa [show s.act .stop = s from if_neg hr]
  · rwa [isStopping_act s ha]

end Loop

end Session

end ManagedAgent
