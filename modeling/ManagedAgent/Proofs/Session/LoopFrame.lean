import ManagedAgent.Proofs.Session.Course
import ManagedAgent.Proofs.Session.LoopSteps

/-!
# The scopes of the loop and of calls

* `Works.errand_or_refuse`, `Works.frame` : what the exchange loop does on its way, apart from
  routing;
* `Rests.report_or_pause`, `Rests.trial_or_quiet`, `Rests.frame` : how it comes to rest, with a new
  report, with settings on trial, or without;
* `dispatch_tail`, `dispatch_induction` : an instruction is routed part by part, the offered
  configuration first;
* `frame_act`, `frame_stop` : a call of the agent, or of the one who stops the session.
-/

set_option autoImplicit false

namespace ManagedAgent.Session
variable {τ : Type}

namespace Scope

/-- What the loop does on its way, apart from routing and from requests. -/
def errand : Scope where
  may a := a ∈ [.phase, .gate, .state .fullState, .state .uid, .state .effectiveConfig,
    .state .marks, .state .wakeup]
  logs
    | .told .connected | .told (.connectFailed _) | .told (.serverError _) | .ready _ => True
    | _ => False

/-- What the loop does on its way, apart from routing. -/
def work : Scope where
  may a := a ∈ [.transport, .phase, .requests, .gate, .state .fullState, .state .uid,
    .state .effectiveConfig, .state .marks, .state .wakeup]
  logs
    | .applied _ => True
    | e => errand.logs e
  tasks
    | .connection .. => True
    | _ => False

/-- How the loop comes to rest without a new report. -/
def pause : Scope where
  may a := a ∈ [.transport, .loop, .requests, .gate, .state .wakeup]
  logs
    | .called .. | .connecting | .receiving | .applied _ | .ready _ | .loopEnded => True
    | _ => False
  tasks
    | .connection .. => True
    | _ => False

/-- How the loop comes to rest, perhaps with a new report. -/
def rest : Scope where
  may a := a ∈ [.transport, .loop, .requests, .gate, .state .sequence, .state .marks,
    .state .connectionStatuses, .state .fullState, .state .pending, .state .wakeup]
  logs
    | .called .. | .exchanging _ | .connecting | .sending _ | .receiving | .applied _ => True
    | .ready _ | .loopEnded => True
    | _ => False
  tasks
    | .connection .. => True
    | _ => False

/-- How the loop comes to rest, apart from requests. -/
def settle : Scope where
  may a := a ∈ [.loop, .gate, .state .sequence, .state .marks, .state .connectionStatuses,
    .state .fullState, .state .pending, .state .wakeup]
  logs
    | .called .. | .exchanging _ | .connecting | .sending _ | .receiving => True
    | _ => False

def calls : Scope where
  may a := a ∈ [.phase, .aborting, .now, .state .description, .state .health, .state .packages,
    .state .packageStatuses, .state .marks, .state .wakeup]
  logs
    | .ready _ => True
    | _ => False
  tasks
    | .packages .. | .refresh _ => True
    | _ => False

def stop : Scope where
  may a := a ∈ [.phase, .stopping]
  logs
    | .ready _ => True
    | _ => False

end Scope

namespace Frame
variable {S : Scope}

theorem setWakeup (s : Session τ) (f : Wakeup → Wakeup) (h : S.may (.state .wakeup)) :
    Frame S s (s.setWakeup f) := setState s _ (.setWakeup s.state _ h)

theorem nextReport (s : Session τ) (h : S.may (.state .sequence)) (hm : S.may (.state .marks))
    (hc : S.may (.state .connectionStatuses)) (hf : S.may (.state .fullState))
    (hp : S.may (.state .pending)) : Frame S s s.nextReport.2 :=
  setState s _ (.nextReport s.state h hm hc hf hp)

theorem reply (s : Session τ) (task : Nat) (r : Except TransportError Unit)
    (h : ∀ kind settings stage, S.tasks (.connection kind settings stage))
    (hl : S.logs (.ready (.task task))) : Frame S s (s.reply task r) := by
  unfold Session.reply
  split
  · next kind settings hx =>
    refine trans (t := s.setTask task (.connection kind settings (.replied r))) ?_ (ready _ _ hl)
    exact setTask s task _ _ hx (h _ _ _) (h _ _ _)
  · exact refl s

theorem endLoop (s : Session τ) (hloop : S.may .loop) (hr : S.may .requests)
    (h : ∀ kind settings stage, S.tasks (.connection kind settings stage))
    (hl : ∀ a, S.logs (.ready a)) (he : S.logs .loopEnded) : Frame S s s.endLoop := by
  have replies (rs : List ReconnectRequest) (t : Session τ) (ht : Frame S s t) :
      Frame S s (rs.foldl (fun s r => s.reply r.task (.error .closed)) t) := by
    induction rs generalizing t with
    | nil => exact ht
    | cons r rest ih => exact ih _ (ht.trans (reply t r.task _ h (hl _)))
  refine trans (replies _ _ ?_) (emit _ _ he)
  exact trans (t := { s with loop := .ended }) (setLoop s _ hloop) (setRequests _ _ hr)

theorem markConnected (s : Session τ) (h : S.may .phase) (hl : S.logs (.told .connected)) :
    Frame S s s.markConnected := by
  unfold Session.markConnected
  split
  · next hp =>
    have hs : { s with phase := .connected }.isStopping = s.isStopping := by
      rw [isStopping, isStopping, hp]
      rfl
    exact (setPhase s _ h (.inr hs)).trans (emit _ _ hl)
  · exact refl s

theorem markFailed (s : Session τ) (e : TransportError) (h : S.may .phase)
    (hl : S.logs (.told (.connectFailed e))) : Frame S s (s.markFailed e) := by
  have phase : Frame S s (if s.phase = .connected then { s with phase := .connecting } else s) := by
    split
    · next hp => exact setPhase s _ h (.inr (by rw [isStopping, isStopping, hp]; rfl))
    · exact refl s
  unfold Session.markFailed
  split
  · exact refl s
  · exact phase.trans (emit _ _ hl)

variable [Transport τ]

theorem applySettings (s : Session τ) (settings : ConnectionSettings) (h : S.may .transport)
    (hl : S.logs (.applied settings)) : Frame S s (s.applySettings settings).2 :=
  (setTransport s _ h).trans (emit _ _ hl)

theorem restore (s : Session τ) (task : Nat) (previous : ConnectionSettings) (e : TransportError)
    (ht : S.may .transport) (h : ∀ kind settings stage, S.tasks (.connection kind settings stage))
    (ha : S.logs (.applied previous)) (hl : S.logs (.ready (.task task))) :
    Frame S s (s.restore task previous e) :=
  (applySettings s previous ht ha).trans (reply _ task _ h hl)

end Frame

/-! ## Routing -/

/-- What the other parts keep of what the offered configuration leads to is kept to the end. -/
theorem dispatch_tail {P : Session τ → Prop} (i : Instruction)
    (ho : ∀ s kind settings, P s → P (s.dispatchOffer kind settings))
    (hp : ∀ s packages, P s → P (s.dispatchPackages packages))
    (hd : ∀ s command, P s → P (s.dispatchCommand command)) (s : Session τ)
    (hs : P ((s.emit (.routing i)).withPart i.remoteConfig dispatchRemoteConfig)) :
    P (s.dispatch i) := by
  have part {α : Type} (p : Option α) (f : Session τ → α → Session τ)
      (hf : ∀ s a, P s → P (f s a)) (s : Session τ) (h : P s) : P (s.withPart p f) := by
    cases p with
    | none => exact h
    | some a => exact hf s a h
  have offers (l : List (ConnectionKind × ConnectionSettings)) (s : Session τ) (h : P s) :
      P (l.foldl (fun s o => s.dispatchOffer o.1 o.2) s) := by
    induction l generalizing s with
    | nil => exact h
    | cons o rest ih => exact ih _ (ho s o.1 o.2 h)
  unfold dispatch
  refine part _ _ hd _ (part _ _ hp _ (part _ _ ?_ _ hs))
  exact fun s o => offers o.toList s

/-- What every part keeps is kept by the routing of the whole instruction. -/
theorem dispatch_induction {P : Session τ → Prop} (i : Instruction)
    (hc : ∀ s config, i.remoteConfig = some config → P s → P (s.dispatchRemoteConfig config))
    (ho : ∀ s kind settings, P s → P (s.dispatchOffer kind settings))
    (hp : ∀ s packages, P s → P (s.dispatchPackages packages))
    (hd : ∀ s command, P s → P (s.dispatchCommand command)) (s : Session τ)
    (hs : P (s.emit (.routing i))) : P (s.dispatch i) := by
  refine dispatch_tail i ho hp hd s ?_
  unfold withPart
  split
  · next config h => exact hc _ config h hs
  · exact hs

/-! ## What the agent reports -/

theorem frame_reportSync (s : Session τ) (hash : Bytes) (report : SyncReport) :
    Frame .calls s (s.reportSync hash report) := by
  cases report with
  | status status =>
    show Frame .calls s (s.update (·.reportPackage status))
    refine .update s _ (.trans (.modifyPackageStatuses _ _ ?_ ?_) (.notify _ ?_)) trivial
    all_goals simp [Scope.calls]
  | done =>
    show Frame .calls s (s.update (·.packagesDone hash))
    refine .update s _ (.trans (.endSync _ _ _ ?_ ?_ ?_) (.notify _ ?_)) trivial
    all_goals simp [Scope.calls]
  | failed error =>
    show Frame .calls s (s.update (·.packagesFailed hash error))
    refine .update s _ (.packagesFailed _ _ _ ?_ ?_ ?_ ?_) trivial
    all_goals simp [Scope.calls]

/-! ## The loop -/

theorem Frame.rest_of_pause {s t : Session τ} (h : Frame .pause s t) : Frame .rest s t := by
  refine h.mono (by simp [Scope.pause, Scope.rest]) ?_ ?_
  · intro e he; cases e <;> trivial
  · intro x hx; cases x <;> trivial

variable [Transport τ]

/-- The loop refuses a request or does something else. -/
theorem Works.errand_or_refuse {s t : Session τ} (h : Works s t) :
    Frame .errand s t ∨ ∃ r rest e, s.requests = r :: rest ∧
      (Transport.apply s.transport r.settings).1 = .error e ∧
      t = ({ s with requests := rest }.applySettings r.settings).2.reply r.task (.error e) := by
  cases h with
  | connected => exact .inl (.markConnected s (by simp [Scope.errand]) trivial)
  | failed e => exact .inl (.markFailed s e (by simp [Scope.errand]) trivial)
  | serverError e => exact .inl (.emit s _ trivial)
  | fullState =>
    exact .inl (.update s _ (.requestFullState _ (by simp [Scope.errand])) trivial)
  | adopt uid => exact .inl (.update s _ (.setUid _ uid (by simp [Scope.errand])) trivial)
  | read r =>
    refine .inl (.finishReading s _ r ?_ ?_ ?_ fun _ => trivial)
    all_goals simp [Scope.errand]
  | abandon => exact .inl (.leaveGate s _ (by simp [Scope.errand]) fun _ => trivial)
  | wakeup f => exact .inl (.setWakeup s f (by simp [Scope.errand]))
  | refuse r rest e h he => exact .inr ⟨r, rest, e, h, he, rfl⟩

theorem Works.frame {s t : Session τ} (h : Works s t) : Frame .work s t := by
  rcases h.errand_or_refuse with h | ⟨r, rest, e, -, -, rfl⟩
  · refine h.mono (by simp [Scope.errand, Scope.work]) ?_ fun _ => False.elim
    intro e he
    cases e with
    | applied => trivial
    | _ => exact he
  · refine .trans (.setRequests s rest ?_) (.trans (.applySettings _ _ ?_ trivial)
      (.reply _ _ _ (fun _ _ _ => trivial) trivial))
    all_goals simp [Scope.work]

/-- The loop comes to rest with a new report or without one. -/
theorem Rests.report_or_pause {s t : Session τ} (h : Rests s t) :
    (Frame .pause s t ∧ t.loop.number? = none) ∨
      ∃ u l e, Frame .pause s u ∧ e.report? = some u.nextReport.1 ∧
        l.number? = some u.nextReport.1.sequenceNumber ∧
        t = { u.nextReport.2 with loop := l }.emit e := by
  have loop (s : Session τ) (l : Loop) : Frame .pause s { s with loop := l } :=
    .setLoop s l (by simp [Scope.pause])
  have wake (s : Session τ) (f : Wakeup → Wakeup) : Frame .pause s (s.setWakeup f) :=
    .setWakeup s f (by simp [Scope.pause])
  have take (r : ReconnectRequest) (rest : List ReconnectRequest) :
      Frame .pause s ({ s with requests := rest }.applySettings r.settings).2 :=
    .trans (.setRequests s rest (by simp [Scope.pause]))
      (.applySettings _ r.settings (by simp [Scope.pause]) trivial)
  cases h with
  | poll => exact .inr ⟨s, _, .exchanging s.nextReport.1, .refl s, rfl, rfl, rfl⟩
  | verify r rest previous deadline =>
    exact .inr ⟨_, _, .exchanging _, take r rest, rfl, rfl, rfl⟩
  | sendReport retry => exact .inr ⟨s, _, .sending s.nextReport.1, .refl s, rfl, rfl, rfl⟩
  | ended =>
    refine .inl ⟨.endLoop s ?_ ?_ (fun _ _ _ => trivial) (fun _ => trivial) trivial, ?_⟩
    · simp [Scope.pause]
    · simp [Scope.pause]
    · rw [loop_endLoop]
      rfl
  | entering =>
    refine .inl ⟨.trans (.enterGate s .loop (by simp [Scope.pause]) trivial) (loop _ _), ?_⟩
    show (if _ then Loop.reading else Loop.queueing).number? = none
    split <;> rfl
  | reading => exact .inl ⟨.trans (loop s .reading) (.call _ _ _ trivial), rfl⟩
  | waiting deadline => exact .inl ⟨.trans (loop s (.waiting deadline)) (wake _ _), rfl⟩
  | retrying deadline => exact .inl ⟨loop s _, rfl⟩
  | connecting => exact .inl ⟨.trans (loop s _) (.emit _ .connecting trivial), rfl⟩
  | receive retry =>
    exact .inl ⟨.trans (loop s (.receiving retry)) (.trans (wake _ Wakeup.wait)
      (.emit _ .receiving trivial)), rfl⟩
  | switch r rest previous retry =>
    exact .inl ⟨(take r rest).trans (.trans (loop _ (.switching r.task previous retry))
      (.emit _ .connecting trivial)), rfl⟩
  | pausing deadline retry => exact .inl ⟨loop s _, rfl⟩
  | identifying uid i r =>
    exact .inl ⟨.trans (loop s (.identifying uid i r)) (.call _ _ _ trivial), rfl⟩

theorem Rests.frame {s t : Session τ} (h : Rests s t) : Frame .rest s t := by
  rcases h.report_or_pause with ⟨hp, -⟩ | ⟨u, l, e, hp, he, -, rfl⟩
  · exact hp.rest_of_pause
  · refine hp.rest_of_pause.trans (.trans (.nextReport u ?_ ?_ ?_ ?_ ?_)
      (.trans (.setLoop _ l ?_) (.emit _ e ?_)))
    iterate 6 simp [Scope.rest]
    cases e <;> trivial

/-- The loop comes to rest with settings on trial, or without. -/
theorem Rests.trial_or_quiet {s t : Session τ} (h : Rests s t) :
    t = s.endLoop ∨ (Frame .settle s t ∧ t.loop.trial? = none) ∨
      ∃ r rest previous, s.requests = r :: rest ∧
        (Transport.apply s.transport r.settings).1 = .ok previous ∧
        Frame .settle ({ s with requests := rest }.applySettings r.settings).2 t ∧
        t.loop.trial? = some (r.task, previous) := by
  have loop (s : Session τ) (l : Loop) : Frame .settle s { s with loop := l } :=
    .setLoop s l (by simp [Scope.settle])
  have wake (s : Session τ) (f : Wakeup → Wakeup) : Frame .settle s (s.setWakeup f) :=
    .setWakeup s f (by simp [Scope.settle])
  have report (s : Session τ) (l : Loop) (e : Event) (he : Scope.settle.logs e) :
      Frame .settle s ({ s.nextReport.2 with loop := l }.emit e) := by
    refine .trans (.nextReport s ?_ ?_ ?_ ?_ ?_) (.trans (loop _ l) (.emit _ e he))
    all_goals simp [Scope.settle]
  cases h with
  | ended => exact .inl rfl
  | verify r rest previous deadline _ h ha =>
    exact .inr (.inr ⟨r, rest, previous, h, ha, report _ _ (.exchanging _) trivial, rfl⟩)
  | switch r rest previous retry _ h ha =>
    exact .inr (.inr ⟨r, rest, previous, h, ha, .trans (loop _ (.switching r.task previous retry))
      (.emit _ .connecting trivial), rfl⟩)
  | poll => exact .inr (.inl ⟨report s _ (.exchanging s.nextReport.1) trivial, rfl⟩)
  | sendReport retry => exact .inr (.inl ⟨report s _ (.sending s.nextReport.1) trivial, rfl⟩)
  | entering =>
    refine .inr (.inl ⟨.trans (.enterGate s .loop (by simp [Scope.settle]) trivial) (loop _ _), ?_⟩)
    show (if _ then Loop.reading else Loop.queueing).trial? = none
    split <;> rfl
  | reading => exact .inr (.inl ⟨.trans (loop s .reading) (.call _ _ _ trivial), rfl⟩)
  | waiting deadline => exact .inr (.inl ⟨.trans (loop s (.waiting deadline)) (wake _ _), rfl⟩)
  | retrying deadline => exact .inr (.inl ⟨loop s _, rfl⟩)
  | connecting => exact .inr (.inl ⟨.trans (loop s _) (.emit _ .connecting trivial), rfl⟩)
  | receive retry =>
    exact .inr (.inl ⟨.trans (loop s (.receiving retry)) (.trans (wake _ Wakeup.wait)
      (.emit _ .receiving trivial)), rfl⟩)
  | pausing deadline retry => exact .inr (.inl ⟨loop s _, rfl⟩)
  | identifying uid i r =>
    exact .inr (.inl ⟨.trans (loop s (.identifying uid i r)) (.call _ _ _ trivial), rfl⟩)

/-! ## Calls -/

variable [Carrier τ]

/-- The action concerns neither an actor nor the transport, and does not request to stop. -/
def Action.isCall : Action τ → Bool
  | .run .. | .use _ | .setInterval _ | .stop => false
  | _ => true

theorem frame_act (s : Session τ) (a : Action τ) (h : a.isCall = true) :
    Frame .calls s (s.act a) := by
  have stopped (s : Session τ) (hs : s.phase = .stopping) : Frame .calls s s.markStopped :=
    .setPhase s .stopped (by simp [Scope.calls]) (.inr (by simp [isStopping, hs]))
  have aborting : Frame .calls s s.abort := .setAborting s true (by simp [Scope.calls])
  cases a with
  | setTime now => exact .setNow s _ (by simp [Scope.calls])
  | setDescription d =>
    show Frame .calls s (s.update fun state => (state.setDescription d).notify)
    refine .update s _ (.trans (.setDescription _ d ?_ ?_) (.notify _ ?_)) trivial
    all_goals simp [Scope.calls]
  | setHealth x =>
    show Frame .calls s (s.update fun state => (state.setHealth x).notify)
    refine .update s _ (.trans (.setHealth _ x ?_ ?_) (.notify _ ?_)) trivial
    all_goals simp [Scope.calls]
  | refresh => exact .insertTask s _ trivial
  | reportSync hash report => exact frame_reportSync s hash report
  | endStop =>
    show Frame .calls s (if s.phase = .stopping ∧ s.isDrained then s.markStopped else s)
    split
    · next hs => exact stopped s hs.1
    · exact .refl s
  | cancelStop isFirst =>
    show Frame .calls s (if s.phase = .stopping then
      (if isFirst then s.abort.markStopped else s.abort) else s)
    split
    · next hs =>
      split
      · exact aborting.trans (stopped s.abort hs)
      · exact aborting
    · exact .refl s
  | _ => contradiction

theorem frame_stop (s : Session τ) : Frame .stop s (s.act .stop) := by
  have phase : Frame .stop s { s with phase := .stopping } :=
    .setPhase s .stopping (by simp [Scope.stop]) (.inl (by simp [Scope.stop]))
  show Frame .stop s (if s.isRunning then s.requestStop else s)
  unfold requestStop
  dsimp only
  split
  · split
    · exact phase.trans (.ready _ _ trivial)
    · exact phase
  · exact .refl s

end ManagedAgent.Session
