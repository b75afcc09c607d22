import ManagedAgent.Proofs.Session.Calls

/-!
# What a task with a slot does in one go

A task that deals with an offer asks the agent, waits, and comes to an end. Then it is released: it
hands its slot on to what was offered meanwhile (`Release`), and goes on with that or is over.

* `nextConfig_cases`, `nextOffer_cases` : a task is released;
* `runConfig_cases`, `runOffer_cases` : a task waits, asks, moves to another stage, or comes to an end
  and is released.
-/

set_option autoImplicit false

namespace ManagedAgent

/-- How a task hands its slot on: to nobody, for there is nothing new, or to what waits. -/
inductive Slot.Release {α : Type} (settled : α → Prop) (slot : Slot α) : Slot α → Option α → Prop
  | empty (h : slot.waiting? = none) : Release settled slot .idle none
  | drop (a : α) (h : slot.waiting? = some a) (hs : settled a) : Release settled slot .idle none
  | take (a : α) (h : slot.waiting? = some a) (hs : ¬ settled a) :
    Release settled slot (.running a) (some a)

inductive OfferEnd where
  | accepted
  | rejected (error : String)
  /-- The agent gave the call up, or the loop the reconnecting. -/
  | cancelled
  deriving DecidableEq

namespace OfferEnd

def ofAnswer : Except CallbackError Unit → OfferEnd
  | .ok () => .accepted
  | .error .cancelled => .cancelled
  | .error e => .rejected e.message

def ofReconnect : Except TransportError Unit → OfferEnd
  | .ok () => .accepted
  | .error .cancelled => .cancelled
  | .error e => .rejected ("reconnect failed: " ++ e.message)

def status? (kind : ConnectionKind) : OfferEnd → Option ConnectionStatus
  | .accepted => some { kind, verdict := .accepted }
  | .rejected error => some { kind, verdict := .rejected, error }
  | .cancelled => none

end OfferEnd

/-- How an input ends the work on offered settings. Settings of the management connection that the
agent accepts are still to be tried by the loop, if it has not ended. -/
def OfferStage.end? (kind : ConnectionKind) (loop : Loop) : OfferStage → Input → Option OfferEnd
  | .asking, .answered (.done r) =>
    if r.isOk ∧ kind = .management then
      if loop = .ended then some (.ofReconnect (.error .closed)) else none
    else some (.ofAnswer r)
  | .replied r, .look => some (.ofReconnect r)
  | _, _ => none

/-- The stage comes after the configuration was applied, or was not. -/
def ConfigStage.IsLater (config : RemoteConfig) : ConfigStage → Prop
  | .saving status => status.hash = config.hash ∧ status.state ≠ .unset
  | .queueing | .reading => True
  | _ => False

namespace Session
variable {τ : Type} {s : Session τ} {id : Nat}

/-- What is done about an offered configuration before its status is recorded. -/
def Scope.heeding : Scope where
  may a := a ∈ [.gate, .state .effectiveConfig, .state .marks]
  logs
    | .called .. | .ready _ => True
    | _ => False
  tasks
    | .remoteConfig .. => True
    | _ => False

/-! ## Offered connection settings -/

theorem nextOffer_cases (s : Session τ) (id : Nat) (kind : ConnectionKind) :
    s.isStopping = true ∧ s.nextOffer id kind = s.finish id ∨
      s.isStopping = false ∧ ∃ slot next,
        (s.offerSlot kind).Release (s.state.isSettled kind ·) slot next ∧
        s.nextOffer id kind = match next with
          | none => (s.setOfferSlot kind slot).finish id
          | some settings => (s.setOfferSlot kind slot).askOffer id kind settings := by
  unfold nextOffer
  split
  · next hs => exact .inl ⟨hs, rfl⟩
  · next hs =>
    refine .inr ⟨Bool.eq_false_iff.2 hs, ?_⟩
    unfold Slot.finish
    cases hw : (s.offerSlot kind).waiting? with
    | none => exact ⟨.idle, none, .empty hw, rfl⟩
    | some settings =>
      dsimp only
      split
      · next h => exact ⟨.idle, none, .drop settings hw h, rfl⟩
      · next h => exact ⟨.running settings, some settings, .take settings hw h, rfl⟩

def conclude (s : Session τ) (kind : ConnectionKind) (settings : ConnectionSettings) :
    OfferEnd → Session τ
  | .accepted =>
    ((s.update fun state => (state.setConnection kind settings).resolveOffer kind settings).tell
      (.connectionAccepted kind settings)).update fun state =>
        (state.recordConnectionStatus { kind, verdict := .accepted }).notify
  | .rejected error => s.update fun state =>
    ((state.resolveOffer kind settings).recordConnectionStatus
      { kind, verdict := .rejected, error }).notify
  | .cancelled => s

def Scope.concluding (kind : ConnectionKind) : Scope where
  may a := a ∈ [.state (.current kind), .state (.resolved kind), .state .connectionStatuses,
    .state .wakeup]
  logs
    | .told (.connectionAccepted k _) => k = kind
    | .ready _ => True
    | _ => False

theorem frame_conclude (s : Session τ) (kind : ConnectionKind) (settings : ConnectionSettings)
    (e : OfferEnd) : Frame (.concluding kind) s (s.conclude kind settings e) := by
  have told (t : Session τ) :
      Frame (.concluding kind) t (t.tell (.connectionAccepted kind settings)) := .emit t _ rfl
  unfold conclude
  split
  · refine .trans (.update s _ ?_ trivial) (.trans (told _) (.update _ _ ?_ trivial))
    · exact .trans (.setConnection _ _ _ (by simp [Scope.concluding]))
        (.resolveOffer _ _ _ (by simp [Scope.concluding]))
    · exact .trans (.recordConnectionStatus _ _ (by simp [Scope.concluding]))
        (.notify _ (by simp [Scope.concluding]))
  · refine .update s _ ?_ trivial
    exact .trans (.resolveOffer _ _ _ (by simp [Scope.concluding])) (.trans
      (.recordConnectionStatus _ _ (by simp [Scope.concluding]))
      (.notify _ (by simp [Scope.concluding])))
  · exact .refl s

theorem tasks_conclude (s : Session τ) (kind : ConnectionKind) (settings : ConnectionSettings)
    (e : OfferEnd) : (s.conclude kind settings e).tasks = s.tasks := by
  cases e with
  | accepted => exact (tasks_update _ _).trans (tasks_update s _)
  | rejected error => exact tasks_update s _
  | cancelled => rfl

/-- A request comes with no more than a wake-up of the loop. -/
theorem request_eq (s : Session τ) (r : ReconnectRequest) :
    s.request r = { s with requests := s.requests ++ [r] } ∨
      s.request r = { s with requests := s.requests ++ [r] }.ready .loop := by
  unfold request
  dsimp only
  split
  · exact .inr rfl
  · exact .inl rfl

theorem reconnected_eq (s : Session τ) (id : Nat) (kind : ConnectionKind)
    (settings : ConnectionSettings) (r : Except TransportError Unit) :
    s.reconnected id kind settings r =
      (s.conclude kind settings (.ofReconnect r)).nextOffer id kind := by
  unfold reconnected
  split
  · rfl
  · rfl
  · next e hc => cases e with
    | cancelled => exact absurd rfl hc
    | _ => rfl

inductive OfferStep (s : Session τ) (id : Nat) (kind : ConnectionKind)
    (settings : ConnectionSettings) (stage : OfferStage) (input : Input) : Session τ → Prop
  /-- It waits for something else. -/
  | stay (he : stage.end? kind s.loop input = none) : OfferStep s id kind settings stage input s
  /-- The settings were settled meanwhile. -/
  | skip (hf : stage = .fresh) (hs : s.state.isSettled kind settings = true) :
    OfferStep s id kind settings stage input (s.nextOffer id kind)
  | ask (hf : stage = .fresh) (hs : s.state.isSettled kind settings = false) :
    OfferStep s id kind settings stage input (s.askOffer id kind settings)
  /-- The loop is asked to try the settings of the management connection. -/
  | request (hf : stage = .asking) (he : stage.end? kind s.loop input = none)
      (hk : kind = .management) (hl : s.loop ≠ .ended) :
    OfferStep s id kind settings stage input
      ((s.setTask id (.connection kind settings .requesting)).request ⟨id, settings⟩)
  | conclude (e : OfferEnd) (he : stage.end? kind s.loop input = some e) :
    OfferStep s id kind settings stage input ((s.conclude kind settings e).nextOffer id kind)

theorem runOffer_cases (s : Session τ) (id : Nat) (kind : ConnectionKind)
    (settings : ConnectionSettings) (stage : OfferStage) (input : Input) :
    OfferStep s id kind settings stage input (s.runOffer id kind settings stage input) := by
  unfold runOffer
  split
  · unfold startOffer
    split
    · next hs => exact .skip rfl hs
    · next hs => exact .ask rfl (Bool.eq_false_iff.2 hs)
  · next r =>
    unfold offerAnswered
    split
    · split
      · next hk =>
        unfold reconnect
        split
        · next hl =>
          rw [reconnected_eq]
          exact .conclude _ (by simp [OfferStage.end?, Except.isOk, Except.toBool, hk, hl])
        · next hl =>
          exact .request rfl (by simp [OfferStage.end?, Except.isOk, Except.toBool, hk, hl]) hk hl
      · next hk => exact .conclude .accepted (by simp [OfferStage.end?, hk, OfferEnd.ofAnswer])
    · exact .conclude .cancelled
        (by simp [OfferStage.end?, Except.isOk, Except.toBool, OfferEnd.ofAnswer])
    · next e hc =>
      refine .conclude (.rejected e.message) ?_
      cases e with
      | cancelled => exact absurd rfl hc
      | _ => simp [OfferStage.end?, Except.isOk, Except.toBool, OfferEnd.ofAnswer]
  · next r =>
    rw [reconnected_eq]
    exact .conclude _ rfl
  · refine .stay ?_
    unfold OfferStage.end?
    split <;> grind

/-! ## Offered configurations -/

theorem nextConfig_cases (s : Session τ) (id : Nat) :
    s.isStopping = true ∧ s.nextConfig id = s.finish id ∨
      s.isStopping = false ∧ ∃ slot next, s.remoteConfig.Release (s.state.isHandled ·) slot next ∧
        s.nextConfig id = match next with
          | none => { s with remoteConfig := slot }.finish id
          | some config => { s with remoteConfig := slot }.applyConfig id config := by
  unfold nextConfig
  split
  · next hs => exact .inl ⟨hs, rfl⟩
  · next hs =>
    refine .inr ⟨Bool.eq_false_iff.2 hs, ?_⟩
    unfold Slot.finish
    cases hw : s.remoteConfig.waiting? with
    | none => exact ⟨.idle, none, .empty hw, rfl⟩
    | some config =>
      dsimp only
      split
      · next h => exact ⟨.idle, none, .drop config hw h, rfl⟩
      · next h => exact ⟨.running config, some config, .take config hw h, rfl⟩

inductive ConfigStep (s : Session τ) (id : Nat) (config : RemoteConfig) (stage : ConfigStage)
    (input : Input) : Session τ → Prop
  | stay : ConfigStep s id config stage input s
  /-- The configuration was dealt with meanwhile. -/
  | skip (hf : stage = .fresh) (hs : s.state.isHandled config = true) :
    ConfigStep s id config stage input (s.nextConfig id)
  | ask (hf : stage = .fresh) (hs : s.state.isHandled config = false) :
    ConfigStep s id config stage input (s.applyConfig id config)
  /-- The agent gave the call up. -/
  | cancel (hf : stage = .applying) (hi : input = .answered (.applied (.error .cancelled))) :
    ConfigStep s id config stage input (s.nextConfig id)
  /-- The configuration is applied, or not; what is in force is read, and the status is saved. -/
  | move (t : Session τ) (new : ConfigStage) (hf : stage ≠ .fresh) (hn : new.IsLater config)
      (ht : t.tasks = s.tasks.insert id (.remoteConfig config new)) (hu : Frame .heeding s t) :
    ConfigStep s id config stage input t
  | save (status : RemoteConfigStatus) (hf : stage = .saving status) :
    ConfigStep s id config stage input (s.statusSaved id status)

theorem runConfig_cases {config : RemoteConfig} {stage : ConfigStage}
    (h : s.tasks.get? id = some (.remoteConfig config stage)) (input : Input) :
    ConfigStep s id config stage input (s.runConfig id config stage input) := by
  have keep (u : Session τ) (new : ConfigStage) (hu : Frame .heeding s u)
      (ht : u.tasks = s.tasks) : Frame .heeding s (u.setTask id (.remoteConfig config new)) :=
    hu.trans (.setTask u id (.remoteConfig config stage) _ (by rw [ht]; exact h) trivial trivial)
  have save (u : Session τ) (hu : Frame .heeding s u) (ht : u.tasks = s.tasks)
      (hf : stage ≠ .fresh) {state : ApplyState} {error : String} (hs : state ≠ .unset) :
      ConfigStep s id config stage input (u.saveStatus id config state error) := by
    refine .move _ (.saving ⟨config.hash, state, error⟩) hf ⟨rfl, hs⟩ ?_
      ((keep u _ hu ht).trans (.call _ _ _ trivial))
    show u.tasks.insert id _ = _
    rw [ht]
  unfold runConfig
  split
  · unfold startConfig
    split
    · next hs => exact .skip rfl hs
    · next hs => exact .ask rfl (Bool.eq_false_iff.2 hs)
  · unfold configApplied
    split
    · split
      · next c _ _ =>
        refine save _ (.setState s _ (.setEffectiveConfig _ c ?_ ?_)) rfl nofun nofun
        all_goals simp [Scope.heeding]
      · have henter : Frame .heeding s (s.enterGate (.task id)).2 :=
          .enterGate s _ (by simp [Scope.heeding]) trivial
        have ht := tasks_enterGate s (.task id)
        unfold readConfig
        generalize s.enterGate (.task id) = r at henter ht
        obtain ⟨isIn, u⟩ := r
        refine .move _ (if isIn then .reading else .queueing) nofun ?_ ?_ (keep u _ henter ht)
        · split <;> trivial
        · exact congrArg (fun tasks : Table Nat Task => tasks.insert id _) ht
      · exact save s (.refl s) rfl nofun nofun
    · exact .cancel rfl rfl
    · exact save s (.refl s) rfl nofun nofun
  · split
    · exact .move _ .reading nofun trivial rfl
        ((keep s _ (.refl s) rfl).trans (.call _ _ _ trivial))
    · exact .stay
  · refine save _ (.finishReading s _ _ ?_ ?_ ?_ fun _ => trivial) (tasks_finishReading _ _ _) nofun
      nofun
    all_goals simp [Scope.heeding]
  · exact .save _ rfl
  · exact .stay

end Session

end ManagedAgent
