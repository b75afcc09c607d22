import ManagedAgent.Proofs.Session.Views

/-!
# The calls of the agent, and when they end

An actor calls the agent when it comes to a stage in which it waits for the answer, and the call is
over when the actor goes on with that answer. What has been called (`begun`) and what is over
(`ended`) thus differ by the calls that the stages tell (`calling?`).

* `turn_runTask`, `turn_runLoop` : an actor that goes on ends its call, and begins the one of its new
  stage;
* `Running.account` : where one call at a time is about a topic, the calls that have begun are those
  that have ended and the one that runs.
-/

set_option autoImplicit false

namespace ManagedAgent

inductive Topic where
  | remoteConfig
  | status
  | effectiveConfig
  | connection (kind : ConnectionKind)
  | packages
  | identity
  | command
  deriving DecidableEq

def Call.topic : Call → Topic
  | .applyRemoteConfig _ => .remoteConfig
  | .saveStatus _ => .status
  | .effectiveConfig => .effectiveConfig
  | .useConnection kind _ => .connection kind
  | .syncPackages _ => .packages
  | .identify _ => .identity
  | .runCommand _ => .command

/-- The input is an answer that the call can have. -/
def Call.isEndedBy : Call → Input → Bool
  | .applyRemoteConfig _, .answered (.applied _) => true
  | .effectiveConfig, .answered (.effective _) => true
  | .useConnection .., .answered (.done _) => true
  | .syncPackages _, .answered (.done _) => true
  | .identify _, .answered (.done _) => true
  | .saveStatus _, .answered _ => true
  | .runCommand _, .answered _ => true
  | _, _ => false

def Event.call? : Event → Option (Actor × Call)
  | .called a c => some (a, c)
  | _ => none

def Task.call? : Task → Option Call
  | .remoteConfig config .applying => some (.applyRemoteConfig config)
  | .remoteConfig _ .reading => some .effectiveConfig
  | .remoteConfig _ (.saving status) => some (.saveStatus status)
  | .connection kind settings .asking => some (.useConnection kind settings)
  | .packages offered .calling => some (.syncPackages offered)
  | .command wanted .calling => some (.runCommand wanted)
  | .refresh .reading => some .effectiveConfig
  | _ => none

theorem Task.call?_of_isFresh {x : Task} (h : x.isFresh = true) : x.call? = none := by
  unfold isFresh at h
  split at h
  all_goals first | rfl | contradiction

/-- What a task of this sort may call the agent about. -/
def Task.topics : Task → List Topic
  | .remoteConfig .. => [.remoteConfig, .effectiveConfig, .status]
  | .connection kind .. => [.connection kind]
  | .packages .. => [.packages]
  | .command .. => [.command]
  | .refresh _ => [.effectiveConfig]

def Loop.call? : Loop → Option Call
  | .reading => some .effectiveConfig
  | .identifying uid _ _ => some (.identify uid)
  | _ => none

namespace Session
variable {τ : Type}

def calls (s : Session τ) : List (Actor × Call) := s.history.filterMap Event.call?

def begun (s : Session τ) (k : Topic) : List (Actor × Call) := s.calls.filter (·.2.topic = k)

def calling? (s : Session τ) : Actor → Option Call
  | .loop => s.loop.call?
  | .task id => s.view Task.call? id

/-- The input ends the call of the actor. Once stop is requested, the loop does not wait for the
agent's configuration any more. -/
def endsCall (s : Session τ) (a : Actor) (input : Input) (c : Call) : Bool :=
  c.isEndedBy input ||
    match a, c, input with
    | .loop, .effectiveConfig, .look => s.isStopping
    | _, _, _ => false

def ending? (s : Session τ) (a : Actor) (input : Input) : Option Call :=
  (s.calling? a).filter (s.endsCall a input)

theorem ignoresReplies_call : IgnoresReplies Task.call? := fun _ _ _ => rfl

theorem calls_emit (s : Session τ) {e : Event} (h : e.call? = none) :
    (s.emit e).calls = s.calls := by
  show (s.history ++ [e]).filterMap Event.call? = _
  rw [List.filterMap_append, List.filterMap_cons, h]
  exact List.append_nil _

theorem calls_call (s : Session τ) (a : Actor) (c : Call) :
    (s.call a c).calls = s.calls ++ [(a, c)] := List.filterMap_append

theorem begun_of_calls {s t : Session τ} {k : Topic} (h : t.calls = s.calls) :
    t.begun k = s.begun k :=
  congrArg (List.filter fun x : Actor × Call => x.2.topic = k) h

theorem begun_call (s : Session τ) (a : Actor) (c : Call) :
    (s.call a c).begun c.topic = s.begun c.topic ++ [(a, c)] := by
  unfold begun
  rw [calls_call, List.filter_append]
  exact congrArg (s.begun c.topic ++ ·) (List.filter_cons_of_pos (decide_eq_true rfl))

theorem calling?_setTask (s : Session τ) (id : Nat) (x : Task) (b : Actor) :
    (s.setTask id x).calling? b = if b = .task id then x.call? else s.calling? b := by
  cases b with
  | loop => rfl
  | task i =>
    simp only [Actor.task.injEq]
    exact view_setTask s id x i

theorem calling?_finish (s : Session τ) (id : Nat) (b : Actor) :
    (s.finish id).calling? b = if b = .task id then none else s.calling? b := by
  cases b with
  | loop => rfl
  | task i =>
    simp only [Actor.task.injEq]
    exact view_finish s id i

/-! ## No call begins, and none ends -/

/-- From `s` to `t` no call begins, and none ends. -/
structure Calm (s t : Session τ) : Prop where
  calls : t.calls = s.calls
  calling : ∀ a, t.calling? a = s.calling? a

namespace Calm
variable {s t u : Session τ}

theorem refl (s : Session τ) : Calm s s := ⟨rfl, fun _ => rfl⟩

theorem trans (h₁ : Calm s t) (h₂ : Calm t u) : Calm s u :=
  ⟨h₂.calls.trans h₁.calls, fun a => (h₂.calling a).trans (h₁.calling a)⟩

theorem of_same (hh : t.history = s.history) (hl : t.loop = s.loop) (ht : t.tasks = s.tasks) :
    Calm s t where
  calls := congrArg (List.filterMap Event.call?) hh
  calling a := by
    cases a with
    | loop => exact congrArg Loop.call? hl
    | task id => exact view_of_tasks ht id

theorem emit (s : Session τ) {e : Event} (h : e.call? = none) : Calm s (s.emit e) :=
  ⟨calls_emit s h, fun a => by cases a <;> rfl⟩

theorem update (s : Session τ) (f : State → State) : Calm s (s.update f) := by
  have hs : Calm s { s with state := f s.state } := .of_same rfl rfl rfl
  rcases s.update_eq f with h | h
  · rw [h]
    exact hs
  · rw [h]
    exact hs.trans (.emit _ rfl)

theorem leaveGate (s : Session τ) (a : Actor) : Calm s (s.leaveGate a) := by
  have hs (gate : Gate Actor) : Calm s { s with gate } := .of_same rfl rfl rfl
  unfold Session.leaveGate readyNext
  dsimp only
  split
  · exact (hs _).trans (.emit _ rfl)
  · exact hs _

theorem finishReading (s : Session τ) (a : Actor) (r : Except CallbackError EffectiveConfig) :
    Calm s (s.finishReading a r).2 := by
  cases r with
  | ok c =>
    have hs : Calm s { s with state := (s.state.setEffectiveConfig c).2 } := .of_same rfl rfl rfl
    exact hs.trans (leaveGate _ a)
  | error e => exact leaveGate s a

theorem request (s : Session τ) (r : ReconnectRequest) : Calm s (s.request r) := by
  have hs : Calm s { s with requests := s.requests ++ [r] } := .of_same rfl rfl rfl
  unfold Session.request
  dsimp only
  split
  · exact hs.trans (.emit _ rfl)
  · exact hs

/-- A step whose scope has neither the loop nor a call. -/
theorem of_frame {S : Scope} (h : Frame S s t) (hn : s.Numbered) (hl : ¬ S.may .loop)
    (he : ∀ e, S.logs e → e.call? = none) (hx : ∀ x, S.tasks x → x.call? = none) : Calm s t where
  calls := h.filterMap_history he
  calling a := by
    cases a with
    | loop => exact congrArg Loop.call? (h.same .loop hl)
    | task id => exact h.view hn hx id

theorem dispatch (s : Session τ) (hn : s.Numbered) (i : Instruction) : Calm s (s.dispatch i) := by
  refine of_frame (frame_dispatch s i) hn id (fun e he => ?_) fun x hx => Task.call?_of_isFresh hx
  cases e with
  | routing | ready => rfl
  | _ => exact False.elim he

end Calm

/-- Routing calls nobody. -/
theorem Frame.begun_of_routing {s t : Session τ} {k : Topic} (h : Frame .routing s t) :
    t.begun k = s.begun k := by
  refine begun_of_calls (h.filterMap_history fun e he => ?_)
  cases e with
  | routing | ready => rfl
  | _ => exact False.elim he

/-! ## An actor goes on -/

/-- The actor stays where it is, or it ends its call and begins the one of its new stage. -/
inductive Turn (s : Session τ) (a : Actor) (ending : Option Call) (t : Session τ) : Prop
  | stays (hc : Calm s t) (he : ending = none)
  | goes (he : ending = s.calling? a)
      (hc : t.calls = s.calls ++ (t.calling? a).toList.map (a, ·))
      (ho : ∀ b, b ≠ a → t.calling? b = s.calling? b)

/-- An actor that begins no call about the topic. -/
theorem begun_of_turn {s t : Session τ} {a : Actor} {ending : Option Call} {k : Topic}
    (h : Turn s a ending t)
    (hc : ∀ c, t.calling? a = some c → c.topic ≠ k) : t.begun k = s.begun k := by
  cases h with
  | stays hcalm => exact begun_of_calls hcalm.calls
  | goes _ hcalls =>
    unfold begun
    rw [hcalls, List.filter_append]
    cases ha : t.calling? a with
    | none => exact List.append_nil _
    | some c =>
      show _ ++ [(a, c)].filter _ = _
      rw [List.filter_cons_of_neg (by simpa using hc c ha)]
      exact List.append_nil _

theorem Turn.calm {s t u : Session τ} {a : Actor} {ending : Option Call}
    (h : Turn s a ending t) (hu : Calm t u) : Turn s a ending u := by
  cases h with
  | stays hc he => exact .stays (hc.trans hu) he
  | goes he hc ho =>
    refine .goes he ?_ fun b hb => (hu.calling b).trans (ho b hb)
    rw [hu.calls, hu.calling a]
    exact hc

section Turns
variable {s u : Session τ} {id : Nat} {ending : Option Call}

theorem Turn.finish (he : ending = s.calling? (.task id)) (hu : Calm s u) :
    Turn s (.task id) ending (u.finish id) := by
  refine .goes he ?_ fun b hb => ?_
  · rw [calling?_finish, if_pos rfl]
    exact (calls_emit _ rfl).trans (hu.calls.trans (List.append_nil _).symm)
  · rw [calling?_finish, if_neg hb]
    exact hu.calling b

theorem Turn.waits (he : ending = s.calling? (.task id)) (hu : Calm s u) {x : Task}
    (hx : x.call? = none) : Turn s (.task id) ending (u.setTask id x) := by
  refine .goes he ?_ fun b hb => ?_
  · rw [calling?_setTask, if_pos rfl, hx]
    exact hu.calls.trans (List.append_nil _).symm
  · rw [calling?_setTask, if_neg hb]
    exact hu.calling b

theorem Turn.calls (he : ending = s.calling? (.task id)) (hu : Calm s u) {x : Task} {c : Call}
    (hx : x.call? = some c) : Turn s (.task id) ending ((u.setTask id x).call (.task id) c) := by
  have hcall (b : Actor) : ((u.setTask id x).call (.task id) c).calling? b =
      (u.setTask id x).calling? b := by cases b <;> rfl
  refine .goes he ?_ fun b hb => ?_
  · rw [hcall, calling?_setTask, if_pos rfl, hx, calls_call]
    exact congrArg (· ++ [(Actor.task id, c)]) hu.calls
  · rw [hcall, calling?_setTask, if_neg hb]
    exact hu.calling b

/-- The actor asks for the agent's configuration if the gate is open, and queues up otherwise. -/
theorem Turn.enters (he : ending = s.calling? (.task id)) (x : Bool → Task)
    (hin : (x true).call? = some .effectiveConfig) (hout : (x false).call? = none) :
    Turn s (.task id) ending
      ((s.enterGate (.task id)).2.setTask id (x (s.enterGate (.task id)).1)) := by
  have hgate (gate : Gate Actor) : Calm s { s with gate } := .of_same rfl rfl rfl
  unfold enterGate
  dsimp only
  split
  · next h =>
    rw [h]
    exact calls he (hgate _) hin
  · next h =>
    rw [Bool.not_eq_true] at h
    rw [h]
    exact waits he (hgate _) hout

theorem Turn.nextConfig (he : ending = s.calling? (.task id)) (hu : Calm s u) :
    Turn s (.task id) ending (u.nextConfig id) := by
  have keep (slot : Slot RemoteConfig) : Calm s { u with remoteConfig := slot } :=
    hu.trans (.of_same rfl rfl rfl)
  unfold Session.nextConfig
  split
  · exact finish he hu
  · split
    · exact finish he (keep _)
    · split
      · exact finish he (keep _)
      · exact calls he (keep _) rfl

theorem Turn.nextOffer (he : ending = s.calling? (.task id)) (hu : Calm s u)
    (kind : ConnectionKind) : Turn s (.task id) ending (u.nextOffer id kind) := by
  have keep (slot : Slot ConnectionSettings) : Calm s (u.setOfferSlot kind slot) :=
    hu.trans (.of_same rfl rfl rfl)
  unfold Session.nextOffer
  split
  · exact finish he hu
  · split
    · exact finish he (keep _)
    · split
      · exact finish he (keep _)
      · exact calls he (keep _) rfl

end Turns

section Tasks
variable {s : Session τ} {id : Nat}

/-- Nothing begins where the input is none that the actor waits for. -/
theorem ending?_of_none (a : Actor) (input : Input) (h : s.calling? a = none) :
    s.ending? a input = s.calling? a := by
  unfold ending?
  rw [h]
  rfl

theorem ending?_of_ends (a : Actor) (input : Input) {c : Call} (h : s.calling? a = some c)
    (he : s.endsCall a input c = true) : s.ending? a input = s.calling? a := by
  unfold ending?
  rw [h, Option.filter_some, if_pos he]

theorem ending?_eq_none (a : Actor) (input : Input)
    (h : ∀ c, s.calling? a = some c → s.endsCall a input c = false) : s.ending? a input = none := by
  refine Option.filter_eq_none_iff.2 fun c hc => ?_
  rw [h c hc]
  exact Bool.false_ne_true

theorem turn_runConfig {config : RemoteConfig} {stage : ConfigStage}
    (h : s.tasks.get? id = some (.remoteConfig config stage)) (input : Input) :
    Turn s (.task id) (s.ending? (.task id) input) (s.runConfig id config stage input) := by
  have hc : s.calling? (.task id) = (Task.remoteConfig config stage).call? := view_of_get? h
  unfold runConfig
  split
  · have he := ending?_of_none (.task id) .look hc
    unfold startConfig
    split
    · exact .nextConfig he (.refl s)
    · exact .calls he (.refl s) rfl
  · next r =>
    have he := ending?_of_ends (.task id) (.answered (.applied r)) hc rfl
    unfold configApplied
    split
    · split
      · next c _ _ =>
        have hset : Calm s { s with state := (s.state.setEffectiveConfig c).2 } :=
          .of_same rfl rfl rfl
        exact .calls he hset rfl
      · exact .enters he (fun isIn => .remoteConfig config (if isIn then .reading else .queueing))
          rfl rfl
      · exact .calls he (.refl s) rfl
    · exact .nextConfig he (.refl s)
    · exact .calls he (.refl s) rfl
  · have he := ending?_of_none (.task id) .look hc
    split
    · exact .calls he (.refl s) rfl
    · exact .stays (.refl s) (he.trans hc)
  · next r =>
    have he := ending?_of_ends (.task id) (.answered (.effective r)) hc rfl
    exact .calls he (.finishReading s _ _) rfl
  · next answer =>
    have he := ending?_of_ends (.task id) (.answered answer) hc rfl
    exact .nextConfig he (.update s _)
  · refine .stays (.refl s) (ending?_eq_none _ _ fun c hx => ?_)
    rw [hc] at hx
    unfold Task.call? at hx
    unfold endsCall Call.isEndedBy
    grind

theorem turn_runOffer {kind : ConnectionKind} {settings : ConnectionSettings} {stage : OfferStage}
    (h : s.tasks.get? id = some (.connection kind settings stage)) (input : Input) :
    Turn s (.task id) (s.ending? (.task id) input) (s.runOffer id kind settings stage input) := by
  have hc : s.calling? (.task id) = (Task.connection kind settings stage).call? := view_of_get? h
  have accept {e : Option Call} (he : e = s.calling? (.task id)) :
      Turn s (.task id) e (s.acceptOffer id kind settings) :=
    .nextOffer he ((Calm.update s _).trans ((Calm.emit _ rfl).trans (.update _ _))) kind
  have reject {e : Option Call} (he : e = s.calling? (.task id)) (error : String) :
      Turn s (.task id) e (s.rejectOffer id kind settings error) := .nextOffer he (.update s _) kind
  have replied {e : Option Call} (he : e = s.calling? (.task id))
      (r : Except TransportError Unit) :
      Turn s (.task id) e (s.reconnected id kind settings r) := by
    unfold reconnected
    split
    · exact accept he
    · exact .nextOffer he (.refl s) kind
    · exact reject he _
  unfold runOffer
  split
  · have he := ending?_of_none (.task id) .look hc
    unfold startOffer
    split
    · exact .nextOffer he (.refl s) kind
    · exact .calls he (.refl s) rfl
  · next r =>
    have he := ending?_of_ends (.task id) (.answered (.done r)) hc rfl
    unfold offerAnswered
    split
    · split
      · unfold reconnect
        split
        · exact replied he _
        · exact (Turn.waits he (.refl s) rfl).calm (.request _ _)
      · exact accept he
    · exact .nextOffer he (.refl s) kind
    · exact reject he _
  · next r => exact replied (ending?_of_none (.task id) .look hc) r
  · refine .stays (.refl s) (ending?_eq_none _ _ fun c hx => ?_)
    rw [hc] at hx
    unfold Task.call? at hx
    unfold endsCall Call.isEndedBy
    grind

theorem turn_runPackages {packages : PackagesAvailable} {stage : CallStage}
    (h : s.tasks.get? id = some (.packages packages stage)) (input : Input) :
    Turn s (.task id) (s.ending? (.task id) input) (s.runPackages id packages stage input) := by
  have hc : s.calling? (.task id) = (Task.packages packages stage).call? := view_of_get? h
  unfold runPackages
  split
  · exact .calls (ending?_of_none (.task id) .look hc) (.refl s) rfl
  · next r =>
    have he := ending?_of_ends (.task id) (.answered (.done r)) hc rfl
    split
    · exact .finish he (.refl s)
    · exact .finish he (.update s _)
    · exact .finish he (.update s _)
  · refine .stays (.refl s) (ending?_eq_none _ _ fun c hx => ?_)
    rw [hc] at hx
    unfold Task.call? at hx
    unfold endsCall Call.isEndedBy
    grind

theorem turn_runCommand {wanted : Command} {stage : CallStage}
    (h : s.tasks.get? id = some (.command wanted stage)) (input : Input) :
    Turn s (.task id) (s.ending? (.task id) input) (s.runCommand id wanted stage input) := by
  have hc : s.calling? (.task id) = (Task.command wanted stage).call? := view_of_get? h
  unfold runCommand
  split
  · exact .calls (ending?_of_none (.task id) .look hc) (.refl s) rfl
  · next answer =>
    exact .finish (ending?_of_ends (.task id) (.answered answer) hc rfl) (.refl s)
  · refine .stays (.refl s) (ending?_eq_none _ _ fun c hx => ?_)
    rw [hc] at hx
    unfold Task.call? at hx
    unfold endsCall Call.isEndedBy
    grind

theorem turn_runRefresh {stage : ReadStage} (h : s.tasks.get? id = some (.refresh stage))
    (input : Input) :
    Turn s (.task id) (s.ending? (.task id) input) (s.runRefresh id stage input) := by
  have hc : s.calling? (.task id) = (Task.refresh stage).call? := view_of_get? h
  unfold runRefresh
  split
  · exact .enters (ending?_of_none (.task id) .look hc)
      (fun isIn => .refresh (if isIn then .reading else .queueing)) rfl rfl
  · have he := ending?_of_none (.task id) .look hc
    split
    · exact .calls he (.refl s) rfl
    · exact .stays (.refl s) (he.trans hc)
  · next r =>
    have he := ending?_of_ends (.task id) (.answered (.effective r)) hc rfl
    have hread := Calm.finishReading s (.task id) r
    unfold refreshed
    dsimp only
    split
    · exact .finish he (hread.trans ((Calm.update _ _).trans (.emit _ rfl)))
    · exact .finish he (hread.trans (.emit _ rfl))
  · refine .stays (.refl s) (ending?_eq_none _ _ fun c hx => ?_)
    rw [hc] at hx
    unfold Task.call? at hx
    unfold endsCall Call.isEndedBy
    grind

theorem turn_runTask (s : Session τ) (id : Nat) (input : Input) :
    Turn s (.task id) (s.ending? (.task id) input) (s.runTask id input) := by
  unfold runTask
  split
  · next h => exact turn_runConfig h input
  · next h => exact turn_runOffer h input
  · next h => exact turn_runPackages h input
  · next h => exact turn_runCommand h input
  · next h => exact turn_runRefresh h input
  · next h =>
    have hc : s.calling? (.task id) = none := by
      show s.view Task.call? id = none
      unfold view
      rw [h]
      rfl
    exact .stays (.refl s) ((ending?_of_none _ _ hc).trans hc)

theorem topic_mem_of_scope {x y : Task} {c : Call} (hy : (Scope.of x).tasks y)
    (hc : y.call? = some c) : c.topic ∈ x.topics := by
  cases x with
  | remoteConfig =>
    cases y with
    | remoteConfig config stage =>
      cases stage with
      | fresh | queueing => contradiction
      | _ =>
        obtain rfl := Option.some.inj hc
        simp [Task.topics, Call.topic]
    | _ => exact False.elim hy
  | connection kind =>
    cases y with
    | connection k settings stage =>
      have hk : k = kind := hy
      subst hk
      cases stage with
      | asking =>
        obtain rfl := Option.some.inj hc
        exact List.mem_singleton.2 rfl
      | _ => contradiction
    | _ => exact False.elim hy
  | packages =>
    cases y with
    | packages offered stage =>
      cases stage with
      | fresh => contradiction
      | calling =>
        obtain rfl := Option.some.inj hc
        exact List.mem_singleton.2 rfl
    | _ => exact False.elim hy
  | command =>
    cases y with
    | command wanted stage =>
      cases stage with
      | fresh => contradiction
      | calling =>
        obtain rfl := Option.some.inj hc
        exact List.mem_singleton.2 rfl
    | _ => exact False.elim hy
  | refresh =>
    cases y with
    | refresh stage =>
      cases stage with
      | fresh | queueing => contradiction
      | reading =>
        obtain rfl := Option.some.inj hc
        exact List.mem_singleton.2 rfl
    | _ => exact False.elim hy

/-- A task calls the agent about nothing but what it is for. -/
theorem begun_runTask {x : Task} {k : Topic} (hn : s.Numbered) (hx : s.tasks.get? id = some x)
    (input : Input) (hk : k ∉ x.topics) : (s.runTask id input).begun k = s.begun k := by
  refine begun_of_turn (turn_runTask s id input) fun c hc => ?_
  obtain ⟨y, hy, hcall⟩ := view_eq_some.1 hc
  rintro rfl
  exact hk (topic_mem_of_scope ((frame_runTask hx input).scope_of_get? hn hx (Scope.tasks_of x) hy)
    hcall)

end Tasks

/-! ## The loop goes on -/

def Scope.uncalled : Scope where
  may _ := True
  logs e := e.call? = none
  tasks _ := True

/-- From `s` to `t` no call begins, and no task ends one. -/
structure Still (s t : Session τ) : Prop where
  calls : t.calls = s.calls
  calling : ∀ id, t.calling? (.task id) = s.calling? (.task id)
  numbered : t.Numbered

theorem Still.trans {s t u : Session τ} (h₁ : Still s t) (h₂ : Still t u) : Still s u :=
  ⟨h₂.calls.trans h₁.calls, fun id => (h₂.calling id).trans (h₁.calling id), h₂.numbered⟩

theorem still_dispatch (s : Session τ) (hn : s.Numbered) (i : Instruction) :
    Still s (s.dispatch i) :=
  have h := Calm.dispatch s hn i
  ⟨h.calls, fun _ => h.calling _, (frame_dispatch s i).numbered hn⟩

section Loop
variable [Transport τ] {s t : Session τ}

theorem Settles.still {input : Input} (h : Settles s input t) (hn : s.Numbered) : Still s t where
  calls := by
    refine h.frame.filterMap_history fun e he => ?_
    cases e with
    | applied | ready => rfl
    | _ => exact False.elim he
  calling := h.view ignoresReplies_call
  numbered := h.frame.numbered hn

theorem Works.still (h : Works s t) (hn : s.Numbered) : Still s t where
  calls := by
    refine h.frame.filterMap_history fun e he => ?_
    cases e with
    | called => exact False.elim he
    | _ => rfl
  calling := h.view hn ignoresReplies_call
  numbered := h.frame.numbered hn

/-- The loop comes to rest with the call that it waits for. -/
theorem Rests.calls (h : Rests s t) :
    t.calls = s.calls ++ t.loop.call?.toList.map (Actor.loop, ·) := by
  have none {t u : Session τ} (hc : u.calls = t.calls) (hl : u.loop.call? = none) :
      u.calls = t.calls ++ u.loop.call?.toList.map (Actor.loop, ·) := by
    rw [hl, hc]
    exact (List.append_nil _).symm
  have take (r : ReconnectRequest) (rest : List ReconnectRequest) :
      ({ s with requests := rest }.applySettings r.settings).2.calls = s.calls :=
    calls_emit _ rfl
  cases h with
  | ended =>
    have h : Frame .uncalled s s.endLoop :=
      .endLoop s trivial trivial (fun _ _ _ => trivial) (fun _ => rfl) rfl
    exact none (h.filterMap_history fun _ => id) (congrArg Loop.call? (loop_endLoop s))
  | entering =>
    unfold enterGate
    dsimp only
    split
    · exact calls_call _ _ _
    · exact none rfl rfl
  | reading => exact calls_call _ _ _
  | identifying uid i r => exact calls_call _ _ _
  | waiting deadline => exact none rfl rfl
  | retrying deadline => exact none rfl rfl
  | pausing deadline retry => exact none rfl rfl
  | poll => exact none (calls_emit _ rfl) rfl
  | sendReport retry => exact none (calls_emit _ rfl) rfl
  | connecting => exact none (calls_emit _ rfl) rfl
  | receive retry => exact none (calls_emit _ rfl) rfl
  | verify r rest previous deadline => exact none ((calls_emit _ rfl).trans (take r rest)) rfl
  | switch r rest previous retry => exact none ((calls_emit _ rfl).trans (take r rest)) rfl

theorem Goes.turn {routed : Option Instruction} (h : Goes routed s t) {u : Session τ}
    (hs : Still u s) {ending : Option Call} (he : ending = u.calling? .loop) :
    Turn u .loop ending t := by
  refine h.elim (M := Still u) (P := Turn u .loop ending)
    (fun _ _ h hs => hs.trans (h.still hs.numbered))
    (fun s i hs => hs.trans (still_dispatch s hs.numbered i)) (fun s t h hs => ?_) hs
  refine .goes he (h.calls.trans (by rw [hs.calls]; rfl)) fun b hb => ?_
  cases b with
  | loop => exact absurd rfl hb
  | task id => exact (h.view hs.numbered ignoresReplies_call id).trans (hs.calling id)

theorem turn_runLoop (hn : s.Numbered) (input : Input) :
    Turn s .loop (s.ending? .loop input) (s.runLoop input) := by
  have go {t : Session τ} {routed : Option Instruction} (hgo : Goes routed s t)
      (he : s.ending? .loop input = s.calling? .loop) :
      Turn s .loop (s.ending? .loop input) t := hgo.turn ⟨rfl, fun _ => rfl, hn⟩ he
  have stay (he : s.ending? .loop input = none) : Turn s .loop (s.ending? .loop input) s :=
    .stays (.refl s) he
  cases hc : s.loop.call? with
  | none =>
    have he := ending?_of_none .loop input hc
    rcases s.runLoop_cases input with ⟨-, h⟩ | ⟨u, routed, hset, hgo⟩
    · rw [h]
      exact stay (he.trans hc)
    · exact hgo.turn (hset.still hn) he
  | some c =>
    have hends (h : s.endsCall .loop input c = true) := ending?_of_ends .loop input hc h
    have hkeeps (h : s.endsCall .loop input c = false) : s.ending? .loop input = none := by
      refine ending?_eq_none .loop input fun d hd => ?_
      obtain rfl : c = d := Option.some.inj (hc.symm.trans hd)
      exact h
    unfold runLoop
    cases hl : s.loop with
    | reading =>
      rw [hl] at hc
      obtain rfl : Call.effectiveConfig = c := Option.some.inj hc
      cases input with
      | look =>
        dsimp only
        split
        · next hs => exact go (goes_abandonReading s) (hends hs)
        · next hs => exact stay (hkeeps (Bool.eq_false_iff.2 hs))
      | answered answer =>
        cases answer with
        | effective r =>
          dsimp only
          split
          · exact go (goes_abandonReading s) (hends rfl)
          · exact go (.work (.read s r hl) (goes_begin _)) (hends rfl)
        | _ => exact stay (hkeeps rfl)
      | _ => exact stay (hkeeps rfl)
    | identifying uid rest resume =>
      rw [hl] at hc
      obtain rfl : Call.identify uid = c := Option.some.inj hc
      cases input with
      | answered answer =>
        cases answer with
        | done r => exact go (goes_identified s uid rest resume hl r) (hends rfl)
        | _ => exact stay (hkeeps rfl)
      | _ => exact stay (hkeeps rfl)
    | _ =>
      rw [hl] at hc
      cases hc

/-- The loop calls the agent for nothing but its configuration and its identity. -/
theorem topic_of_loop {l : Loop} {c : Call} (h : l.call? = some c) :
    c.topic = .effectiveConfig ∨ c.topic = .identity := by
  unfold Loop.call? at h
  split at h
  · obtain rfl := Option.some.inj h
    exact .inl rfl
  · obtain rfl := Option.some.inj h
    exact .inr rfl
  · contradiction

theorem Rests.begun {k : Topic} (h : Rests s t) (hc : k ≠ .effectiveConfig) (hi : k ≠ .identity) :
    t.begun k = s.begun k := by
  unfold Session.begun
  rw [h.calls, List.filter_append]
  cases hcall : t.loop.call? with
  | none => exact List.append_nil _
  | some c =>
    have hk : c.topic ≠ k := by
      rintro rfl
      exact (topic_of_loop hcall).elim hc hi
    show _ ++ [(Actor.loop, c)].filter _ = _
    rw [List.filter_cons_of_neg (by simpa using hk)]
    exact List.append_nil _

theorem begun_runLoop {k : Topic} (hn : s.Numbered) (input : Input) (hc : k ≠ .effectiveConfig)
    (hi : k ≠ .identity) : (s.runLoop input).begun k = s.begun k := by
  refine begun_of_turn (turn_runLoop hn input) fun c hcall => ?_
  rintro rfl
  exact (topic_of_loop hcall).elim hc hi

end Loop

/-! ## One call at a time -/

/-- Where one at most has something, before and after: if only `a` changes, what it has before goes
and what it has after comes. -/
theorem exchange {α β : Type} {f g : α → Option β} {r r' : Option (α × β)}
    (hr : ∀ a b, f a = some b ↔ r = some (a, b)) (hr' : ∀ a b, g a = some b ↔ r' = some (a, b))
    (a : α) (ho : ∀ x, x ≠ a → g x = f x) :
    r.toList ++ ((g a).map (a, ·)).toList = ((f a).map (a, ·)).toList ++ r'.toList := by
  have none_of {h : α → Option β} {q : Option (α × β)}
      (hq : ∀ a b, h a = some b ↔ q = some (a, b)) (hne : ∀ b, q ≠ some (a, b)) : h a = none :=
    Option.eq_none_iff_forall_ne_some.2 fun b hb => hne b ((hq a b).1 hb)
  rcases r with _ | ⟨x, b⟩
  · rw [none_of hr fun b => nofun]
    rcases r' with _ | ⟨y, c⟩
    · rw [none_of hr' fun b => nofun]
      rfl
    · by_cases hy : y = a
      · subst hy
        rw [(hr' y c).2 rfl]
        rfl
      · exact absurd ((hr y c).1 ((ho y hy).symm.trans ((hr' y c).2 rfl))) nofun
  · by_cases hx : x = a
    · subst hx
      rw [(hr x b).2 rfl]
      rcases r' with _ | ⟨y, c⟩
      · rw [none_of hr' fun b => nofun]
        rfl
      · by_cases hy : y = x
        · subst hy
          rw [(hr' y c).2 rfl]
          rfl
        · have h := (hr y c).1 ((ho y hy).symm.trans ((hr' y c).2 rfl))
          exact absurd (Prod.mk.inj (Option.some.inj h)).1.symm hy
    · obtain rfl := (hr' x b).1 ((ho x hx).trans ((hr x b).2 rfl))
      have hne (d : β) : some (x, b) ≠ some (a, d) :=
        fun h => hx (Prod.mk.inj (Option.some.inj h)).1
      rw [none_of hr hne, none_of hr' hne]
      rfl

/-- One call at most is running about the topic, and it is this one. -/
def Running (s : Session τ) (k : Topic) (r : Option (Actor × Call)) : Prop :=
  ∀ a c, (s.calling? a = some c ∧ c.topic = k) ↔ r = some (a, c)

theorem filter_map_topic (a : Actor) (c : Option Call) (k : Topic) :
    (c.map (a, ·)).filter (·.2.topic = k) = (c.filter (·.topic = k)).map (a, ·) := by
  cases c with
  | none => rfl
  | some c =>
    rw [Option.map_some, Option.filter_some, Option.filter_some]
    split <;> rfl

/-- Where one call at a time is about a topic, a call begins only after the one before has ended. -/
theorem Running.turn {s t : Session τ} {k : Topic} {r r' : Option (Actor × Call)}
    (hr : s.Running k r) (hr' : t.Running k r') {a : Actor} {ending : Option Call}
    (h : Turn s a ending t) {before : List (Actor × Call)} (hb : s.begun k = before ++ r.toList) :
    t.begun k = before ++ ((ending.map (a, ·)).filter (·.2.topic = k)).toList ++ r'.toList := by
  have about {u : Session τ} {x : Option (Actor × Call)} (hx : u.Running k x) (b : Actor)
      (c : Call) :
      (u.calling? b).filter (·.topic = k) = some c ↔ x = some (b, c) := by
    rw [← hx b c, Option.filter_eq_some_iff, decide_eq_true_eq]
  cases h with
  | stays hc he =>
    have heq : r' = r := by
      refine Option.ext fun ⟨b, c⟩ => ?_
      rw [← hr b c, ← hr' b c, hc.calling b]
    rw [he, heq]
    show t.calls.filter _ = before ++ [] ++ r.toList
    rw [hc.calls, List.append_nil]
    exact hb
  | goes he hc ho =>
    have hnew : t.begun k =
        s.begun k ++ (((t.calling? a).filter (·.topic = k)).map (a, ·)).toList := by
      show t.calls.filter _ = _
      rw [hc, List.filter_append]
      cases t.calling? a with
      | none => rfl
      | some c =>
        show s.begun k ++ [(a, c)].filter _ = _
        rw [Option.filter_some, List.filter_cons]
        split <;> rfl
    rw [hnew, hb, he, filter_map_topic, List.append_assoc, List.append_assoc]
    refine congrArg (before ++ ·) (exchange (about hr) (about hr') a fun b hne => ?_)
    rw [ho b hne]

/-! ## A step of the session -/

section Course
variable [Transport τ] [Carrier τ] {s t : Session τ}

def Action.ended? (s : Session τ) : Action τ → Option (Actor × Call)
  | .run a input => (s.ending? a input).map (a, ·)
  | _ => none

def ended (s : Session τ) (k : Topic) : List (Action τ) → List (Actor × Call)
  | [] => []
  | a :: rest => ((a.ended? s).filter (·.2.topic = k)).toList ++ (s.act a).ended k rest

theorem Calm.act (a : Action τ) (h : ∀ actor input, a ≠ .run actor input) (hn : s.Numbered) :
    Calm s (s.act a) := by
  by_cases hc : a.isCall = true
  · have hframe := frame_act s a hc
    refine ⟨hframe.filterMap_history fun e he => ?_, fun actor => ?_⟩
    · cases e with
      | ready => rfl
      | _ => exact False.elim he
    · cases actor with
      | loop => exact congrArg Loop.call? (hframe.same .loop (by simp [Scope.calls]))
      | task id => exact view_act s a hc hn rfl id
  · cases a with
    | run actor input => exact absurd rfl (h actor input)
    | use u => exact .of_same rfl rfl rfl
    | setInterval d => exact .of_same rfl rfl rfl
    | stop =>
      refine .of_frame (frame_stop s) hn (by simp [Scope.stop]) (fun e he => ?_) fun _ => False.elim
      cases e with
      | ready => rfl
      | _ => exact False.elim he
    | _ => exact absurd rfl hc

/-- An actor goes on, or no call begins and none ends. -/
theorem turn_act (s : Session τ) (a : Action τ) (hn : s.Numbered) :
    (∃ actor ending, a.ended? s = ending.map (actor, ·) ∧ Turn s actor ending (s.act a)) := by
  have calm (h : ∀ actor input, a ≠ .run actor input) (he : a.ended? s = none) :
      ∃ actor ending, a.ended? s = ending.map (actor, ·) ∧ Turn s actor ending (s.act a) :=
    ⟨.loop, none, he, .stays (.act a h hn) rfl⟩
  cases a with
  | run actor input =>
    cases actor with
    | loop => exact ⟨.loop, _, rfl, turn_runLoop hn input⟩
    | task id => exact ⟨.task id, _, rfl, turn_runTask s id input⟩
  | _ => exact calm (fun _ _ => nofun) rfl

end Course

end Session

end ManagedAgent
