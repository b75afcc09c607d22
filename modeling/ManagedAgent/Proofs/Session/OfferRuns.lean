import ManagedAgent.Proofs.Session.Numbers
import ManagedAgent.Proofs.Session.Slots

/-!
# Every answer to an offer is reported once

A run of the handler of connection settings begins with a call of the agent and ends with an
`OfferRun`. Unless it was given up, the run records one status. A status waits in the state, goes
with a report, and stays with it for as long as the report is pending; so the statuses of the taken
reports, of the pending report and in the state are all that were recorded, in their order.

* `State.undelivered` : the statuses that the server does not have yet;
* `resolves_runOffer`, `resolves_runLoop` : a run adds its status at the end, and a delivery takes
  off at the front;
* `offerTurn_runOffer` : a task calls the agent again only when its run has ended;
* `offers_are_reported_once` : the account of a whole session.
-/

set_option autoImplicit false

namespace ManagedAgent

/-! ## Statuses that wait -/

namespace State

/-- The statuses that the server does not have yet: those of the pending report, and those that no
report has. -/
def undelivered (s : State) : List ConnectionStatus :=
  (s.outbox.pending.elim [] (·.connectionStatuses)) ++ s.outbox.connectionStatuses

theorem undelivered_of_same {s t : State} (hp : Aspect.pending.Same s t)
    (hc : Aspect.connectionStatuses.Same s t) : t.undelivered = s.undelivered := by
  have hp : t.outbox.pending = s.outbox.pending := hp
  have hc : t.outbox.connectionStatuses = s.outbox.connectionStatuses := hc
  unfold undelivered
  rw [hp, hc]

/-- A report takes the statuses that wait after those that it has. -/
theorem undelivered_nextReport (s : State) : s.nextReport.2.undelivered = s.undelivered := by
  have hbase : s.base.1.connectionStatuses = s.outbox.pending.elim [] (·.connectionStatuses) := by
    unfold base
    cases s.outbox.pending <;> rfl
  show (s.base.1.connectionStatuses ++ s.outbox.connectionStatuses) ++ [] = _
  rw [List.append_nil, hbase]
  rfl

theorem undelivered_recordConnectionStatus (s : State) (status : ConnectionStatus) :
    (s.recordConnectionStatus status).undelivered = s.undelivered ++ [status] :=
  (List.append_assoc _ _ _).symm

/-- The server gets the statuses of the report that it takes. -/
theorem undelivered_delivered {s : State} {r : Report} (h : s.outbox.pending = some r) :
    s.undelivered = r.connectionStatuses ++ (s.delivered r.sequenceNumber).undelivered := by
  rw [delivered_of_confirmed (confirmed?_eq_some_iff.2 ⟨h, rfl⟩)]
  unfold undelivered
  rw [h]
  rfl

end State

/-! ## Runs of the handler -/

/-- A run of the handler of connection settings that has ended. -/
structure OfferRun where
  task : Nat
  kind : ConnectionKind
  settings : ConnectionSettings
  result : OfferEnd
  deriving DecidableEq

namespace OfferRun

def asking (kind : ConnectionKind) (x : Nat × ConnectionSettings) : Actor × Call :=
  (.task x.1, .useConnection kind x.2)

def call (r : OfferRun) : Actor × Call := asking r.kind (r.task, r.settings)

def status? (r : OfferRun) : Option ConnectionStatus := r.result.status? r.kind

def accepted? (r : OfferRun) : Option (ConnectionKind × ConnectionSettings) :=
  if r.result = .accepted then some (r.kind, r.settings) else none

end OfferRun

def Task.endedRun? (id : Nat) (loop : Loop) (input : Input) : Task → Option OfferRun
  | .connection kind settings stage => (stage.end? kind loop input).map (⟨id, kind, settings, ·⟩)
  | _ => none

/-- The settings of the kind with which the task has called the agent. -/
def Task.begunRun? (kind : ConnectionKind) (x : Task) : Option ConnectionSettings :=
  (x.offerRun? kind).bind fun r => if r.2 then some r.1 else none

def Event.acceptance? : Event → Option (ConnectionKind × ConnectionSettings)
  | .told (.connectionAccepted kind settings) => some (kind, settings)
  | _ => none

namespace Session
variable {τ : Type} {s t : Session τ} {id : Nat}

def acceptances (s : Session τ) : List (ConnectionKind × ConnectionSettings) :=
  s.history.filterMap Event.acceptance?

/-- From `s` to `t` the server gets the statuses `gone`, and a run leads to what it has to: a status
that the server is to get, the acceptance of settings, and their use. -/
structure Resolves (s t : Session τ) (gone : List ConnectionStatus) (run : Option OfferRun) :
    Prop where
  undelivered : gone ++ t.state.undelivered = s.state.undelivered ++ (run.bind (·.status?)).toList
  acceptances : t.acceptances = s.acceptances ++ (run.bind (·.accepted?)).toList
  current : ∀ kind, t.state.connection kind =
    match run.bind (·.accepted?) with
    | some (k, settings) => if k = kind then some settings else s.state.connection kind
    | none => s.state.connection kind

theorem Resolves.of_quiet (hu : t.state.undelivered = s.state.undelivered)
    (ha : t.acceptances = s.acceptances)
    (hc : ∀ kind, t.state.connection kind = s.state.connection kind) : Resolves s t [] none :=
  ⟨hu.trans (List.append_nil _).symm, ha.trans (List.append_nil _).symm, hc⟩

/-- A step that keeps the state and tells of no acceptance. -/
theorem Resolves.of_state (hs : t.state = s.state) (ha : t.acceptances = s.acceptances) :
    Resolves s t [] none :=
  .of_quiet (congrArg State.undelivered hs) ha fun kind => congrArg (State.connection · kind) hs

theorem Resolves.refl (s : Session τ) : Resolves s s [] none := .of_state rfl rfl

theorem Resolves.trans {u : Session τ} {gone : List ConnectionStatus} {run : Option OfferRun}
    (h₁ : Resolves s t gone run) (h₂ : Resolves t u [] none) : Resolves s u gone run := by
  have hu : u.state.undelivered = t.state.undelivered := h₂.undelivered.trans (List.append_nil _)
  have hc (kind : ConnectionKind) : u.state.connection kind = t.state.connection kind :=
    h₂.current kind
  refine ⟨?_, (h₂.acceptances.trans (List.append_nil _)).trans h₁.acceptances,
    fun kind => (hc kind).trans (h₁.current kind)⟩
  rw [hu]
  exact h₁.undelivered

theorem acceptances_emit (s : Session τ) {e : Event} (h : e.acceptance? = none) :
    (s.emit e).acceptances = s.acceptances := by
  show (s.history ++ [e]).filterMap Event.acceptance? = _
  rw [List.filterMap_append, List.filterMap_cons, h]
  exact List.append_nil _

theorem acceptances_update (s : Session τ) (f : State → State) :
    (s.update f).acceptances = s.acceptances :=
  apply_update (·.acceptances) (fun _ => acceptances_emit _ rfl) s f

theorem resolves_nextOffer (s : Session τ) (id : Nat) (kind : ConnectionKind) :
    Resolves s (s.nextOffer id kind) [] none := by
  rcases s.nextOffer_cases id kind with ⟨-, heq⟩ | ⟨-, slot, next, -, heq⟩
  · rw [heq]
    exact .of_state rfl (acceptances_emit _ rfl)
  · rw [heq]
    cases next with
    | none => exact .of_state rfl (acceptances_emit _ rfl)
    | some c => exact .of_state rfl (acceptances_emit _ rfl)

theorem resolves_conclude (s : Session τ) (id : Nat) (kind : ConnectionKind)
    (settings : ConnectionSettings) (e : OfferEnd) :
    Resolves s (s.conclude kind settings e) [] (some ⟨id, kind, settings, e⟩) := by
  cases e with
  | accepted =>
    have hstate : (s.conclude kind settings .accepted).state =
        (((s.state.setConnection kind settings).resolveOffer kind settings).recordConnectionStatus
          { kind, verdict := .accepted }).notify := by
      refine (state_update _ _).trans ?_
      show (State.recordConnectionStatus (Session.update s _).state _).notify = _
      rw [state_update]
    refine ⟨?_, ?_, fun k => ?_⟩
    · rw [hstate]
      exact State.undelivered_recordConnectionStatus _ _
    · refine (acceptances_update _ _).trans ?_
      show ((s.update _).history ++ [_]).filterMap Event.acceptance? = _
      rw [List.filterMap_append]
      exact congrArg (· ++ [(kind, settings)]) (acceptances_update s _)
    · rw [hstate]
      show (s.state.connections.current.insert kind settings).get? k =
        if kind = k then some settings else s.state.connection k
      rw [Table.get?_insert]
      by_cases hk : kind = k
      · rw [if_pos hk, if_pos hk.symm]
      · rw [if_neg hk, if_neg (Ne.symm hk)]
        rfl
  | rejected error =>
    have hstate : (s.conclude kind settings (.rejected error)).state =
        ((s.state.resolveOffer kind settings).recordConnectionStatus
          { kind, verdict := .rejected, error }).notify := state_update s _
    refine ⟨?_, (acceptances_update s _).trans (List.append_nil _).symm, fun k => ?_⟩
    · rw [hstate]
      exact State.undelivered_recordConnectionStatus _ _
    · rw [hstate]
      rfl
  | cancelled => exact ⟨(List.append_nil _).symm, (List.append_nil _).symm, fun _ => rfl⟩

theorem resolves_runOffer {kind : ConnectionKind} {settings : ConnectionSettings}
    {stage : OfferStage} (input : Input) :
    Resolves s (s.runOffer id kind settings stage input) []
      ((stage.end? kind s.loop input).map (⟨id, kind, settings, ·⟩)) := by
  have hrun := runOffer_cases s id kind settings stage input
  generalize s.runOffer id kind settings stage input = t at hrun
  cases hrun with
  | stay he =>
    rw [he]
    exact .refl s
  | skip hf =>
    subst hf
    exact resolves_nextOffer s id kind
  | ask hf =>
    subst hf
    exact .of_state rfl (acceptances_emit _ rfl)
  | request _ he =>
    rw [he]
    rcases request_eq (s.setTask id (.connection kind settings .requesting)) ⟨id, settings⟩ with
      h | h
    · rw [h]
      exact .of_state rfl rfl
    · rw [h]
      exact .of_state rfl (acceptances_emit _ rfl)
  | conclude e he =>
    rw [he]
    exact (resolves_conclude s id kind settings e).trans (resolves_nextOffer _ id kind)

/-- A step that concerns neither the settings in use nor what is said about offers. -/
theorem Resolves.of_frame {S : Scope} (h : Frame S s t)
    (hc : ∀ kind, ¬ S.may (.state (.current kind))) (hp : ¬ S.may (.state .pending))
    (hl : ¬ S.may (.state .connectionStatuses))
    (he : ∀ kind settings, ¬ S.logs (.told (.connectionAccepted kind settings))) :
    Resolves s t [] none := by
  refine .of_quiet ?_ ?_ fun kind => h.same (.state (.current kind)) (hc kind)
  · exact State.undelivered_of_same (h.same (.state .pending) hp)
      (h.same (.state .connectionStatuses) hl)
  · refine h.filterMap_history fun e hS => ?_
    unfold Event.acceptance?
    split
    · next kind settings => exact absurd hS (he kind settings)
    · rfl

theorem resolves_runTask (s : Session τ) (id : Nat) (input : Input) :
    Resolves s (s.runTask id input) []
      ((s.tasks.get? id).bind (Task.endedRun? id s.loop input)) := by
  unfold runTask
  split
  · next h =>
    rw [h]
    refine .of_frame (frame_runConfig s id _ _ h input) ?_ ?_ ?_ fun _ _ h => h
    all_goals simp [Scope.config]
  · next h =>
    rw [h]
    exact resolves_runOffer input
  · next h =>
    rw [h]
    refine .of_frame (frame_runPackages s id _ _ h input) ?_ ?_ ?_ fun _ _ h => h
    all_goals simp [Scope.packages]
  · next h =>
    rw [h]
    exact .of_frame (frame_runCommand s id _ _ h input) (fun _ h => h) (fun h => h) (fun h => h)
      fun _ _ h => h
  · next h =>
    rw [h]
    refine .of_frame (frame_runRefresh s id _ h input) ?_ ?_ ?_ fun _ _ h => h
    all_goals simp [Scope.refresh]
  · next h =>
    rw [h]
    exact .refl s

/-! ## The loop -/

theorem acceptances_reply (s : Session τ) (task : Nat) (r : Except TransportError Unit) :
    (s.reply task r).acceptances = s.acceptances := by
  unfold reply
  split
  · exact acceptances_emit _ rfl
  · rfl

section Loop
variable [Transport τ]

/-- What the server gets when it takes the report that is under way. -/
def taking (s : Session τ) (outcome : Option Bool) : List ConnectionStatus :=
  if outcome = some true then s.state.outbox.pending.elim [] (·.connectionStatuses) else []

theorem Settles.resolves {input : Input} (h : Settles s input t)
    (hp : ∀ number, s.loop.number? = some number →
      ∃ r, s.state.outbox.pending = some r ∧ r.sequenceNumber = number) :
    Resolves s t (s.taking (s.loop.outcome? input)) none := by
  have missed {o : Option Bool} (ho : o ≠ some true) (h : Resolves s t [] none) :
      Resolves s t (s.taking o) none := by
    unfold taking
    rw [if_neg ho]
    exact h
  have took (number : UInt64) (hn : s.loop.number? = some number)
      (ho : s.loop.outcome? input = some true) {u : Session τ} (hu : u.state = s.state)
      (ha : u.acceptances = s.acceptances) :
      Resolves s (u.update (·.delivered number)) (s.taking (s.loop.outcome? input)) none := by
    obtain ⟨r, hr, rfl⟩ := hp number hn
    have hstate : (u.update (·.delivered r.sequenceNumber)).state =
        s.state.delivered r.sequenceNumber := by rw [state_update, hu]
    refine ⟨?_, ?_, fun kind => ?_⟩
    · unfold taking
      rw [if_pos ho, hr, hstate]
      exact (State.undelivered_delivered hr).symm.trans (List.append_nil _).symm
    · exact (acceptances_update u _).trans (ha.trans (List.append_nil _).symm)
    · rw [hstate, State.delivered_of_confirmed (State.confirmed?_eq_some_iff.2 ⟨hr, rfl⟩)]
      rfl
  have restored (task : Nat) (previous : ConnectionSettings) (e : TransportError) :
      Resolves s (s.restore task previous e) [] none :=
    .of_state (reply_state _ _ _) ((acceptances_reply _ _ _).trans (acceptances_emit _ rfl))
  cases h with
  | nothing hn =>
    rw [Loop.outcome?_eq_none hn]
    exact missed nofun (.refl s)
  | missed _ _ _ ho =>
    rw [ho]
    exact missed nofun (.refl s)
  | taken number hn _ ho => exact took number hn ho rfl rfl
  | proved task _ number hn _ ho =>
    exact took number hn ho (reply_state s task _) (acceptances_reply s task _)
  | disproved task previous _ e _ _ ho =>
    rw [ho]
    exact missed nofun (restored task previous e)
  | switched task _ hn =>
    rw [Loop.outcome?_eq_none hn]
    exact missed nofun (.of_state (reply_state s task _) (acceptances_reply s task _))
  | unswitched task previous e hn =>
    rw [Loop.outcome?_eq_none hn]
    exact missed nofun (restored task previous e)

theorem Works.resolves (h : Works s t) : Resolves s t [] none := by
  refine .of_frame h.frame ?_ ?_ ?_ fun _ _ h => h
  all_goals simp [Scope.work]

theorem Rests.resolves (h : Rests s t) : Resolves s t [] none := by
  have pause {u : Session τ} (hp : Frame .pause s u) : Resolves s u [] none := by
    refine .of_frame hp ?_ ?_ ?_ fun _ _ h => h
    all_goals simp [Scope.pause]
  rcases h.report_or_pause with ⟨hp, -⟩ | ⟨u, l, e, hp, he, -, rfl⟩
  · exact pause hp
  · refine (pause hp).trans (.of_quiet u.state.undelivered_nextReport (acceptances_emit _ ?_)
      fun _ => rfl)
    cases e with
    | told => cases he
    | _ => rfl

theorem resolves_runLoop (s : Session τ) (input : Input)
    (hp : ∀ number, s.loop.number? = some number →
      ∃ r, s.state.outbox.pending = some r ∧ r.sequenceNumber = number) :
    Resolves s (s.runLoop input) (s.taking (s.loop.outcome? input)) none := by
  rcases s.runLoop_cases input with ⟨ho, h⟩ | ⟨u, routed, hset, hgo⟩
  · rw [ho, h]
    exact .refl s
  · refine hgo.elim (M := fun u => Resolves s u (s.taking (s.loop.outcome? input)) none)
      (fun _ _ h hu => hu.trans h.resolves) ?_ (fun _ _ h hu => hu.trans h.resolves)
      (hset.resolves hp)
    exact fun u i hu => hu.trans (.of_frame (frame_dispatch u i) (fun _ h => h) (fun h => h)
      (fun h => h) fun _ _ h => h)

end Loop

/-! ## One call, one run -/

def underWay? (s : Session τ) (kind : ConnectionKind) : Nat → Option ConnectionSettings :=
  s.view (Task.begunRun? kind)

section Asked
variable {kind : ConnectionKind}

theorem ignoresReplies_begunRun (kind : ConnectionKind) : IgnoresReplies (Task.begunRun? kind) :=
  fun _ _ _ => rfl

theorem begunRun?_self (kind : ConnectionKind) (settings : ConnectionSettings)
    (stage : OfferStage) : (Task.connection kind settings stage).begunRun? kind =
      if stage.isBegun then some settings else none := by
  unfold Task.begunRun?
  rw [offerRun?_self]
  rfl

theorem begunRun?_of_offerRun? {x : Task} (h : x.offerRun? kind = none) :
    x.begunRun? kind = none := by
  unfold Task.begunRun?
  rw [h]
  rfl

theorem begunRun?_of_isFresh {x : Task} (h : x.isFresh = true) : x.begunRun? kind = none := by
  cases x with
  | connection k settings stage =>
    cases stage with
    | fresh =>
      unfold Task.begunRun? Task.offerRun?
      dsimp only
      split <;> rfl
    | _ => contradiction
  | _ => rfl

theorem underWay?_eq (i : Nat) : s.underWay? kind i =
    (s.view (Task.offerRun? kind) i).bind fun r => if r.2 then some r.1 else none :=
  (Option.bind_assoc _ _ _).symm

theorem underWay?_eq_some {settings : ConnectionSettings} :
    s.underWay? kind id = some settings ↔ ∃ stage, stage.isBegun = true ∧
      s.tasks.get? id = some (.connection kind settings stage) := by
  rw [← view_offerRun_eq_some, underWay?_eq, Option.bind_eq_some_iff]
  constructor
  · rintro ⟨⟨c, b⟩, hx, hb⟩
    cases b with
    | true =>
      obtain rfl : c = settings := Option.some.inj hb
      exact hx
    | false => contradiction
  · exact fun h => ⟨_, h, rfl⟩

/-- One task at most has called the agent about the kind. -/
theorem Orderly.underWay (hs : s.Orderly) (kind : ConnectionKind) :
    ∃ r : Option (Nat × ConnectionSettings),
      ∀ i settings, s.underWay? kind i = some settings ↔ r = some (i, settings) := by
  cases hs.offers kind with
  | vacant _ hn =>
    refine ⟨none, fun i settings => ?_⟩
    rw [underWay?_eq, hn]
    exact ⟨nofun, nofun⟩
  | busy id x _ ho =>
    refine ⟨if x.2 then some (id, x.1) else none, fun i settings => ?_⟩
    rw [underWay?_eq, ho]
    grind

/-- A task goes on: it asks no more about the kind and ends nothing, or what it was about has ended,
and it asks about what it comes to. -/
inductive OfferTurn (s : Session τ) (id : Nat) (kind : ConnectionKind) (t : Session τ) :
    Option ConnectionSettings → Prop
  | stays (hc : t.begun (.connection kind) = s.begun (.connection kind))
      (hu : ∀ i, t.underWay? kind i = s.underWay? kind i) :
    OfferTurn s id kind t none
  | goes (hc : t.begun (.connection kind) = s.begun (.connection kind) ++
        ((t.underWay? kind id).map (id, ·)).toList.map (OfferRun.asking kind))
      (hu : ∀ i, i ≠ id → t.underWay? kind i = s.underWay? kind i) :
    OfferTurn s id kind t (s.underWay? kind id)

theorem offerTurn_askOffer {u : Session τ} (hc : u.calls = s.calls)
    (hu : u.tasks = s.tasks) (settings : ConnectionSettings) :
    OfferTurn s id kind (u.askOffer id kind settings) (s.underWay? kind id) := by
  have hview (i : Nat) : (u.askOffer id kind settings).underWay? kind i =
      if i = id then some settings else u.underWay? kind i := by
    refine (view_setTask u id _ i).trans ?_
    rw [begunRun?_self]
    rfl
  refine .goes ?_ fun i hi => ?_
  · rw [hview, if_pos rfl, ← begun_of_calls hc]
    exact begun_call (u.setTask id _) (.task id) (.useConnection kind settings)
  · rw [hview, if_neg hi]
    exact view_of_tasks hu i

theorem offerTurn_finish {u : Session τ} (hc : u.calls = s.calls)
    (hu : u.tasks = s.tasks) : OfferTurn s id kind (u.finish id) (s.underWay? kind id) := by
  have hview (i : Nat) : (u.finish id).underWay? kind i =
      if i = id then none else u.underWay? kind i := view_finish u id i
  refine .goes ?_ fun i hi => ?_
  · rw [hview, if_pos rfl, ← begun_of_calls hc]
    exact (begun_of_calls (calls_emit _ rfl)).trans (List.append_nil _).symm
  · rw [hview, if_neg hi]
    exact view_of_tasks hu i

theorem offerTurn_nextOffer {u : Session τ} (hc : u.calls = s.calls)
    (hu : u.tasks = s.tasks) :
    OfferTurn s id kind (u.nextOffer id kind) (s.underWay? kind id) := by
  rcases u.nextOffer_cases id kind with ⟨-, heq⟩ | ⟨-, slot, next, -, heq⟩
  · rw [heq]
    exact offerTurn_finish hc hu
  · rw [heq]
    cases next with
    | none => exact offerTurn_finish (u := u.setOfferSlot kind slot) hc hu
    | some c => exact offerTurn_askOffer (u := u.setOfferSlot kind slot) hc hu c

theorem offerTurn_runOffer {settings : ConnectionSettings} {stage : OfferStage}
    (h : s.tasks.get? id = some (.connection kind settings stage)) (input : Input) :
    OfferTurn s id kind (s.runOffer id kind settings stage input)
      ((stage.end? kind s.loop input).map fun _ => settings) := by
  have hnow : s.underWay? kind id = if stage.isBegun then some settings else none :=
    (view_of_get? h).trans (begunRun?_self kind settings stage)
  have fresh (hf : stage = .fresh) :
      (stage.end? kind s.loop input).map (fun _ => settings) = s.underWay? kind id := by
    subst hf
    exact hnow.symm
  have hrun := runOffer_cases s id kind settings stage input
  generalize s.runOffer id kind settings stage input = t at hrun
  cases hrun with
  | stay he =>
    rw [he]
    exact .stays rfl fun _ => rfl
  | skip hf =>
    rw [fresh hf]
    exact offerTurn_nextOffer rfl rfl
  | ask hf =>
    rw [fresh hf]
    exact offerTurn_askOffer rfl rfl settings
  | request hf he =>
    rw [he]
    subst hf
    have hset (i : Nat) : (s.setTask id (.connection kind settings .requesting)).underWay? kind i =
        s.underWay? kind i := by
      refine (view_setTask s id _ i).trans ?_
      rw [begunRun?_self]
      split
      · next hi => exact hi ▸ hnow.symm
      · rfl
    rcases request_eq (s.setTask id (.connection kind settings .requesting)) ⟨id, settings⟩ with
      heq | heq
    · rw [heq]
      exact .stays rfl hset
    · rw [heq]
      exact .stays (begun_of_calls (calls_emit _ rfl)) hset
  | conclude e he =>
    have hbegun : some settings = s.underWay? kind id := by
      rw [hnow]
      cases stage with
      | fresh => cases he
      | _ => rfl
    rw [he, Option.map_some, hbegun]
    refine offerTurn_nextOffer ?_ (tasks_conclude s kind settings e)
    refine (frame_conclude s kind settings e).filterMap_history fun x hx => ?_
    cases x with
    | called => exact False.elim hx
    | _ => rfl

theorem runTask_of_offer {settings : ConnectionSettings} {stage : OfferStage}
    (h : s.tasks.get? id = some (.connection kind settings stage)) (input : Input) :
    s.runTask id input = s.runOffer id kind settings stage input := by
  unfold runTask
  rw [h]

/-- A task keeps to what it is about. -/
theorem offerRun?_of_scope {x y : Task} (hx : x.offerRun? kind = none)
    (hy : (Scope.of x).tasks y) : y.offerRun? kind = none := by
  cases x with
  | connection k settings stage =>
    refine offerRun?_of_ne (fun hk => ?_) y hy
    subst hk
    rw [offerRun?_self] at hx
    contradiction
  | _ =>
    cases y with
    | connection => exact False.elim hy
    | _ => rfl

/-- A task that is about something else. -/
theorem offerTurn_apart {x : Task} (hn : s.Numbered) (hx : s.tasks.get? id = some x)
    (hnone : x.offerRun? kind = none) (input : Input) :
    OfferTurn s id kind (s.runTask id input) none := by
  refine .stays (begun_runTask hn hx input ?_) ((frame_runTask hx input).view hn fun y hy =>
    begunRun?_of_offerRun? (offerRun?_of_scope hnone hy))
  cases x with
  | connection k settings stage =>
    intro hk
    obtain rfl := Topic.connection.inj (List.mem_singleton.1 hk)
    rw [offerRun?_self] at hnone
    contradiction
  | _ => simp [Task.topics]

def runsOf (kind : ConnectionKind) (runs : List OfferRun) : List OfferRun :=
  runs.filter (·.kind = kind)

theorem runsOf_self (r : OfferRun) : runsOf r.kind [r] = [r] :=
  List.filter_cons_of_pos (decide_eq_true rfl)

theorem runsOf_of_ne {r : OfferRun} (h : r.kind ≠ kind) : runsOf kind [r] = [] :=
  List.filter_cons_of_neg (by simpa using h)

/-- A task goes on, and its run ends with the one that it says. -/
theorem offerTurn_runTask (hn : s.Numbered) (id : Nat) (input : Input) (kind : ConnectionKind) :
    ∃ ended, OfferTurn s id kind (s.runTask id input) ended ∧
      (ended.map (id, ·)).toList.map (OfferRun.asking kind) =
        (runsOf kind ((s.tasks.get? id).bind (Task.endedRun? id s.loop input)).toList).map
          (·.call) := by
  have apart {x : Task} (hx : s.tasks.get? id = some x) (hnone : x.offerRun? kind = none)
      (hend : runsOf kind (x.endedRun? id s.loop input).toList = []) :
      ∃ ended, OfferTurn s id kind (s.runTask id input) ended ∧
        (ended.map (id, ·)).toList.map (OfferRun.asking kind) =
          (runsOf kind (x.endedRun? id s.loop input).toList).map (·.call) := by
    refine ⟨none, offerTurn_apart hn hx hnone input, ?_⟩
    rw [hend]
    rfl
  cases hx : s.tasks.get? id with
  | none =>
    rw [runTask_of_none hx]
    exact ⟨none, .stays rfl fun _ => rfl, rfl⟩
  | some x =>
    cases x with
    | connection k settings stage =>
      by_cases hk : k = kind
      · subst hk
        refine ⟨(stage.end? k s.loop input).map fun _ => settings, ?_, ?_⟩
        · rw [runTask_of_offer hx]
          exact offerTurn_runOffer hx input
        · show _ = (runsOf k ((stage.end? k s.loop input).map _).toList).map (·.call)
          cases stage.end? k s.loop input with
          | none => rfl
          | some e =>
            exact (congrArg (List.map OfferRun.call) (runsOf_self ⟨id, k, settings, e⟩)).symm
      · refine apart hx (if_neg hk) ?_
        show runsOf kind ((stage.end? k s.loop input).map _).toList = []
        cases stage.end? k s.loop input with
        | none => rfl
        | some e => exact runsOf_of_ne hk
    | _ => exact apart hx rfl rfl

end Asked

/-! ## The account of a session -/

section Course
variable {attempts ended : List Attempt} {runs : List OfferRun}

def takenReports (attempts : List Attempt) : List Report := (attempts.filter (·.2)).map (·.1)

theorem takenReports_append (attempts ended : List Attempt) :
    takenReports (attempts ++ ended) = takenReports attempts ++ takenReports ended := by
  unfold takenReports
  rw [List.filter_append, List.map_append]

/-- The report that the server gets when it takes the one under way. -/
def landing (s : Session τ) (outcome : Option Bool) : List Report :=
  if outcome = some true then s.state.outbox.pending.toList else []

theorem flatMap_landing (s : Session τ) (outcome : Option Bool) :
    (s.landing outcome).flatMap (·.connectionStatuses) = s.taking outcome := by
  unfold landing taking
  split
  · cases s.state.outbox.pending with
    | none => rfl
    | some r => exact List.append_nil _
  · rfl

theorem Along.ended_isPrefix (hs : Along attempts s) : attempts.map (·.1) <+: s.reports := by
  have hr := hs.reports
  cases hn : s.loop.number? with
  | none =>
    rw [hn] at hr
    exact hr ▸ List.prefix_rfl
  | some number =>
    rw [hn] at hr
    obtain ⟨r, -, -, hr⟩ := hr
    exact hr ▸ List.prefix_append _ _

theorem Along.zip_reports (hs : Along attempts s) : s.reports.zip (attempts.map (·.2)) = attempts := by
  obtain ⟨rest, hr⟩ := hs.ended_isPrefix
  rw [← hr, zip_attempts]

/-- An attempt that is under way has not ended. -/
theorem Along.length_reports (hs : Along attempts s) (h : s.loop.number? ≠ none) :
    s.reports.length = attempts.length + 1 := by
  obtain ⟨number, hn⟩ := Option.ne_none_iff_exists'.1 h
  have hr := hs.reports
  rw [hn] at hr
  obtain ⟨r, -, -, hr⟩ := hr
  rw [hr, List.length_append, List.length_map]
  rfl

/-- The report that the server takes is the pending one. -/
theorem Along.takenReports_ended (hs : Along attempts s) (ht : Along (attempts ++ ended) t)
    (hr : s.reports <+: t.reports) {outcome : Option Bool}
    (hn : outcome ≠ none → s.loop.number? ≠ none) (ho : ended.map (·.2) = outcome.toList) :
    takenReports ended = s.landing outcome := by
  cases outcome with
  | none =>
    obtain rfl := List.map_eq_nil_iff.1 ho
    rfl
  | some isTaken =>
    obtain ⟨⟨r, b⟩, rfl, hb⟩ := List.map_eq_singleton_iff.1 ho
    obtain rfl : b = isTaken := hb
    obtain ⟨number, hnum⟩ := Option.ne_none_iff_exists'.1 (hn nofun)
    have hreports := hs.reports
    rw [hnum] at hreports
    obtain ⟨sent, hpending, -, hreports⟩ := hreports
    have heq : attempts.map (·.1) ++ [sent] = attempts.map (·.1) ++ [r] := by
      have hended := ht.ended_isPrefix
      rw [List.map_append] at hended
      refine (List.prefix_of_prefix_length_le (hreports ▸ hr) hended ?_).eq_of_length ?_
      all_goals simp
    obtain rfl : sent = r := by simpa using heq
    unfold landing
    rw [hpending]
    cases b with
    | false => rfl
    | true => rfl

/-- What the runs of a kind have come to: the last settings that were accepted. -/
def lastAccepted? (kind : ConnectionKind) (runs : List OfferRun) : Option ConnectionSettings :=
  ((runsOf kind runs).filter (·.result = .accepted)).getLast?.map (·.settings)

/-- The attempts and the runs that have ended account for the calls that have begun, for the
statuses that were taken and are to be taken, and for the settings in use. -/
structure Accounted (origin : Session τ) (attempts : List Attempt) (runs : List OfferRun)
    (s : Session τ) : Prop where
  along : Along attempts s
  orderly : s.Orderly
  statuses : (takenReports attempts).flatMap (·.connectionStatuses) ++ s.state.undelivered =
    runs.filterMap (·.status?)
  acceptances : s.acceptances = runs.filterMap (·.accepted?)
  current : ∀ kind, s.state.connection kind =
    (lastAccepted? kind runs).or (origin.state.connection kind)
  calls : ∀ kind, ∃ r : Option (Nat × ConnectionSettings),
    (∀ i settings, s.underWay? kind i = some settings ↔ r = some (i, settings)) ∧
      s.begun (.connection kind) =
        (runsOf kind runs).map (·.call) ++ r.toList.map (OfferRun.asking kind)

theorem lastAccepted?_concat (kind : ConnectionKind) (runs : List OfferRun) (r : OfferRun) :
    lastAccepted? kind (runs ++ [r]) =
      match r.accepted? with
      | some (k, settings) => if k = kind then some settings else lastAccepted? kind runs
      | none => lastAccepted? kind runs := by
  unfold lastAccepted? runsOf OfferRun.accepted?
  rw [List.filter_append, List.filter_append]
  by_cases hr : r.result = .accepted
  · by_cases hk : r.kind = kind
    · simp [hr, hk]
    · simp [hr, hk]
  · by_cases hk : r.kind = kind
    · simp [hr, hk]
    · simp [hr, hk]

theorem lastAccepted?_append (kind : ConnectionKind) (runs later : List OfferRun) :
    lastAccepted? kind (runs ++ later) =
      (lastAccepted? kind later).or (lastAccepted? kind runs) := by
  unfold lastAccepted? runsOf
  rw [List.filter_append, List.filter_append, List.getLast?_append, Option.map_or]

/-- The settings in use are those that the last acceptance is about. -/
theorem Accounted.current_of_resolves {origin : Session τ} (hs : Accounted origin attempts runs s)
    {gone : List ConnectionStatus} {run : Option OfferRun} (h : Resolves s t gone run)
    (kind : ConnectionKind) : t.state.connection kind =
      (lastAccepted? kind (runs ++ run.toList)).or (origin.state.connection kind) := by
  rw [h.current kind]
  cases run with
  | none =>
    rw [Option.toList_none, List.append_nil]
    exact hs.current kind
  | some r =>
    rw [Option.toList_some, lastAccepted?_concat, Option.bind_some]
    cases r.accepted? with
    | none => exact hs.current kind
    | some x =>
      dsimp only
      split
      · rfl
      · exact hs.current kind

/-- What a run comes to is at the end of what all runs come to. -/
theorem filterMap_append_toList {α : Type} (f : OfferRun → Option α) (runs : List OfferRun)
    (run : Option OfferRun) :
    (runs ++ run.toList).filterMap f = runs.filterMap f ++ (run.bind f).toList := by
  rw [List.filterMap_append]
  cases run with
  | none => rfl
  | some r =>
    refine congrArg (runs.filterMap f ++ ·) ?_
    show [r].filterMap f = (f r).toList
    rw [List.filterMap_cons]
    cases f r with
    | none => rfl
    | some a => rfl

theorem accounted_start (transport : τ) (settings : StartSettings) (fresh : String) :
    Accounted (start transport settings fresh) [] [] (start transport settings fresh) where
  along := ⟨wellNumbered_nil, State.counts_start settings fresh, rfl⟩
  orderly := orderly_start transport settings fresh
  statuses := rfl
  acceptances := rfl
  current _ := rfl
  calls _ := ⟨none, fun _ _ => ⟨nofun, nofun⟩, rfl⟩

variable [Transport τ] [Carrier τ]

def Action.offerRun? (s : Session τ) : Action τ → Option OfferRun
  | .run (.task id) input => (s.tasks.get? id).bind (Task.endedRun? id s.loop input)
  | _ => none

def offerRuns (s : Session τ) : List (Action τ) → List OfferRun
  | [] => []
  | a :: rest => (a.offerRun? s).toList ++ (s.act a).offerRuns rest

theorem offerRuns_append (s : Session τ) (before later : List (Action τ)) :
    s.offerRuns (before ++ later) = s.offerRuns before ++ (s.after before).offerRuns later := by
  induction before generalizing s with
  | nil => rfl
  | cons a before ih =>
    rw [List.cons_append, offerRuns, offerRuns, ih, List.append_assoc]
    rfl

theorem resolves_act (hs : Along attempts s) (a : Action τ) :
    Resolves s (s.act a) (s.taking (a.outcome? s)) (a.offerRun? s) := by
  by_cases hc : a.isCall = true
  · cases a with
    | run => cases hc
    | _ =>
      refine .of_frame (frame_act s _ hc) ?_ ?_ ?_ fun _ _ h => h
      all_goals simp [Scope.calls]
  · cases a with
    | run actor input =>
      cases actor with
      | loop => exact resolves_runLoop s input hs.pending
      | task id => exact resolves_runTask s id input
    | use u => exact .of_state rfl rfl
    | setInterval d => exact .of_state rfl rfl
    | stop =>
      refine .of_frame (frame_stop s) ?_ ?_ ?_ fun _ _ h => h
      all_goals simp [Scope.stop]
    | _ => exact absurd rfl hc

/-- An action is a go of one task, as far as the kind is concerned. -/
theorem offerTurn_act (hs : s.Orderly) (a : Action τ) (kind : ConnectionKind) :
    ∃ id ended, OfferTurn s id kind (s.act a) ended ∧
      (ended.map (id, ·)).toList.map (OfferRun.asking kind) =
        (runsOf kind (a.offerRun? s).toList).map (·.call) := by
  have calm (h : ∀ actor input, a ≠ .run actor input)
      (hv : ∀ i, (s.act a).underWay? kind i = s.underWay? kind i) (hr : a.offerRun? s = none) :
      ∃ id ended, OfferTurn s id kind (s.act a) ended ∧
        (ended.map (id, ·)).toList.map (OfferRun.asking kind) =
          (runsOf kind (a.offerRun? s).toList).map (·.call) := by
    rw [hr]
    exact ⟨0, none, .stays (begun_of_calls (Calm.act a h hs.numbered).calls) hv, rfl⟩
  by_cases hc : a.isCall = true
  · have hv := view_act (v := Task.begunRun? kind) s a hc hs.numbered rfl
    cases a with
    | run => cases hc
    | _ => exact calm (fun _ _ => nofun) hv rfl
  · cases a with
    | run actor input =>
      cases actor with
      | loop =>
        refine ⟨0, none, .stays (begun_runLoop hs.numbered input nofun nofun) ?_, rfl⟩
        exact view_runLoop s hs.numbered input (ignoresReplies_begunRun kind)
          fun _ => begunRun?_of_isFresh
      | task id => exact ⟨id, offerTurn_runTask hs.numbered id input kind⟩
    | use u => exact calm (fun _ _ => nofun) (fun _ => rfl) rfl
    | setInterval d => exact calm (fun _ _ => nofun) (fun _ => rfl) rfl
    | stop =>
      exact calm (fun _ _ => nofun)
        ((frame_stop s).view hs.numbered fun _ => False.elim) rfl
    | _ => exact absurd rfl hc

/-- An action that ends an attempt brings the server the report that is under way, or not. -/
theorem Along.takenReports_act (hs : Along attempts s) {a : Action τ}
    (ht : Along (attempts ++ ended) (s.act a)) (ho : ended.map (·.2) = (a.outcome? s).toList) :
    takenReports ended = s.landing (a.outcome? s) := by
  obtain ⟨es, hes, -⟩ := (frame_any s a).logged
  refine hs.takenReports_ended ht ?_ (fun hne hn => hne (Action.outcome?_eq_none hn a)) ho
  unfold Session.reports
  rw [hes, List.filterMap_append]
  exact List.prefix_append _ _

theorem Accounted.act {origin : Session τ} (hs : Accounted origin attempts runs s) (a : Action τ) :
    ∃ ended : List Attempt,
      Accounted origin (attempts ++ ended) (runs ++ (a.offerRun? s).toList) (s.act a) ∧
        ended.map (·.2) = (a.outcome? s).toList := by
  obtain ⟨ended, hend, ho⟩ := hs.along.act a
  have hr := resolves_act hs.along a
  have hgone : (takenReports ended).flatMap (·.connectionStatuses) = s.taking (a.outcome? s) := by
    rw [hs.along.takenReports_act hend ho]
    exact flatMap_landing s _
  refine ⟨ended, ⟨hend, hs.orderly.act a, ?_, ?_, fun kind => ?_, fun kind => ?_⟩, ho⟩
  · rw [takenReports_append, List.flatMap_append, hgone, List.append_assoc, hr.undelivered, ← List.append_assoc,
      hs.statuses, filterMap_append_toList]
  · rw [hr.acceptances, hs.acceptances, filterMap_append_toList]
  · exact hs.current_of_resolves hr kind
  · obtain ⟨r, hone, hcalls⟩ := hs.calls kind
    obtain ⟨r', hone'⟩ := (hs.orderly.act a).underWay kind
    obtain ⟨id, e, hturn, he⟩ := offerTurn_act hs.orderly a kind
    refine ⟨r', hone', ?_⟩
    have hruns : (runsOf kind (runs ++ (a.offerRun? s).toList)).map (·.call) =
        (runsOf kind runs).map (·.call) ++ (e.map (id, ·)).toList.map (OfferRun.asking kind) := by
      rw [he]
      unfold runsOf
      rw [List.filter_append, List.map_append]
    rw [hruns]
    cases hturn with
    | stays hc hu =>
      obtain rfl : r = r' := Option.ext fun ⟨i, settings⟩ => by rw [← hone, ← hone', hu]
      rw [hc, hcalls]
      exact congrArg (· ++ _) (List.append_nil _).symm
    | goes hc hu =>
      have hx := congrArg (List.map (OfferRun.asking kind)) (exchange hone hone' id hu)
      rw [hc, hcalls, List.append_assoc, List.append_assoc]
      rw [List.map_append, List.map_append] at hx
      exact congrArg (_ ++ ·) hx

theorem Accounted.after {origin : Session τ} (hs : Accounted origin attempts runs s)
    (actions : List (Action τ)) : ∃ ended : List Attempt,
      Accounted origin (attempts ++ ended) (runs ++ s.offerRuns actions) (s.after actions) ∧
        ended.map (·.2) = s.outcomes actions := by
  induction actions generalizing s attempts runs with
  | nil => exact ⟨[], by rwa [offerRuns, List.append_nil, List.append_nil], rfl⟩
  | cons a rest ih =>
    obtain ⟨first, hfirst, hf⟩ := hs.act a
    obtain ⟨others, hothers, ho⟩ := ih hfirst
    refine ⟨first ++ others, ?_, ?_⟩
    · rw [← List.append_assoc, offerRuns, ← List.append_assoc]
      exact hothers
    · rw [List.map_append, hf, ho]
      rfl

/-- **Every answer to an offer is reported once.** After any course of a session, the statuses of
the reports that the server has taken, of the pending report, and in the state are one after the
other those that the runs of the handler have recorded, one for each run that was not given up. The
agent was told of each run that ended with acceptance, and of nothing else; the settings of a kind in
use are those that the last of these runs accepted, and otherwise those of the start. The handler was
called once for each run that has ended, and for the one that is under way. -/
theorem offers_are_reported_once (transport : τ) (settings : StartSettings) (fresh : String)
    (actions : List (Action τ)) :
    let s := start transport settings fresh
    let t := s.after actions
    let runs := s.offerRuns actions
    let delivered := takenReports (t.reports.zip (s.outcomes actions))
    delivered.flatMap (·.connectionStatuses) ++
        (t.state.outbox.pending.elim [] (·.connectionStatuses) ++
          t.state.outbox.connectionStatuses) = runs.filterMap (·.status?) ∧
      t.acceptances = runs.filterMap (·.accepted?) ∧
      ∀ kind,
        t.state.connection kind = (lastAccepted? kind runs).or (s.state.connection kind) ∧
        ∃ running? : Option (Nat × ConnectionSettings),
          (∀ id c, running? = some (id, c) ↔ ∃ stage, stage.isBegun = true ∧
            t.tasks.get? id = some (.connection kind c stage)) ∧
          t.begun (.connection kind) = (runsOf kind runs).map (·.call) ++
            running?.toList.map (OfferRun.asking kind) := by
  intro s t runs delivered
  obtain ⟨attempts, ht, ho⟩ := (accounted_start transport settings fresh).after actions
  rw [List.nil_append, List.nil_append] at ht
  have hdelivered : delivered = takenReports attempts := by
    show takenReports (t.reports.zip (s.outcomes actions)) = _
    rw [← ho, ht.along.zip_reports]
  refine ⟨hdelivered ▸ ht.statuses, ht.acceptances, fun kind => ⟨ht.current kind, ?_⟩⟩
  obtain ⟨r, hone, hcalls⟩ := ht.calls kind
  exact ⟨r, fun i c => (hone i c).symm.trans underWay?_eq_some, hcalls⟩

end Course

end Session

end ManagedAgent
