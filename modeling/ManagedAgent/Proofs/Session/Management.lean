import ManagedAgent.Proofs.Session.LoopFrame
import ManagedAgent.Proofs.Session.Switchable

/-!
# The settings of the management connection

They are in two places: the transport uses them, and the state records them. A task that deals with
offered settings has the loop try them on the transport, and records them once they have proved
themselves. Between two trials (`Steady`) both places have the last accepted settings, or those of
the start; on a trial (`OnTrial`) the loop knows what to go back to.

* `Steady.runOffer` : a task goes on, and accepts settings only if they have proved themselves;
* `Steady.dispatchOffer` : settings are offered.
-/

set_option autoImplicit false

namespace ManagedAgent

def Event.accepted? : Event → Option ConnectionSettings
  | .told (.connectionAccepted .management settings) => some settings
  | _ => none

def Task.management? : Task → Option (ConnectionSettings × OfferStage)
  | .connection .management settings stage => some (settings, stage)
  | _ => none

namespace Session
variable {τ : Type}

def accepted (s : Session τ) : List ConnectionSettings := s.history.filterMap Event.accepted?

def offerTask? (s : Session τ) (id : Nat) : Option (ConnectionSettings × OfferStage) :=
  (s.tasks.get? id).bind Task.management?

/-- The task has not come to know that its settings have proved themselves. -/
def Open (task : Option (ConnectionSettings × OfferStage)) : Prop :=
  ∀ settings, task ≠ some (settings, .replied (.ok ()))

/-- The settings that the transport uses between two trials: those that have just proved themselves,
or the last accepted ones. -/
def used (last : ConnectionSettings) : Option (ConnectionSettings × OfferStage) → ConnectionSettings
  | some (settings, .replied (.ok ())) => settings
  | _ => last

namespace Scope

def elsewhere : Scope where
  may a := a ≠ .transport ∧ a ≠ .requests ∧ a ≠ .offers .management ∧
    a ≠ .state (.current .management)
  logs e := e.accepted? = none
  tasks x := x.management? = none

end Scope

section Elsewhere
variable {s t : Session τ} {id : Nat}

theorem offerTask?_eq_some {settings : ConnectionSettings} {stage : OfferStage} :
    s.offerTask? id = some (settings, stage) ↔
      s.tasks.get? id = some (.connection .management settings stage) := by
  unfold offerTask?
  rw [Option.bind_eq_some_iff]
  constructor
  · rintro ⟨x, hx, hm⟩
    cases x with
    | connection kind _ _ =>
      cases kind with
      | management => rw [hx]; cases hm; rfl
      | _ => cases hm
    | _ => cases hm
  · exact fun h => ⟨_, h, rfl⟩

theorem Frame.accepted (h : Frame .elsewhere s t) : t.accepted = s.accepted := by
  obtain ⟨es, he, hes⟩ := h.logged
  unfold Session.accepted
  rw [he, List.filterMap_append, List.filterMap_eq_nil_iff.2 hes, List.append_nil]

theorem accepted_emit (s : Session τ) {e : Event} (he : e.accepted? = none) :
    (s.emit e).accepted = s.accepted := by
  have h : Frame .elsewhere s (s.emit e) := .emit s e he
  exact h.accepted

theorem accepted_update (s : Session τ) (f : State → State) :
    (s.update f).accepted = s.accepted :=
  apply_update (·.accepted) (fun t => accepted_emit t rfl) s f

def record (s : Session τ) (settings : ConnectionSettings) : Session τ :=
  (s.update fun state => (state.setConnection .management settings).resolveOffer .management
    settings).tell (.connectionAccepted .management settings)

theorem accepted_record (s : Session τ) (settings : ConnectionSettings) :
    (s.record settings).accepted = s.accepted ++ [settings] := by
  have hu := s.accepted_update fun state =>
    (state.setConnection .management settings).resolveOffer .management settings
  unfold Session.accepted at hu ⊢
  show ((s.update _).history ++ [_]).filterMap _ = _
  rw [List.filterMap_append, hu]
  rfl

theorem Frame.transport (h : Frame .elsewhere s t) : t.transport = s.transport :=
  h.same .transport fun h => h.1 rfl

theorem Frame.requests (h : Frame .elsewhere s t) : t.requests = s.requests :=
  h.same .requests fun h => h.2.1 rfl

theorem Frame.offerTask? (h : Frame .elsewhere s t) (hn : s.Numbered) (i : Nat) :
    t.offerTask? i = s.offerTask? i := by
  refine Option.ext fun ⟨settings, stage⟩ => ?_
  rw [offerTask?_eq_some, offerTask?_eq_some]
  exact h.task hn i _ nofun

theorem Frame.offerSlot (h : Frame .elsewhere s t) :
    t.offerSlot .management = s.offerSlot .management :=
  congrArg (·.getD .idle) (h.same (.offers .management) fun h => h.2.2.1 rfl)

theorem Frame.connection (h : Frame .elsewhere s t) :
    t.state.connection .management = s.state.connection .management :=
  h.same (.state (.current .management)) fun h => h.2.2.2 rfl

theorem offerTask?_setTask (s : Session τ) (id : Nat) (settings : ConnectionSettings)
    (stage : OfferStage) (i : Nat) :
    (s.setTask id (.connection .management settings stage)).offerTask? i =
      if i = id then some (settings, stage) else s.offerTask? i := by
  unfold Session.offerTask?
  show ((s.tasks.insert id (.connection .management settings stage)).get? i).bind _ = _
  rw [Table.get?_insert]
  split <;> rfl

theorem offerTask?_finish (s : Session τ) (id i : Nat) :
    (s.finish id).offerTask? i = if i = id then none else s.offerTask? i := by
  unfold Session.offerTask?
  show ((s.tasks.erase id).get? i).bind _ = _
  rw [Table.get?_erase]
  split <;> rfl

theorem offerSlot_setOfferSlot (s : Session τ) (slot : Slot ConnectionSettings) :
    (s.setOfferSlot .management slot).offerSlot .management = slot := by
  unfold Session.offerSlot
  show ((s.offers.insert .management slot).get? .management).getD .idle = slot
  rw [Table.get?_insert, if_pos rfl]
  rfl

end Elsewhere

/-! ## What is kept -/

variable [Transport τ] [Carrier τ] [Switchable τ]

/-- There is at most one task for the management connection, and what it deals with has an
endpoint. -/
structure Managed (first : ConnectionSettings) (past : List ConnectionSettings) (s : Session τ)
    (id : Nat) (task : Option (ConnectionSettings × OfferStage)) : Prop where
  numbered : s.Numbered
  sound : Switchable.Sound s.transport
  accepted : s.accepted = past
  recorded : s.state.connection .management = some (past.getLastD first)
  filled : (past.getLastD first).endpoint ≠ ""
  only : ∀ i, s.offerTask? i = if i = id then task else none
  endpoint : ∀ settings stage, task = some (settings, stage) → settings.endpoint ≠ ""
  waiting : ∀ settings, (s.offerSlot .management).waiting? = some settings → settings.endpoint ≠ ""

structure Steady (first : ConnectionSettings) (past : List ConnectionSettings) (s : Session τ)
    (id : Nat) (task : Option (ConnectionSettings × OfferStage)) : Prop
    extends Managed first past s id task where
  idle : s.offerSlot .management = .idle → task = none
  requests : s.requests = [] ∨
    ∃ settings, task = some (settings, .requesting) ∧ s.requests = [⟨id, settings⟩]
  current : Switchable.current s.transport = some (used (past.getLastD first) task)

/-- The settings of the task are on trial. The last accepted ones were in use before, since the same
start. -/
structure OnTrial (first : ConnectionSettings) (past : List ConnectionSettings) (s : Session τ)
    (id : Nat) (settings : ConnectionSettings) : Prop
    extends Managed first past s id (some (settings, .requesting)) where
  busy : s.offerSlot .management ≠ .idle
  requests : s.requests = []
  current : Switchable.current s.transport = some settings
  before : ∃ t : τ, Switchable.Sound t ∧ Switchable.setup s.transport = Switchable.setup t ∧
    Switchable.current t = some (past.getLastD first)

section Frames
variable {s t : Session τ} {first : ConnectionSettings} {past : List ConnectionSettings} {id : Nat}
  {task : Option (ConnectionSettings × OfferStage)}

theorem Managed.frame (hs : Managed first past s id task) (h : Frame .elsewhere s t) :
    Managed first past t id task := by
  constructor
  · exact h.numbered hs.numbered
  · rw [h.transport]
    exact hs.sound
  · exact h.accepted.trans hs.accepted
  · rw [h.connection]
    exact hs.recorded
  · exact hs.filled
  · intro i
    rw [h.offerTask? hs.numbered]
    exact hs.only i
  · exact hs.endpoint
  · rw [h.offerSlot]
    exact hs.waiting

theorem Steady.frame (hs : Steady first past s id task) (h : Frame .elsewhere s t) :
    Steady first past t id task where
  toManaged := hs.toManaged.frame h
  idle := by
    rw [h.offerSlot]
    exact hs.idle
  requests := by
    rw [h.requests]
    exact hs.requests
  current := by
    rw [h.transport]
    exact hs.current

theorem OnTrial.frame {settings : ConnectionSettings} (hs : OnTrial first past s id settings)
    (h : Frame .elsewhere s t) : OnTrial first past t id settings where
  toManaged := hs.toManaged.frame h
  busy := by
    rw [h.offerSlot]
    exact hs.busy
  requests := h.requests.trans hs.requests
  current := by
    rw [h.transport]
    exact hs.current
  before := by
    rw [h.transport]
    exact hs.before

end Frames

/-! ## Tasks -/

section Task
variable {s t : Session τ} {first : ConnectionSettings} {past : List ConnectionSettings} {id : Nat}
  {task : Option (ConnectionSettings × OfferStage)} {settings : ConnectionSettings}
  {stage : OfferStage}

theorem Managed.emit (hs : Managed first past s id task) (e : Event) (he : e.accepted? = none) :
    Managed first past (s.emit e) id task := hs.frame (.emit s e he)

theorem Managed.setOfferSlot (hs : Managed first past s id task) (slot : Slot ConnectionSettings)
    (hw : ∀ settings, slot.waiting? = some settings → settings.endpoint ≠ "") :
    Managed first past (s.setOfferSlot .management slot) id task :=
  { hs with
    waiting := by
      rw [offerSlot_setOfferSlot]
      exact hw }

theorem Managed.get? (hs : Managed first past s id (some (settings, stage))) :
    s.tasks.get? id = some (.connection .management settings stage) := by
  refine offerTask?_eq_some.1 ?_
  rw [hs.only, if_pos rfl]

theorem Managed.eq_of_get? (hs : Managed first past s id task) {i : Nat}
    (h : s.tasks.get? i = some (.connection .management settings stage)) :
    i = id ∧ task = some (settings, stage) := by
  have ht := hs.only i
  rw [offerTask?_eq_some.2 h] at ht
  split at ht
  · next hi => exact ⟨hi, ht.symm⟩
  · cases ht

/-- The task goes on with settings that have an endpoint. -/
theorem Managed.setTask (hs : Managed first past s id (some (settings, stage)))
    (settings' : ConnectionSettings) (stage' : OfferStage) (he : settings'.endpoint ≠ "") :
    Managed first past (s.setTask id (.connection .management settings' stage')) id
      (some (settings', stage')) := by
  have hframe : Frame (.offer .management) s
      (s.setTask id (.connection .management settings' stage')) :=
    .setTask s id _ _ hs.get? rfl rfl
  refine { hs with numbered := hframe.numbered hs.numbered, only := fun i => ?_, endpoint := ?_ }
  · rw [offerTask?_setTask, hs.only i]
    split <;> rfl
  · intro x st hx
    obtain ⟨rfl, -⟩ := Prod.mk.inj (Option.some.inj hx)
    exact he

theorem Managed.finish (hs : Managed first past s id (some (settings, stage))) :
    Managed first past (s.finish id) id none := by
  have hframe : Frame (.offer .management) s (s.finish id) := .finish s id _ hs.get? rfl trivial
  have hm : Managed first past (s.emit (.finished id)) id (some (settings, stage)) := hs.emit _ rfl
  refine { hm with numbered := hframe.numbered hs.numbered, only := fun i => ?_, endpoint := nofun }
  rw [offerTask?_finish, hs.only i]
  split <;> rfl

/-- The task goes on with what waits, or ends. -/
theorem Managed.nextOffer (hs : Managed first past s id (some (settings, stage)))
    (hr : s.requests = []) (hc : Switchable.current s.transport = some (past.getLastD first)) :
    ∃ task', Open task' ∧ Steady first past (s.nextOffer id .management) id task' := by
  have ended (slot : Slot ConnectionSettings) (hw : slot.waiting? = none) :
      Steady first past ((s.setOfferSlot .management slot).finish id) id none := by
    have hm := (hs.setOfferSlot slot (by rw [hw]; nofun)).finish
    exact { hm with
      idle := fun _ => rfl
      requests := .inl hr
      current := hc }
  unfold Session.nextOffer
  split
  · exact ⟨none, nofun, { hs.finish with
      idle := fun _ => rfl
      requests := .inl hr
      current := hc }⟩
  · cases hslot : s.offerSlot .management with
    | idle => exact ⟨none, nofun, ended .idle rfl⟩
    | running c => exact ⟨none, nofun, ended .idle rfl⟩
    | runningThen c next =>
      have he : next.endpoint ≠ "" := hs.waiting next (by rw [hslot]; rfl)
      show ∃ task', Open task' ∧ Steady first past (if s.state.isSettled .management next = true
        then (s.setOfferSlot .management .idle).finish id
        else (s.setOfferSlot .management (.running next)).askOffer id .management next) id task'
      split
      · exact ⟨none, nofun, ended .idle rfl⟩
      · have hm := ((hs.setOfferSlot (.running next) nofun).setTask next .asking he).emit
          (.called (.task id) (.useConnection .management next)) rfl
        have hrun := offerSlot_setOfferSlot s (.running next)
        exact ⟨some (next, .asking), nofun, { hm with
          idle := fun hi => absurd (hrun.symm.trans hi) nofun
          requests := .inl hr
          current := hc }⟩

theorem Managed.rejectOffer (hs : Managed first past s id (some (settings, stage)))
    (hr : s.requests = []) (hc : Switchable.current s.transport = some (past.getLastD first))
    (error : String) :
    ∃ task', Open task' ∧
      Steady first past (s.rejectOffer id .management settings error) id task' := by
  have h : Frame .elsewhere s (s.update fun state =>
      ((state.resolveOffer .management settings).recordConnectionStatus
        { kind := .management, verdict := .rejected, error }).notify) := by
    refine .update s _ (.trans (.resolveOffer _ _ _ ?_) (.trans (.recordConnectionStatus _ _ ?_)
      (.notify _ ?_))) rfl
    all_goals simp [Scope.elsewhere]
  refine (hs.frame h).nextOffer (h.requests.trans hr) ?_
  rw [h.transport]
  exact hc

theorem Managed.record (hs : Managed first past s id (some (settings, stage))) :
    Managed first (past ++ [settings]) (s.record settings) id (some (settings, stage)) := by
  have he := hs.endpoint settings stage rfl
  have htasks : (s.record settings).tasks = s.tasks := tasks_update s _
  have hslot : (s.record settings).offerSlot .management = s.offerSlot .management :=
    congrArg (fun offers => (offers.get? .management).getD .idle) (offers_update s _)
  constructor
  · intro i x hx
    rw [htasks] at hx
    show i < (s.update _).nextTask
    rw [nextTask_update]
    exact hs.numbered i x hx
  · show Switchable.Sound (s.update _).transport
    rw [transport_update]
    exact hs.sound
  · rw [accepted_record, hs.accepted]
  · rw [List.getLastD_concat]
    show (s.update _).state.connection .management = _
    rw [state_update]
    show (s.state.connections.current.insert .management settings).get? .management = _
    rw [Table.get?_insert, if_pos rfl]
  · rw [List.getLastD_concat]
    exact he
  · intro i
    refine Eq.trans ?_ (hs.only i)
    unfold Session.offerTask?
    rw [htasks]
  · exact hs.endpoint
  · rw [hslot]
    exact hs.waiting

/-- Settings that have proved themselves are recorded, and are the last accepted ones then. -/
theorem Steady.acceptOffer (hs : Steady first past s id (some (settings, .replied (.ok ())))) :
    ∃ task', Open task' ∧
      Steady first (past ++ [settings]) (s.acceptOffer id .management settings) id task' := by
  have hr : s.requests = [] := by
    rcases hs.requests with hr | ⟨x, hx, -⟩
    · exact hr
    · cases hx
  have hm := hs.toManaged.record
  have h : Frame .elsewhere (s.record settings) ((s.record settings).update fun state =>
      (state.recordConnectionStatus { kind := .management, verdict := .accepted }).notify) := by
    refine .update _ _ (.trans (.recordConnectionStatus _ _ ?_) (.notify _ ?_)) rfl
    all_goals simp [Scope.elsewhere]
  refine (hm.frame h).nextOffer (h.requests.trans ?_) ?_
  · exact (requests_update s _).trans hr
  · rw [h.transport, List.getLastD_concat]
    exact (congrArg Switchable.current (transport_update s _)).trans hs.current

theorem Steady.requests_eq_nil (hs : Steady first past s id task)
    (h : ∀ settings, task ≠ some (settings, .requesting)) : s.requests = [] := by
  rcases hs.requests with hr | ⟨settings, hx, -⟩
  · exact hr
  · exact absurd hx (h settings)

/-- The loop is asked to try the settings, if there is a loop. -/
theorem Steady.reconnect (hs : Steady first past s id (some (settings, stage)))
    (hr : s.requests = [])
    (hc : Switchable.current s.transport = some (past.getLastD first)) :
    ∃ task', Open task' ∧ Steady first past (s.reconnect id .management settings) id task' := by
  unfold Session.reconnect
  split
  · exact hs.toManaged.rejectOffer hr hc _
  · have hm := hs.setTask settings .requesting (hs.endpoint settings stage rfl)
    have hbusy : s.offerSlot .management = .idle → some (settings, OfferStage.requesting) = none :=
      fun hi => absurd (hs.idle hi) nofun
    unfold Session.request
    rw [show (s.setTask id (.connection .management settings .requesting)).requests = [] from hr]
    dsimp only
    split
    · exact ⟨some (settings, .requesting), nofun, { hm.emit (.ready .loop) rfl with
        idle := hbusy
        requests := .inr ⟨settings, rfl, rfl⟩
        current := hc }⟩
    · exact ⟨some (settings, .requesting), nofun, { hm with
        idle := hbusy
        requests := .inr ⟨settings, rfl, rfl⟩
        current := hc }⟩

/-- A task for the management connection goes on. It accepts its settings if they have proved
themselves, and else nothing. -/
theorem Steady.runOffer (hs : Steady first past s id (some (settings, stage))) (input : Input) :
    (stage = .replied (.ok ()) ∧ ∃ task', Open task' ∧ Steady first (past ++ [settings])
        (s.runOffer id .management settings stage input) id task') ∨
      ∃ task', (task' = some (settings, stage) ∨ Open task') ∧
        Steady first past (s.runOffer id .management settings stage input) id task' := by
  have go {t : Session τ} (h : ∃ task', Open task' ∧ Steady first past t id task') :
      ∃ task', (task' = some (settings, stage) ∨ Open task') ∧ Steady first past t id task' := by
    obtain ⟨task', ho, h⟩ := h
    exact ⟨task', .inr ho, h⟩
  unfold Session.runOffer
  split
  · have hr := hs.requests_eq_nil nofun
    refine .inr (go ?_)
    unfold startOffer
    split
    · exact hs.toManaged.nextOffer hr hs.current
    · have hm := (hs.setTask settings .asking (hs.endpoint settings _ rfl)).emit
        (.called (.task id) (.useConnection .management settings)) rfl
      exact ⟨some (settings, .asking), nofun, { hm with
        idle := fun hi => absurd (hs.idle hi) nofun
        requests := .inl hr
        current := hs.current }⟩
  · next r =>
    have hr := hs.requests_eq_nil nofun
    refine .inr (go ?_)
    unfold offerAnswered
    split
    · rw [if_pos rfl]
      exact hs.reconnect hr hs.current
    · exact hs.toManaged.nextOffer hr hs.current
    · exact hs.toManaged.rejectOffer hr hs.current _
  · next r =>
    have hr := hs.requests_eq_nil nofun
    unfold reconnected
    split
    · exact .inl ⟨rfl, hs.acceptOffer⟩
    · exact .inr (go (hs.toManaged.nextOffer hr hs.current))
    · exact .inr (go (hs.toManaged.rejectOffer hr hs.current _))
  · exact .inr ⟨_, .inl rfl, hs⟩

end Task

/-! ## Offers -/

section Offer
variable {s t : Session τ} {first : ConnectionSettings} {past : List ConnectionSettings} {id : Nat}
  {task : Option (ConnectionSettings × OfferStage)}

/-- A task starts where there is none. -/
theorem Managed.spawn (hs : Managed first past s id none) {settings : ConnectionSettings}
    (he : settings.endpoint ≠ "") :
    Managed first past (s.spawn (.connection .management settings .fresh)) s.nextTask
      (some (settings, .fresh)) := by
  have hframe : Frame (.offer .management) s
      (s.spawn (.connection .management settings .fresh)) := .spawn s _ rfl trivial
  have hm : Managed first past (s.emit (.ready (.task s.nextTask))) id none := hs.emit _ rfl
  refine { hm with numbered := hframe.numbered hs.numbered, only := fun i => ?_, endpoint := ?_ }
  · show (s.setTask s.nextTask (.connection .management settings .fresh)).offerTask? i = _
    rw [offerTask?_setTask, hs.only i, ite_self]
  · intro x st hx
    obtain ⟨rfl, -⟩ := Prod.mk.inj (Option.some.inj hx)
    exact he

/-- Settings are offered; those without an endpoint get the one in use. -/
theorem Managed.endpoint_complete (hs : Managed first past s id task)
    (settings : ConnectionSettings) :
    (s.state.connections.complete .management settings).endpoint ≠ "" := by
  have hrec : s.state.connections.current.get? .management = some (past.getLastD first) :=
    hs.recorded
  unfold Connections.complete
  rw [hrec]
  dsimp only
  split
  · exact hs.filled
  · next h => exact h

/-- An offer starts a task if there is none, and waits for its turn otherwise. -/
theorem Steady.dispatchOffer (hs : Steady first past s id task) (settings : ConnectionSettings) :
    ∃ id' task', (task' = task ∧ id' = id ∨ Open task') ∧
      Steady first past (s.dispatchOffer .management settings) id' task' := by
  have he := hs.endpoint_complete settings
  unfold Session.dispatchOffer
  dsimp only
  generalize s.state.connections.complete .management settings = x at he
  have busy (slot : Slot ConnectionSettings) (hi : slot ≠ .idle)
      (hw : ∀ y, slot.waiting? = some y → y.endpoint ≠ "") :
      ∃ id' task', (task' = task ∧ id' = id ∨ Open task') ∧
        Steady first past (s.setOfferSlot .management slot) id' task' := by
    have hset := offerSlot_setOfferSlot s slot
    exact ⟨id, task, .inl ⟨rfl, rfl⟩, { hs with
      toManaged := hs.toManaged.setOfferSlot slot hw
      idle := fun h => absurd (hset.symm.trans h) hi }⟩
  split
  · exact ⟨id, task, .inl ⟨rfl, rfl⟩, hs⟩
  · cases hc : (s.offerSlot .management).current? with
    | none =>
      obtain rfl : task = none := hs.idle (Slot.current?_eq_none.1 hc)
      rw [Slot.offer_idle hc]
      dsimp only
      refine ⟨s.nextTask, some (x, .fresh), .inr nofun, ?_⟩
      have hm := (hs.toManaged.setOfferSlot (.running x) nofun).spawn he
      exact { hm with
        idle := fun hi => absurd ((offerSlot_setOfferSlot s (.running x)).symm.trans hi) nofun
        requests := .inl (hs.requests_eq_nil nofun)
        current := hs.current }
    | some c =>
      rw [Slot.offer_busy hc]
      dsimp only
      split
      · exact busy _ nofun nofun
      · exact busy _ nofun fun y hy => (Option.some.inj hy) ▸ he

end Offer

end Session

end ManagedAgent
