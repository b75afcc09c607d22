import ManagedAgent.Proofs.Session.NewestConfig
import ManagedAgent.Proofs.Session.OfferRuns

/-!
# What comes in again and again

A part of an instruction that comes in again and again asks for the same payload each time. The
lane of the part is where the payload is dealt with: its slot, its tasks, and what the state says
about it. `Lane.Once` says that the agent is called for the payload once at most, and that the
payload is settled when the task for it is over.

* `once_dispatchRemoteConfig`, `once_dispatchOffer`, `once_dispatchPackages` : the payload comes in;
* `once_runConfig`, `once_runOffer`, `once_runPackages` : the task for it goes on.
-/

set_option autoImplicit false

namespace ManagedAgent

/-! ## One lane -/

/-- Where the payloads of one sort are dealt with. -/
structure Lane (α : Type) where
  /-- The payload of a task, and whether the agent has been called for it. -/
  task? : Nat → Option (α × Bool)
  isFree : Prop
  /-- The payload is the only one that is being dealt with. -/
  isHeld : α → Prop
  /-- There is nothing to do for the payload. -/
  isSettled : α → Prop

namespace Lane
variable {α : Type}

/-- The payload has not come in, or a task deals with it, or it is settled; the agent was called for
it `n` times. -/
inductive Once (l : Lane α) (payload? : Option α) (isRouted : Prop) : Nat → Prop
  | idle (hr : isRouted → payload? = none) (hf : l.isFree) (ht : ∀ i, l.task? i = none) :
    Once l payload? isRouted 0
  | busy (id : Nat) (p : α) (isBegun : Bool) (hp : payload? = some p) (hh : l.isHeld p)
      (ht : ∀ i, l.task? i = if i = id then some (p, isBegun) else none) :
    Once l payload? isRouted isBegun.toNat
  | done (n : Nat) (p : α) (hp : payload? = some p) (hs : l.isSettled p)
      (ht : ∀ i, l.task? i = none) (hn : n ≤ 1) : Once l payload? isRouted n

namespace Once
variable {l m : Lane α} {payload? : Option α} {isRouted isRouted' : Prop} {n : Nat}

theorem le_one (h : l.Once payload? isRouted n) : n ≤ 1 := by
  cases h with
  | idle => exact Nat.zero_le 1
  | busy _ _ isBegun => exact Bool.toNat_le isBegun
  | done _ _ _ _ _ hn => exact hn

/-- When no task is left, what has come in is settled. -/
theorem isSettled (h : l.Once payload? isRouted n) (hr : isRouted) (ht : ∀ i, l.task? i = none)
    {p : α} (hp : payload? = some p) : l.isSettled p := by
  cases h with
  | idle hnone =>
    rw [hnone hr] at hp
    contradiction
  | busy id q b _ _ hb =>
    have hid := hb id
    rw [ht id, if_pos rfl] at hid
    contradiction
  | done _ q hq hs =>
    obtain rfl := Option.some.inj (hq.symm.trans hp)
    exact hs

/-- A task is the only one, and deals with what has come in. -/
theorem only (h : l.Once payload? isRouted n) {id : Nat} {x : α × Bool} (hx : l.task? id = some x) :
    payload? = some x.1 ∧ l.isHeld x.1 ∧ n = x.2.toNat ∧
      ∀ i, l.task? i = if i = id then some x else none := by
  cases h with
  | idle _ _ ht =>
    rw [ht] at hx
    contradiction
  | busy i p b hp hh ht =>
    rw [ht] at hx
    split at hx
    · next hi =>
      subst hi
      obtain rfl : (p, b) = x := Option.some.inj hx
      exact ⟨hp, hh, rfl, ht⟩
    · contradiction
  | done _ _ _ _ ht =>
    rw [ht] at hx
    contradiction

theorem congr (h : l.Once payload? isRouted n) (ht : ∀ i, m.task? i = l.task? i)
    (hf : l.isFree → m.isFree) (hh : ∀ p, payload? = some p → l.isHeld p → m.isHeld p)
    (hs : ∀ p, payload? = some p → l.isSettled p → m.isSettled p) :
    m.Once payload? isRouted n := by
  have ht : m.task? = l.task? := funext ht
  cases h with
  | idle hr hfree hn => exact .idle hr (hf hfree) fun i => ht ▸ hn i
  | busy id p b hp hheld hone => exact .busy id p b hp (hh p hp hheld) fun i => ht ▸ hone i
  | done _ p hp hset hn hle => exact .done n p hp (hs p hp hset) (fun i => ht ▸ hn i) hle

/-- It matters whether the payload has come in only if it can come in at all. -/
theorem mono (h : l.Once payload? isRouted n) (hr : payload? ≠ none → isRouted' → isRouted) :
    l.Once payload? isRouted' n := by
  cases h with
  | idle hnone hf ht =>
    exact .idle (fun h => Classical.byContradiction fun hp => hp (hnone (hr hp h))) hf ht
  | busy id p b hp hh ht => exact .busy id p b hp hh ht
  | done _ p hp hs ht hn => exact .done n p hp hs ht hn

end Once

end Lane

/-! ## The lanes of a session -/

/-- The status that is being saved settles the configuration. -/
def ConfigStage.Settles (config : RemoteConfig) : ConfigStage → Prop
  | .saving status => status.hash = config.hash ∧ status.state ≠ .unset
  | _ => True

theorem ConfigStage.IsLater.settles {config : RemoteConfig} {stage : ConfigStage}
    (h : stage.IsLater config) : stage.Settles config ∧ stage.isBegun = true := by
  cases stage with
  | saving status => exact ⟨h, rfl⟩
  | queueing | reading => exact ⟨trivial, rfl⟩
  | fresh | applying => exact False.elim h

def CallStage.isBegun : CallStage → Bool
  | .fresh => false
  | .calling => true

/-- The packages that a task deals with, and whether the agent has been called. -/
def Task.packagesRun? : Task → Option (PackagesAvailable × Bool)
  | .packages offered stage => some (offered, stage.isBegun)
  | _ => none

def ConnectionOffers.get? (o : ConnectionOffers) : ConnectionKind → Option ConnectionSettings
  | .management => o.management
  | .telemetry .metrics => o.metrics
  | .telemetry .traces => o.traces
  | .telemetry .logs => o.logs
  | .other name => o.others.get? name

theorem ConnectionOffers.mem_toList {o : ConnectionOffers} {kind : ConnectionKind}
    {settings : ConnectionSettings} :
    (kind, settings) ∈ o.toList ↔ o.get? kind = some settings := by
  unfold toList get?
  cases kind with
  | management => simp
  | telemetry t => cases t <;> simp
  | other name => simp [NameMap.mem_entries]

namespace Session
variable {τ : Type} {s t : Session τ} {id : Nat} {kind : ConnectionKind}

def configLane (s : Session τ) : Lane RemoteConfig where
  task? := s.view Task.configRun?
  isFree := s.remoteConfig = .idle
  isHeld config := s.remoteConfig = .running config ∧
    ∀ id stage, s.tasks.get? id = some (.remoteConfig config stage) → stage.Settles config
  isSettled config := s.state.isHandled config = true

def offerLane (s : Session τ) (kind : ConnectionKind) : Lane ConnectionSettings where
  task? := s.view (Task.offerRun? kind)
  isFree := s.offerSlot kind = .idle
  isHeld settings := s.offerSlot kind = .running settings
  isSettled settings := s.state.isSettled kind settings = true

def packagesLane (s : Session τ) : Lane PackagesAvailable where
  task? := s.view Task.packagesRun?
  isFree := True
  isHeld packages := s.state.packages.isKnown packages.allHash = true
  isSettled packages := s.state.packages.isKnown packages.allHash = true

section Kept
variable {isRouted : Prop} {n : Nat}

theorem configRun?_eq (x : Task) : x.configRun? = x.config?.map fun r => (r.1, r.2.isBegun) := by
  cases x with
  | _ => rfl

/-- A step that does not concern offered configurations. -/
theorem once_config_of_view {config? : Option RemoteConfig}
    (h : s.configLane.Once config? isRouted n) (hslot : t.remoteConfig = s.remoteConfig)
    (hstatus : t.state.remoteConfigStatus = s.state.remoteConfigStatus)
    (hv : ∀ i, t.view Task.config? i = s.view Task.config? i) :
    t.configLane.Once config? isRouted n := by
  have run (u : Session τ) (i : Nat) : u.view Task.configRun? i =
      (u.view Task.config? i).map fun r => (r.1, r.2.isBegun) := by
    unfold view
    rw [Option.map_bind]
    exact congrArg _ (funext configRun?_eq)
  refine h.congr (fun i => ?_) (fun h => hslot.trans h) (fun config _ hh => ?_)
    fun config _ hs => ?_
  · exact (run t i).trans ((congrArg _ (hv i)).trans (run s i).symm)
  · exact ⟨hslot.trans hh.1, fun id stage htask => hh.2 id stage (configTask?_eq_some.1
      ((hv id).symm.trans (configTask?_eq_some.2 htask)))⟩
  · exact (isHandled_of_status hstatus config).trans hs

theorem isSettled_of_frame {S : Scope} (hf : Frame S s t)
    (hcur : ¬ S.may (.state (.current kind))) (hres : ¬ S.may (.state (.resolved kind)))
    (settings : ConnectionSettings) :
    t.state.isSettled kind settings = s.state.isSettled kind settings := by
  have hcur : t.state.connections.current.get? kind = s.state.connections.current.get? kind :=
    hf.same (.state (.current kind)) hcur
  have hres : t.state.connections.resolved.get? kind = s.state.connections.resolved.get? kind :=
    hf.same (.state (.resolved kind)) hres
  unfold State.isSettled Connections.isSettled
  rw [hcur, hres]

/-- A step that does not concern offers of the kind. -/
theorem once_offer_of_view {settings? : Option ConnectionSettings}
    (h : (s.offerLane kind).Once settings? isRouted n) (hslot : t.offerSlot kind = s.offerSlot kind)
    (hset : ∀ c, t.state.isSettled kind c = s.state.isSettled kind c)
    (hv : ∀ i, t.view (Task.offerRun? kind) i = s.view (Task.offerRun? kind) i) :
    (t.offerLane kind).Once settings? isRouted n :=
  h.congr hv (fun h => hslot.trans h) (fun _ _ h => hslot.trans h) fun c _ hs => (hset c).trans hs

/-- A step that does not concern offered packages. -/
theorem once_packages_of_view {packages? : Option PackagesAvailable}
    (h : s.packagesLane.Once packages? isRouted n)
    (hknown : ∀ p, packages? = some p → s.state.packages.isKnown p.allHash = true →
      t.state.packages.isKnown p.allHash = true)
    (hv : ∀ i, t.view Task.packagesRun? i = s.view Task.packagesRun? i) :
    t.packagesLane.Once packages? isRouted n := h.congr hv (fun h => h) hknown hknown

end Kept

/-! ## Offered configurations -/

section Config
variable {config : RemoteConfig} {isRouted : Prop} {n : Nat}

theorem once_dispatchRemoteConfig (h : s.configLane.Once (some config.withHash) isRouted n)
    (isRouted' : Prop) :
    (s.dispatchRemoteConfig config).configLane.Once (some config.withHash) isRouted' n := by
  unfold dispatchRemoteConfig
  dsimp only
  split
  · next hs =>
    cases h with
    | idle _ _ ht => exact .done 0 _ rfl hs ht (Nat.zero_le 1)
    | busy id p b hp hh ht => exact .busy id p b hp hh ht
    | done _ p hp hset ht hle => exact .done n p hp hset ht hle
  · next hs =>
    cases h with
    | idle _ hf ht =>
      have hslot : s.remoteConfig.current? = none := Slot.current?_eq_none.2 hf
      rw [Slot.offer_idle hslot]
      refine .busy s.nextTask config.withHash false rfl ⟨rfl, fun id stage htask => ?_⟩ fun i => ?_
      · have htask : (s.tasks.insert s.nextTask (.remoteConfig config.withHash .fresh)).get? id =
          some (.remoteConfig config.withHash stage) := htask
        rw [Table.get?_insert] at htask
        split at htask
        · cases htask
          trivial
        · have hnone := ht id
          rw [show s.configLane.task? id = _ from view_configRun htask] at hnone
          contradiction
      · refine (view_spawn _ _ i).trans ?_
        split
        · rfl
        · exact ht i
    | busy id p b hp hh ht =>
      obtain rfl := Option.some.inj hp
      have hslot : s.remoteConfig.current? = some config.withHash := by
        rw [hh.1]
        rfl
      rw [Slot.offer_busy hslot, if_pos rfl]
      exact .busy id _ b rfl ⟨rfl, hh.2⟩ ht
    | done _ p hp hset =>
      obtain rfl := Option.some.inj hp
      exact absurd hset hs

variable (isRouted) in
/-- The task is over, since nothing else waits. -/
theorem once_nextConfig {b : Bool} (hslot : s.remoteConfig = .running config)
    (hs : s.state.isHandled config = true)
    (ht : ∀ i, s.view Task.configRun? i = if i = id then some (config, b) else none) (hn : n ≤ 1) :
    (s.nextConfig id).configLane.Once (some config) isRouted n ∧
      (s.nextConfig id).begun .remoteConfig = s.begun .remoteConfig := by
  have finish (u : Session τ) (hu : u.tasks = s.tasks) (hstate : u.state = s.state)
      (hcalls : u.calls = s.calls) : (u.finish id).configLane.Once (some config) isRouted n ∧
        (u.finish id).begun .remoteConfig = s.begun .remoteConfig := by
    refine ⟨.done n config rfl ?_ (fun i => ?_) hn,
      begun_of_calls ((calls_emit _ rfl).trans hcalls)⟩
    · show u.state.isHandled config = true
      rw [hstate]
      exact hs
    · refine (view_finish u id i).trans ?_
      rw [view_of_tasks hu, ht]
      split <;> rfl
  rcases s.nextConfig_cases id with ⟨-, heq⟩ | ⟨-, slot, next, hr, heq⟩
  · rw [heq]
    exact finish s rfl rfl rfl
  · rw [hslot] at hr
    rw [heq]
    cases hr with
    | empty => exact finish { s with remoteConfig := .idle } rfl rfl rfl
    | drop _ hw => contradiction
    | take _ hw => contradiction

/-- The task comes to another stage. -/
theorem once_config_goOn {b : Bool} {new : ConfigStage} (hslot : t.remoteConfig = .running config)
    (htasks : t.tasks = s.tasks.insert id (.remoteConfig config new))
    (ht : ∀ i, s.view Task.configRun? i = if i = id then some (config, b) else none)
    (hnew : new.Settles config) (hb : new.isBegun = true) :
    t.configLane.Once (some config) isRouted 1 := by
  refine .busy id config true rfl ⟨hslot, fun i stage htask => ?_⟩ fun i => ?_
  · rw [htasks, Table.get?_insert] at htask
    split at htask
    · cases htask
      exact hnew
    · next hi =>
      have hone := view_configRun htask
      rw [ht, if_neg hi] at hone
      contradiction
  · refine ((view_of_tasks htasks i).trans (view_setTask s id _ i)).trans ?_
    rw [ht, ← hb]
    split <;> rfl

/-- The task goes on; the agent is called when it begins. -/
theorem once_runConfig {config? : Option RemoteConfig} {stage : ConfigStage}
    (h : s.configLane.Once config? isRouted n)
    (hx : s.tasks.get? id = some (.remoteConfig config stage)) {input : Input}
    (hi : input ≠ .answered (.applied (.error .cancelled))) :
    ∃ k, ((s.runConfig id config stage input).begun .remoteConfig).length =
        (s.begun .remoteConfig).length + k ∧
      (s.runConfig id config stage input).configLane.Once config? isRouted (n + k) := by
  obtain ⟨rfl, ⟨hslot, hstages⟩, rfl, ht⟩ := h.only (view_configRun hx)
  have hle := Bool.toNat_le stage.isBegun
  have hrun := runConfig_cases hx input
  have hturn := turn_runConfig hx input
  generalize s.runConfig id config stage input = t at hrun hturn
  cases hrun with
  | stay => exact ⟨0, rfl, h⟩
  | skip _ hs =>
    obtain ⟨honce, hb⟩ := once_nextConfig isRouted hslot hs ht hle
    exact ⟨0, congrArg List.length hb, honce⟩
  | ask hf =>
    subst hf
    refine ⟨1, ?_, once_config_goOn hslot rfl ht trivial rfl⟩
    have hb := begun_call (s.setTask id (.remoteConfig config .applying)) (.task id)
      (.applyRemoteConfig config)
    exact (congrArg List.length hb).trans List.length_append
  | cancel _ hc => exact absurd hc hi
  | move t new hf hl htasks hu =>
    have hbegun : stage.isBegun = true := by
      cases stage with
      | fresh => exact absurd rfl hf
      | _ => rfl
    have hsame : t.remoteConfig = s.remoteConfig :=
      hu.same .remoteConfig (by simp [Scope.heeding])
    rw [hbegun]
    refine ⟨0, congrArg List.length (begun_of_turn hturn fun c hc => ?_),
      once_config_goOn (hsame.trans hslot) htasks ht hl.settles.1 hl.settles.2⟩
    have hnew : t.tasks.get? id = some (.remoteConfig config new) := by
      rw [htasks, Table.get?_insert, if_pos rfl]
    have hc : (Task.remoteConfig config new).call? = some c := (view_of_get? hnew).symm.trans hc
    cases new with
    | fresh | applying => exact False.elim hl
    | queueing => contradiction
    | _ =>
      obtain rfl := Option.some.inj hc
      exact fun h => by cases h
  | save status hf =>
    subst hf
    obtain ⟨hhash, hstate⟩ := hstages id _ hx
    let f (state : State) : State := (state.setRemoteConfigStatus status).notify
    have hs : (s.update f).state.isHandled config = true := by
      rw [state_update]
      exact isHandled_iff.2 ⟨status, rfl, hstate, hhash⟩
    obtain ⟨honce, hb⟩ := once_nextConfig isRouted
      ((remoteConfig_update s f).trans hslot) hs
      (fun i => (view_of_tasks (tasks_update s f) i).trans (ht i)) hle
    exact ⟨0, congrArg List.length (hb.trans (begun_of_calls (Calm.update s f).calls)), honce⟩

end Config

/-! ## Offered connection settings -/

section Offer
variable {settings : ConnectionSettings} {isRouted : Prop} {n : Nat}

/-- An offer means the same as long as the settings in use are the same, or are what it means. -/
theorem complete_of_connection {offered : ConnectionSettings}
    (h : t.state.connection kind = s.state.connection kind ∨
      t.state.connection kind = some (s.state.connections.complete kind offered)) :
    t.state.connections.complete kind offered = s.state.connections.complete kind offered := by
  unfold State.connection at h
  rcases h with h | h
  · unfold Connections.complete
    rw [h]
  · rw [Connections.complete, h]
    dsimp only
    split
    · next he =>
      unfold Connections.complete
      split
      · rw [if_pos he]
      · rfl
    · next he =>
      unfold Connections.complete
      split
      · rw [if_neg he]
      · rfl

theorem once_dispatchOffer {offered : ConnectionSettings}
    (h : (s.offerLane kind).Once (some settings) isRouted n)
    (hp : s.state.connections.complete kind offered = settings) (isRouted' : Prop) :
    ((s.dispatchOffer kind offered).offerLane kind).Once (some settings) isRouted' n := by
  subst hp
  unfold dispatchOffer
  dsimp only
  generalize s.state.connections.complete kind offered = c at h ⊢
  split
  · next hs =>
    cases h with
    | idle _ _ ht => exact .done 0 c rfl hs ht (Nat.zero_le 1)
    | busy id p b hp hh ht => exact .busy id p b hp hh ht
    | done _ p hp hset ht hle => exact .done n p hp hset ht hle
  · next hs =>
    cases h with
    | idle _ hf ht =>
      have hslot : (s.offerSlot kind).current? = none := Slot.current?_eq_none.2 hf
      rw [Slot.offer_idle hslot]
      refine .busy s.nextTask c false rfl (offerSlot_setOfferSlot_self s kind _) fun i => ?_
      refine (view_spawn _ _ i).trans ?_
      rw [offerRun?_self]
      exact ite_congr rfl (fun _ => rfl) fun _ => ht i
    | busy id p b hp hh ht =>
      obtain rfl := Option.some.inj hp
      have hslot : (s.offerSlot kind).current? = some c := by
        rw [show s.offerSlot kind = .running c from hh]
        rfl
      rw [Slot.offer_busy hslot, if_pos rfl]
      exact .busy id c b rfl (offerSlot_setOfferSlot_self s kind _) ht
    | done _ p hp hset =>
      obtain rfl := Option.some.inj hp
      exact absurd hset hs

variable (isRouted) in
/-- The task is over, since nothing else waits. -/
theorem once_nextOffer {b : Bool} (hslot : s.offerSlot kind = .running settings)
    (hs : s.state.isSettled kind settings = true)
    (ht : ∀ i, s.view (Task.offerRun? kind) i = if i = id then some (settings, b) else none)
    (hn : n ≤ 1) :
    ((s.nextOffer id kind).offerLane kind).Once (some settings) isRouted n ∧
      (s.nextOffer id kind).begun (.connection kind) = s.begun (.connection kind) := by
  have finish (u : Session τ) (hu : u.tasks = s.tasks) (hstate : u.state = s.state)
      (hcalls : u.calls = s.calls) :
      ((u.finish id).offerLane kind).Once (some settings) isRouted n ∧
        (u.finish id).begun (.connection kind) = s.begun (.connection kind) := by
    refine ⟨.done n settings rfl ?_ (fun i => ?_) hn,
      begun_of_calls ((calls_emit _ rfl).trans hcalls)⟩
    · show u.state.isSettled kind settings = true
      rw [hstate]
      exact hs
    · refine (view_finish u id i).trans ?_
      rw [view_of_tasks hu, ht]
      split <;> rfl
  rcases s.nextOffer_cases id kind with ⟨-, heq⟩ | ⟨-, slot, next, hr, heq⟩
  · rw [heq]
    exact finish s rfl rfl rfl
  · rw [hslot] at hr
    rw [heq]
    cases hr with
    | empty => exact finish (s.setOfferSlot kind .idle) rfl rfl rfl
    | drop _ hw => contradiction
    | take _ hw => contradiction

theorem isSettled_conclude (s : Session τ) (kind : ConnectionKind) (settings : ConnectionSettings)
    {e : OfferEnd} (he : e ≠ .cancelled) :
    (s.conclude kind settings e).state.isSettled kind settings = true := by
  have resolved (state : State) :
      (state.resolveOffer kind settings).isSettled kind settings = true := by
    unfold State.isSettled Connections.isSettled
    rw [show (state.resolveOffer kind settings).connections.resolved.get? kind = some settings from
      (Table.get?_insert ..).trans (if_pos rfl), beq_self_eq_true, Bool.or_true]
  cases e with
  | accepted =>
    refine (congrArg (State.isSettled · kind settings) (state_update _ _)).trans ?_
    show (s.update _).state.isSettled kind settings = true
    rw [state_update]
    exact resolved _
  | rejected error =>
    refine (congrArg (State.isSettled · kind settings) (state_update _ _)).trans ?_
    exact resolved s.state
  | cancelled => exact absurd rfl he

theorem once_runOffer {settings? : Option ConnectionSettings} {stage : OfferStage}
    (h : (s.offerLane kind).Once settings? isRouted n)
    (hx : s.tasks.get? id = some (.connection kind settings stage)) {input : Input}
    (hi : ∀ e, stage.end? kind s.loop input = some e → e ≠ .cancelled) :
    ∃ k, ((s.runOffer id kind settings stage input).begun (.connection kind)).length =
        (s.begun (.connection kind)).length + k ∧
      ((s.runOffer id kind settings stage input).offerLane kind).Once settings? isRouted (n + k) := by
  obtain ⟨rfl, hslot, rfl, ht⟩ := h.only (view_offerRun hx)
  have hslot : s.offerSlot kind = .running settings := hslot
  have hle := Bool.toNat_le stage.isBegun
  -- The task comes to another stage.
  have goOn (new : OfferStage) (hb : new.isBegun = true) (i : Nat) :
      (s.setTask id (.connection kind settings new)).view (Task.offerRun? kind) i =
        if i = id then some (settings, true) else none := by
    rw [view_setTask_offer, hb]
    split
    · rfl
    · next hne => exact (ht i).trans (if_neg hne)
  have hrun := runOffer_cases s id kind settings stage input
  generalize s.runOffer id kind settings stage input = t at hrun
  cases hrun with
  | stay => exact ⟨0, rfl, h⟩
  | skip _ hs =>
    obtain ⟨honce, hb⟩ := once_nextOffer isRouted hslot hs ht hle
    exact ⟨0, congrArg List.length hb, honce⟩
  | ask hf =>
    subst hf
    refine ⟨1, ?_, .busy id settings true rfl hslot (goOn .asking rfl)⟩
    have hb := begun_call (s.setTask id (.connection kind settings .asking)) (.task id)
      (.useConnection kind settings)
    exact (congrArg List.length hb).trans List.length_append
  | request hf =>
    subst hf
    refine ⟨0, congrArg List.length (begun_of_calls (Calm.request _ _).calls), ?_⟩
    have hone := goOn .requesting rfl
    rcases request_eq (s.setTask id (.connection kind settings .requesting)) ⟨id, settings⟩ with
      heq | heq
    · rw [heq]
      exact .busy id settings true rfl hslot hone
    · rw [heq]
      exact .busy id settings true rfl hslot hone
  | conclude e he =>
    have hframe := frame_conclude s kind settings e
    have htasks := tasks_conclude s kind settings e
    obtain ⟨honce, hb⟩ := once_nextOffer isRouted
      ((hframe.offerSlot_of (by simp [Scope.concluding])).trans hslot)
      (isSettled_conclude s kind settings (hi e he))
      (fun i => (view_of_tasks htasks i).trans (ht i)) hle
    refine ⟨0, congrArg List.length (hb.trans (begun_of_calls ?_)), honce⟩
    refine hframe.filterMap_history fun x hlogs => ?_
    cases x with
    | called => exact False.elim hlogs
    | _ => rfl

/-- A task changes the settings in use to those that it deals with, if at all. -/
theorem connection_runOffer (s : Session τ) (id : Nat) (kind : ConnectionKind)
    (settings : ConnectionSettings) (stage : OfferStage) (input : Input) :
    (s.runOffer id kind settings stage input).state.connection kind = s.state.connection kind ∨
      (s.runOffer id kind settings stage input).state.connection kind = some settings := by
  rw [(resolves_runOffer input).current kind]
  cases stage.end? kind s.loop input with
  | none => exact .inl rfl
  | some e =>
    cases e with
    | accepted => exact .inr (if_pos rfl)
    | _ => exact .inl rfl

end Offer

/-! ## Offered packages -/

section Packages
variable {packages : PackagesAvailable} {isRouted : Prop} {n : Nat}

/-- Work that has ended makes its offer known. -/
theorem isKnown_finish (p : PackageSync) (hash : Bytes) {outcome : SyncOutcome}
    (h : outcome ≠ .cancelled) : (p.finish hash outcome).isKnown hash = true := by
  cases outcome with
  | done => simp [PackageSync.finish, PackageSync.isKnown]
  | failed => simp [PackageSync.finish, PackageSync.isKnown]
  | cancelled => exact absurd rfl h

theorem packages_endSync (s : State) (hash : Bytes) (outcome : SyncOutcome) :
    (s.endSync hash outcome).packages = s.packages.finish hash outcome := by
  unfold State.endSync
  dsimp only
  split <;> rfl

theorem once_dispatchPackages (h : s.packagesLane.Once (some packages) isRouted n)
    (isRouted' : Prop) :
    (s.dispatchPackages packages).packagesLane.Once (some packages) isRouted' n := by
  unfold dispatchPackages State.beginSync PackageSync.claim
  dsimp only
  split
  · next hs =>
    cases h with
    | idle _ _ ht => exact .done 0 packages rfl hs ht (Nat.zero_le 1)
    | busy id p b hp hh ht => exact .busy id p b hp hh ht
    | done _ p hp hset ht hle => exact .done n p hp hset ht hle
  · next hs =>
    cases h with
    | idle _ _ ht =>
      refine .busy s.nextTask packages false rfl ?_ fun i => ?_
      · show PackageSync.isKnown { s.state.packages with syncing := some packages.allHash }
          packages.allHash = true
        simp [PackageSync.isKnown]
      · refine (view_spawn _ _ i).trans ?_
        split
        · rfl
        · exact ht i
    | busy id p b hp hh =>
      obtain rfl := Option.some.inj hp
      exact absurd hh hs
    | done _ p hp hset =>
      obtain rfl := Option.some.inj hp
      exact absurd hset hs

theorem view_packagesRun {stage : CallStage}
    (h : s.tasks.get? id = some (.packages packages stage)) :
    s.view Task.packagesRun? id = some (packages, stage.isBegun) := view_of_get? h

theorem once_runPackages {packages? : Option PackagesAvailable} {stage : CallStage}
    (h : s.packagesLane.Once packages? isRouted n)
    (hx : s.tasks.get? id = some (.packages packages stage)) {input : Input}
    (hi : input ≠ .answered (.done (.error .cancelled))) :
    ∃ k, ((s.runPackages id packages stage input).begun .packages).length =
        (s.begun .packages).length + k ∧
      (s.runPackages id packages stage input).packagesLane.Once packages? isRouted (n + k) := by
  obtain ⟨rfl, hknown, rfl, ht⟩ := h.only (view_packagesRun hx)
  have hle := Bool.toNat_le stage.isBegun
  have finish (u : Session τ) (hu : u.tasks = s.tasks) (hcalls : u.calls = s.calls)
      (hs : u.state.packages.isKnown packages.allHash = true) :
      ∃ k, ((u.finish id).begun .packages).length = (s.begun .packages).length + k ∧
        (u.finish id).packagesLane.Once (some packages) isRouted (stage.isBegun.toNat + k) := by
    refine ⟨0, congrArg List.length (begun_of_calls ((calls_emit _ rfl).trans hcalls)),
      .done _ packages rfl hs (fun i => ?_) hle⟩
    refine (view_finish u id i).trans ?_
    rw [view_of_tasks hu]
    refine (ite_congr rfl (fun _ => rfl) fun hne => ?_).trans (ite_self none)
    exact (ht i).trans (if_neg hne)
  cases stage with
  | fresh =>
    cases input with
    | look =>
      refine ⟨1, ?_, .busy id packages true rfl hknown fun i => ?_⟩
      · have hb := begun_call (s.setTask id (.packages packages .calling)) (.task id)
          (.syncPackages packages)
        exact (congrArg List.length hb).trans List.length_append
      · refine (view_setTask s id _ i).trans ?_
        exact ite_congr rfl (fun _ => rfl) fun hne => (ht i).trans (if_neg hne)
    | _ => exact ⟨0, rfl, h⟩
  | calling =>
    unfold runPackages
    split
    · contradiction
    · split
      · exact finish s rfl rfl hknown
      · exact absurd rfl hi
      · next e _ =>
        refine finish _ (tasks_update s _) (Calm.update s _).calls ?_
        rw [state_update]
        show ((s.state.setPackagesError e.message).endSync packages.allHash .failed).packages.isKnown
          packages.allHash = true
        rw [packages_endSync]
        exact isKnown_finish _ _ nofun
    · exact ⟨0, rfl, h⟩

end Packages

end Session

end ManagedAgent
