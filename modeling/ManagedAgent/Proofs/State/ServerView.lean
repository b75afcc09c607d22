import ManagedAgent.Proofs.State.Operation

/-!
# What the server knows of an agent

The server keeps a copy of every part of the reports that it has; `Watched` is a state beside that
copy. Whatever is done to the state, in any order:

* a part that a report carries is the state's own at the moment of assembly;
* once nothing is pending, the server's copy is the state's own (`no_update_is_lost`).

A part is followed through its change, its assembly and its delivery by `Part.Followed`, one part at
a time; `Follows` is that for all five.
-/

set_option autoImplicit false

namespace ManagedAgent

/-! ## One part -/

/-- What ties a part to the value `carried` by the pending report and to the copy of the server: if
no change waits to be assembled, the copy will be right once the pending report is there. A part
that has no value yet was never sent. -/
structure Part.Followed {α : Type} (p : Part α) (full : Bool) (carried copy : Option α) : Prop where
  right : full = false → p.changed = false → carried.or copy = p.value
  unsent : p.value = none → carried = none ∧ copy = none

namespace Part.Followed
variable {α : Type} {p : Part α} {full : Bool} {carried copy : Option α}

theorem start (v : Option α) : Followed ⟨v, false⟩ true none none :=
  ⟨fun h => (by cases h), fun _ => ⟨rfl, rfl⟩⟩

theorem set (p : Part α) (a : α) : Followed (p.set a) full carried copy :=
  ⟨fun _ h => (by cases h), fun h => (by cases h)⟩

theorem requestFull (h : Followed p full carried copy) : Followed p true carried copy :=
  ⟨fun hf => (by cases hf), h.unsent⟩

/-- What a report carries is the value of the part. -/
theorem value_of_carry (h : Followed p full carried copy) {a : α}
    (ha : p.carry full carried = some a) : p.value = some a := by
  unfold carry at ha
  split at ha
  · exact ha
  · rename_i hs
    have hfull : full = false := by cases full <;> simp_all
    have hchanged : p.changed = false := by cases hc : p.changed <;> simp_all
    rw [← h.right hfull hchanged, ha, Option.some_or]

theorem assemble (h : Followed p full carried copy) :
    Followed p.clean false (p.carry full carried) copy := by
  constructor
  · intro _ _
    show (p.carry full carried).or copy = p.value
    unfold carry
    split
    · cases hv : p.value with
      | none => rw [(h.unsent hv).2]; rfl
      | some v => rfl
    · rename_i hs
      refine h.right ?_ ?_
      · cases full <;> simp_all
      · cases hc : p.changed <;> simp_all
  · intro hv
    have hv : p.value = none := hv
    refine ⟨?_, (h.unsent hv).2⟩
    unfold carry
    rw [hv, (h.unsent hv).1, ite_self]

/-- The server has the report: it puts what the report carried in place of its copy. -/
theorem deliver (h : Followed p full carried copy) : Followed p full none (carried.or copy) := by
  constructor
  · intro hf hc
    rw [Option.none_or]
    exact h.right hf hc
  · intro hv
    obtain ⟨hcarried, hcopy⟩ := h.unsent hv
    exact ⟨rfl, by rw [hcarried, hcopy]; rfl⟩

end Part.Followed

/-! ## All parts -/

/-- The parts of a report, as one side has them. -/
structure Parts where
  description : Option Description := none
  health : Option Health := none
  effectiveConfig : Option EffectiveConfig := none
  remoteConfigStatus : Option RemoteConfigStatus := none
  packageStatuses : Option PackageStatuses := none
  deriving DecidableEq

def Report.parts (r : Report) : Parts :=
  ⟨r.description, r.health, r.effectiveConfig, r.remoteConfigStatus, r.packageStatuses⟩

def State.parts (s : State) : Parts :=
  ⟨s.outbox.description.value, s.outbox.health.value, s.outbox.effectiveConfig.value,
    s.outbox.remoteConfigStatus.value, s.outbox.packageStatuses.value⟩

namespace Parts

/-- A part that is present takes the place of the copy. -/
def receive (copy sent : Parts) : Parts :=
  ⟨sent.description.or copy.description, sent.health.or copy.health,
    sent.effectiveConfig.or copy.effectiveConfig,
    sent.remoteConfigStatus.or copy.remoteConfigStatus,
    sent.packageStatuses.or copy.packageStatuses⟩

/-- Every part that is present is the same in `whole`. -/
def IsIn (sent whole : Parts) : Prop :=
  (∀ d, sent.description = some d → whole.description = some d) ∧
  (∀ h, sent.health = some h → whole.health = some h) ∧
  (∀ c, sent.effectiveConfig = some c → whole.effectiveConfig = some c) ∧
  (∀ r, sent.remoteConfigStatus = some r → whole.remoteConfigStatus = some r) ∧
  ∀ p, sent.packageStatuses = some p → whole.packageStatuses = some p

end Parts

structure Watched where
  state : State
  server : Parts := {}

namespace Watched

/-- The server's copy changes when the pending report is delivered. -/
def apply (w : Watched) (op : State.Operation) : Watched :=
  { state := w.state.apply op
    server :=
      match op with
      | .delivered number =>
        match w.state.confirmed? number with
        | some r => w.server.receive r.parts
        | none => w.server
      | _ => w.server }

def after (w : Watched) (ops : List State.Operation) : Watched := ops.foldl apply w

theorem state_after (w : Watched) (ops : List State.Operation) :
    (w.after ops).state = w.state.after ops := by
  induction ops generalizing w with
  | nil => rfl
  | cons op ops ih => exact ih (w.apply op)

end Watched

/-! ## Every part is followed -/

def Outbox.carried (o : Outbox) : Parts :=
  match o.pending with
  | some r => r.parts
  | none => {}

structure Outbox.Follows (o : Outbox) (copy : Parts) : Prop where
  description : o.description.Followed o.fullState o.carried.description copy.description
  health : o.health.Followed o.fullState o.carried.health copy.health
  effectiveConfig :
    o.effectiveConfig.Followed o.fullState o.carried.effectiveConfig copy.effectiveConfig
  remoteConfigStatus :
    o.remoteConfigStatus.Followed o.fullState o.carried.remoteConfigStatus copy.remoteConfigStatus
  packageStatuses :
    o.packageStatuses.Followed o.fullState o.carried.packageStatuses copy.packageStatuses

theorem State.parts_base (s : State) : s.base.1.parts = s.outbox.carried := by
  unfold State.base Outbox.carried
  cases s.outbox.pending <;> rfl

namespace Outbox.Follows
variable {s : State} {copy : Parts}

theorem start (settings : StartSettings) (fresh : String) :
    (State.start settings fresh).outbox.Follows {} :=
  ⟨.start _, .start _, .start _, .start _, .start _⟩

/-- A report carries nothing but what the state has. -/
theorem parts_nextReport (h : s.outbox.Follows copy) : s.nextReport.1.parts.IsIn s.parts := by
  have hb := s.parts_base
  refine ⟨fun _ hd => ?_, fun _ hd => ?_, fun _ hd => ?_, fun _ hd => ?_, fun _ hd => ?_⟩
  · exact h.description.value_of_carry (by rw [← hb]; exact hd)
  · exact h.health.value_of_carry (by rw [← hb]; exact hd)
  · exact h.effectiveConfig.value_of_carry (by rw [← hb]; exact hd)
  · exact h.remoteConfigStatus.value_of_carry (by rw [← hb]; exact hd)
  · exact h.packageStatuses.value_of_carry (by rw [← hb]; exact hd)

theorem nextReport (h : s.outbox.Follows copy) : s.nextReport.2.outbox.Follows copy := by
  have hb := s.parts_base
  refine ⟨?_, ?_, ?_, ?_, ?_⟩
  · have := h.description.assemble
    rwa [← hb] at this
  · have := h.health.assemble
    rwa [← hb] at this
  · have := h.effectiveConfig.assemble
    rwa [← hb] at this
  · have := h.remoteConfigStatus.assemble
    rwa [← hb] at this
  · have := h.packageStatuses.assemble
    rwa [← hb] at this

theorem deliver {r : Report} (h : s.outbox.Follows copy) (hr : s.outbox.pending = some r) :
    ({ s.outbox with pending := none } : Outbox).Follows (copy.receive r.parts) := by
  have hc : s.outbox.carried = r.parts := by unfold Outbox.carried; rw [hr]
  obtain ⟨h1, h2, h3, h4, h5⟩ := h
  rw [hc] at h1 h2 h3 h4 h5
  exact ⟨h1.deliver, h2.deliver, h3.deliver, h4.deliver, h5.deliver⟩

theorem requestFullState (h : s.outbox.Follows copy) : s.requestFullState.outbox.Follows copy :=
  ⟨h.description.requestFull, h.health.requestFull, h.effectiveConfig.requestFull,
    h.remoteConfigStatus.requestFull, h.packageStatuses.requestFull⟩

theorem modifyPackageStatuses (h : s.outbox.Follows copy) (f : PackageStatuses → PackageStatuses) :
    (s.modifyPackageStatuses f).outbox.Follows copy :=
  { h with packageStatuses := .set s.outbox.packageStatuses _ }

theorem setEffectiveConfig (h : s.outbox.Follows copy) (c : EffectiveConfig) :
    (s.setEffectiveConfig c).2.outbox.Follows copy := by
  rcases s.setEffectiveConfig_snd c with hs | hs
  · rw [hs]; exact h
  · rw [hs]; exact { h with effectiveConfig := .set s.outbox.effectiveConfig _ }

theorem endSync (h : s.outbox.Follows copy) (hash : Bytes) (outcome : SyncOutcome) :
    (s.endSync hash outcome).outbox.Follows copy := by
  unfold State.endSync
  split
  · exact modifyPackageStatuses (s := { s with packages := s.packages.finish hash outcome }) h _
  · exact h

end Outbox.Follows

/-- Every operation keeps the server following. -/
theorem Watched.follows_apply {w : Watched} (h : w.state.outbox.Follows w.server)
    (op : State.Operation) : (w.apply op).state.outbox.Follows (w.apply op).server := by
  cases op with
  | nextReport => exact h.nextReport
  | delivered number =>
    show (w.state.delivered number).outbox.Follows (match w.state.confirmed? number with
      | some r => w.server.receive r.parts
      | none => w.server)
    cases hc : w.state.confirmed? number with
    | some r =>
      rw [State.delivered_of_confirmed hc]
      exact h.deliver (State.confirmed?_eq_some_iff.mp hc).1
    | none => rw [State.delivered_of_not_confirmed hc]; exact h
  | requestFullState => exact h.requestFullState
  | setDescription d => exact { h with description := .set w.state.outbox.description d }
  | setHealth a => exact { h with health := .set w.state.outbox.health a }
  | setEffectiveConfig c => exact h.setEffectiveConfig c
  | setRemoteConfigStatus status =>
    exact { h with remoteConfigStatus := .set w.state.outbox.remoteConfigStatus status }
  | setPackageStatus status => exact h.modifyPackageStatuses _
  | setPackagesError error => exact h.modifyPackageStatuses _
  | endSync hash outcome => exact h.endSync hash outcome
  | setUid | recordConnectionStatus | setConnection | resolveOffer | beginSync | notify
  | setWakeup =>
    exact ⟨h.description, h.health, h.effectiveConfig, h.remoteConfigStatus, h.packageStatuses⟩

theorem Watched.follows_after {w : Watched} (h : w.state.outbox.Follows w.server)
    (ops : List State.Operation) : (w.after ops).state.outbox.Follows (w.after ops).server := by
  induction ops generalizing w with
  | nil => exact h
  | cons op ops ih => exact ih (w.follows_apply h op)

/-- Whatever is done to a state that is followed, it is followed. -/
theorem Outbox.Follows.after {s : State} {copy : Parts} (h : s.outbox.Follows copy)
    (ops : List State.Operation) : ∃ copy', (s.after ops).outbox.Follows copy' := by
  have hw := Watched.follows_after (w := ⟨s, copy⟩) h ops
  rw [Watched.state_after] at hw
  exact ⟨_, hw⟩

/-- Where nothing is pending, the copy that follows is the state's own. -/
theorem State.eq_parts_of_follows {s : State} {copy : Parts} (h : s.outbox.Follows copy)
    (hs : s.hasPendingChanges = false) : copy = s.parts := by
  simp only [State.hasPendingChanges, Outbox.hasPendingChanges, Outbox.anyChanged,
    Bool.or_eq_false_iff] at hs
  obtain ⟨⟨⟨hfull, ⟨⟨⟨hd, hh⟩, he⟩, hr⟩, hp⟩, -⟩, hpending⟩ := hs
  have hc : s.outbox.carried = {} := by
    unfold Outbox.carried
    rw [Option.isSome_eq_false_iff, Option.isNone_iff_eq_none] at hpending
    rw [hpending]
  obtain ⟨h1, h2, h3, h4, h5⟩ := h
  rw [hc] at h1 h2 h3 h4 h5
  unfold State.parts
  rw [← h1.right hfull hd, ← h2.right hfull hh, ← h3.right hfull he, ← h4.right hfull hr,
    ← h5.right hfull hp]
  rfl

/-- **No update is lost.** Whatever is done to the state of a session, the next report carries
nothing but values of the session, and where nothing is pending the server has them all. -/
theorem no_update_is_lost (settings : StartSettings) (fresh : String)
    (ops : List State.Operation) :
    let w := Watched.after ⟨.start settings fresh, {}⟩ ops
    w.state.nextReport.1.parts.IsIn w.state.parts ∧
      (w.state.hasPendingChanges = false → w.server = w.state.parts) := by
  intro w
  have h : w.state.outbox.Follows w.server := Watched.follows_after (.start settings fresh) ops
  exact ⟨h.parts_nextReport, State.eq_parts_of_follows h⟩

/-- A change that comes between a failed attempt and its retry: what the server has in the end. -/
theorem no_update_is_lost_on_retry :
    let w := Watched.after ⟨.start { serverUrl := "a" } "b", {}⟩
      [.setHealth {}, .nextReport, .setHealth { healthy := true }, .delivered 1, .nextReport,
        .delivered 0]
    w.state.hasPendingChanges = false ∧ w.server = w.state.parts ∧
      w.server.health = some { healthy := true } :=
  have h : _ := no_update_is_lost { serverUrl := "a" } "b"
    [.setHealth {}, .nextReport, .setHealth { healthy := true }, .delivered 1, .nextReport,
      .delivered 0]
  ⟨rfl, h.2 rfl, rfl⟩

end ManagedAgent
