import ManagedAgent.State

/-!
# What is done to the state of a session

An `Operation` is one thing that the loop, the tasks or the agent do to a state; `State.after` is
the state after a list of them. The operations cover every function that changes a state, so that
what holds after all lists of operations holds at every moment of a session.

* `delivered_of_confirmed`, `delivered_of_not_confirmed` : a delivery either lets the pending report
  go or changes nothing;
* `setEffectiveConfig_snd` : recording a configuration either puts it in place or changes nothing.
-/

set_option autoImplicit false

namespace ManagedAgent.State

inductive Operation where
  | nextReport
  /-- The server has the report of this number. -/
  | delivered (number : UInt64)
  | requestFullState
  | setUid (uid : String)
  | setDescription (d : Description)
  | setHealth (h : Health)
  | setEffectiveConfig (c : EffectiveConfig)
  | setRemoteConfigStatus (status : RemoteConfigStatus)
  | recordConnectionStatus (status : ConnectionStatus)
  | setConnection (kind : ConnectionKind) (c : ConnectionSettings)
  | resolveOffer (kind : ConnectionKind) (c : ConnectionSettings)
  | setPackageStatus (status : PackageStatus)
  | setPackagesError (error : String)
  | beginSync (hash : Bytes)
  | endSync (hash : Bytes) (outcome : SyncOutcome)
  | notify
  /-- The loop waits for a wake-up, takes one, or waits no longer. -/
  | setWakeup (f : Wakeup → Wakeup)

def apply (s : State) : Operation → State
  | .nextReport => s.nextReport.2
  | .delivered number => s.delivered number
  | .requestFullState => s.requestFullState
  | .setUid uid => s.setUid uid
  | .setDescription d => s.setDescription d
  | .setHealth h => s.setHealth h
  | .setEffectiveConfig c => (s.setEffectiveConfig c).2
  | .setRemoteConfigStatus status => s.setRemoteConfigStatus status
  | .recordConnectionStatus status => s.recordConnectionStatus status
  | .setConnection kind c => s.setConnection kind c
  | .resolveOffer kind c => s.resolveOffer kind c
  | .setPackageStatus status => s.setPackageStatus status
  | .setPackagesError error => s.setPackagesError error
  | .beginSync hash => (s.beginSync hash).2
  | .endSync hash outcome => s.endSync hash outcome
  | .notify => s.notify
  | .setWakeup f => { s with wakeup := f s.wakeup }

def after (s : State) (ops : List Operation) : State := ops.foldl apply s

@[simp] theorem after_nil (s : State) : s.after [] = s := rfl

@[simp] theorem after_cons (s : State) (op : Operation) (ops : List Operation) :
    s.after (op :: ops) = (s.apply op).after ops := rfl

/-! ## Deliveries -/

/-- The report that a delivery of this number is about: the pending one, if it has the number. -/
def confirmed? (s : State) (number : UInt64) : Option Report :=
  s.outbox.pending.filter (·.sequenceNumber == number)

theorem confirmed?_eq_some_iff {s : State} {number : UInt64} {r : Report} :
    s.confirmed? number = some r ↔ s.outbox.pending = some r ∧ r.sequenceNumber = number := by
  unfold confirmed?
  rw [Option.filter_eq_some_iff, beq_iff_eq]

theorem delivered_of_confirmed {s : State} {number : UInt64} {r : Report}
    (h : s.confirmed? number = some r) :
    s.delivered number = { s with outbox := { s.outbox with pending := none } } := by
  obtain ⟨hp, hn⟩ := confirmed?_eq_some_iff.mp h
  unfold delivered Outbox.delivered
  rw [hp]
  simp only [if_pos hn]

theorem delivered_of_not_confirmed {s : State} {number : UInt64}
    (h : s.confirmed? number = none) : s.delivered number = s := by
  unfold delivered Outbox.delivered
  cases hp : s.outbox.pending with
  | none => rfl
  | some r =>
    have hn : r.sequenceNumber ≠ number := by
      intro hn
      have hr := confirmed?_eq_some_iff.mpr ⟨hp, hn⟩
      rw [h] at hr
      cases hr
    simp only [if_neg hn]

/-! ## Recording a configuration -/

/-- A configuration is put in place under the hash of its content, unless one of that hash is there
already. -/
theorem setEffectiveConfig_snd (s : State) (c : EffectiveConfig) :
    (s.setEffectiveConfig c).2 = s ∨
      (s.setEffectiveConfig c).2 =
        { s with outbox :=
          { s.outbox with effectiveConfig := s.outbox.effectiveConfig.set c.rehash } } := by
  unfold setEffectiveConfig
  by_cases h : s.outbox.effectiveConfig.value.any (·.hash == c.rehash.hash)
  · left
    simp only [h, if_true]
  · right
    simp only [h, if_false, Bool.false_eq_true]

end ManagedAgent.State
