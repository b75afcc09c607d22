import ManagedAgent.State

/-!
# What a change of the state leaves alone

An `Aspect` is a part of the state that changes by itself. `Frame W s t` says that from `s` to `t`
nothing has changed outside of `W` (`Frame.trans`, and one lemma for each change of a state). A
property that looks at a few aspects is thus kept by all changes of other ones.
-/

set_option autoImplicit false

namespace ManagedAgent

/-- Which parts have changed since a report was last assembled. -/
def Outbox.marks (o : Outbox) : List Bool :=
  [o.description.changed, o.health.changed, o.effectiveConfig.changed, o.remoteConfigStatus.changed,
    o.packageStatuses.changed]

namespace State

inductive Aspect where
  | sequence
  | uid
  | description
  | health
  | effectiveConfig
  | remoteConfigStatus
  | packageStatuses
  | marks
  | connectionStatuses
  | fullState
  | pending
  /-- The settings in use for a kind of connection. -/
  | current (kind : ConnectionKind)
  | resolved (kind : ConnectionKind)
  | packages
  | wakeup

def Aspect.Same (s t : State) : Aspect → Prop
  | .sequence => t.sequence = s.sequence
  | .uid => t.uid = s.uid
  | .description => t.outbox.description.value = s.outbox.description.value
  | .health => t.outbox.health.value = s.outbox.health.value
  | .effectiveConfig => t.outbox.effectiveConfig.value = s.outbox.effectiveConfig.value
  | .remoteConfigStatus => t.outbox.remoteConfigStatus.value = s.outbox.remoteConfigStatus.value
  | .packageStatuses => t.outbox.packageStatuses.value = s.outbox.packageStatuses.value
  | .marks => t.outbox.marks = s.outbox.marks
  | .connectionStatuses => t.outbox.connectionStatuses = s.outbox.connectionStatuses
  | .fullState => t.outbox.fullState = s.outbox.fullState
  | .pending => t.outbox.pending = s.outbox.pending
  | .current kind => t.connections.current.get? kind = s.connections.current.get? kind
  | .resolved kind => t.connections.resolved.get? kind = s.connections.resolved.get? kind
  | .packages => t.packages = s.packages
  | .wakeup => t.wakeup = s.wakeup

theorem Aspect.Same.refl (s : State) (a : Aspect) : a.Same s s := by cases a <;> rfl

theorem Aspect.Same.trans {s t u : State} {a : Aspect} (h₁ : a.Same s t) (h₂ : a.Same t u) :
    a.Same s u := by
  cases a <;> exact Eq.trans h₂ h₁

/-- Every aspect outside of `W` is the same in both states. -/
def Frame (W : Aspect → Prop) (s t : State) : Prop := ∀ a, ¬ W a → a.Same s t

namespace Frame
variable {W : Aspect → Prop} {s t u : State}

theorem refl (s : State) : Frame W s s := fun a _ => .refl s a

theorem trans (h₁ : Frame W s t) (h₂ : Frame W t u) : Frame W s u :=
  fun a ha => (h₁ a ha).trans (h₂ a ha)

theorem requestFullState (s : State) (h : W .fullState) : Frame W s s.requestFullState := by
  intro a ha
  cases a with
  | fullState => exact absurd h ha
  | _ => rfl

theorem setUid (s : State) (uid : String) (h : W .uid) : Frame W s (s.setUid uid) := by
  intro a ha
  cases a with
  | uid => exact absurd h ha
  | _ => rfl

theorem setDescription (s : State) (d : Description) (h : W .description) (hm : W .marks) :
    Frame W s (s.setDescription d) := by
  intro a ha
  cases a with
  | description => exact absurd h ha
  | marks => exact absurd hm ha
  | _ => rfl

theorem setHealth (s : State) (x : Health) (h : W .health) (hm : W .marks) :
    Frame W s (s.setHealth x) := by
  intro a ha
  cases a with
  | health => exact absurd h ha
  | marks => exact absurd hm ha
  | _ => rfl

theorem setEffectiveConfig (s : State) (c : EffectiveConfig) (h : W .effectiveConfig)
    (hm : W .marks) : Frame W s (s.setEffectiveConfig c).2 := by
  unfold State.setEffectiveConfig
  dsimp only
  split
  · exact .refl s
  · intro a ha
    cases a with
    | effectiveConfig => exact absurd h ha
    | marks => exact absurd hm ha
    | _ => rfl

theorem setRemoteConfigStatus (s : State) (status : RemoteConfigStatus)
    (h : W .remoteConfigStatus) (hm : W .marks) : Frame W s (s.setRemoteConfigStatus status) := by
  intro a ha
  cases a with
  | remoteConfigStatus => exact absurd h ha
  | marks => exact absurd hm ha
  | _ => rfl

theorem recordConnectionStatus (s : State) (status : ConnectionStatus)
    (h : W .connectionStatuses) : Frame W s (s.recordConnectionStatus status) := by
  intro a ha
  cases a with
  | connectionStatuses => exact absurd h ha
  | _ => rfl

theorem setConnection (s : State) (kind : ConnectionKind) (c : ConnectionSettings)
    (h : W (.current kind)) : Frame W s (s.setConnection kind c) := by
  intro a ha
  cases a with
  | current k =>
    have hk : k ≠ kind := by rintro rfl; exact ha h
    show (s.connections.current.insert kind c).get? k = s.connections.current.get? k
    rw [Table.get?_insert, if_neg hk]
  | _ => rfl

theorem resolveOffer (s : State) (kind : ConnectionKind) (c : ConnectionSettings)
    (h : W (.resolved kind)) : Frame W s (s.resolveOffer kind c) := by
  intro a ha
  cases a with
  | resolved k =>
    have hk : k ≠ kind := by rintro rfl; exact ha h
    show (s.connections.resolved.insert kind c).get? k = s.connections.resolved.get? k
    rw [Table.get?_insert, if_neg hk]
  | _ => rfl

theorem modifyPackageStatuses (s : State) (f : PackageStatuses → PackageStatuses)
    (h : W .packageStatuses) (hm : W .marks) : Frame W s (s.modifyPackageStatuses f) := by
  intro a ha
  cases a with
  | packageStatuses => exact absurd h ha
  | marks => exact absurd hm ha
  | _ => rfl

theorem setPackages (s : State) (packages : PackageSync) (h : W .packages) :
    Frame W s { s with packages } := by
  intro a ha
  cases a with
  | packages => exact absurd h ha
  | _ => rfl

theorem setWakeup (s : State) (wakeup : Wakeup) (h : W .wakeup) : Frame W s { s with wakeup } := by
  intro a ha
  cases a with
  | wakeup => exact absurd h ha
  | _ => rfl

theorem notify (s : State) (h : W .wakeup) : Frame W s s.notify := setWakeup s _ h

theorem endSync (s : State) (hash : Bytes) (outcome : SyncOutcome) (h : W .packages)
    (h' : W .packageStatuses) (hm : W .marks) : Frame W s (s.endSync hash outcome) := by
  unfold State.endSync
  dsimp only
  split
  · exact (setPackages s _ h).trans (modifyPackageStatuses _ _ h' hm)
  · exact setPackages s _ h

theorem packagesFailed (s : State) (hash : Bytes) (error : String) (h : W .packages)
    (h' : W .packageStatuses) (hm : W .marks) (hw : W .wakeup) :
    Frame W s (s.packagesFailed hash error) :=
  ((modifyPackageStatuses s _ h' hm).trans (endSync _ hash .failed h h' hm)).trans (notify _ hw)

theorem delivered (s : State) (number : UInt64) (h : W .pending) :
    Frame W s (s.delivered number) := by
  unfold State.delivered Outbox.delivered
  split
  · split
    · intro a ha
      cases a with
      | pending => exact absurd h ha
      | _ => rfl
    · exact .refl s
  · exact .refl s

theorem nextReport (s : State) (h : W .sequence) (hm : W .marks) (hc : W .connectionStatuses)
    (hf : W .fullState) (hp : W .pending) : Frame W s s.nextReport.2 := by
  intro a ha
  cases a with
  | sequence => exact absurd h ha
  | marks => exact absurd hm ha
  | connectionStatuses => exact absurd hc ha
  | fullState => exact absurd hf ha
  | pending => exact absurd hp ha
  | _ => rfl

end Frame

end State

end ManagedAgent
