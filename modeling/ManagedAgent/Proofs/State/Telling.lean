import ManagedAgent.Proofs.State.Frame
import ManagedAgent.Proofs.State.ServerView

/-!
# What the assembled reports tell

`Parts.told` is what a list of reports tells of the parts, a later report over an earlier one. From
the first report on, which is a full one, a part that has not changed since a report was assembled is
told as it is.

* `Part.Told` : one part, from its change to the report that carries it;
* `State.Changes` : one operation after the other, and no report is assembled;
* `Outbox.Told.nextReport`, `Outbox.Told.changes` : a report is assembled, and anything else happens;
* `State.nextReport_of_idle` : a report that is assembled with nothing to tell is blank.
-/

set_option autoImplicit false

namespace ManagedAgent

/-! ## One part -/

/-- What ties a part to the value that the pending report carries, and to the value that was `told`
last. Before the first report nothing was told. -/
structure Part.Told {α : Type} (p : Part α) (begun : Prop) (carried told : Option α) : Prop where
  right : begun → p.changed = false → told = p.value
  unsent : p.value = none → told = none
  last : carried.or told = told

namespace Part.Told
variable {α : Type} {p : Part α} {begun : Prop} {carried told : Option α}

theorem start (v : Option α) : Told ⟨v, false⟩ False none none :=
  ⟨False.elim, fun _ => rfl, rfl⟩

theorem set (h : Told p begun carried told) (a : α) : Told (p.set a) begun carried told :=
  ⟨fun _ hc => (by cases hc), fun hv => (by cases hv), h.last⟩

theorem assemble (h : Told p begun carried told) {full : Bool} (hf : begun ∨ full = true) :
    Told p.clean True (p.carry full carried) ((p.carry full carried).or told) := by
  refine ⟨fun _ _ => ?_, fun hv => ?_, by cases p.carry full carried <;> rfl⟩
  · show (p.carry full carried).or told = p.value
    unfold carry
    split
    · cases hv : p.value with
      | none => exact h.unsent hv
      | some v => rfl
    · next hs =>
      rw [Bool.or_eq_true, not_or, Bool.not_eq_true, Bool.not_eq_true] at hs
      rw [h.last]
      exact h.right (hf.resolve_right (by rw [hs.1]; nofun)) hs.2
  · have hv : p.value = none := hv
    have hl := h.last
    rw [h.unsent hv, Option.or_none] at hl
    unfold carry
    rw [hv, hl, ite_self, h.unsent hv]
    rfl

theorem imp (h : Told p begun carried told) {begun' : Prop} (hb : begun' → begun) :
    Told p begun' carried told := ⟨fun hb' => h.right (hb hb'), h.unsent, h.last⟩

/-- The server has the report. -/
theorem deliver (h : Told p begun carried told) : Told p begun none told :=
  ⟨h.right, h.unsent, rfl⟩

end Part.Told

/-! ## All parts -/

/-- What the reports tell of the parts, one after the other. -/
def Parts.told (reports : List Report) : Parts :=
  reports.foldl (fun told r => told.receive r.parts) {}

theorem Parts.told_concat (reports : List Report) (r : Report) :
    told (reports ++ [r]) = (told reports).receive r.parts := List.foldl_append ..

structure Outbox.Told (o : Outbox) (begun : Prop) (told : Parts) : Prop where
  description : o.description.Told begun o.carried.description told.description
  health : o.health.Told begun o.carried.health told.health
  effectiveConfig : o.effectiveConfig.Told begun o.carried.effectiveConfig told.effectiveConfig
  remoteConfigStatus :
    o.remoteConfigStatus.Told begun o.carried.remoteConfigStatus told.remoteConfigStatus
  packageStatuses : o.packageStatuses.Told begun o.carried.packageStatuses told.packageStatuses

namespace State

/-- From `s` to `t` the state changes, and no report is assembled. -/
def Changes (s t : State) : Prop :=
  ∃ ops : List Operation, (∀ op ∈ ops, op ≠ .nextReport) ∧ t = s.after ops

namespace Changes
variable {s t : State}

theorem of_ops (ops : List Operation) (h : ∀ op ∈ ops, op ≠ .nextReport) :
    s.Changes (s.after ops) :=
  ⟨ops, h, rfl⟩

theorem trans {u : State} (h₁ : s.Changes t) (h₂ : t.Changes u) : s.Changes u := by
  obtain ⟨ops₁, ho₁, rfl⟩ := h₁
  obtain ⟨ops₂, ho₂, rfl⟩ := h₂
  refine ⟨ops₁ ++ ops₂, fun op ho => (List.mem_append.1 ho).elim (ho₁ op) (ho₂ op), ?_⟩
  exact List.foldl_append.symm

/-- What every operation but the assembly of a report keeps is kept by a change. -/
theorem induction {P : State → Prop} (hP : ∀ s op, op ≠ .nextReport → P s → P (s.apply op))
    (h : s.Changes t) (hs : P s) : P t := by
  obtain ⟨ops, hops, rfl⟩ := h
  induction ops generalizing s with
  | nil => exact hs
  | cons op ops ih =>
    exact ih (hP s op (hops op (List.mem_cons_self ..)) hs) fun o ho => hops o (.tail _ ho)

/-- A request for everything holds until the next report, and a status waits until then. -/
theorem keeps (h : s.Changes t) :
    (s.outbox.fullState = true → t.outbox.fullState = true) ∧
      s.outbox.connectionStatuses <+: t.outbox.connectionStatuses := by
  refine h.induction (P := fun u => (s.outbox.fullState = true → u.outbox.fullState = true) ∧
    s.outbox.connectionStatuses <+: u.outbox.connectionStatuses) (fun u op ho hu => ?_)
    ⟨fun h => h, List.prefix_rfl⟩
  cases op with
  | nextReport => contradiction
  | requestFullState => exact ⟨fun _ => rfl, hu.2⟩
  | recordConnectionStatus => exact ⟨hu.1, hu.2.trans (List.prefix_append _ _)⟩
  | delivered number =>
    show (_ → (u.delivered number).outbox.fullState = true) ∧
      _ <+: (u.delivered number).outbox.connectionStatuses
    cases hc : u.confirmed? number with
    | none => rwa [delivered_of_not_confirmed hc]
    | some r =>
      rw [delivered_of_confirmed hc]
      exact hu
  | setEffectiveConfig c =>
    show (_ → (u.setEffectiveConfig c).2.outbox.fullState = true) ∧
      _ <+: (u.setEffectiveConfig c).2.outbox.connectionStatuses
    rcases u.setEffectiveConfig_snd c with h | h
    · rwa [h]
    · rw [h]
      exact hu
  | endSync hash outcome =>
    show (_ → (u.endSync hash outcome).outbox.fullState = true) ∧
      _ <+: (u.endSync hash outcome).outbox.connectionStatuses
    unfold endSync
    dsimp only
    split <;> exact hu
  | _ => exact hu

end Changes

end State

namespace Outbox.Told
variable {s t : State} {begun : Prop} {told : Parts}

theorem start (settings : StartSettings) (fresh : String) :
    (State.start settings fresh).outbox.Told False {} :=
  ⟨.start _, .start _, .start _, .start _, .start _⟩

/-- A change that leaves the parts and the pending report alone. -/
theorem of_same (h : s.outbox.Told begun told)
    (hs : ∀ a ∈ [State.Aspect.description, .health, .effectiveConfig, .remoteConfigStatus,
      .packageStatuses, .marks, .pending], a.Same s t) : t.outbox.Told begun told := by
  have part {α : Type} {p q : Part α} (hv : q.value = p.value) (hc : q.changed = p.changed) :
      q = p := by
    cases p; cases q; cases hv; cases hc; rfl
  have hd : t.outbox.description.value = _ := hs .description (by simp)
  have hh : t.outbox.health.value = _ := hs .health (by simp)
  have he : t.outbox.effectiveConfig.value = _ := hs .effectiveConfig (by simp)
  have hr : t.outbox.remoteConfigStatus.value = _ := hs .remoteConfigStatus (by simp)
  have hp : t.outbox.packageStatuses.value = _ := hs .packageStatuses (by simp)
  have hm : t.outbox.marks = s.outbox.marks := hs .marks (by simp)
  have hpending : t.outbox.pending = s.outbox.pending := hs .pending (by simp)
  have hc : t.outbox.carried = s.outbox.carried := by
    unfold carried
    rw [hpending]
  simp only [marks, List.cons.injEq, and_true] at hm
  obtain ⟨md, mh, me, mr, mp⟩ := hm
  obtain ⟨h1, h2, h3, h4, h5⟩ := h
  refine ⟨?_, ?_, ?_, ?_, ?_⟩
  · rw [part hd md, hc]; exact h1
  · rw [part hh mh, hc]; exact h2
  · rw [part he me, hc]; exact h3
  · rw [part hr mr, hc]; exact h4
  · rw [part hp mp, hc]; exact h5

/-- The first report is a full one. -/
theorem nextReport (h : s.outbox.Told begun told) (hf : begun ∨ s.outbox.fullState = true) :
    s.nextReport.2.outbox.Told True (told.receive s.nextReport.1.parts) := by
  have hb := s.parts_base
  refine ⟨?_, ?_, ?_, ?_, ?_⟩
  · have := h.description.assemble hf
    rwa [← hb] at this
  · have := h.health.assemble hf
    rwa [← hb] at this
  · have := h.effectiveConfig.assemble hf
    rwa [← hb] at this
  · have := h.remoteConfigStatus.assemble hf
    rwa [← hb] at this
  · have := h.packageStatuses.assemble hf
    rwa [← hb] at this

theorem delivered (h : s.outbox.Told begun told) (number : UInt64) :
    (s.delivered number).outbox.Told begun told := by
  cases hc : s.confirmed? number with
  | none => rwa [State.delivered_of_not_confirmed hc]
  | some r =>
    rw [State.delivered_of_confirmed hc]
    exact ⟨h.description.deliver, h.health.deliver, h.effectiveConfig.deliver,
      h.remoteConfigStatus.deliver, h.packageStatuses.deliver⟩

theorem setEffectiveConfig (h : s.outbox.Told begun told) (c : EffectiveConfig) :
    (s.setEffectiveConfig c).2.outbox.Told begun told := by
  rcases s.setEffectiveConfig_snd c with hs | hs
  · rwa [hs]
  · rw [hs]
    exact { h with effectiveConfig := h.effectiveConfig.set _ }

theorem modifyPackageStatuses (h : s.outbox.Told begun told)
    (f : PackageStatuses → PackageStatuses) :
    (s.modifyPackageStatuses f).outbox.Told begun told :=
  { h with packageStatuses := h.packageStatuses.set _ }

theorem endSync (h : s.outbox.Told begun told) (hash : Bytes) (outcome : SyncOutcome) :
    (s.endSync hash outcome).outbox.Told begun told := by
  unfold State.endSync
  split
  · exact modifyPackageStatuses (s := { s with packages := s.packages.finish hash outcome }) h _
  · exact h

theorem apply (h : s.outbox.Told begun told) {op : State.Operation} (ho : op ≠ .nextReport) :
    (s.apply op).outbox.Told begun told := by
  cases op with
  | nextReport => contradiction
  | delivered number => exact h.delivered number
  | setDescription d => exact { h with description := h.description.set d }
  | setHealth a => exact { h with health := h.health.set a }
  | setEffectiveConfig c => exact h.setEffectiveConfig c
  | setRemoteConfigStatus status =>
    exact { h with remoteConfigStatus := h.remoteConfigStatus.set status }
  | setPackageStatus status => exact h.modifyPackageStatuses _
  | setPackagesError error => exact h.modifyPackageStatuses _
  | endSync hash outcome => exact h.endSync hash outcome
  | requestFullState | setUid | recordConnectionStatus | setConnection | resolveOffer | beginSync
  | notify | setWakeup =>
    exact ⟨h.description, h.health, h.effectiveConfig, h.remoteConfigStatus, h.packageStatuses⟩

theorem changes (h : s.outbox.Told begun told) (hc : s.Changes t) : t.outbox.Told begun told :=
  hc.induction (P := fun s => s.outbox.Told begun told) (fun _ _ ho h => h.apply ho) h

/-- What was told before the first report is nothing. -/
theorem imp {begun' : Prop} (h : s.outbox.Told begun told) (hb : begun' → begun) :
    s.outbox.Told begun' told :=
  ⟨h.description.imp hb, h.health.imp hb, h.effectiveConfig.imp hb, h.remoteConfigStatus.imp hb,
    h.packageStatuses.imp hb⟩

/-- Where no change waits to be told, what was told is what the state has. -/
theorem eq_parts (h : s.outbox.Told begun told) (hb : begun)
    (hs : s.outbox.anyChanged = false) : told = s.parts := by
  simp only [anyChanged, Bool.or_eq_false_iff] at hs
  obtain ⟨⟨⟨⟨hd, hh⟩, he⟩, hr⟩, hp⟩ := hs
  unfold State.parts
  rw [← h.description.right hb hd, ← h.health.right hb hh, ← h.effectiveConfig.right hb he,
    ← h.remoteConfigStatus.right hb hr, ← h.packageStatuses.right hb hp]

end Outbox.Told

/-! ## Nothing to tell -/

/-- A report that is assembled while nothing waits carries no part and no status. -/
theorem State.nextReport_of_idle {s : State} (h : s.hasPendingChanges = false) :
    s.nextReport.1.parts = {} ∧ s.nextReport.1.connectionStatuses = [] := by
  simp only [hasPendingChanges, Outbox.hasPendingChanges, Outbox.anyChanged,
    Bool.or_eq_false_iff, Bool.not_eq_false', List.isEmpty_iff] at h
  obtain ⟨⟨⟨hfull, ⟨⟨⟨hd, hh⟩, he⟩, hr⟩, hp⟩, hstatuses⟩, hpending⟩ := h
  rw [Option.isSome_eq_false_iff, Option.isNone_iff_eq_none] at hpending
  have hbase : s.base.1.parts = {} ∧ s.base.1.connectionStatuses = [] := by
    unfold base
    rw [hpending]
    exact ⟨rfl, rfl⟩
  refine ⟨?_, ?_⟩
  · show (s.outbox.fill s.uid s.base.1).parts = _
    unfold Outbox.fill Report.parts Part.carry
    rw [hfull, hd, hh, he, hr, hp]
    exact hbase.1
  · show s.base.1.connectionStatuses ++ s.outbox.connectionStatuses = _
    rw [hbase.2, hstatuses]
    rfl

end ManagedAgent
