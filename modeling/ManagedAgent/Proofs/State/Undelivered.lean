import ManagedAgent.Proofs.State.ServerView

/-!
# A report that is not delivered

A report that did not get through is assembled again, as often as it takes. Each time it may tell
more, and it takes nothing back.

* `Outbox.Follows.grows` : what the pending report carries is carried by the next one;
* `Outbox.TellsAll.apply` : a report that would tell everything does so until it is delivered;
* `undelivered_report_only_grows` : both, however often the report is assembled.
-/

set_option autoImplicit false

namespace ManagedAgent

/-! ## Reports that grow -/

/-- Every part that is present in `earlier` is present in `later`, be it with another value. -/
structure Parts.StayIn (earlier later : Parts) : Prop where
  description : earlier.description.isSome → later.description.isSome
  health : earlier.health.isSome → later.health.isSome
  effectiveConfig : earlier.effectiveConfig.isSome → later.effectiveConfig.isSome
  remoteConfigStatus : earlier.remoteConfigStatus.isSome → later.remoteConfigStatus.isSome
  packageStatuses : earlier.packageStatuses.isSome → later.packageStatuses.isSome

/-- The later report takes the place of the earlier one. -/
structure Report.Grows (earlier later : Report) : Prop where
  number : later.sequenceNumber = earlier.sequenceNumber
  parts : earlier.parts.StayIn later.parts
  statuses : earlier.connectionStatuses <+: later.connectionStatuses

theorem Report.Grows.refl (r : Report) : r.Grows r :=
  ⟨rfl, ⟨id, id, id, id, id⟩, List.prefix_rfl⟩

theorem Report.Grows.trans {r₁ r₂ r₃ : Report} (h₁ : r₁.Grows r₂) (h₂ : r₂.Grows r₃) :
    r₁.Grows r₃ where
  number := h₂.number.trans h₁.number
  parts :=
    ⟨h₂.parts.description ∘ h₁.parts.description, h₂.parts.health ∘ h₁.parts.health,
      h₂.parts.effectiveConfig ∘ h₁.parts.effectiveConfig,
      h₂.parts.remoteConfigStatus ∘ h₁.parts.remoteConfigStatus,
      h₂.parts.packageStatuses ∘ h₁.parts.packageStatuses⟩
  statuses := h₁.statuses.trans h₂.statuses

/-- A part without a value was never sent, so what the pending report carries is not lost. -/
theorem Part.Followed.isSome_carry {α : Type} {p : Part α} {full : Bool} {carried copy : Option α}
    (h : p.Followed full carried copy) (hc : carried.isSome) : (p.carry full carried).isSome := by
  unfold Part.carry
  split
  · cases hv : p.value with
    | none =>
      rw [(h.unsent hv).1] at hc
      cases hc
    | some v => rfl
  · exact hc

/-- Assembled once more, the pending report grows. -/
theorem Outbox.Follows.grows {s : State} {copy : Parts} {r : Report} (h : s.outbox.Follows copy)
    (hr : s.outbox.pending = some r) : r.Grows s.nextReport.1 := by
  have hbase : s.base.1 = r := by
    unfold State.base
    rw [hr]
  have hcarried : s.outbox.carried = r.parts := by
    unfold Outbox.carried
    rw [hr]
  obtain ⟨hd, hh, he, hs, hp⟩ := h
  rw [hcarried] at hd hh he hs hp
  subst hbase
  exact ⟨rfl, ⟨hd.isSome_carry, hh.isSome_carry, he.isSome_carry, hs.isSome_carry, hp.isSome_carry⟩,
    List.prefix_append _ _⟩

/-! ## A report that tells everything -/

/-- The next report carries every part as it is. -/
structure Outbox.TellsAll (o : Outbox) : Prop where
  description : o.description.carry o.fullState o.carried.description = o.description.value
  health : o.health.carry o.fullState o.carried.health = o.health.value
  effectiveConfig :
    o.effectiveConfig.carry o.fullState o.carried.effectiveConfig = o.effectiveConfig.value
  remoteConfigStatus :
    o.remoteConfigStatus.carry o.fullState o.carried.remoteConfigStatus = o.remoteConfigStatus.value
  packageStatuses :
    o.packageStatuses.carry o.fullState o.carried.packageStatuses = o.packageStatuses.value

namespace State
variable {s : State} {op : Operation} {ops : List Operation}

def Operation.delivers (s : State) : Operation → Bool
  | .delivered number => (s.confirmed? number).isSome
  | _ => false

/-- None of the operations lets the report go that is pending by then. -/
def Withholds (s : State) : List Operation → Prop
  | [] => True
  | op :: ops => op.delivers s = false ∧ (s.apply op).Withholds ops

theorem delivered_of_not_delivers {number : UInt64}
    (h : (Operation.delivered number).delivers s = false) : s.delivered number = s :=
  delivered_of_not_confirmed (Option.isNone_iff_eq_none.1 (Option.isSome_eq_false_iff.1 h))

/-- The pending report stays as it is, or is assembled once more. -/
theorem pending_apply (h : op.delivers s = false) :
    (s.apply op).outbox.pending = s.outbox.pending ∨
      (s.apply op).outbox.pending = some s.nextReport.1 := by
  cases op with
  | nextReport => exact .inr rfl
  | delivered number =>
    left
    show (s.delivered number).outbox.pending = _
    rw [delivered_of_not_delivers h]
  | setEffectiveConfig c =>
    left
    show (s.setEffectiveConfig c).2.outbox.pending = _
    rcases s.setEffectiveConfig_snd c with hs | hs
    all_goals rw [hs]
  | endSync hash outcome =>
    left
    show (s.endSync hash outcome).outbox.pending = _
    unfold endSync
    dsimp only
    split <;> rfl
  | _ => exact .inl rfl

end State

namespace Outbox.TellsAll
variable {s : State}

theorem parts_nextReport (h : s.outbox.TellsAll) : s.nextReport.1.parts = s.parts := by
  have hb := s.parts_base
  obtain ⟨hd, hh, he, hs, hp⟩ := h
  rw [← hb] at hd hh he hs hp
  unfold State.parts
  rw [← hd, ← hh, ← he, ← hs, ← hp]
  rfl

theorem of_fullState {o : Outbox} (h : o.fullState = true) : o.TellsAll := by
  constructor
  all_goals
    rw [h]
    rfl

/-- What a report has told it has, and nothing is left to be told. -/
theorem nextReport (h : s.outbox.TellsAll) : s.nextReport.2.outbox.TellsAll := by
  have hb := s.parts_base
  obtain ⟨hd, hh, he, hs, hp⟩ := h
  rw [← hb] at hd hh he hs hp
  exact ⟨hd, hh, he, hs, hp⟩

theorem modifyPackageStatuses (h : s.outbox.TellsAll) (f : PackageStatuses → PackageStatuses) :
    (s.modifyPackageStatuses f).outbox.TellsAll :=
  { h with packageStatuses := if_pos (Bool.or_true _) }

theorem endSync (h : s.outbox.TellsAll) (hash : Bytes) (outcome : SyncOutcome) :
    (s.endSync hash outcome).outbox.TellsAll := by
  unfold State.endSync
  split
  · exact modifyPackageStatuses (s := { s with packages := s.packages.finish hash outcome }) h _
  · exact h

theorem setEffectiveConfig (h : s.outbox.TellsAll) (c : EffectiveConfig) :
    (s.setEffectiveConfig c).2.outbox.TellsAll := by
  rcases s.setEffectiveConfig_snd c with hs | hs
  · rwa [hs]
  · rw [hs]
    exact { h with effectiveConfig := if_pos (Bool.or_true _) }

/-- A change of a part is told with the part, and the others stay as they were told. -/
theorem apply (h : s.outbox.TellsAll) {op : State.Operation} (ho : op.delivers s = false) :
    (s.apply op).outbox.TellsAll := by
  cases op with
  | nextReport => exact h.nextReport
  | delivered number =>
    show (s.delivered number).outbox.TellsAll
    rwa [State.delivered_of_not_delivers ho]
  | requestFullState => exact of_fullState rfl
  | setDescription d => exact { h with description := if_pos (Bool.or_true _) }
  | setHealth a => exact { h with health := if_pos (Bool.or_true _) }
  | setEffectiveConfig c => exact h.setEffectiveConfig c
  | setRemoteConfigStatus status =>
    exact { h with remoteConfigStatus := if_pos (Bool.or_true _) }
  | setPackageStatus status => exact h.modifyPackageStatuses _
  | setPackagesError error => exact h.modifyPackageStatuses _
  | endSync hash outcome => exact h.endSync hash outcome
  | setUid | recordConnectionStatus | setConnection | resolveOffer | beginSync | notify
  | setWakeup =>
    exact ⟨h.description, h.health, h.effectiveConfig, h.remoteConfigStatus, h.packageStatuses⟩

end Outbox.TellsAll

/-! ## Until the report is delivered -/

namespace State
variable {s : State} {op : Operation} {ops : List Operation}

theorem grows_apply {copy : Parts} {r : Report} (hs : s.outbox.Follows copy)
    (ho : op.delivers s = false) (hr : s.outbox.pending = some r) :
    ∃ r', (s.apply op).outbox.pending = some r' ∧ r.Grows r' := by
  rcases pending_apply ho with hp | hp
  · exact ⟨r, hp.trans hr, .refl r⟩
  · exact ⟨s.nextReport.1, hp, hs.grows hr⟩

/-- While it is not delivered, the pending report grows with every operation, and so with the next
assembly. -/
theorem grows_after {copy : Parts} {r : Report} (hs : s.outbox.Follows copy)
    (hops : s.Withholds ops) (hr : s.outbox.pending = some r) :
    r.Grows (s.after ops).nextReport.1 := by
  induction ops generalizing s copy r with
  | nil => exact hs.grows hr
  | cons op ops ih =>
    obtain ⟨ho, hrest⟩ := hops
    obtain ⟨r', hr', hgrows⟩ := grows_apply hs ho hr
    exact hgrows.trans (ih (Watched.follows_apply (w := ⟨s, copy⟩) hs op) hrest hr')

theorem tellsAll_after (hops : s.Withholds ops) (h : s.outbox.TellsAll) :
    (s.after ops).outbox.TellsAll := by
  induction ops generalizing s with
  | nil => exact h
  | cons op ops ih => exact ih hops.2 (h.apply hops.1)

/-- From a request for everything on, until a report is delivered, everything is told. -/
theorem tellsAll_of_requested (hops : s.Withholds ops)
    (h : s.outbox.fullState = true ∨ .requestFullState ∈ ops) : (s.after ops).outbox.TellsAll := by
  rcases h with h | h
  · exact tellsAll_after hops (.of_fullState h)
  · induction ops generalizing s with
    | nil => contradiction
    | cons op ops ih =>
      rcases List.mem_cons.1 h with rfl | h
      · exact tellsAll_after (s := s.requestFullState) hops.2 (.of_fullState rfl)
      · exact ih hops.2 h

/-- **A report that is not delivered only grows.** Whatever happens between two assemblies of a
report but its delivery, the later one has the same number, every part that the earlier one had, with
the value of the moment, and the statuses of the earlier one in front of its own. Once everything was
requested, each assembly up to the next delivery has every part that the session has. -/
theorem undelivered_report_only_grows (settings : StartSettings) (fresh : String)
    (before later : List Operation) :
    let s := (start settings fresh).after before
    (s.nextReport.2.Withholds later →
      let t := s.nextReport.2.after later
      s.nextReport.1.Grows t.nextReport.1 ∧ t.nextReport.1.parts.IsIn t.parts) ∧
    (s.Withholds later → s.outbox.fullState = true ∨ .requestFullState ∈ later →
      (s.after later).nextReport.1.parts = (s.after later).parts) := by
  intro s
  obtain ⟨copy, hs⟩ := (Outbox.Follows.start settings fresh).after before
  obtain ⟨copy', ht⟩ := hs.nextReport.after later
  exact ⟨fun hops => ⟨grows_after hs.nextReport hops rfl, ht.parts_nextReport⟩,
    fun hops hfull => (tellsAll_of_requested hops hfull).parts_nextReport⟩

/-- The description is told first; the health and a status come with the second attempt, and after a
request all that there is with the third. -/
def thriceAssembled : List Operation :=
  [.setHealth { healthy := true },
    .recordConnectionStatus { kind := .management, verdict := .accepted }, .nextReport,
    .setPackagesError "disk full", .delivered 7, .requestFullState, .setHealth {}]

theorem withholds_thriceAssembled :
    ((start { serverUrl := "a", description := some {} } "agent").nextReport.2).Withholds
      thriceAssembled :=
  ⟨rfl, rfl, rfl, rfl, rfl, rfl, rfl, trivial⟩

theorem undelivered_report_only_grows_thrice :
    let s := start { serverUrl := "a", description := some {} } "agent"
    let t := s.nextReport.2.after thriceAssembled
    s.nextReport.2.Withholds thriceAssembled ∧ .requestFullState ∈ thriceAssembled ∧
      s.nextReport.1.Grows t.nextReport.1 ∧ t.nextReport.1.parts = t.parts ∧
      t.nextReport.1.parts.description = some {} ∧
      t.nextReport.1.connectionStatuses = [{ kind := .management, verdict := .accepted }] :=
  have hmem : .requestFullState ∈ thriceAssembled := by simp [thriceAssembled]
  have h := undelivered_report_only_grows { serverUrl := "a", description := some {} } "agent"
  ⟨withholds_thriceAssembled, hmem, ((h [] thriceAssembled).1 withholds_thriceAssembled).1,
    (h [.nextReport] thriceAssembled).2 withholds_thriceAssembled (.inr hmem), rfl, rfl⟩

end State

end ManagedAgent
