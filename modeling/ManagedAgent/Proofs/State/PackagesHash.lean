import ManagedAgent.Proofs.State.PackageSyncs
import ManagedAgent.Proofs.State.ServerView

/-!
# Which packages the server is told of

The packages that the agent acts on are known by a hash. The state has it twice: with the offers, so
that one that is acknowledged is not taken up again, and with what is reported about packages. Only
the first of them takes over the hash that an agent resumes with.

* `TellsLast.apply` : an operation that acknowledges an offer has its hash reported, and any other
  one changes neither;
* `reported_hash_is_acknowledged_iff` : the server is told the acknowledged hash exactly if an offer
  was acknowledged in this session, or the agent did not resume with one;
* `resumed_hash_is_not_reported` : else the server is told that there is none.
-/

set_option autoImplicit false

namespace ManagedAgent.State

def Operation.done? : Operation → Option Bytes
  | .endSync hash .done => some hash
  | _ => none

def acknowledgments (ops : List Operation) : List Bytes := ops.filterMap (·.done?)

/-- The state goes by the offer that was acknowledged `last`, and before any by the one that the
agent resumed with; what it reports about packages goes by the last one alone. -/
structure TellsLast (resumed last : Option Bytes) (s : State) : Prop where
  acknowledged : s.packages.acknowledged = last.or resumed
  told : (s.outbox.packageStatuses.value.getD {}).allHash = last.getD []

namespace TellsLast
variable {resumed last : Option Bytes} {s : State}

theorem start (settings : StartSettings) (fresh : String) :
    TellsLast settings.lastPackagesHash none (start settings fresh) :=
  ⟨rfl, rfl⟩

theorem modifyPackageStatuses (h : TellsLast resumed last s)
    (f : PackageStatuses → PackageStatuses) (hf : ∀ p, (f p).allHash = p.allHash) :
    TellsLast resumed last (s.modifyPackageStatuses f) :=
  ⟨h.acknowledged, (hf _).trans h.told⟩

theorem beginSync (h : TellsLast resumed last s) (hash : Bytes) :
    TellsLast resumed last (s.beginSync hash).2 := by
  refine ⟨?_, h.told⟩
  rw [← h.acknowledged]
  show (s.packages.claim hash).2.acknowledged = _
  unfold PackageSync.claim
  split <;> rfl

theorem endSync (h : TellsLast resumed last s) (hash : Bytes) (outcome : SyncOutcome) :
    TellsLast resumed ((Operation.endSync hash outcome).done?.or last) (s.endSync hash outcome) := by
  have hfinish := finish_acknowledged s.packages 0 hash outcome
  cases outcome with
  | done => exact ⟨hfinish, rfl⟩
  | failed | cancelled => exact ⟨hfinish.trans h.acknowledged, h.told⟩

theorem apply (h : TellsLast resumed last s) (op : Operation) :
    TellsLast resumed (op.done?.or last) (s.apply op) := by
  cases op with
  | setPackageStatus status =>
    exact h.modifyPackageStatuses
      (fun p => { p with packages := p.packages.insert status.name status }) fun _ => rfl
  | setPackagesError error => exact h.modifyPackageStatuses ({ · with error }) fun _ => rfl
  | beginSync hash => exact h.beginSync hash
  | endSync hash outcome => exact h.endSync hash outcome
  | delivered number =>
    show TellsLast resumed last (s.delivered number)
    cases hc : s.confirmed? number with
    | none => rwa [delivered_of_not_confirmed hc]
    | some r =>
      rw [delivered_of_confirmed hc]
      exact ⟨h.acknowledged, h.told⟩
  | setEffectiveConfig c =>
    show TellsLast resumed last (s.setEffectiveConfig c).2
    rcases s.setEffectiveConfig_snd c with hs | hs
    · rwa [hs]
    · rw [hs]
      exact ⟨h.acknowledged, h.told⟩
  | _ => exact ⟨h.acknowledged, h.told⟩

theorem after (h : TellsLast resumed last s) (ops : List Operation) :
    TellsLast resumed ((acknowledgments ops).getLast?.or last) (s.after ops) := by
  induction ops generalizing s last with
  | nil => exact h
  | cons op ops ih =>
    have hlast : (acknowledgments (op :: ops)).getLast?.or last =
        (acknowledgments ops).getLast?.or (op.done?.or last) := by
      unfold acknowledgments
      rw [List.filterMap_cons]
      cases op.done? with
      | none => rfl
      | some hash =>
        rw [List.getLast?_cons]
        cases (ops.filterMap (·.done?)).getLast? <;> rfl
    rw [hlast]
    exact ih (h.apply op)

end TellsLast

/-- The state acknowledges the last offer that was done, and before any the one it resumed with. A
report about packages names the last offer that was done and no other. So the server is told what is
acknowledged exactly if an offer was done since the start, or the agent did not resume with one. -/
theorem reported_hash_is_acknowledged_iff (settings : StartSettings) (fresh : String)
    (ops : List Operation) :
    let s := (start settings fresh).after ops
    s.packages.acknowledged = (acknowledgments ops).getLast?.or settings.lastPackagesHash ∧
      ∀ p, s.nextReport.1.packageStatuses = some p →
        p.allHash = (acknowledgments ops).getLast?.getD [] ∧
        (p.allHash = s.packages.acknowledged.getD [] ↔
          acknowledgments ops ≠ [] ∨ settings.lastPackagesHash.getD [] = []) := by
  intro s
  have h := (TellsLast.start settings fresh).after ops
  rw [Option.or_none] at h
  refine ⟨h.acknowledged, fun p hp => ?_⟩
  obtain ⟨copy, hfollows⟩ := (Outbox.Follows.start settings fresh).after ops
  have hvalue : s.outbox.packageStatuses.value = some p :=
    hfollows.parts_nextReport.2.2.2.2 p hp
  have htold : p.allHash = (acknowledgments ops).getLast?.getD [] := by
    rw [← h.told, hvalue]
    rfl
  refine ⟨htold, ?_⟩
  rw [htold, h.acknowledged]
  cases hlast : (acknowledgments ops).getLast? with
  | none =>
    have hnil : acknowledgments ops = [] := List.getLast?_eq_none_iff.1 hlast
    rw [hnil]
    exact ⟨fun heq => .inr heq.symm, fun hor => (hor.resolve_left fun hne => hne rfl).symm⟩
  | some hash =>
    have hne : acknowledgments ops ≠ [] := fun hnil => by
      rw [hnil] at hlast
      cases hlast
    exact iff_of_true rfl (.inl hne)

/-- An offer is done in a session that resumed with another one. -/
theorem reported_hash_is_acknowledged_iff_done :
    let ops : List Operation := [.beginSync [8], .endSync [8] .done, .nextReport]
    let s := (start { serverUrl := "a", lastPackagesHash := some [7] } "agent").after ops
    s.nextReport.1.packageStatuses = some { allHash := [8] } ∧
      ({ allHash := [8] } : PackageStatuses).allHash = s.packages.acknowledged.getD [] := by
  intro ops s
  have hp : s.nextReport.1.packageStatuses = some { allHash := [8] } := by decide
  have h := (reported_hash_is_acknowledged_iff
    { serverUrl := "a", lastPackagesHash := some [7] } "agent" ops).2 { allHash := [8] } hp
  exact ⟨hp, h.2.2 (.inl (by decide))⟩

/-- The agent resumes with `[7]`, and the packages of `[8]` fail. The offer `[7]` is refused because
it is acknowledged, and the server is told of none. -/
theorem resumed_hash_is_not_reported :
    let s := (start { serverUrl := "a", lastPackagesHash := some [7] } "agent").after
      [.beginSync [8], .setPackagesError "disk full", .endSync [8] .failed]
    s.packages.acknowledged = some [7] ∧ (s.beginSync [7]).1 = false ∧
      s.nextReport.1.packageStatuses = some { allHash := [], error := "disk full" } := by
  decide

end ManagedAgent.State
