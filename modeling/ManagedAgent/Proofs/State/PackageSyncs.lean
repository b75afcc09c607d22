import ManagedAgent.Proofs.State.Operation
import Mathlib.Data.List.Induction

/-!
# What the state remembers of the package offers

An offer that is taken up begins a sync, and every sync has a handle that says how it ended; syncs of
several offers may run side by side, and a handle may say so more than once. `Syncs` keeps the
history of all that beside the state, which has room for one offer that is being synced, one that is
acknowledged and one that failed.

* `Remembers.step` : what the state remembers, read off the history;
* `open_sync_is_refused_iff` : an offer that is being synced is not taken up again exactly while it
  is the one taken up last;
* `overtaken_sync_begins_again` : once another offer is taken up, it is synced twice at a time.
-/

set_option autoImplicit false

namespace ManagedAgent.State

inductive OfferStep where
  /-- The server offers packages. -/
  | offer (hash : Bytes)
  /-- The handle of a sync says how the sync has ended. -/
  | finish (sync : Nat) (outcome : SyncOutcome)
  deriving DecidableEq

inductive SyncEvent where
  | began (hash : Bytes)
  | ended (sync : Nat) (hash : Bytes) (outcome : SyncOutcome)
  deriving DecidableEq

namespace SyncEvent

def begun? : SyncEvent → Option Bytes
  | .began hash => some hash
  | .ended .. => none

def done? : SyncEvent → Option Bytes
  | .ended _ hash .done => some hash
  | _ => none

/-- A sync is done, or the one of this offer has failed. -/
def verdict? : SyncEvent → Option (Option Bytes)
  | .ended _ _ .done => some none
  | .ended _ hash .failed => some (some hash)
  | _ => none

/-- The handle of this sync says that it has ended. -/
def closes (sync : Nat) : SyncEvent → Bool
  | .began _ => false
  | .ended n _ _ => n == sync

/-- No sync begins, and none of this offer ends. -/
def leaves (hash : Bytes) : SyncEvent → Bool
  | .began _ => false
  | .ended _ h _ => h != hash

end SyncEvent

def begun (history : List SyncEvent) : List Bytes := history.filterMap (·.begun?)

/-- The sync of this number is one of the offer, and has not ended. -/
def IsOpen (history : List SyncEvent) (sync : Nat) (hash : Bytes) : Prop :=
  (begun history)[sync]? = some hash ∧ ∀ e ∈ history, e.closes sync = false

instance (history : List SyncEvent) (sync : Nat) (hash : Bytes) :
    Decidable (IsOpen history sync hash) := inferInstanceAs (Decidable (_ ∧ _))

def IsOnly (history : List SyncEvent) (sync : Nat) (hash : Bytes) : Prop :=
  ∀ n, (begun history)[n]? = some hash → n = sync

/-- The offer is the one taken up last, and no sync of it has ended since. -/
def Stands (history : List SyncEvent) (hash : Bytes) : Prop :=
  ∃ before later, history = before ++ .began hash :: later ∧ ∀ e ∈ later, e.leaves hash = true

/-- The offer that is acknowledged: the one done last, or at first the one resumed with. -/
def acknowledged (first : Option Bytes) (history : List SyncEvent) : Option Bytes :=
  (history.filterMap (·.done?)).getLast?.or first

/-- The offer that failed, unless a sync was done since. -/
def failed (history : List SyncEvent) : Option Bytes :=
  (history.filterMap (·.verdict?)).getLast?.join

structure Syncs where
  state : State
  history : List SyncEvent := []

namespace Syncs

def start (settings : StartSettings) (fresh : String) : Syncs := { state := .start settings fresh }

/-- Only a sync that has begun has a handle. -/
def step (r : Syncs) : OfferStep → Syncs
  | .offer hash =>
    let (isNew, state) := r.state.beginSync hash
    { state, history := if isNew then r.history ++ [.began hash] else r.history }
  | .finish sync outcome =>
    match (begun r.history)[sync]? with
    | some hash =>
      { state := r.state.endSync hash outcome, history := r.history ++ [.ended sync hash outcome] }
    | none => r

def after (r : Syncs) (steps : List OfferStep) : Syncs := steps.foldl step r

end Syncs

/-! ## Histories that grow by one event -/

section Histories

theorem begun_concat (history : List SyncEvent) (e : SyncEvent) :
    begun (history ++ [e]) = begun history ++ e.begun?.toList := by
  rw [begun, List.filterMap_append]
  cases e <;> rfl

theorem acknowledged_concat (first : Option Bytes) (history : List SyncEvent) (e : SyncEvent) :
    acknowledged first (history ++ [e]) = e.done?.or (acknowledged first history) := by
  rw [acknowledged, List.filterMap_append, List.getLast?_append, List.filterMap_cons]
  cases e.done? <;> rfl

theorem failed_concat (history : List SyncEvent) (e : SyncEvent) :
    failed (history ++ [e]) = e.verdict?.getD (failed history) := by
  rw [failed, List.filterMap_append, List.getLast?_append, List.filterMap_cons]
  cases e.verdict? <;> rfl

theorem stands_concat (history : List SyncEvent) (e : SyncEvent) (hash : Bytes) :
    Stands (history ++ [e]) hash ↔
      e = .began hash ∨ (Stands history hash ∧ e.leaves hash = true) := by
  constructor
  · rintro ⟨before, later, heq, hlater⟩
    rcases List.eq_nil_or_concat later with rfl | ⟨later, d, rfl⟩
    · exact .inl (List.singleton_inj.1 (List.append_inj_right' heq rfl))
    · have hcut : history ++ [e] = (before ++ .began hash :: later) ++ [d] := by simpa using heq
      obtain ⟨hhistory, hlast⟩ := List.append_inj' hcut rfl
      obtain rfl := List.singleton_inj.1 hlast
      exact .inr ⟨⟨before, later, hhistory, fun x hx => hlater x (by simp [hx])⟩,
        hlater e (by simp)⟩
  · rintro (rfl | ⟨⟨before, later, rfl, hlater⟩, he⟩)
    · exact ⟨history, [], rfl, nofun⟩
    · refine ⟨before, later ++ [e], by simp, fun x hx => ?_⟩
      rcases List.mem_append.1 hx with hx | hx
      · exact hlater x hx
      · rwa [List.mem_singleton.1 hx]

theorem exists_failed {history : List SyncEvent} {hash : Bytes} (h : failed history = some hash) :
    ∃ sync, .ended sync hash .failed ∈ history := by
  have hlast := Option.join_eq_some_iff.1 h
  obtain ⟨e, he, hverdict⟩ := List.mem_filterMap.1 (List.mem_of_getLast? hlast)
  cases e with
  | began => cases hverdict
  | ended sync hash' outcome =>
    cases outcome <;> cases hverdict
    exact ⟨sync, he⟩

/-- Where no sync of an offer has ended, the offer is the one taken up last exactly when it still
stands. -/
theorem stands_iff_of_not_ended {history : List SyncEvent} {hash : Bytes}
    (h : ∀ sync outcome, .ended sync hash outcome ∉ history) :
    Stands history hash ↔ (begun history).getLast? = some hash := by
  induction history using List.reverseRecOn with
  | nil => simp [Stands, begun]
  | append_singleton history e ih =>
    have hbefore := ih fun sync outcome hmem => h sync outcome (List.mem_append_left _ hmem)
    rw [stands_concat, hbefore, begun_concat]
    cases e with
    | began hash' => simp [SyncEvent.leaves, SyncEvent.begun?]
    | ended sync hash' outcome =>
      have hother : hash' ≠ hash := by
        rintro rfl
        exact h sync outcome (by simp)
      simp [SyncEvent.leaves, SyncEvent.begun?, hother]

end Histories

/-! ## What the state remembers -/

/-- The state remembers no more of the history than these three offers. -/
structure Remembers (first : Option Bytes) (r : Syncs) : Prop where
  syncing : ∀ hash, r.state.packages.syncing = some hash ↔ Stands r.history hash
  acknowledged : r.state.packages.acknowledged = acknowledged first r.history
  failed : r.state.packages.failed = failed r.history
  /-- A sync ends as one of the offer that it began with. -/
  handles : ∀ sync hash outcome, .ended sync hash outcome ∈ r.history →
    (begun r.history)[sync]? = some hash
  /-- Nothing that is acknowledged is taken up. -/
  fresh : ∀ hash ∈ begun r.history, (∀ sync, .ended sync hash .done ∉ r.history) →
    r.state.packages.acknowledged ≠ some hash

section Runs
variable {first : Option Bytes} {r : Syncs}

theorem isKnown_iff {p : PackageSync} {hash : Bytes} :
    p.isKnown hash = true ↔
      p.syncing = some hash ∨ p.acknowledged = some hash ∨ p.failed = some hash := by
  simp only [PackageSync.isKnown, Bool.or_eq_true, beq_iff_eq]
  rw [or_assoc, or_left_comm]

/-- An offer is refused exactly when it is known. -/
theorem beginSync_eq (s : State) (hash : Bytes) :
    s.beginSync hash =
      if s.packages.isKnown hash then (false, s)
      else (true, { s with packages := { s.packages with syncing := some hash } }) := by
  unfold beginSync PackageSync.claim
  cases s.packages.isKnown hash <;> rfl

theorem beginSync_fst (s : State) (hash : Bytes) :
    (s.beginSync hash).1 = false ↔ s.packages.isKnown hash = true := by
  rw [beginSync_eq]
  split <;> simp_all

theorem endSync_packages (s : State) (hash : Bytes) (outcome : SyncOutcome) :
    (s.endSync hash outcome).packages = s.packages.finish hash outcome := by
  unfold endSync
  split <;> rfl

theorem finish_syncing (p : PackageSync) (hash : Bytes) (outcome : SyncOutcome) :
    (p.finish hash outcome).syncing = if p.syncing = some hash then none else p.syncing := by
  cases outcome <;> simp only [PackageSync.finish] <;> split <;> rfl

theorem finish_acknowledged (p : PackageSync) (sync : Nat) (hash : Bytes) (outcome : SyncOutcome) :
    (p.finish hash outcome).acknowledged =
      (SyncEvent.ended sync hash outcome).done?.or p.acknowledged := by
  unfold PackageSync.finish
  cases outcome <;> by_cases h : p.syncing = some hash <;> simp only [h, if_true, if_false] <;> rfl

theorem finish_failed (p : PackageSync) (sync : Nat) (hash : Bytes) (outcome : SyncOutcome) :
    (p.finish hash outcome).failed =
      (SyncEvent.ended sync hash outcome).verdict?.getD p.failed := by
  unfold PackageSync.finish
  cases outcome <;> by_cases h : p.syncing = some hash <;> simp only [h, if_true, if_false] <;> rfl

theorem remembers_start (settings : StartSettings) (fresh : String) :
    Remembers settings.lastPackagesHash (Syncs.start settings fresh) where
  syncing hash := by simp [Syncs.start, State.start, Stands]
  acknowledged := rfl
  failed := rfl
  handles := by simp [Syncs.start]
  fresh := by simp [Syncs.start, begun]

/-- An offer that is not known begins a sync. -/
theorem Remembers.began {hash : Bytes} (h : Remembers first r)
    (hnew : r.state.packages.isKnown hash = false) :
    Remembers first
      { state := { r.state with packages := { r.state.packages with syncing := some hash } }
        history := r.history ++ [.began hash] } where
  syncing hash' := by
    rw [stands_concat]
    simp [SyncEvent.leaves]
  acknowledged := by rw [acknowledged_concat]; exact h.acknowledged
  failed := by rw [failed_concat]; exact h.failed
  handles sync hash' outcome hmem := by
    have hold : .ended sync hash' outcome ∈ r.history := by simpa using hmem
    have hbegun := h.handles sync hash' outcome hold
    rw [begun_concat, List.getElem?_append_left (List.getElem?_eq_some_iff.1 hbegun).1]
    exact hbegun
  fresh hash' hmem hdone := by
    rw [begun_concat] at hmem
    rcases List.mem_append.1 hmem with hmem | hmem
    · exact h.fresh hash' hmem fun sync hsync => hdone sync (List.mem_append_left _ hsync)
    · obtain rfl : hash' = hash := by simpa [SyncEvent.begun?] using hmem
      intro hack
      have hknown : r.state.packages.isKnown hash' = true := isKnown_iff.2 (.inr (.inl hack))
      rw [hnew] at hknown
      cases hknown

/-- The handle of a sync says how it has ended. -/
theorem Remembers.ended {sync : Nat} {hash : Bytes} (outcome : SyncOutcome)
    (h : Remembers first r) (hbegun : (begun r.history)[sync]? = some hash) :
    Remembers first
      { state := r.state.endSync hash outcome
        history := r.history ++ [.ended sync hash outcome] } where
  syncing hash' := by
    rw [stands_concat, ← h.syncing]
    simp only [endSync_packages, finish_syncing, SyncEvent.leaves]
    grind
  acknowledged := by
    rw [acknowledged_concat, ← h.acknowledged, ← finish_acknowledged, ← endSync_packages]
  failed := by rw [failed_concat, ← h.failed, ← finish_failed, ← endSync_packages]
  handles sync' hash' outcome' hmem := by
    rw [begun_concat, show SyncEvent.begun? (.ended sync hash outcome) = none from rfl]
    rcases List.mem_append.1 hmem with hmem | hmem
    · simpa using h.handles sync' hash' outcome' hmem
    · cases List.mem_singleton.1 hmem
      simpa using hbegun
  fresh hash' hmem hdone := by
    rw [begun_concat, show SyncEvent.begun? (.ended sync hash outcome) = none from rfl] at hmem
    have hold := h.fresh hash' (by simpa using hmem) fun n hn =>
      hdone n (List.mem_append_left _ hn)
    simp only [endSync_packages, finish_acknowledged _ sync]
    cases outcome with
    | done =>
      rintro ⟨⟩
      exact hdone sync (by simp)
    | failed | cancelled => exact hold

theorem Remembers.step (h : Remembers first r) (step : OfferStep) :
    Remembers first (r.step step) := by
  cases step with
  | offer hash =>
    simp only [Syncs.step, beginSync_eq]
    cases hknown : r.state.packages.isKnown hash with
    | true => exact h
    | false => exact h.began hknown
  | finish sync outcome =>
    simp only [Syncs.step]
    split
    · next hbegun => exact h.ended outcome hbegun
    · exact h

theorem Remembers.after (h : Remembers first r) (steps : List OfferStep) :
    Remembers first (r.after steps) := by
  induction steps generalizing r with
  | nil => exact h
  | cons step steps ih => exact ih (h.step step)

theorem Remembers.beginSync_iff (h : Remembers first r) (hash : Bytes) :
    (r.state.beginSync hash).1 = false ↔
      Stands r.history hash ∨ State.acknowledged first r.history = some hash ∨
        State.failed r.history = some hash := by
  rw [beginSync_fst, isKnown_iff, h.syncing, h.acknowledged, h.failed]

/-- The only sync of an offer, while it is open, is all that the state knows the offer by. -/
theorem Remembers.beginSync_iff_of_only {sync : Nat} {hash : Bytes} (h : Remembers first r)
    (hopen : IsOpen r.history sync hash) (honly : IsOnly r.history sync hash) :
    (r.state.beginSync hash).1 = false ↔ (begun r.history).getLast? = some hash := by
  have hended : ∀ n outcome, .ended n hash outcome ∉ r.history := by
    intro n outcome hmem
    have hcloses := hopen.2 _ hmem
    simp [SyncEvent.closes, honly n (h.handles n hash outcome hmem)] at hcloses
  have hack : State.acknowledged first r.history ≠ some hash := by
    rw [← h.acknowledged]
    exact h.fresh hash (List.mem_of_getElem? hopen.1) fun n => hended n .done
  have hfailed : State.failed r.history ≠ some hash := by
    intro hfailed
    obtain ⟨n, hmem⟩ := exists_failed hfailed
    exact hended n .failed hmem
  rw [h.beginSync_iff, ← stands_iff_of_not_ended hended]
  simp only [hack, hfailed, or_false]

/-- An offer is refused exactly while it is the one taken up last and no sync of it has ended since,
or it is acknowledged, or it failed. So an offer whose only sync goes on is refused exactly until
another one is taken up. -/
theorem open_sync_is_refused_iff (settings : StartSettings) (fresh : String)
    (steps : List OfferStep) :
    let r := (Syncs.start settings fresh).after steps
    (∀ hash, (r.state.beginSync hash).1 = false ↔
      Stands r.history hash ∨ acknowledged settings.lastPackagesHash r.history = some hash ∨
        failed r.history = some hash) ∧
    ∀ sync hash, IsOpen r.history sync hash → IsOnly r.history sync hash →
      ((r.state.beginSync hash).1 = false ↔ (begun r.history).getLast? = some hash) :=
  have h := (remembers_start settings fresh).after steps
  ⟨h.beginSync_iff, fun _ _ => h.beginSync_iff_of_only⟩

theorem open_sync_is_refused_iff_alone :
    let r := (Syncs.start { serverUrl := "" } "agent").after [.offer [1]]
    IsOpen r.history 0 [1] ∧ IsOnly r.history 0 [1] ∧ (r.state.beginSync [1]).1 = false := by
  intro r
  have hopen : IsOpen r.history 0 [1] := by decide
  have honly : IsOnly r.history 0 [1] := by
    intro n hn
    exact Nat.lt_one_iff.1 (List.getElem?_eq_some_iff.1 hn).1
  have hrefused := (open_sync_is_refused_iff { serverUrl := "" } "agent" [.offer [1]]).2 0 [1]
  exact ⟨hopen, honly, (hrefused hopen honly).2 (by decide)⟩

/-- The sync of `[1]` goes on when `[2]` is taken up, and `[1]` is taken up again beside it. -/
theorem overtaken_sync_begins_again :
    let r := (Syncs.start { serverUrl := "" } "agent").after [.offer [1], .offer [2]]
    IsOpen r.history 0 [1] ∧ (r.state.beginSync [1]).1 = true := by
  decide

end Runs

end ManagedAgent.State
