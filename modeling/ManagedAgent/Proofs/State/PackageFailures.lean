import ManagedAgent.Proofs.State.PackageSyncs

/-!
# How long a failed package offer waits

The state keeps one offer in mind that failed. Another one takes its place when it fails too, and
every sync that is done clears it, be it of an offer that came before.

* `not_stands_after` : an offer that is refused all the time begins no sync;
* `waits_after` : what only syncs of the offer itself have to say keeps it waiting;
* `failed_offer_waits_iff` : a failed offer is refused exactly while its failure is the last verdict,
  or while it is acknowledged;
* `failed_offer_does_not_wait` : a sync that runs beside it makes it be taken up again.
-/

set_option autoImplicit false

namespace ManagedAgent.State
variable {first : Option Bytes} {r : Syncs} {hash : Bytes} {steps : List OfferStep}

/-- The last verdict is that the offer failed, or the offer is acknowledged. -/
def Waits (first : Option Bytes) (history : List SyncEvent) (hash : Bytes) : Prop :=
  acknowledged first history = some hash ∨ failed history = some hash

instance (first : Option Bytes) (history : List SyncEvent) (hash : Bytes) :
    Decidable (Waits first history hash) := inferInstanceAs (Decidable (_ ∨ _))

/-! ## What a step adds to the history -/

/-- A step is no event, or one: the offer was new, or a sync that has begun says how it ended. -/
inductive Syncs.Adds (r : Syncs) : OfferStep → List SyncEvent → Prop
  | nothing (step : OfferStep) : Adds r step []
  | began (hash : Bytes) (hnew : (r.state.beginSync hash).1 = true) :
    Adds r (.offer hash) [.began hash]
  | ended (sync : Nat) (hash : Bytes) (outcome : SyncOutcome)
    (hbegun : (begun r.history)[sync]? = some hash) :
    Adds r (.finish sync outcome) [.ended sync hash outcome]

theorem Syncs.history_step (r : Syncs) (step : OfferStep) :
    ∃ events, r.Adds step events ∧ (r.step step).history = r.history ++ events := by
  cases step with
  | offer hash =>
    show ∃ events, _ ∧
      (if (r.state.beginSync hash).1 then r.history ++ [.began hash] else r.history) = _
    split
    · next hnew => exact ⟨_, .began hash hnew, rfl⟩
    · exact ⟨[], .nothing _, (List.append_nil _).symm⟩
  | finish sync outcome =>
    unfold step
    dsimp only
    split
    · next hash hbegun => exact ⟨_, .ended sync hash outcome hbegun, rfl⟩
    · exact ⟨[], .nothing _, (List.append_nil _).symm⟩

theorem Syncs.begun_step (r : Syncs) (step : OfferStep) :
    begun r.history <+: begun (r.step step).history := by
  obtain ⟨events, -, hhistory⟩ := r.history_step step
  unfold begun
  rw [hhistory, List.filterMap_append]
  exact List.prefix_append _ _

theorem Syncs.begun_after (r : Syncs) (steps : List OfferStep) :
    begun r.history <+: begun (r.after steps).history := by
  induction steps generalizing r with
  | nil => exact List.prefix_rfl
  | cons step steps ih => exact (r.begun_step step).trans (ih (r.step step))

/-! ## An offer that is refused -/

theorem not_stands_step (h : ¬ Stands r.history hash)
    (hrefused : (r.state.beginSync hash).1 = false) (step : OfferStep) :
    ¬ Stands (r.step step).history hash := by
  obtain ⟨events, hadds, hhistory⟩ := r.history_step step
  rw [hhistory]
  cases hadds with
  | nothing => rwa [List.append_nil]
  | began hash' hnew =>
    rw [stands_concat]
    rintro (he | ⟨-, hleaves⟩)
    · obtain rfl : hash' = hash := by simpa using he
      rw [hrefused] at hnew
      cases hnew
    · cases hleaves
  | ended =>
    rw [stands_concat]
    rintro (he | ⟨hstands, -⟩)
    · cases he
    · exact h hstands

/-- An offer that is refused all the time begins no sync. -/
theorem not_stands_after (h : ¬ Stands r.history hash)
    (hrefused : ∀ before, before <+: steps → ((r.after before).state.beginSync hash).1 = false) :
    ¬ Stands (r.after steps).history hash := by
  induction steps generalizing r with
  | nil => exact h
  | cons step steps ih =>
    refine ih (not_stands_step h (hrefused [] List.nil_prefix) step) fun before hbefore => ?_
    exact hrefused (step :: before) ((List.prefix_cons_inj step).2 hbefore)

/-! ## An offer that waits -/

theorem waits_step (h : Waits first r.history hash) {step : OfferStep}
    (hown : ∀ sync outcome, step = .finish sync outcome →
      outcome = .cancelled ∨ ∀ other, (begun r.history)[sync]? = some other → other = hash) :
    Waits first (r.step step).history hash := by
  obtain ⟨events, hadds, hhistory⟩ := r.history_step step
  unfold Waits
  rw [hhistory]
  cases hadds with
  | nothing => rwa [List.append_nil]
  | began =>
    rw [acknowledged_concat, failed_concat]
    exact h
  | ended sync other outcome hbegun =>
    rw [acknowledged_concat, failed_concat]
    rcases hown sync outcome rfl with rfl | hown
    · exact h
    · obtain rfl := hown other hbegun
      cases outcome with
      | done => exact .inl rfl
      | failed => exact .inr rfl
      | cancelled => exact h

/-- What only syncs of the offer itself have to say keeps it waiting; `names` are the offers of all
syncs up to some later moment. -/
theorem waits_after {names : List Bytes} (h : Waits first r.history hash)
    (hnames : begun (r.after steps).history <+: names)
    (hown : ∀ sync outcome, .finish sync outcome ∈ steps →
      outcome = .cancelled ∨ names[sync]? = some hash) :
    Waits first (r.after steps).history hash := by
  induction steps generalizing r with
  | nil => exact h
  | cons step steps ih =>
    refine ih (waits_step h fun sync outcome hstep => ?_) hnames fun sync outcome hmem =>
      hown sync outcome (List.mem_cons_of_mem _ hmem)
    refine (hown sync outcome (hstep ▸ List.mem_cons_self)).imp_right fun hname other hother => ?_
    obtain ⟨rest, rfl⟩ := (r.begun_after (step :: steps)).trans hnames
    rw [List.getElem?_append_left (List.getElem?_eq_some_iff.1 hother).1, hother] at hname
    exact Option.some.inj hname

/-- After a sync of an offer has failed, the offer is refused for as long as its failure is the last
verdict of all syncs, or it is acknowledged, and it is taken up again as soon as neither is the case,
whether or not another offer came in. So it waits for another offer where only syncs of its own are
done or fail. -/
theorem failed_offer_waits_iff (settings : StartSettings) (fresh : String)
    (before : List OfferStep) (sync : Nat) (hash : Bytes)
    (hbegun : (begun ((Syncs.start settings fresh).after before).history)[sync]? = some hash)
    (later : List OfferStep) :
    let r := ((Syncs.start settings fresh).after before).step (.finish sync .failed)
    ((∀ steps, steps <+: later → ((r.after steps).state.beginSync hash).1 = false) ↔
      ∀ steps, steps <+: later →
        Waits settings.lastPackagesHash (r.after steps).history hash) ∧
    ((∀ n outcome, .finish n outcome ∈ later →
        outcome = .cancelled ∨ (begun (r.after later).history)[n]? = some hash) →
      ∀ steps, steps <+: later → ((r.after steps).state.beginSync hash).1 = false) := by
  intro r
  have hremembers : Remembers settings.lastPackagesHash r :=
    ((remembers_start settings fresh).after before).step (.finish sync .failed)
  have hhistory : r.history =
      ((Syncs.start settings fresh).after before).history ++ [.ended sync hash .failed] := by
    show (Syncs.step _ _).history = _
    simp only [Syncs.step, hbegun]
  have hgone : ¬ Stands r.history hash := by
    rw [hhistory, stands_concat]
    simp [SyncEvent.leaves]
  have hwaits : Waits settings.lastPackagesHash r.history hash := by
    unfold Waits
    rw [hhistory, failed_concat]
    exact .inr rfl
  have hiff : (∀ steps, steps <+: later → ((r.after steps).state.beginSync hash).1 = false) ↔
      ∀ steps, steps <+: later →
        Waits settings.lastPackagesHash (r.after steps).history hash := by
    refine ⟨fun hrefused steps hsteps => ?_, fun hwaits steps hsteps => ?_⟩
    · refine (((hremembers.after steps).beginSync_iff hash).1 (hrefused steps hsteps)).resolve_left ?_
      exact not_stands_after hgone fun earlier hearlier => hrefused earlier (hearlier.trans hsteps)
    · exact ((hremembers.after steps).beginSync_iff hash).2 (.inr (hwaits steps hsteps))
  refine ⟨hiff, fun hown => hiff.2 fun steps hsteps => ?_⟩
  obtain ⟨rest, rfl⟩ := hsteps
  refine waits_after hwaits ?_ fun n outcome hmem => hown n outcome (List.mem_append_left _ hmem)
  have hafter : r.after (steps ++ rest) = (r.after steps).after rest := List.foldl_append
  rw [hafter]
  exact (r.after steps).begun_after rest

/-- The sync of `[1]` fails, that of `[2]` is given up, and `[1]` waits. -/
theorem failed_offer_waits_iff_beside :
    let before : List OfferStep := [.offer [1], .offer [2]]
    let r := ((Syncs.start { serverUrl := "" } "agent").after before).step (.finish 0 .failed)
    (begun ((Syncs.start { serverUrl := "" } "agent").after before).history)[0]? = some [1] ∧
      (∀ n outcome, .finish n outcome ∈ [OfferStep.finish 1 .cancelled, .offer [1]] →
        outcome = .cancelled ∨
          (begun (r.after [.finish 1 .cancelled, .offer [1]]).history)[n]? = some [1]) ∧
      ∀ steps, steps <+: [OfferStep.finish 1 .cancelled, .offer [1]] →
        ((r.after steps).state.beginSync [1]).1 = false := by
  intro before r
  have hbegun : (begun ((Syncs.start { serverUrl := "" } "agent").after before).history)[0]? =
      some [1] := by decide
  have hown : ∀ n outcome, .finish n outcome ∈ [OfferStep.finish 1 .cancelled, .offer [1]] →
      outcome = .cancelled ∨
        (begun (r.after [.finish 1 .cancelled, .offer [1]]).history)[n]? = some [1] := by
    intro n outcome hmem
    have hlast : n = 1 ∧ outcome = .cancelled := by simpa using hmem
    exact .inl hlast.2
  exact ⟨hbegun, hown, (failed_offer_waits_iff { serverUrl := "" } "agent" before 0 [1] hbegun
    [.finish 1 .cancelled, .offer [1]]).2 hown⟩

/-- The sync of `[1]` fails, and that of `[2]` fails too or is done. No offer comes in meanwhile, and
`[1]` is taken up again. -/
theorem failed_offer_does_not_wait :
    let before : List OfferStep := [.offer [1], .offer [2]]
    let r := ((Syncs.start { serverUrl := "" } "agent").after before).step (.finish 0 .failed)
    (begun ((Syncs.start { serverUrl := "" } "agent").after before).history)[0]? = some [1] ∧
      (r.state.beginSync [1]).1 = false ∧
      ((r.step (.finish 1 .failed)).state.beginSync [1]).1 = true ∧
      ((r.step (.finish 1 .done)).state.beginSync [1]).1 = true := by
  decide

end ManagedAgent.State
