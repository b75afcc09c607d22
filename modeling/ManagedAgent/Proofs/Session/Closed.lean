import ManagedAgent.Proofs.Session.Calls
import ManagedAgent.Proofs.Session.Numbers

/-!
# A drained session that is stopped

Of a session that is stopped with nothing left to wait for, only commands and readings on demand can
go on. They send no report, and call the agent about nothing else; nothing brings the loop or
another task back.

* `Closed.act`, `Hushed.act` : what an action keeps, and what it does not do;
* `Closed.after`, `Hushed.after` : the same of any number of actions.
-/

set_option autoImplicit false

namespace ManagedAgent

def Task.tracked? (x : Task) : Option Task := if x.isTracked then some x else none

theorem Task.tracked?_eq_none {x : Task} : x.tracked? = none ↔ x.isTracked = false := by
  unfold tracked?
  split
  · next h => simp [h]
  · next h => simpa using h

namespace Session
variable {τ : Type} {s t : Session τ}

/-- The session is stopped, its loop has ended, and there is no task that a stop waits for. -/
structure Closed (s : Session τ) : Prop where
  phase : s.phase = .stopped
  loop : s.loop = .ended
  untracked : ∀ id, s.view Task.tracked? id = none
  numbered : s.Numbered

/-- From `s` to `t` no report is sent, and the agent is called about nothing but commands and its
configuration. -/
structure Hushed (s t : Session τ) : Prop where
  reports : t.reports = s.reports
  begun : ∀ k, k ≠ .effectiveConfig → k ≠ .command → t.begun k = s.begun k

theorem Hushed.refl (s : Session τ) : Hushed s s := ⟨rfl, fun _ _ _ => rfl⟩

theorem Hushed.trans {u : Session τ} (h₁ : Hushed s t) (h₂ : Hushed t u) : Hushed s u :=
  ⟨h₂.reports.trans h₁.reports, fun k hc hk => (h₂.begun k hc hk).trans (h₁.begun k hc hk)⟩

theorem Closed.untracked_of_get? (hs : s.Closed) {id : Nat} {x : Task}
    (hx : s.tasks.get? id = some x) : x.isTracked = false :=
  Task.tracked?_eq_none.1 ((view_of_get? hx).symm.trans (hs.untracked id))

/-- A drained session that is marked as stopped is closed. -/
theorem closed_markStopped (hd : s.isDrained = true) (hn : s.Numbered) : s.markStopped.Closed := by
  obtain ⟨hl, ht⟩ := Bool.and_eq_true_iff.1 hd
  have hl : s.loop = .ended := by simpa using hl
  refine ⟨rfl, hl, fun id => ?_, hn⟩
  cases hx : s.tasks.get? id with
  | none => exact congrArg (Option.bind · Task.tracked?) hx
  | some x =>
    obtain ⟨l₁, l₂, he, -⟩ := List.lookup_eq_some_iff.1 hx
    have hmem : (id, x) ∈ s.tasks.entries := by simp [he]
    have hx : s.markStopped.tasks.get? id = some x := hx
    rw [view_of_get? hx, Task.tracked?_eq_none]
    simpa using List.all_eq_true.1 ht _ hmem

/-! ## Actors -/

/-- The tasks that a stop does not wait for are commands and readings on demand. -/
theorem Frame.closed_hushed {S : Scope} (h : Frame S s t) (hs : s.Closed) (hp : ¬ S.may .phase)
    (hl : ¬ S.may .loop) (ht : ∀ x, S.tasks x → x.isTracked = false)
    (hr : ∀ e, S.logs e → e.report? = none)
    (hb : ∀ k, k ≠ .effectiveConfig → k ≠ .command → t.begun k = s.begun k) :
    t.Closed ∧ Hushed s t := by
  refine ⟨⟨?_, ?_, fun id => ?_, h.numbered hs.numbered⟩, h.filterMap_history hr, hb⟩
  · exact Eq.trans (h.same .phase hp) hs.phase
  · exact Eq.trans (h.same .loop hl) hs.loop
  · have hview := h.view hs.numbered (fun x hx => Task.tracked?_eq_none.2 (ht x hx)) id
    exact hview.trans (hs.untracked id)

theorem Closed.runTask (hs : s.Closed) (id : Nat) (input : Input) :
    (s.runTask id input).Closed ∧ Hushed s (s.runTask id input) := by
  cases hx : s.tasks.get? id with
  | none =>
    rw [runTask_of_none hx]
    exact ⟨hs, .refl s⟩
  | some x =>
    have hu := hs.untracked_of_get? hx
    have begun (k : Topic) (hk : k ∉ x.topics) := begun_runTask hs.numbered hx input hk
    have hframe := frame_runTask hx input
    cases x with
    | command =>
      refine hframe.closed_hushed hs (fun h => h) (fun h => h) (fun y hy => ?_) (fun e he => ?_)
        fun k _ hk => ?_
      · cases y <;> trivial
      · cases e <;> trivial
      · exact begun k (by simpa [Task.topics] using hk)
    | refresh =>
      refine hframe.closed_hushed hs (by simp [Scope.of, Scope.refresh])
        (by simp [Scope.of, Scope.refresh]) (fun y hy => ?_) (fun e he => ?_) fun k hc _ => ?_
      · cases y <;> trivial
      · cases e <;> trivial
      · exact begun k (by simpa [Task.topics] using hc)
    | _ => contradiction

variable [Transport τ]

/-- A loop that has ended does not go on. -/
theorem runLoop_of_ended (h : s.loop = .ended) (input : Input) : s.runLoop input = s := by
  unfold runLoop
  rw [h]

/-! ## Actions -/

variable [Carrier τ]

theorem Closed.call (hs : s.Closed) (a : Action τ) (hc : a.isCall = true) :
    (s.act a).Closed ∧ Hushed s (s.act a) := by
  have hframe := frame_act s a hc
  have hcalm : Calm s (s.act a) := .act a (by rintro _ _ rfl; contradiction) hs.numbered
  refine ⟨⟨?_, ?_, fun id => ?_, hframe.numbered hs.numbered⟩, ?_, fun k _ _ => ?_⟩
  · rcases s.phase_call a hc with h | ⟨h, -⟩
    · exact h.trans hs.phase
    · rw [hs.phase] at h
      contradiction
  · exact Eq.trans (hframe.same .loop (by simp [Scope.calls])) hs.loop
  · exact (view_act s a hc hs.numbered rfl id).trans (hs.untracked id)
  · exact hframe.filterMap_history fun e he => by cases e <;> trivial
  · exact begun_of_calls hcalm.calls

/-- A closed session stays closed, and does nothing that it was stopped for. -/
theorem Closed.act (hs : s.Closed) (a : Action τ) : (s.act a).Closed ∧ Hushed s (s.act a) := by
  by_cases hc : a.isCall = true
  · exact hs.call a hc
  · cases a with
    | run actor input =>
      cases actor with
      | loop =>
        show (s.runLoop input).Closed ∧ Hushed s (s.runLoop input)
        rw [runLoop_of_ended hs.loop]
        exact ⟨hs, .refl s⟩
      | task id => exact hs.runTask id input
    | use u => exact ⟨⟨hs.phase, hs.loop, hs.untracked, hs.numbered⟩, rfl, fun _ _ _ => rfl⟩
    | setInterval d =>
      exact ⟨⟨hs.phase, hs.loop, hs.untracked, hs.numbered⟩, rfl, fun _ _ _ => rfl⟩
    | stop =>
      have hr : s.isRunning = false := by
        unfold isRunning
        rw [hs.phase]
        rfl
      have h : s.act .stop = s := if_neg (by simp [hr])
      rw [h]
      exact ⟨hs, .refl s⟩
    | _ => exact absurd rfl hc

theorem Closed.after (hs : s.Closed) (actions : List (Action τ)) :
    (s.after actions).Closed ∧ Hushed s (s.after actions) :=
  after_induction (P := fun t => t.Closed ∧ Hushed s t)
    (fun _ a h => ⟨(h.1.act a).1, h.2.trans (h.1.act a).2⟩) ⟨hs, .refl s⟩ actions

end Session

end ManagedAgent
