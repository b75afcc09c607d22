import ManagedAgent.Slot
import Mathlib.Data.List.Induction

/-!
# The newest wish wins

What a slot answers is compared with its log: the calls so far, each with its answer. The log alone
says which run is in progress and what was offered since it began, whatever the slot remembers.

* `follows_call` : one call keeps the slot and its log in step;
* `newest_wish_wins` : every answer is the one that the log asks for, and once no run is in progress
  the last payload that ran is the last one that was offered.
-/

set_option autoImplicit false

namespace ManagedAgent.Slot
variable {α : Type} [DecidableEq α]

inductive Call (α : Type) where
  | offer (a : α)
  | finish
  deriving DecidableEq

def call (s : Slot α) : Call α → Slot α × Option α
  | .offer a => s.offer a
  | .finish => s.finish

def after (s : Slot α) (calls : List (Call α)) : Slot α := calls.foldl (fun s c => (s.call c).1) s

/-! ## The log -/

structure Entry (α : Type) where
  call : Call α
  answer : Option α
  deriving DecidableEq

def log (s : Slot α) : List (Call α) → List (Entry α)
  | [] => []
  | c :: calls => ⟨c, (s.call c).2⟩ :: (s.call c).1.log calls

structure Run (α : Type) where
  payload : α
  /-- What was offered since the run began, in its order. -/
  meanwhile : List α

namespace Run

/-- The run in progress after one more entry. An answer with a payload begins a run of it. -/
def next? (run : Option (Run α)) (e : Entry α) : Option (Run α) :=
  match e.answer, e.call with
  | some a, _ => some ⟨a, []⟩
  | none, .offer a => run.map fun r => { r with meanwhile := r.meanwhile ++ [a] }
  | none, .finish => none

def ofLog (log : List (Entry α)) : Option (Run α) := log.foldl next? none

/-- The newest payload offered since the run began, unless it is the one that runs. -/
def wish? (r : Run α) : Option α := r.meanwhile.getLast?.filter (· ≠ r.payload)

end Run

def offered (log : List (Entry α)) : List α :=
  log.filterMap fun e => match e.call with
    | .offer a => some a
    | .finish => none

def started (log : List (Entry α)) : List α := log.filterMap (·.answer)

theorem after_concat (s : Slot α) (calls : List (Call α)) (c : Call α) :
    s.after (calls ++ [c]) = ((s.after calls).call c).1 := List.foldl_append

theorem log_concat (s : Slot α) (calls : List (Call α)) (c : Call α) :
    s.log (calls ++ [c]) = s.log calls ++ [⟨c, ((s.after calls).call c).2⟩] := by
  induction calls generalizing s with
  | nil => rfl
  | cons d calls ih => exact congrArg _ (ih (s.call d).1)

/-! ## The slot and its log -/

/-- What runs in the slot is the run of the log, and what waits is the wish of that run. -/
def Follows (s : Slot α) : Option (Run α) → Prop
  | none => s = .idle
  | some r => s.current? = some r.payload ∧ s.waiting? = r.wish?

/-- Of the last payload that ran and the last one that was offered: they are the same when no run is
in progress, and else the one that runs and the one to run in the end. -/
def Latest (started offered : Option α) : Option (Run α) → Prop
  | none => started = offered
  | some r => started = some r.payload ∧ offered = some (r.meanwhile.getLast?.getD r.payload)

variable {s : Slot α} {run : Option (Run α)}

theorem Follows.current? (h : s.Follows run) : s.current? = run.map (·.payload) := by
  cases run with
  | none => exact current?_eq_none.2 h
  | some r => exact h.1

theorem Follows.finish (h : s.Follows run) : s.finish.2 = run.bind (·.wish?) := by
  cases run with
  | none =>
    obtain rfl : s = .idle := h
    rfl
  | some r =>
    show s.finish.2 = r.wish?
    rw [← h.2, Slot.finish]
    cases s.waiting? <;> rfl

theorem wish?_concat (r : Run α) (a : α) :
    Run.wish? { r with meanwhile := r.meanwhile ++ [a] } = if r.payload = a then none else some a := by
  unfold Run.wish?
  rw [List.getLast?_concat]
  by_cases h : r.payload = a
  · simp [h]
  · simp [h, Ne.symm h]

theorem follows_call (h : s.Follows run) (c : Call α) :
    (s.call c).1.Follows (Run.next? run ⟨c, (s.call c).2⟩) := by
  cases c with
  | offer a =>
    show (s.offer a).1.Follows (Run.next? run ⟨.offer a, (s.offer a).2⟩)
    cases run with
    | none =>
      rw [offer_idle h.current?]
      exact ⟨rfl, rfl⟩
    | some r =>
      rw [offer_busy h.1]
      show Follows (if r.payload = a then _ else _)
        (some { r with meanwhile := r.meanwhile ++ [a] })
      refine ⟨?_, ?_⟩
      · show _ = some r.payload
        split <;> rfl
      · rw [wish?_concat]
        split <;> rfl
  | finish =>
    show s.finish.1.Follows (Run.next? run ⟨.finish, s.finish.2⟩)
    unfold Slot.finish
    cases hw : s.waiting? with
    | none => exact rfl
    | some b => exact ⟨rfl, rfl⟩

theorem latest_call {last newest : Option α} (hs : s.Follows run) (h : Latest last newest run)
    (c : Call α) :
    let e : Entry α := ⟨c, (s.call c).2⟩
    Latest ((started [e]).getLast?.or last) ((offered [e]).getLast?.or newest) (Run.next? run e) := by
  cases c with
  | offer a =>
    show Latest ((started [⟨.offer a, (s.offer a).2⟩]).getLast?.or last) (some a)
      (Run.next? run ⟨.offer a, (s.offer a).2⟩)
    cases run with
    | none =>
      rw [offer_idle hs.current?]
      exact ⟨rfl, rfl⟩
    | some r =>
      rw [offer_busy hs.1]
      refine ⟨h.1, ?_⟩
      rw [List.getLast?_concat]
      rfl
  | finish =>
    show Latest ((started [⟨.finish, s.finish.2⟩]).getLast?.or last) newest
      (Run.next? run ⟨.finish, s.finish.2⟩)
    rw [hs.finish]
    cases run with
    | none => exact h
    | some r =>
      obtain ⟨hlast, hnewest⟩ := h
      show Latest ((started [⟨.finish, r.wish?⟩]).getLast?.or last) newest
        (Run.next? (some r) ⟨.finish, r.wish?⟩)
      have hwish : r.wish? = r.meanwhile.getLast?.filter (· ≠ r.payload) := rfl
      cases hm : r.meanwhile.getLast? with
      | none =>
        rw [hm] at hwish hnewest
        rw [hwish]
        exact hlast.trans hnewest.symm
      | some b =>
        rw [hm] at hwish hnewest
        by_cases hb : b = r.payload
        · rw [hwish, Option.filter_some, if_neg (by simp [hb])]
          exact hlast.trans (hnewest.trans (congrArg some hb)).symm
        · rw [hwish, Option.filter_some, if_pos (by simp [hb])]
          exact ⟨rfl, hnewest⟩

theorem getLast?_filterMap_concat {β γ : Type} (f : β → Option γ) (l : List β) (b : β) :
    ((l ++ [b]).filterMap f).getLast? = ([b].filterMap f).getLast?.or (l.filterMap f).getLast? := by
  rw [List.filterMap_append, List.getLast?_append]

/-- After any calls, a slot that was idle is in step with its log. -/
theorem follows_log (calls : List (Call α)) :
    (idle.after calls).Follows (Run.ofLog (idle.log calls)) ∧
      Latest (started (idle.log calls)).getLast? (offered (idle.log calls)).getLast?
        (Run.ofLog (idle.log calls)) := by
  induction calls using List.reverseRecOn with
  | nil => exact ⟨rfl, rfl⟩
  | append_singleton calls c ih =>
    obtain ⟨hfollows, hlatest⟩ := ih
    have hrun (e : Entry α) : Run.ofLog (idle.log calls ++ [e]) =
        Run.next? (Run.ofLog (idle.log calls)) e := List.foldl_append
    rw [after_concat, log_concat, hrun, started, offered, getLast?_filterMap_concat,
      getLast?_filterMap_concat]
    exact ⟨follows_call hfollows c, latest_call hfollows hlatest c⟩

/-- **The newest wish wins.** After any calls, the slot runs what its log says to be in progress. An
offer starts a run exactly when none is in progress. A run that is finished is followed by one of the
newest payload that was offered since it began, unless there is none or it is the one that has just
run. Once nothing runs, the last payload that ran is the last one that was offered. -/
theorem newest_wish_wins (calls : List (Call α)) :
    let s : Slot α := idle.after calls
    let run := Run.ofLog (idle.log calls)
    s.current? = run.map (·.payload) ∧
      (∀ a, (s.offer a).2 = if run.isNone then some a else none) ∧
      s.finish.2 = run.bind (fun r => r.meanwhile.getLast?.filter (· ≠ r.payload)) ∧
      (s = .idle → (started (idle.log calls)).getLast? = (offered (idle.log calls)).getLast?) := by
  obtain ⟨hfollows, hlatest⟩ := follows_log calls
  dsimp only
  refine ⟨hfollows.current?, fun a => ?_, hfollows.finish, fun hidle => ?_⟩
  · cases hrun : Run.ofLog (idle.log calls) with
    | none =>
      rw [hrun] at hfollows
      rw [offer_idle hfollows.current?]
      rfl
    | some r =>
      rw [hrun] at hfollows
      rw [offer_busy hfollows.1]
      rfl
  · have hcurrent := hfollows.current?
    rw [current?_eq_none.2 hidle] at hcurrent
    rw [Option.map_eq_none_iff.1 hcurrent.symm] at hlatest
    exact hlatest

/-- What was offered in between is forgotten when the running payload is offered again. -/
example : (idle.log [.offer 1, .offer 2, .offer 1, .finish, .offer 2]).map (·.answer) =
    [some 1, none, none, none, some 2] := by decide

end ManagedAgent.Slot
