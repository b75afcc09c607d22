import ManagedAgent.Proofs.Session.Views

/-!
# The identity that a session has

Before the loop routes an instruction that names another identity, it asks the agent to take it. So
the identity after any course of a session is the one from before, or one that an instruction has
named that was routed in the course.

* `AsksAsTold` : the loop asks for the identity that the instruction names;
* `Goes.renames` : the loop changes the identity only to the one that it has asked for;
* `named_act`, `named_after` : what an action and a course make of the identity.
-/

set_option autoImplicit false

namespace ManagedAgent

def Event.routed? : Event → Option Instruction
  | .routing i => some i
  | _ => none

namespace Session
variable {τ : Type} {s t u : Session τ}

def routed (s : Session τ) : List Instruction := s.history.filterMap Event.routed?

/-- A step that routes nothing. -/
theorem Frame.routed {S : Scope} (h : Frame S s t) (hS : ∀ j, ¬ S.logs (.routing j)) :
    t.routed = s.routed := by
  refine h.filterMap_history fun e he => ?_
  cases e with
  | routing j => exact absurd he (hS j)
  | _ => rfl

theorem routed_dispatch (s : Session τ) (j : Instruction) :
    (s.dispatch j).routed = s.routed ++ [j] := by
  refine dispatch_induction (P := fun t => t.routed = s.routed ++ [j]) j ?_ ?_ ?_ ?_ s
    List.filterMap_append
  · exact fun t c _ h => ((frame_dispatchRemoteConfig t c).routed fun _ h => h).trans h
  · intro t kind c h
    have hf : Frame (.offer kind) t (t.dispatchOffer kind c) := frame_dispatchOffer t c
    exact (hf.routed fun _ h => h).trans h
  · exact fun t p h => ((frame_dispatchPackages t p).routed fun _ h => h).trans h
  · exact fun t c h => ((frame_dispatchCommand t c).routed fun _ h => h).trans h

/-! ## Where identities come from -/

/-- From `s` to `t` the identity stays, or becomes one that a routed instruction has named. -/
def Named (s t : Session τ) : Prop :=
  ∃ later, t.routed = s.routed ++ later ∧
    (t.state.uid = s.state.uid ∨ ∃ i ∈ later, i.identification = some ⟨t.state.uid⟩)

theorem Named.of_same (hr : t.routed = s.routed) (hu : t.state.uid = s.state.uid) : s.Named t :=
  ⟨[], hr.trans (List.append_nil _).symm, .inl hu⟩

theorem Named.refl (s : Session τ) : s.Named s := .of_same rfl rfl

theorem Named.trans (h₁ : s.Named t) (h₂ : t.Named u) : s.Named u := by
  obtain ⟨first, hfirst, h₁⟩ := h₁
  obtain ⟨others, hothers, h₂⟩ := h₂
  refine ⟨first ++ others, by rw [hothers, hfirst, List.append_assoc], ?_⟩
  rcases h₂ with h₂ | ⟨i, hi, h₂⟩
  · rw [h₂]
    exact h₁.imp_right fun ⟨i, hi, h⟩ => ⟨i, List.mem_append_left _ hi, h⟩
  · exact .inr ⟨i, List.mem_append_right _ hi, h₂⟩

theorem Frame.named {S : Scope} (h : Frame S s t) (hu : ¬ S.may (.state .uid))
    (hr : ∀ j, ¬ S.logs (.routing j)) : s.Named t := .of_same (h.routed hr) (h.same (.state .uid) hu)

/-- The loop asks the agent to take the identity that the instruction names. -/
def AsksAsTold (s : Session τ) : Prop :=
  ∀ uid i, s.loop.asked? = some (uid, i) → i.identification = some ⟨uid⟩

theorem AsksAsTold.of_loop (h : s.AsksAsTold) (hl : t.loop = s.loop) : t.AsksAsTold := by
  unfold AsksAsTold
  rw [hl]
  exact h

theorem asksAsTold_of_none (h : s.loop.asked? = none) : s.AsksAsTold := fun uid i hi => by
  rw [h] at hi
  contradiction

theorem asksAsTold_start (transport : τ) (settings : StartSettings) (fresh : String) :
    (start transport settings fresh).AsksAsTold := asksAsTold_of_none rfl

/-! ## The loop goes on -/

section Loop
variable [Transport τ]

def Scope.nameless : Scope where
  may := (· ≠ .state .uid)
  logs _ := True
  tasks _ := True

/-- On its way the loop takes no identity but the one that it has asked for. -/
theorem Works.renames (h : Works s t) :
    t.state.uid = s.state.uid ∨ ∃ i, s.loop.asked? = some (t.state.uid, i) := by
  have keep {t : Session τ} (h : Frame .nameless s t) : t.state.uid = s.state.uid :=
    h.same (.state .uid) fun h => h rfl
  cases h with
  | connected => exact .inl (keep (.markConnected s nofun trivial))
  | failed e => exact .inl (keep (.markFailed s e nofun trivial))
  | serverError e => exact .inl rfl
  | fullState => exact .inl (keep (.update s _ (.requestFullState _ nofun) trivial))
  | adopt uid i h =>
    have hu : (s.update (·.setUid uid)).state.uid = uid := congrArg State.uid (state_update _ _)
    exact .inr ⟨i, by rw [hu, h]⟩
  | read r => exact .inl (keep (.finishReading s _ r nofun nofun nofun fun _ => trivial))
  | abandon => exact .inl (keep (.leaveGate s _ nofun fun _ => trivial))
  | wakeup f => exact .inl rfl
  | refuse r rest e => exact .inl (congrArg State.uid (reply_state _ _ _))

theorem Rests.asksAsTold (h : Rests s t) : t.AsksAsTold := by
  cases h with
  | ended =>
    refine asksAsTold_of_none ?_
    rw [loop_endLoop]
    rfl
  | entering =>
    refine asksAsTold_of_none ?_
    show (if _ then Loop.reading else Loop.queueing).asked? = none
    split <;> rfl
  | identifying uid i r _ _ hi =>
    rintro _ _ ⟨⟩
    exact hi
  | _ => exact asksAsTold_of_none rfl

theorem Goes.renames {i? : Option Instruction} (h : Goes i? s t) :
    t.routed = s.routed ++ i?.toList ∧
      (t.state.uid = s.state.uid ∨ ∃ i, s.loop.asked? = some (t.state.uid, i)) := by
  induction h with
  | rest h =>
    have hf := h.frame
    refine ⟨(hf.routed fun _ h => h).trans (List.append_nil _).symm, .inl ?_⟩
    exact hf.same (.state .uid) (by simp [Scope.rest])
  | @work _ s t _ h _ ih =>
    have hl : t.loop = s.loop := h.frame.same .loop (by simp [Scope.work])
    refine ⟨ih.1.trans (congrArg (· ++ _) (h.frame.routed fun _ h => h)), ?_⟩
    rcases ih.2 with hu | hu
    · rw [hu]
      exact h.renames
    · exact .inr (hl ▸ hu)
  | @route s _ i _ ih =>
    have hf := frame_dispatch s i
    have hl : (s.dispatch i).loop = s.loop := hf.same .loop id
    have hu : (s.dispatch i).state.uid = s.state.uid := hf.same (.state .uid) id
    rw [hl, hu, routed_dispatch, Option.toList_none, List.append_nil] at ih
    exact ih

theorem Goes.asksAsTold {i? : Option Instruction} (h : Goes i? s t) : t.AsksAsTold :=
  h.elim (M := fun _ => True) (fun _ _ _ _ => trivial) (fun _ _ _ => trivial)
    (fun _ _ h _ => h.asksAsTold) trivial

theorem asksAsTold_runLoop (hs : s.AsksAsTold) (input : Input) : (s.runLoop input).AsksAsTold := by
  rcases s.runLoop_cases input with ⟨-, h⟩ | ⟨u, routed, -, hgo⟩
  · rwa [h]
  · exact hgo.asksAsTold

/-- The agent has answered whether it takes the identity, and the instruction is routed. -/
theorem named_identifying (hs : s.AsksAsTold) {uid : String} {i : Instruction} {r : Resume}
    (hl : s.loop = .identifying uid i r) (input : Input) : s.Named (s.runLoop input) := by
  have hi : i.identification = some ⟨uid⟩ := hs uid i (by rw [hl]; rfl)
  have hrun (result : Except CallbackError Unit) : s.Named (s.identified uid i r result) := by
    obtain ⟨hr, hu⟩ := (goes_identified s uid i r hl result).renames
    refine ⟨[i], hr, hu.imp_right ?_⟩
    rintro ⟨j, hj⟩
    rw [hl] at hj
    obtain ⟨hu, -⟩ := Prod.mk.inj (Option.some.inj hj)
    exact ⟨i, List.mem_cons_self, hi.trans (congrArg (some ∘ Identification.mk) hu)⟩
  unfold runLoop
  rw [hl]
  cases input with
  | answered answer =>
    cases answer with
    | done result => exact hrun result
    | _ => exact .refl s
  | _ => exact .refl s

theorem named_runLoop (hs : s.AsksAsTold) (input : Input) : s.Named (s.runLoop input) := by
  rcases s.runLoop_cases input with ⟨-, h⟩ | ⟨u, routed, hset, hgo⟩
  · rw [h]
    exact .refl s
  · have hf := hset.frame
    have hl : u.loop = s.loop := hf.same .loop (by simp [Scope.settling])
    obtain ⟨hr, hu⟩ := hgo.renames
    rcases hu with hu | ⟨i, hi⟩
    · have hu : (s.runLoop input).state.uid = s.state.uid :=
        hu.trans (hf.same (.state .uid) (by simp [Scope.settling]))
      exact ⟨_, hr.trans (congrArg (· ++ _) (hf.routed fun _ h => h)), .inl hu⟩
    · rw [hl] at hi
      cases h : s.loop with
      | identifying uid j r => exact named_identifying hs h input
      | _ =>
        rw [h] at hi
        contradiction

/-! ## A whole course -/

variable [Carrier τ]

theorem named_act (hs : s.AsksAsTold) (a : Action τ) :
    s.Named (s.act a) ∧ (s.act a).AsksAsTold := by
  have beside {S : Scope} (h : Frame S s (s.act a)) (hu : ¬ S.may (.state .uid))
      (hl : ¬ S.may .loop) (hr : ∀ j, ¬ S.logs (.routing j)) :
      s.Named (s.act a) ∧ (s.act a).AsksAsTold :=
    ⟨h.named hu hr, hs.of_loop (h.same .loop hl)⟩
  by_cases hc : a.isCall = true
  · exact beside (frame_act s a hc) (by simp [Scope.calls]) (by simp [Scope.calls]) fun _ h => h
  · cases a with
    | run actor input =>
      cases actor with
      | loop => exact ⟨named_runLoop hs input, asksAsTold_runLoop hs input⟩
      | task id =>
        show s.Named (s.runTask id input) ∧ (s.runTask id input).AsksAsTold
        cases hx : s.tasks.get? id with
        | none =>
          rw [runTask_of_none hx]
          exact ⟨.refl s, hs⟩
        | some x =>
          have hf := frame_runTask hx input
          cases x with
          | _ =>
            refine ⟨hf.named ?_ fun _ h => h, hs.of_loop (hf.same .loop ?_)⟩
            all_goals simp [Scope.of, Scope.config, Scope.offer, Scope.packages, Scope.command,
              Scope.refresh]
    | use | setInterval => exact ⟨.of_same rfl rfl, hs⟩
    | stop => exact beside (frame_stop s) (by simp [Scope.stop]) (by simp [Scope.stop]) fun _ h => h
    | _ => exact absurd rfl hc

/-- The identity after a course is the one from before, or one that a routed instruction names. -/
theorem named_after (hs : s.AsksAsTold) (actions : List (Action τ)) :
    s.Named (s.after actions) ∧ (s.after actions).AsksAsTold := by
  induction actions generalizing s with
  | nil => exact ⟨.refl s, hs⟩
  | cons a rest ih =>
    obtain ⟨hfirst, ha⟩ := named_act hs a
    obtain ⟨hothers, hrest⟩ := ih ha
    exact ⟨hfirst.trans hothers, hrest⟩

end Loop

end Session

end ManagedAgent
