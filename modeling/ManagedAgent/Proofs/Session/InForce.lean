import ManagedAgent.Proofs.Session.DerivedHash

/-!
# The configuration that is recorded

A session records a configuration when an answer of the agent brings it one: the agent was asked for
it, or has applied an offered one. Nothing else changes what is recorded.

* `State.taking_cases` : what is recorded then;
* `inForce?_runTask`, `inForce?_runLoop` : what an actor that goes on records;
* `inForce?_act` : what any action does to the record.
-/

set_option autoImplicit false

namespace ManagedAgent

namespace State

def inForce? (s : State) : Option EffectiveConfig := s.outbox.effectiveConfig.value

/-- The state once a configuration was brought, if one was. -/
def taking (s : State) : Option EffectiveConfig → State
  | some c => (s.setEffectiveConfig c).2
  | none => s

/-- A configuration is recorded under the hash of its content, unless the record has that hash. -/
theorem taking_cases (s : State) (c : EffectiveConfig) :
    (s.taking (some c)).inForce? = some c.rehash ∨
      ∃ d, s.inForce? = some d ∧ d.hash = c.rehash.hash ∧
        (s.taking (some c)).inForce? = some d := by
  unfold taking setEffectiveConfig
  dsimp only
  split
  · next h =>
    obtain ⟨d, hd, hhash⟩ := (Option.any_eq_true _ _).1 h
    exact .inr ⟨d, hd, beq_iff_eq.1 hhash, hd⟩
  · exact .inl rfl

end State

namespace Session
variable {τ : Type} {s t : Session τ} {id : Nat}

/-! ## Tasks -/

theorem state_configApplied (s : Session τ) (id : Nat) (config : RemoteConfig)
    (r : Except CallbackError ApplyOutcome) :
    (s.configApplied id config r).state =
      s.state.taking ((Task.remoteConfig config .applying).brought? (.answered (.applied r))) := by
  cases r with
  | ok outcome =>
    obtain ⟨changed, effective⟩ := outcome
    cases changed with
    | false => cases effective <;> rfl
    | true =>
      cases effective with
      | some c => rfl
      | none => exact state_enterGate s (.task id)
  | error e =>
    cases e with
    | cancelled => exact state_nextConfig s id
    | _ => rfl

theorem inForce?_runConfig (s : Session τ) (id : Nat) (config : RemoteConfig) (stage : ConfigStage)
    (input : Input) :
    (s.runConfig id config stage input).state.inForce? =
      (s.state.taking ((Task.remoteConfig config stage).brought? input)).inForce? := by
  cases input with
  | look =>
    cases stage with
    | fresh =>
      show (s.startConfig id config).state.inForce? = s.state.inForce?
      unfold startConfig
      split
      · rw [state_nextConfig]
      · rfl
    | queueing =>
      show (if s.hasTurn (.task id) then _ else s : Session τ).state.inForce? = _
      split <;> rfl
    | _ => rfl
  | answered answer =>
    cases stage with
    | applying =>
      cases answer with
      | applied r => exact congrArg State.inForce? (state_configApplied s id config r)
      | _ => rfl
    | reading =>
      cases answer with
      | effective r =>
        refine congrArg State.inForce? ((state_finishReading s (.task id) r).trans ?_)
        cases r <;> rfl
      | _ => rfl
    | saving status =>
      show (s.statusSaved id status).state.inForce? = s.state.inForce?
      unfold statusSaved
      rw [state_nextConfig, state_update]
      rfl
    | _ => cases answer <;> rfl
  | _ => cases stage <;> rfl

theorem inForce?_runRefresh (s : Session τ) (id : Nat) (stage : ReadStage) (input : Input) :
    (s.runRefresh id stage input).state.inForce? =
      (s.state.taking ((Task.refresh stage).brought? input)).inForce? := by
  cases input with
  | look =>
    cases stage with
    | fresh => exact congrArg State.inForce? (state_enterGate s (.task id))
    | queueing =>
      show (if s.hasTurn (.task id) then _ else s : Session τ).state.inForce? = _
      split <;> rfl
    | reading => rfl
  | answered answer =>
    cases stage with
    | reading =>
      cases answer with
      | effective r =>
        have hread : (s.finishReading (.task id) r).2.state.inForce? =
            (s.state.taking ((Task.refresh .reading).brought?
              (.answered (.effective r)))).inForce? := by
          refine congrArg State.inForce? ((state_finishReading s (.task id) r).trans ?_)
          cases r <;> rfl
        refine Eq.trans ?_ hread
        show (s.refreshed id r).state.inForce? = _
        unfold refreshed
        generalize s.finishReading (.task id) r = x
        obtain ⟨changed, u⟩ := x
        cases changed with
        | false => rfl
        | true =>
          show (u.update State.notify).state.inForce? = u.state.inForce?
          rw [state_update]
          rfl
      | _ => rfl
    | _ => cases answer <;> rfl
  | _ => cases stage <;> rfl

theorem inForce?_runTask (s : Session τ) (id : Nat) (input : Input) :
    (s.runTask id input).state.inForce? =
      (s.state.taking ((s.tasks.get? id).bind (·.brought? input))).inForce? := by
  unfold runTask
  split
  · next h => rw [h]; exact inForce?_runConfig s id _ _ input
  · next h =>
    rw [h]
    exact (frame_runOffer s id _ _ h input).same (.state .effectiveConfig) (by simp [Scope.offer])
  · next h =>
    rw [h]
    exact (frame_runPackages s id _ _ h input).same (.state .effectiveConfig)
      (by simp [Scope.packages])
  · next h =>
    rw [h]
    exact (frame_runCommand s id _ _ h input).same (.state .effectiveConfig) fun h => h
  · next h => rw [h]; exact inForce?_runRefresh s id _ input
  · next h => rw [h]; rfl

/-! ## The loop -/

theorem inForce?_endLoop (s : Session τ) : s.endLoop.state.inForce? = s.state.inForce? := by
  have h : Frame .pause s s.endLoop :=
    .endLoop s (by simp [Scope.pause]) (by simp [Scope.pause]) (fun _ _ _ => trivial)
      (fun _ => trivial) trivial
  exact h.same (.state .effectiveConfig) (by simp [Scope.pause])

theorem inForce?_abandonReading (s : Session τ) :
    s.abandonReading.state.inForce? = s.state.inForce? := by
  unfold abandonReading
  rw [inForce?_endLoop, state_leaveGate]

section Loop
variable [Transport τ]

theorem inForce?_serveRequests (deadline : Nat) (rs : List ReconnectRequest) (s : Session τ) :
    (serveRequests deadline rs s).state.inForce? = s.state.inForce? := by
  induction rs generalizing s with
  | nil =>
    show (s.awaitPoll deadline).state.inForce? = _
    unfold awaitPoll
    split
    · rfl
    · split <;> rfl
  | cons r rest ih =>
    unfold serveRequests
    dsimp only
    split
    · next e t ha =>
      obtain rfl : _ = t := (Prod.ext_iff.1 ha).2
      refine (ih _).trans ?_
      rw [reply_state]
      rfl
    · next previous t ha =>
      obtain rfl : _ = t := (Prod.ext_iff.1 ha).2
      rfl

theorem inForce?_begin (s : Session τ) : s.begin.state.inForce? = s.state.inForce? := by
  unfold begin
  split
  · unfold wait
    split
    · exact inForce?_endLoop s
    · exact inForce?_serveRequests _ _ s
  · unfold connect
    split
    · exact inForce?_endLoop s
    · rfl

def loopBrought? (s : Session τ) : Input → Option EffectiveConfig
  | .answered (.effective r) =>
    if s.loop = .reading ∧ s.isStopping = false then r.toOption else none
  | _ => none

/-- Of what the loop does on its way, only reading records a configuration. -/
theorem Works.inForce? (h : Works s t) (hl : s.loop ≠ .reading) :
    t.state.inForce? = s.state.inForce? := by
  cases h with
  | read r h => exact absurd h hl
  | connected =>
    unfold markConnected
    split <;> rfl
  | failed e =>
    unfold markFailed
    split
    · rfl
    · dsimp only
      split <;> rfl
  | serverError e => rfl
  | fullState => rw [state_update]; rfl
  | adopt uid => rw [state_update]; rfl
  | abandon => rw [state_leaveGate]
  | wakeup f => rfl
  | refuse r rest e => rw [reply_state]; rfl

/-- Where the loop does not wait for the agent's configuration, it records none. -/
theorem Goes.inForce? {routed : Option Instruction} (h : Goes routed s t)
    (hl : s.loop ≠ .reading) : t.state.inForce? = s.state.inForce? := by
  refine h.elim (M := fun u => u.loop = s.loop ∧ u.state.inForce? = s.state.inForce?)
    (P := fun u => u.state.inForce? = s.state.inForce?) ?_ ?_ ?_ ⟨rfl, rfl⟩
  · rintro u v hw ⟨hloop, hu⟩
    have hv : v.loop = u.loop := hw.frame.same .loop (by simp [Scope.work])
    exact ⟨hv.trans hloop, (hw.inForce? (by rwa [hloop])).trans hu⟩
  · rintro u i ⟨hloop, hu⟩
    have hf := frame_dispatch u i
    have hi : (u.dispatch i).loop = u.loop := hf.same .loop id
    have hc : (u.dispatch i).state.inForce? = u.state.inForce? :=
      hf.same (.state .effectiveConfig) id
    exact ⟨hi.trans hloop, hc.trans hu⟩
  · rintro u v hr ⟨-, hu⟩
    have hv : v.state.inForce? = u.state.inForce? :=
      hr.frame.same (.state .effectiveConfig) (by simp [Scope.rest])
    exact hv.trans hu

theorem inForce?_runLoop (s : Session τ) (input : Input) :
    (s.runLoop input).state.inForce? = (s.state.taking (s.loopBrought? input)).inForce? := by
  by_cases hl : s.loop = .reading
  · -- the loop waits for the agent's configuration, and then begins
    unfold runLoop loopBrought?
    rw [hl]
    cases input with
    | look =>
      dsimp only
      split
      · exact inForce?_abandonReading s
      · rfl
    | answered answer =>
      cases answer with
      | effective r =>
        dsimp only
        cases hs : s.isStopping with
        | true =>
          rw [if_pos rfl, if_neg (by simp)]
          exact inForce?_abandonReading s
        | false =>
          rw [if_neg Bool.false_ne_true, if_pos ⟨rfl, rfl⟩, inForce?_begin, state_finishReading]
          cases r <;> rfl
      | _ => rfl
    | _ => rfl
  · have hnone : s.loopBrought? input = none := by
      unfold loopBrought?
      split
      · exact if_neg fun h => hl h.1
      · rfl
    rw [hnone]
    rcases s.runLoop_cases input with ⟨-, h⟩ | ⟨u, routed, hset, hgo⟩
    · rw [h]
      rfl
    · have hloop : u.loop = s.loop := hset.frame.same .loop (by simp [Scope.settling])
      have hu : u.state.inForce? = s.state.inForce? :=
        hset.frame.same (.state .effectiveConfig) (by simp [Scope.settling])
      exact (hgo.inForce? (by rwa [hloop])).trans hu

/-! ## Any action -/

variable [Carrier τ]

def Action.brought? (s : Session τ) : Action τ → Option EffectiveConfig
  | .run .loop input => s.loopBrought? input
  | .run (.task id) input => (s.tasks.get? id).bind (·.brought? input)
  | _ => none

theorem inForce?_act (s : Session τ) (a : Action τ) :
    (s.act a).state.inForce? = (s.state.taking (a.brought? s)).inForce? := by
  by_cases hc : a.isCall = true
  · have h : (s.act a).state.inForce? = s.state.inForce? :=
      (frame_act s a hc).same (.state .effectiveConfig) (by simp [Scope.calls])
    cases a with
    | run => contradiction
    | _ => exact h
  · cases a with
    | run actor input =>
      cases actor with
      | loop => exact inForce?_runLoop s input
      | task id => exact inForce?_runTask s id input
    | stop =>
      exact (frame_stop s).same (.state .effectiveConfig) (by simp [Scope.stop])
    | use | setInterval => rfl
    | _ => exact absurd rfl hc

end Loop

end Session

end ManagedAgent
