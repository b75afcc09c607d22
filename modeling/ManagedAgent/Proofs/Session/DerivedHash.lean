import ManagedAgent.Proofs.Session.ConfigEffects

/-!
# The hash of the configuration in force

The agent hands a configuration over with some hash, when it is asked for the one in force and when
it has applied an offered one. The session never looks at that hash: it records and reports the
configuration under the hash of its content, and tells by the content alone whether it is new.

* `act_rehash`, `after_rehash` : the hash that comes with a configuration makes no difference;
* `State.IsDerived.apply`, `isDerived_act` : what is recorded and what is reported has the hash of
  its content;
* `State.Holds.setEffectiveConfig` : a configuration of the recorded content changes nothing,
  whoever brings it (`Task.brought?`, `Session.finishReading_of_holds`);
* `effective_config_hashes_are_derived` : the account of a whole session.
-/

set_option autoImplicit false

namespace ManagedAgent

def EffectiveConfig.IsDerived (c : EffectiveConfig) : Prop := c.hash = c.config.digest

theorem EffectiveConfig.isDerived_rehash (c : EffectiveConfig) : c.rehash.IsDerived := rfl

def ApplyOutcome.rehash (o : ApplyOutcome) : ApplyOutcome :=
  { o with effective := o.effective.map EffectiveConfig.rehash }

def Answer.rehash : Answer → Answer
  | .applied r => .applied (r.map ApplyOutcome.rehash)
  | .effective r => .effective (r.map EffectiveConfig.rehash)
  | .done r => .done r

def Input.rehash : Input → Input
  | .answered answer => .answered answer.rehash
  | input => input

/-- The configuration that the agent's answer brings a task. -/
def Task.brought? : Task → Input → Option EffectiveConfig
  | .remoteConfig _ .applying, .answered (.applied (.ok ⟨true, some c⟩)) => some c
  | .remoteConfig _ .reading, .answered (.effective (.ok c)) => some c
  | .refresh .reading, .answered (.effective (.ok c)) => some c
  | _, _ => none

/-! ## The state -/

namespace State

/-- What is recorded and what waits to be delivered has the hash of its content. -/
structure IsDerived (s : State) : Prop where
  recorded : ∀ c, s.outbox.effectiveConfig.value = some c → c.IsDerived
  pending : ∀ r, s.outbox.pending = some r → ∀ c, r.effectiveConfig = some c → c.IsDerived

theorem isDerived_start (settings : StartSettings) (fresh : String) :
    (start settings fresh).IsDerived where
  recorded _ h := nomatch h
  pending _ h := nomatch h

variable {s t : State}

theorem IsDerived.of_same (h : s.IsDerived)
    (hc : t.outbox.effectiveConfig.value = s.outbox.effectiveConfig.value)
    (hp : t.outbox.pending = s.outbox.pending) : t.IsDerived :=
  ⟨hc ▸ h.recorded, hp ▸ h.pending⟩

/-- A report carries the recorded configuration, or the one that the pending report carried. -/
theorem IsDerived.nextReport (h : s.IsDerived) : s.nextReport.2.IsDerived := by
  refine ⟨h.recorded, ?_⟩
  rintro _ ⟨⟩ c hc
  have hc : s.outbox.effectiveConfig.carry s.outbox.fullState s.base.1.effectiveConfig = some c :=
    hc
  unfold Part.carry at hc
  split at hc
  · exact h.recorded c hc
  · unfold base at hc
    split at hc
    · next r hr => exact h.pending r hr c hc
    · contradiction

theorem IsDerived.setEffectiveConfig (h : s.IsDerived) (c : EffectiveConfig) :
    (s.setEffectiveConfig c).2.IsDerived := by
  rcases s.setEffectiveConfig_snd c with hs | hs
  · rwa [hs]
  · rw [hs]
    refine ⟨?_, h.pending⟩
    rintro _ ⟨⟩
    exact c.isDerived_rehash

theorem IsDerived.apply (h : s.IsDerived) (op : Operation) : (s.apply op).IsDerived := by
  cases op with
  | nextReport => exact h.nextReport
  | delivered number =>
    show (s.delivered number).IsDerived
    cases hc : s.confirmed? number with
    | none => rwa [delivered_of_not_confirmed hc]
    | some r =>
      rw [delivered_of_confirmed hc]
      exact ⟨h.recorded, fun _ h => nomatch h⟩
  | setEffectiveConfig c => exact h.setEffectiveConfig c
  | endSync hash outcome =>
    show (s.endSync hash outcome).IsDerived
    unfold endSync
    dsimp only
    split <;> exact h.of_same rfl rfl
  | _ => exact h.of_same rfl rfl

theorem Changes.isDerived (h : s.Changes t) (hs : s.IsDerived) : t.IsDerived :=
  h.induction (fun _ op _ hu => hu.apply op) hs

def Holds (s : State) (c : EffectiveConfig) : Prop :=
  ∃ d, s.outbox.effectiveConfig.value = some d ∧ d.config.digest = c.config.digest

theorem Holds.setEffectiveConfig {c : EffectiveConfig} (h : s.Holds c) (hs : s.IsDerived) :
    s.setEffectiveConfig c = (false, s) := by
  obtain ⟨d, hd, hdigest⟩ := h
  have hhash : (d.hash == c.rehash.hash) = true :=
    beq_iff_eq.2 ((hs.recorded d hd).trans hdigest)
  unfold State.setEffectiveConfig
  dsimp only
  rw [hd, Option.any_some, if_pos hhash]

end State

namespace Session
variable {τ : Type} {s t : Session τ} {id : Nat}

/-! ## The hash makes no difference -/

theorem finishReading_rehash (s : Session τ) (a : Actor)
    (r : Except CallbackError EffectiveConfig) :
    s.finishReading a (r.map EffectiveConfig.rehash) = s.finishReading a r := by
  cases r <;> rfl

theorem configApplied_rehash (s : Session τ) (id : Nat) (config : RemoteConfig)
    (r : Except CallbackError ApplyOutcome) :
    s.configApplied id config (r.map ApplyOutcome.rehash) = s.configApplied id config r := by
  cases r with
  | error e => rfl
  | ok outcome =>
    obtain ⟨changed, effective⟩ := outcome
    cases changed <;> cases effective <;> rfl

theorem runConfig_rehash (s : Session τ) (id : Nat) (config : RemoteConfig) (stage : ConfigStage)
    (input : Input) :
    s.runConfig id config stage input.rehash = s.runConfig id config stage input := by
  cases input with
  | answered answer =>
    cases answer with
    | applied r =>
      cases stage with
      | applying => exact configApplied_rehash s id config r
      | _ => rfl
    | effective r =>
      cases stage with
      | reading =>
        exact congrArg (fun x => (Prod.snd x).saveStatus id config .applied "")
          (finishReading_rehash s (.task id) r)
      | _ => rfl
    | done r => rfl
  | _ => rfl

theorem refreshed_rehash (s : Session τ) (id : Nat) (r : Except CallbackError EffectiveConfig) :
    s.refreshed id (r.map EffectiveConfig.rehash) = s.refreshed id r := by
  cases r <;> rfl

theorem runTask_rehash (s : Session τ) (id : Nat) (input : Input) :
    s.runTask id input.rehash = s.runTask id input := by
  cases input with
  | answered answer =>
    unfold runTask
    split
    · exact runConfig_rehash s id _ _ (.answered answer)
    · next stage _ => cases answer <;> cases stage <;> rfl
    · next stage _ => cases answer <;> cases stage <;> rfl
    · next stage _ => cases answer <;> cases stage <;> rfl
    · next stage _ =>
      cases answer with
      | effective r =>
        cases stage with
        | reading => exact refreshed_rehash s id r
        | _ => rfl
      | _ => cases stage <;> rfl
    · rfl
  | _ => rfl

/-! ## A configuration of the recorded content -/

/-- Reading such a configuration is like reading none. -/
theorem finishReading_of_holds {c : EffectiveConfig} (h : s.state.Holds c)
    (hs : s.state.IsDerived) (a : Actor) : s.finishReading a (.ok c) = (false, s.leaveGate a) := by
  unfold finishReading
  dsimp only
  rw [h.setEffectiveConfig hs]

/-- Applying such a configuration is like applying one that was in force before. -/
theorem configApplied_of_holds {c : EffectiveConfig} (h : s.state.Holds c)
    (hs : s.state.IsDerived) (id : Nat) (config : RemoteConfig) :
    s.configApplied id config (.ok (.changedTo c)) =
      s.configApplied id config (.ok .unchanged) := by
  unfold configApplied ApplyOutcome.changedTo ApplyOutcome.unchanged
  dsimp only
  rw [h.setEffectiveConfig hs]

/-- A reading that finds such a configuration wakes nobody but the one whose turn to read it is
next. -/
theorem refreshed_of_holds {c : EffectiveConfig} (h : s.state.Holds c) (hs : s.state.IsDerived)
    (id : Nat) :
    s.refreshed id (.ok c) =
      ((s.leaveGate (.task id)).emit (.refreshed id (.ok ()))).finish id := by
  unfold refreshed
  rw [finishReading_of_holds h hs]
  rfl

theorem state_runTask_of_holds {c : EffectiveConfig} (h : s.state.Holds c)
    (hs : s.state.IsDerived) {x : Task} (hx : s.tasks.get? id = some x) {input : Input}
    (hc : x.brought? input = some c) : (s.runTask id input).state = s.state := by
  unfold Task.brought? at hc
  split at hc
  · next config d =>
    obtain rfl : d = c := Option.some.inj hc
    rw [runTask_of_config hx]
    show (s.configApplied id config (.ok (.changedTo d))).state = s.state
    rw [configApplied_of_holds h hs]
    rfl
  · next config d =>
    obtain rfl : d = c := Option.some.inj hc
    rw [runTask_of_config hx]
    show ((s.finishReading (.task id) (.ok d)).2.saveStatus id config .applied "").state = s.state
    rw [finishReading_of_holds h hs]
    exact state_leaveGate s _
  · next d =>
    obtain rfl : d = c := Option.some.inj hc
    unfold runTask
    rw [hx]
    show (s.refreshed id (.ok d)).state = s.state
    rw [refreshed_of_holds h hs]
    exact state_leaveGate s _
  · contradiction

/-- What is recorded, what is pending and what was reported has the hash of its content. -/
structure IsDerived (s : Session τ) : Prop where
  state : s.state.IsDerived
  reports : ∀ r ∈ s.reports, ∀ c, r.effectiveConfig = some c → c.IsDerived

theorem isDerived_start (transport : τ) (settings : StartSettings) (fresh : String) :
    (start transport settings fresh).IsDerived where
  state := State.isDerived_start settings fresh
  reports := List.forall_mem_nil fun r : Report => ∀ c, r.effectiveConfig = some c → c.IsDerived

/-! ## The loop -/

section Loop
variable [Transport τ]

theorem runLoop_rehash (s : Session τ) (input : Input) :
    s.runLoop input.rehash = s.runLoop input := by
  cases input with
  | answered answer =>
    unfold runLoop
    cases s.loop with
    | reading =>
      cases answer with
      | effective r =>
        have h := finishReading_rehash s .loop r
        exact congrArg (fun x => if s.isStopping then s.abandonReading else (Prod.snd x).begin) h
      | _ => rfl
    | identifying => cases answer <;> rfl
    | _ => rfl
  | _ => rfl

/-- The loop goes on with such a configuration as if the agent had given none. -/
theorem runLoop_of_holds {c : EffectiveConfig} (h : s.state.Holds c) (hs : s.state.IsDerived)
    (hl : s.loop = .reading) (e : CallbackError) :
    s.runLoop (.answered (.effective (.ok c))) = s.runLoop (.answered (.effective (.error e))) := by
  unfold runLoop
  rw [hl]
  dsimp only
  rw [finishReading_of_holds h hs]
  rfl

theorem Rests.isDerived (h : Rests s t) (hs : s.state.IsDerived) : t.state.IsDerived := by
  have pause {u : Session τ} (h : Frame .pause s u) : u.state.IsDerived :=
    hs.of_same (h.same (.state .effectiveConfig) (by simp [Scope.pause]))
      (h.same (.state .pending) (by simp [Scope.pause]))
  rcases h.report_or_pause with ⟨hp, -⟩ | ⟨u, l, e, hp, -, -, rfl⟩
  · exact pause hp
  · exact (pause hp).nextReport

theorem isDerived_runLoop (hs : s.state.IsDerived) (input : Input) :
    (s.runLoop input).state.IsDerived := by
  rcases s.runLoop_cases input with ⟨-, h⟩ | ⟨u, routed, hset, hgo⟩
  · rwa [h]
  · refine hgo.elim (M := fun u => u.state.IsDerived) (P := fun u => u.state.IsDerived)
      (fun u v h => h.changes.isDerived) (fun u i hu => ?_) (fun u v h => h.isDerived)
      (hset.changes.isDerived hs)
    have hf := frame_dispatch u i
    exact hu.of_same (hf.same (.state .effectiveConfig) id) (hf.same (.state .pending) id)

/-! ## A whole course -/

variable [Carrier τ]

/-- The action, with what the agent hands over under the hash of its content. -/
def Action.rehash : Action τ → Action τ
  | .run actor input => .run actor input.rehash
  | a => a

theorem act_rehash (s : Session τ) (a : Action τ) : s.act a.rehash = s.act a := by
  cases a with
  | run actor input =>
    cases actor with
    | loop => exact runLoop_rehash s input
    | task id => exact runTask_rehash s id input
  | _ => rfl

theorem after_rehash (s : Session τ) (actions : List (Action τ)) :
    s.after (actions.map Action.rehash) = s.after actions := by
  induction actions generalizing s with
  | nil => rfl
  | cons a rest ih => rw [List.map_cons, after_cons, after_cons, act_rehash, ih]

theorem isDerived_state_act (hs : s.state.IsDerived) (a : Action τ) :
    (s.act a).state.IsDerived := by
  rcases a.loop_cases with ⟨input, rfl⟩ | h
  · exact isDerived_runLoop hs input
  · cases announces_act s a h with
    | quiet ho => exact hs.of_same (by rw [ho]) (by rw [ho])
    | wakes u hc ht =>
      rw [ht]
      exact (hc.isDerived hs).apply .notify
    | adopts c _ _ ht =>
      rw [ht]
      exact hs.setEffectiveConfig c

theorem isDerived_act (hs : s.IsDerived) (a : Action τ) : (s.act a).IsDerived := by
  have hstate := isDerived_state_act hs.state a
  refine ⟨hstate, ?_⟩
  rcases reports_act s a with h | ⟨r, h, hp, -⟩
  · rw [h]
    exact hs.reports
  · rw [h]
    intro r' hr'
    rcases List.mem_append.1 hr' with hr' | hr'
    · exact hs.reports r' hr'
    · obtain rfl := List.mem_singleton.1 hr'
      exact hstate.pending r' hp

theorem isDerived_after (transport : τ) (settings : StartSettings) (fresh : String)
    (actions : List (Action τ)) : ((start transport settings fresh).after actions).IsDerived :=
  after_induction (P := IsDerived) (fun _ a h => isDerived_act h a)
    (isDerived_start transport settings fresh) actions

/-- **The hash that goes with the effective configuration is that of its content.** In every course
of a session, whatever hashes the agent hands over, each report that carries a configuration carries
the hash of exactly that configuration. A course that differs only in the hashes that the agent
hands over leads at every moment to the same session, with the same reports and the same wake-ups. A
configuration whose content has the hash of the recorded one is not recorded and marks nothing: a
task that the agent's answer brings it leaves the state and its wake-ups as they are, the call to
read the configuration again just ends, and the loop goes on as it does where the agent gives
none. -/
theorem effective_config_hashes_are_derived (transport : τ) (settings : StartSettings)
    (fresh : String) (actions : List (Action τ)) :
    let s := (start transport settings fresh).after actions
    (∀ r ∈ s.reports, ∀ c, r.effectiveConfig = some c → c.hash = c.config.digest) ∧
      (∀ others : List (Action τ), actions.map Action.rehash = others.map Action.rehash → ∀ n,
        (start transport settings fresh).after (others.take n) =
          (start transport settings fresh).after (actions.take n)) ∧
      ∀ c d, s.state.outbox.effectiveConfig.value = some d → d.config.digest = c.config.digest →
        s.state.setEffectiveConfig c = (false, s.state) ∧
        (∀ id x input, s.tasks.get? id = some x → x.brought? input = some c →
          (s.act (.run (.task id) input)).state = s.state) ∧
        (∀ id, s.tasks.get? id = some (.refresh .reading) →
          s.act (.run (.task id) (.answered (.effective (.ok c)))) =
            ((s.leaveGate (.task id)).emit (.refreshed id (.ok ()))).finish id) ∧
        (s.loop = .reading → ∀ e,
          s.act (.run .loop (.answered (.effective (.ok c)))) =
            s.act (.run .loop (.answered (.effective (.error e))))) := by
  intro s
  have hs : s.IsDerived := isDerived_after transport settings fresh actions
  refine ⟨hs.reports, fun others h n => ?_, fun c d hd hdigest => ?_⟩
  · rw [← after_rehash _ (others.take n), ← after_rehash _ (actions.take n), List.map_take,
      List.map_take, h]
  · have hc : s.state.Holds c := ⟨d, hd, hdigest⟩
    refine ⟨hc.setEffectiveConfig hs.state, fun id x input hx hb => ?_,
      fun id hx => ?_, fun hl => runLoop_of_holds hc hs.state hl⟩
    · exact state_runTask_of_holds hc hs.state hx hb
    · show s.runTask id _ = _
      unfold runTask
      rw [hx]
      exact refreshed_of_holds hc hs.state id

/-- The agent gives its configuration with the hash `hash`, and wants it to be read again. -/
def readTwice (hash : Bytes) : List (Action Http.Sender) :=
  [.run .loop .look, .run .loop (.answered (.effective (.ok ⟨{}, hash⟩))), .refresh,
    .run (.task 0) .look]

theorem effective_config_hashes_are_derived_readTwice :
    let begun := start ({} : Http.Sender) { serverUrl := "http://a" } "agent"
    let s := begun.after (readTwice [1])
    begun.after (readTwice [2]) = s ∧
      (∀ r ∈ s.reports, ∀ c, r.effectiveConfig = some c → c.hash = c.config.digest) ∧
      s.reports.length = 1 ∧
      (s.act (.run (.task 0) (.answered (.effective (.ok ⟨{}, [3]⟩))))).state = s.state := by
  intro begun s
  have h := effective_config_hashes_are_derived ({} : Http.Sender) { serverUrl := "http://a" }
    "agent" (readTwice [1])
  have hknown := h.2.2 ⟨{}, [3]⟩ (.of {}) rfl rfl
  exact ⟨h.2.1 (readTwice [2]) rfl 4, h.1, rfl, hknown.2.1 0 (.refresh .reading) _ rfl rfl⟩

end Loop

end Session

end ManagedAgent
