import ManagedAgent.Proofs.Session.Announcing
import ManagedAgent.Proofs.Session.Heeding

/-!
# No change is left waiting

Changes are recorded at any moment, also while the loop exchanges a report, and a wake-up may come
later than the change that it announces. A `Moment` is an action, an action whose wake-up is late, or
such a wake-up; a `Watch` keeps account of the operations that are to wake the loop yet.

* `Tells` : what the assembled reports tell of the parts and of the statuses of connections;
* `Watch.IsBusy` : an operation stands between its record and its wake-up;
* `Sound.act`, `Sound.late`, `Sound.wake` : what holds from one moment to the next;
* `no_change_is_left_waiting` : whenever the loop waits, every change is told, or it is to hear of
  it.
-/

set_option autoImplicit false

namespace ManagedAgent.Session
variable {τ : Type} {s t : Session τ} {statuses : List ConnectionStatus} {busy busy' : Prop}

/-- A scope with neither an exchange nor the sending of a report begins no report. -/
theorem Scope.report?_eq_none {S : Scope} (hx : ∀ r, ¬ S.logs (.exchanging r))
    (hs : ∀ r, ¬ S.logs (.sending r)) : ∀ e, S.logs e → e.report? = none := by
  intro e he
  cases e with
  | exchanging r => exact absurd he (hx r)
  | sending r => exact absurd he (hs r)
  | _ => rfl

/-! ## What is told -/

/-- The parts are told by the assembled reports as far as they have not changed since, the first
report is a full one, and a status is in a report or waits for the next. -/
structure Tells (statuses : List ConnectionStatus) (s : Session τ) : Prop where
  told : s.state.outbox.Told (s.reports ≠ []) (Parts.told s.reports)
  first : s.reports ≠ [] ∨ s.state.outbox.fullState = true
  statuses : ∀ status ∈ statuses,
    status ∈ s.state.outbox.connectionStatuses ∨ ∃ r ∈ s.reports, status ∈ r.connectionStatuses

theorem tells_start (transport : τ) (settings : StartSettings) (fresh : String) :
    (start transport settings fresh).Tells [] where
  told := (Outbox.Told.start settings fresh).imp fun h => h rfl
  first := .inr rfl
  statuses := List.forall_mem_nil _

theorem Tells.changes (hs : s.Tells statuses) (h : s.state.Changes t.state)
    (hr : t.reports = s.reports) : t.Tells statuses where
  told := by
    rw [hr]
    exact hs.told.changes h
  first := by
    rw [hr]
    exact hs.first.imp_right h.keeps.1
  statuses status hm := by
    rw [hr]
    exact (hs.statuses status hm).imp_left (h.keeps.2.subset ·)

theorem Tells.of_outbox (hs : s.Tells statuses) (h : t.state.outbox = s.state.outbox)
    (hr : t.reports = s.reports) : t.Tells statuses := by
  obtain ⟨h1, h2, h3⟩ := hs
  rw [← h, ← hr] at h1 h2 h3
  exact ⟨h1, h2, h3⟩

def reported : List State.Aspect :=
  [.description, .health, .effectiveConfig, .remoteConfigStatus, .packageStatuses, .marks,
    .connectionStatuses, .fullState, .pending]

/-- A step that is not about reports. -/
theorem Tells.frame {S : Scope} (hs : s.Tells statuses) (h : Frame S s t)
    (hm : ∀ a ∈ reported, ¬ S.may (.state a)) (hl : ∀ e, S.logs e → e.report? = none) :
    t.Tells statuses := by
  have hr : t.reports = s.reports := h.filterMap_history hl
  have hsame (a : State.Aspect) (ha : a ∈ reported) : a.Same s.state t.state :=
    h.same (.state a) (hm a ha)
  have hfull : t.state.outbox.fullState = s.state.outbox.fullState :=
    hsame .fullState (by simp [reported])
  have hc : t.state.outbox.connectionStatuses = s.state.outbox.connectionStatuses :=
    hsame .connectionStatuses (by simp [reported])
  refine ⟨?_, ?_, ?_⟩
  · rw [hr]
    refine hs.told.of_same fun a ha => hsame a ?_
    simp only [List.mem_cons, List.not_mem_nil, or_false] at ha
    rcases ha with rfl | rfl | rfl | rfl | rfl | rfl | rfl
    all_goals simp [reported]
  · rw [hr, hfull]
    exact hs.first
  · rw [hr, hc]
    exact hs.statuses

/-- A report is assembled: it has every status that waits. -/
theorem Tells.report (hs : s.Tells statuses) (l : Loop) {e : Event}
    (he : e.report? = some s.nextReport.1) :
    ({ s.nextReport.2 with loop := l }.emit e).Tells statuses := by
  have hr := reports_report s l he
  refine ⟨?_, ?_, fun status hm => .inr ?_⟩
  · rw [hr, Parts.told_concat]
    exact (hs.told.nextReport hs.first).imp fun _ => trivial
  · rw [hr]
    exact .inl (List.concat_ne_nil _ _)
  · rw [hr]
    rcases hs.statuses status hm with h | ⟨r, hmem, h⟩
    · exact ⟨s.nextReport.1, List.mem_append_right _ (.head _), List.mem_append_right _ h⟩
    · exact ⟨r, List.mem_append_left _ hmem, h⟩

theorem tells_dispatch (hs : s.Tells statuses) (i : Instruction) :
    (s.dispatch i).Tells statuses :=
  hs.frame (frame_dispatch s i) (by simp [reported, Scope.routing])
    (Scope.report?_eq_none (fun _ h => h) fun _ h => h)

section Loop
variable [Transport τ]

theorem Settles.changes {input : Input} (h : Settles s input t) : s.state.Changes t.state := by
  have same {u : Session τ} (hu : u.state = s.state) : s.state.Changes u.state :=
    hu ▸ .of_ops [] (by simp)
  have took {u : Session τ} (hu : u.state = s.state) (number : UInt64) :
      s.state.Changes (u.update (·.delivered number)).state := by
    rw [state_update, hu]
    exact .of_ops [.delivered number] (by simp)
  cases h with
  | nothing => exact same rfl
  | missed => exact same rfl
  | taken number => exact took rfl number
  | proved task previous number => exact took (reply_state s task _) number
  | disproved => exact same (reply_state _ _ _)
  | switched => exact same (reply_state _ _ _)
  | unswitched => exact same (reply_state _ _ _)

theorem Settles.tells {input : Input} (h : Settles s input t) (hs : s.Tells statuses) :
    t.Tells statuses :=
  hs.changes h.changes
    (h.frame.filterMap_history (Scope.report?_eq_none (fun _ h => h) fun _ h => h))

theorem Works.changes (h : Works s t) : s.state.Changes t.state := by
  have same {u : Session τ} (hu : u.state = s.state) : s.state.Changes u.state :=
    hu ▸ .of_ops [] (by simp)
  cases h with
  | connected => exact same (by unfold markConnected; split <;> rfl)
  | failed e =>
    refine same ?_
    unfold markFailed
    dsimp only
    split
    · rfl
    · split <;> rfl
  | serverError => exact same rfl
  | fullState =>
    rw [state_update]
    exact .of_ops [.requestFullState] (by simp)
  | adopt uid =>
    rw [state_update]
    exact .of_ops [.setUid uid] (by simp)
  | read r =>
    cases r with
    | ok c =>
      rw [state_finishReading]
      exact .of_ops [.setEffectiveConfig c] (by simp)
    | error => exact same (state_finishReading _ _ _)
  | abandon => exact same (state_leaveGate _ _)
  | wakeup f => exact .of_ops [.setWakeup f] (by simp)
  | refuse => exact same (reply_state _ _ _)

theorem Works.tells (h : Works s t) (hs : s.Tells statuses) : t.Tells statuses :=
  hs.changes h.changes h.frame.silent_of_work.reports

theorem Rests.tells (h : Rests s t) (hs : s.Tells statuses) : t.Tells statuses := by
  have pause {u : Session τ} (hu : Frame .pause s u) : u.Tells statuses :=
    hs.frame hu (by simp [reported, Scope.pause])
      (Scope.report?_eq_none (fun _ h => h) fun _ h => h)
  rcases h.report_or_pause with ⟨hp, -⟩ | ⟨u, l, e, hp, he, -, rfl⟩
  · exact pause hp
  · exact (pause hp).report l he

theorem tells_runLoop (hs : s.Tells statuses) (input : Input) :
    (s.runLoop input).Tells statuses := by
  rcases s.runLoop_cases input with ⟨-, h⟩ | ⟨u, routed, hset, hgo⟩
  · rwa [h]
  · exact hgo.elim (fun _ _ h => h.tells) (fun _ i hs => tells_dispatch hs i)
      (fun _ _ h => h.tells) (hset.tells hs)

end Loop

/-! ## Steps beside the loop -/

def Scope.beside : Scope where
  may a := a ∉ [.loop, .state .sequence, .state .fullState, .state .pending]
  logs e := e.report? = none
  tasks _ := True

theorem Frame.beside {S : Scope} (h : Frame S s t)
    (hm : ∀ a ∈ [Aspect.loop, .state .sequence, .state .fullState, .state .pending], ¬ S.may a)
    (hx : ∀ r, ¬ S.logs (.exchanging r)) (hs : ∀ r, ¬ S.logs (.sending r)) :
    Frame .beside s t :=
  h.mono (fun a ha hb => hm a hb ha) (Scope.report?_eq_none hx hs) fun _ _ => trivial

/-- What the loop is attentive to is the same after a step beside it, if it is to hear of what has
changed. -/
theorem Attentive.beside (hs : s.Attentive busy) (h : Frame .beside s t)
    (hh : s.Heard busy → t.Heard busy') : t.Attentive busy' := by
  have hl : t.loop = s.loop := h.same .loop (by simp [Scope.beside])
  have hfull : t.state.outbox.fullState = s.state.outbox.fullState :=
    h.same (.state .fullState) (by simp [Scope.beside])
  have hp : t.state.outbox.pending = s.state.outbox.pending :=
    h.same (.state .pending) (by simp [Scope.beside])
  have polls (hs : s.Polls busy) : t.Polls busy' := ⟨hh hs.heard, h.reports_ne_nil hs.begun⟩
  unfold Attentive at hs ⊢
  rw [hl]
  split at hs
  iterate 5 exact polls hs
  · exact ⟨hh hs.1, hfull.trans hs.2⟩
  · exact ⟨hh hs.heard, hfull.trans hs.part, hp.trans hs.taken⟩
  · trivial

theorem Along.beside {attempts : List Attempt} (hs : Along attempts s) (h : Frame .beside s t) :
    Along attempts t := by
  refine hs.frame (h.mono (fun a ha => ?_) (fun _ he => he) fun _ _ => trivial)
    (h.same .loop (by simp [Scope.beside]))
  refine ⟨?_, ?_⟩
  all_goals
    rintro rfl
    simp [Scope.beside] at ha

section Act
variable [Transport τ] [Carrier τ]

theorem frame_beside (s : Session τ) (a : Action τ) (h : a.isLoop = false) :
    Frame .beside s (s.act a) := by
  by_cases hc : a.isCall = true
  · exact (frame_act s a hc).beside (by simp [Scope.calls]) (fun _ h => h) fun _ h => h
  · cases a with
    | run actor input =>
      cases actor with
      | loop => contradiction
      | task id =>
        show Frame .beside s (s.runTask id input)
        cases hx : s.tasks.get? id with
        | none =>
          rw [runTask_of_none hx]
          exact .refl s
        | some x =>
          refine (frame_runTask hx input).beside ?_ (fun r => ?_) fun r => ?_
          · cases x with
            | remoteConfig => simp [Scope.of, Scope.config]
            | connection => simp [Scope.of, Scope.offer]
            | packages => simp [Scope.of, Scope.packages]
            | command => simp [Scope.of, Scope.command]
            | refresh => simp [Scope.of, Scope.refresh]
          · cases x <;> exact fun h => h
          · cases x <;> exact fun h => h
    | use u => exact .setTransport s _ (by simp [Scope.beside])
    | setInterval d => exact .setTransport s _ (by simp [Scope.beside])
    | stop => exact (frame_stop s).beside (by simp [Scope.stop]) (fun _ h => h) fun _ h => h
    | _ => exact absurd rfl hc

theorem tells_act (hs : s.Tells statuses) (a : Action τ) (h : a.isLoop = false) :
    (s.act a).Tells statuses := by
  have hr : (s.act a).reports = s.reports :=
    (frame_beside s a h).filterMap_history fun _ he => he
  cases announces_act s a h with
  | quiet ho => exact hs.of_outbox ho hr
  | wakes u hc ht =>
    refine hs.changes ?_ hr
    rw [ht]
    exact hc.trans (.of_ops [.notify] (by simp))
  | adopts c _ _ ht =>
    refine hs.changes ?_ hr
    rw [ht]
    exact .of_ops [.setEffectiveConfig c] (by simp)

end Act

/-! ## Operations and their wake-ups -/

/-- A session, and the operations that have recorded a change and are to wake the loop for it. -/
structure Watch (τ : Type) where
  session : Session τ
  /-- The tasks that have put a new configuration in force and have not recorded its status. -/
  adopters : List Nat := []
  /-- How many wake-ups are late. -/
  late : Nat := 0

namespace Watch

def start (transport : τ) (settings : StartSettings) (fresh : String) : Watch τ :=
  { session := Session.start transport settings fresh }

/-- An operation stands between the record of a change and its wake-up. -/
def IsBusy (w : Watch τ) : Prop := w.adopters ≠ [] ∨ w.late ≠ 0

instance (w : Watch τ) : Decidable w.IsBusy := inferInstanceAs (Decidable (_ ∨ _))

end Watch

structure Sound (statuses : List ConnectionStatus) (w : Watch τ) : Prop where
  along : ∃ attempts, Along attempts w.session
  attentive : w.session.Attentive w.IsBusy
  tells : w.session.Tells statuses

theorem sound_start (transport : τ) (settings : StartSettings) (fresh : String) :
    Sound [] (Watch.start transport settings fresh) where
  along := ⟨[], wellNumbered_nil, State.counts_start settings fresh, rfl⟩
  attentive := trivial
  tells := tells_start transport settings fresh

/-- A step beside the loop. -/
theorem Sound.beside {w w' : Watch τ} (hs : Sound statuses w)
    (h : Frame .beside w.session w'.session)
    (hh : w.session.Heard w.IsBusy → w'.session.Heard w'.IsBusy)
    (ht : w'.session.Tells statuses) : Sound statuses w' where
  along := hs.along.imp fun _ ha => ha.beside h
  attentive := hs.attentive.beside h hh
  tells := ht

/-- The statuses that wait now. -/
theorem Sound.waiting {w : Watch τ} (hs : Sound statuses w) :
    Sound w.session.state.outbox.connectionStatuses w :=
  { hs with tells := { hs.tells with statuses := fun _ hm => .inl hm } }

section Course
variable [Carrier τ]

/-- What can happen next, where wake-ups may be late. -/
inductive Moment (τ : Type) [Carrier τ] where
  /-- An action, with its wake-up. -/
  | act (a : Action τ)
  /-- An action of the agent or of a task that has yet to wake the loop. -/
  | late (a : Action τ) (h : a.isLoop = false)
  /-- A wake-up that was late. -/
  | wake

/-- The tasks that have put a new configuration in force and have not recorded its status, after an
action. -/
def Action.adopters (s : Session τ) (tasks : List Nat) (a : Action τ) : List Nat :=
  match a with
  | .run (.task id) _ =>
    if a.isSaving s then tasks.filter (· ≠ id)
    else if (a.adopted? s).any fun c => (s.state.setEffectiveConfig c).1 then id :: tasks
    else tasks
  | _ => tasks

/-- Only the record of a status takes a task away. -/
theorem adopters_ne_nil {tasks : List Nat} {a : Action τ} (h : a.isSaving s = false)
    (ht : tasks ≠ []) : a.adopters s tasks ≠ [] := by
  unfold Action.adopters
  split
  · rw [h]
    split
    · contradiction
    · split
      · exact List.cons_ne_nil _ _
      · exact ht
  · exact ht

theorem adopters_of_adopted (tasks : List Nat) {a : Action τ} {c : EffectiveConfig}
    (h : a.isSaving s = false) (hc : a.adopted? s = some c)
    (hn : (s.state.setEffectiveConfig c).1 = true) : a.adopters s tasks ≠ [] := by
  unfold Action.adopters
  split
  · rw [h, hc, Option.any_some, hn]
    exact List.cons_ne_nil _ _
  · next hne =>
    cases a with
    | run actor input =>
      cases actor with
      | loop => contradiction
      | task id => exact absurd rfl (hne id input)
    | _ => contradiction

namespace Watch
variable [Transport τ]

def next (w : Watch τ) : Moment τ → Watch τ
  | .act a =>
    { w with session := w.session.act a, adopters := a.adopters w.session w.adopters }
  | .late a _ =>
    { session := (w.session.act a).setWakeup fun _ => w.session.state.wakeup
      adopters := a.adopters w.session w.adopters
      late := w.late + 1 }
  | .wake => { w with session := w.session.update State.notify, late := w.late - 1 }

def after (w : Watch τ) (course : List (Moment τ)) : Watch τ := course.foldl next w

theorem after_append (w : Watch τ) (earlier later : List (Moment τ)) :
    w.after (earlier ++ later) = (w.after earlier).after later := List.foldl_append

end Watch

/-! ## From one moment to the next -/

theorem isSignalled_notify (s : State) : s.notify.wakeup.isSignalled = true := by
  show decide (0 < min (s.wakeup.signals + 1) (if s.wakeup.waiting then 2 else 1)) = true
  split
  · exact decide_eq_true (by omega)
  · exact decide_eq_true (by omega)

variable [Transport τ] {w : Watch τ}

/-- The loop is to hear of what happens beside it. -/
theorem heard_act {tasks : List Nat} {late : Nat} {a : Action τ} (h : a.isLoop = false)
    (hs : s.Heard (tasks ≠ [] ∨ late ≠ 0)) :
    (s.act a).Heard (a.adopters s tasks ≠ [] ∨ late ≠ 0) := by
  cases announces_act s a h with
  | quiet ho hw hsaving =>
    unfold Heard IsCurrent at hs ⊢
    rw [ho, hw]
    exact hs.imp_right (Or.imp_left (Or.imp_left (adopters_ne_nil hsaving)))
  | wakes u _ ht =>
    rw [Heard, ht]
    exact .inl (isSignalled_notify u)
  | adopts c hc hn _ hsaving => exact .inr (.inl (.inl (adopters_of_adopted tasks hsaving hc hn)))

theorem Sound.runLoop (hs : Sound statuses w) (input : Input) :
    Sound statuses (w.next (.act (.run .loop input))) where
  along := by
    obtain ⟨attempts, h⟩ := hs.along
    obtain ⟨ended, h, -⟩ := h.runLoop input
    exact ⟨_, h⟩
  attentive := by
    obtain ⟨attempts, h⟩ := hs.along
    exact attentive_runLoop hs.attentive h.pending input
  tells := tells_runLoop hs.tells input

theorem Sound.act (hs : Sound statuses w) (a : Action τ) : Sound statuses (w.next (.act a)) := by
  rcases a.loop_cases with ⟨input, rfl⟩ | h
  · exact hs.runLoop input
  · exact hs.beside (frame_beside w.session a h) (heard_act h) (tells_act hs.tells a h)

theorem Sound.late (hs : Sound statuses w) (a : Action τ) (h : a.isLoop = false) :
    Sound statuses (w.next (.late a h)) := by
  have hlate (f : Wakeup → Wakeup) :
      Frame .beside (w.session.act a) ((w.session.act a).setWakeup f) :=
    .setWakeup _ f (by simp [Scope.beside])
  exact hs.beside ((frame_beside w.session a h).trans (hlate fun _ => w.session.state.wakeup))
    (fun _ => .inr (.inl (.inr (Nat.succ_ne_zero _)))) ((tells_act hs.tells a h).of_outbox rfl rfl)

theorem Sound.wake (hs : Sound statuses w) : Sound statuses (w.next .wake) := by
  have hstate : (w.session.update State.notify).state = w.session.state.notify := state_update _ _
  refine hs.beside (.update _ _ (.notify _ (by simp [Scope.beside])) rfl) (fun _ => .inl ?_)
    (hs.tells.of_outbox ((congrArg State.outbox hstate).trans rfl) (reports_update _ _))
  show (w.session.update State.notify).state.wakeup.isSignalled = true
  rw [hstate]
  exact isSignalled_notify _

theorem Sound.after (hs : Sound statuses w) (course : List (Moment τ)) :
    Sound statuses (w.after course) := by
  induction course generalizing w with
  | nil => exact hs
  | cons m course ih =>
    cases m with
    | act a => exact ih (hs.act a)
    | late a h => exact ih (hs.late a h)
    | wake => exact ih hs.wake

/-- **No change is left waiting.** Whenever a polling loop waits and no operation stands between the
record of a change and its wake-up, a wake-up is stored, or nothing has changed since a report was
assembled: the assembled reports tell of all parts what the session has, and have every status of a
connection that was ever recorded. Whenever a loop waits on its stream, no wake-up is stored, and no
operation stands in between, nothing is pending, and a report that is assembled now is blank. -/
theorem no_change_is_left_waiting (transport : τ) (settings : StartSettings) (fresh : String)
    (course : List (Moment τ)) :
    let w := (Watch.start transport settings fresh).after course
    let s := w.session
    (∀ deadline, s.loop = .waiting deadline → ¬ w.IsBusy →
      s.state.wakeup.isSignalled = true ∨
        (s.state.outbox.anyChanged = false ∧ s.state.outbox.connectionStatuses = []) ∧
          Parts.told s.reports = s.state.parts ∧
          ∀ earlier, earlier <+: course →
            ∀ status ∈ ((Watch.start transport settings fresh).after
                earlier).session.state.outbox.connectionStatuses,
              ∃ r ∈ s.reports, status ∈ r.connectionStatuses) ∧
      ∀ retry, s.loop = .receiving retry → ¬ w.IsBusy → s.state.wakeup.isSignalled = false →
        s.state.hasPendingChanges = false ∧ s.state.nextReport.1.parts = {} ∧
          s.state.nextReport.1.connectionStatuses = [] := by
  intro w s
  have hstart := sound_start transport settings fresh
  have h : Sound [] w := hstart.after course
  refine ⟨fun deadline hl hb => ?_, fun retry hl hb hw => ?_⟩
  · have hp := h.attentive.polls hl trivial
    refine hp.heard.imp_right fun hs => ?_
    have hcurrent := hs.resolve_left hb
    refine ⟨hcurrent, (h.tells.told.eq_parts hp.begun hcurrent.1), ?_⟩
    rintro earlier ⟨later, rfl⟩ status hm
    have hsince := (hstart.after earlier).waiting.after later
    rw [← Watch.after_append] at hsince
    refine (hsince.tells.statuses status hm).resolve_left fun hm => ?_
    have hm : status ∈ s.state.outbox.connectionStatuses := hm
    rw [hcurrent.2] at hm
    contradiction
  · have hidle := (h.attentive.listens hl).idle hw hb
    exact ⟨hidle, State.nextReport_of_idle hidle⟩

/-- The agent's health changes during an exchange, and its wake-up comes when the loop waits again. -/
def latePoll : List (Moment Http.Sender) :=
  [.act (.run .loop .look), .act (.run .loop (.answered (.effective (.error .cancelled)))),
    .late (.setHealth { healthy := true }) rfl, .act (.run .loop (.exchanged (.ok none))), .wake,
    .act (.run .loop .look), .act (.run .loop (.exchanged (.ok none)))]

/-- The same on a stream. -/
def lateSend : List (Moment Network.Client) :=
  [.act (.run .loop .look), .act (.run .loop (.answered (.effective (.error .cancelled)))),
    .act (.run .loop (.connected (.ok ()))), .late (.setHealth { healthy := true }) rfl,
    .act (.run .loop (.sent (.ok ()))), .wake, .act (.run .loop .look),
    .act (.run .loop (.sent (.ok ())))]

theorem no_change_is_left_waiting_late :
    let w := (Watch.start ({} : Http.Sender) { serverUrl := "http://a" } "agent").after latePoll
    let v := (Watch.start ({} : Network.Client) { serverUrl := "a" } "agent").after lateSend
    (w.session.loop = .waiting 30000 ∧ w.session.state.parts.health = some { healthy := true } ∧
        Parts.told w.session.reports = w.session.state.parts) ∧
      v.session.loop = .receiving StartSettings.defaultInterval ∧
        v.session.state.parts.health = some { healthy := true } ∧
        v.session.state.hasPendingChanges = false := by
  intro w v
  have hw : w.session.loop = .waiting 30000 := by decide
  have hv : v.session.loop = .receiving StartSettings.defaultInterval := by decide
  have hpoll := (no_change_is_left_waiting ({} : Http.Sender) { serverUrl := "http://a" } "agent"
    latePoll).1 30000 hw (by decide)
  have hsend := (no_change_is_left_waiting ({} : Network.Client) { serverUrl := "a" } "agent"
    lateSend).2 _ hv (by decide) (by decide)
  have hquiet : ¬ w.session.state.wakeup.isSignalled = true := by decide
  exact ⟨⟨hw, by decide, (hpoll.resolve_left hquiet).2.1⟩, hv, by decide, hsend.1⟩

end Course

end ManagedAgent.Session
