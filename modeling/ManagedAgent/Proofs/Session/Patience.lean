import ManagedAgent.Proofs.Session.BackOff
import ManagedAgent.Proofs.Session.Clock
import ManagedAgent.Proofs.Session.Closed

/-!
# How long a busy server is left alone

A server that says on a stream that it is busy may ask for a delay. The loop waits for just as long,
and for the interval only if nothing is asked for.

* `Quiet.after` : no report is sent before the deadline, whatever happens;
* `reports_look_pause` : at the deadline one is sent;
* `busy_server_is_left_alone_as_asked` : for how long, therefore, the server is left alone.
-/

set_option autoImplicit false

namespace ManagedAgent.Session
variable {τ : Type} [Transport τ] {s t : Session τ}

/-- How long the loop waits after a busy server's answer on a stream. -/
def patienceFor (s : Session τ) (e : ServerError) : Duration :=
  (delayOf e).getD (Transport.interval s.transport)

/-- How long a polling loop waits after the same answer: never less than the interval. -/
def fullPatienceFor (s : Session τ) (e : ServerError) : Duration := s.waitLength (delayOf e)

/-! ## Up to the deadline -/

/-- Since `s` no report was sent before the deadline: it is over, or the loop waits for it still or
has ended. -/
def Quiet (s : Session τ) (deadline : Nat) (t : Session τ) : Prop :=
  deadline ≤ t.now ∨ t.reports = s.reports ∧
    (t.loop = .ended ∨ ∃ retry, t.loop = .pausing deadline retry)

omit [Transport τ] in
theorem quiet_endLoop (deadline : Nat) (h : t.reports = s.reports) :
    Quiet s deadline t.endLoop := by
  have hframe : Frame .pause t t.endLoop := by
    refine .endLoop t ?_ ?_ (fun _ _ _ => trivial) (fun _ => trivial) trivial
    all_goals simp [Scope.pause]
  exact .inr ⟨hframe.silent_of_pause.reports.trans h, .inl (loop_endLoop t)⟩

theorem Quiet.runLoop {deadline : Nat} (h : Quiet s deadline t) (input : Input) :
    Quiet s deadline (t.runLoop input) := by
  by_cases hnow : deadline ≤ t.now
  · exact .inl ((now_runLoop t input).symm ▸ hnow)
  · obtain ⟨hr, hl | ⟨retry, hl⟩⟩ := h.resolve_left hnow
    · rwa [runLoop_of_ended hl]
    · unfold Session.runLoop
      rw [hl]
      cases input with
      | look =>
        dsimp only
        split
        · exact quiet_endLoop deadline hr
        · exact h
      | _ => exact h

/-- The loop starts to wait, or has nothing to wait for. -/
theorem quiet_pause (h : t.reports = s.reports) (hnow : t.now = s.now) (length retry : Duration) :
    Quiet s (s.now + length.ticks) (t.pause length retry) := by
  unfold pause
  split
  · exact quiet_endLoop _ h
  · split
    · next hz =>
      refine .inl ?_
      rw [now_goes (goes_streamAnew t retry), hnow, hz]
      exact Nat.le_refl _
    · exact .inr ⟨h, .inr ⟨retry, by rw [hnow]⟩⟩

variable [Carrier τ]

theorem Quiet.act {deadline : Nat} (h : Quiet s deadline t) (a : Action τ) :
    Quiet s deadline (t.act a) := by
  rcases a.loop_cases with ⟨input, rfl⟩ | ha
  · exact h.runLoop input
  · have hframe := frame_beside t a ha
    have hloop : (t.act a).loop = t.loop := hframe.same .loop (by simp [Scope.beside])
    rcases h with hnow | ⟨hr, hl⟩
    · exact .inl (Nat.le_trans hnow (now_le_act t a))
    · exact .inr ⟨(hframe.filterMap_history fun _ h => h).trans hr, hloop ▸ hl⟩

theorem Quiet.after {deadline : Nat} (h : Quiet s deadline t) (actions : List (Action τ)) :
    Quiet s deadline (t.after actions) :=
  after_induction (P := Quiet s deadline) (fun _ a h => h.act a) h actions

/-! ## At the deadline -/

/-- After a full report there are more reports than before. -/
theorem reports_streamAnew_after (s : Session τ) (retry : Duration) (later : List (Action τ)) :
    ((s.streamAnew retry).after later).reports ≠ s.reports := by
  intro h
  have hle := (reports_prefix_after (s.streamAnew retry) later).length_le
  rw [h, reports_streamAnew, List.length_append, List.length_singleton] at hle
  omega

/-- When the time is over the loop looks, and sends a report. -/
theorem reports_look {deadline : Nat} {retry : Duration} (hgoing : t.isStopping = false)
    (hl : t.loop = .pausing deadline retry) :
    (t.after [.setTime deadline, .run .loop .look]).reports ≠ t.reports := by
  have hlook := runLoop_pausing_of_le (s := t.setTime deadline) hl hgoing (Nat.le_max_right _ _)
  show ((t.setTime deadline).runLoop .look).reports ≠ t.reports
  rw [hlook]
  exact reports_streamAnew_after (t.setTime deadline) retry []

theorem now_look (t : Session τ) {deadline : Nat} (h : t.now ≤ deadline) :
    (t.after [.setTime deadline, .run .loop .look]).now = deadline := by
  show ((t.setTime deadline).runLoop .look).now = deadline
  rw [now_runLoop]
  exact Nat.max_eq_right h

/-- When the time is over and the loop looks, a report has been sent, if the session goes on. -/
theorem reports_look_pause (hgoing : s.isStopping = false) (length retry : Duration) :
    let u := (s.pause length retry).after [.setTime (s.now + length.ticks), .run .loop .look]
    u.now = s.now + length.ticks ∧ u.reports ≠ s.reports := by
  intro u
  by_cases hz : length = .zero
  · have hpause : s.pause length retry = s.streamAnew retry := by
      unfold pause
      rw [hgoing, if_neg nofun, if_pos hz]
    have hnow : (s.pause length retry).now = s.now := by
      rw [hpause]
      exact now_goes (goes_streamAnew s retry)
    refine ⟨now_look _ (hnow ▸ Nat.le_add_right _ _), ?_⟩
    show ((s.pause length retry).after _).reports ≠ _
    rw [hpause]
    exact reports_streamAnew_after s retry _
  · have hpause : s.pause length retry =
        { s with loop := .pausing (s.now + length.ticks) retry } := by
      unfold pause
      rw [hgoing, if_neg nofun, if_neg hz]
    have hnow : (s.pause length retry).now = s.now := by rw [hpause]
    refine ⟨now_look _ (hnow ▸ Nat.le_add_right _ _), ?_⟩
    show ((s.pause length retry).after _).reports ≠ _
    rw [hpause]
    exact reports_look (t := { s with loop := .pausing (s.now + length.ticks) retry }) hgoing rfl

/-! ## How long the server is left alone -/

/-- After `t` no report is sent before that much time has passed since `s`. -/
def LeavesAlone (s t : Session τ) (d : Duration) : Prop :=
  ∀ later : List (Action τ), (t.after later).reports = s.reports ∨
    d.toNanos ≤ ((t.after later).now - s.now) * 1000000

/-- The loop has paused: it leaves the server alone for that many ticks, and no longer. -/
theorem leavesAlone_pause (hgoing : s.isStopping = false) (length retry d : Duration) :
    LeavesAlone s (s.pause length retry) d ↔ d.toNanos ≤ length.ticks * 1000000 := by
  refine ⟨fun h => ?_, fun h later => ?_⟩
  · obtain ⟨hnow, hreports⟩ := reports_look_pause hgoing length retry
    have hd := (h _).resolve_left hreports
    rwa [hnow, Nat.add_sub_cancel_left] at hd
  · rcases (quiet_pause (s := s) rfl rfl length retry).after later with hnow | ⟨hr, -⟩
    · exact .inr (Nat.le_trans h (Nat.mul_le_mul_right _ (by omega)))
    · exact .inl hr

omit [Carrier τ] in
/-- The full time is over as soon as the shorter one, if a tick makes no difference. -/
theorem toNanos_fullPatienceFor_le_iff (s : Session τ) (e : ServerError) :
    (s.fullPatienceFor e).toNanos ≤ (s.patienceFor e).ticks * 1000000 ↔
      ∀ d, delayOf e = some d → (Transport.interval s.transport).ticks ≤ d.ticks := by
  unfold fullPatienceFor waitLength patienceFor
  cases delayOf e with
  | none => exact iff_of_true (Duration.toNanos_le_ticks _) nofun
  | some d =>
    simp only [Option.getD_some, Option.some.injEq, forall_eq', Duration.toNanos_max,
      Nat.max_le, Duration.toNanos_le_ticks, true_and]
    exact Duration.toNanos_le_iff _ _

/-- **A busy server is left alone for as long as it asks.** Once a server has said on a stream that
it is busy, no report is sent, whatever happens, before the delay that it asks for has passed, or the
interval if it asks for none; and then one is sent, unless stop is requested before. The longer of
the two passes before the next report just if no delay is asked for that is shorter than the
interval. -/
theorem busy_server_is_left_alone_as_asked (transport : τ) (settings : StartSettings)
    (fresh : String) (before : List (Action τ)) (retry : Duration) (i : Instruction)
    (e : ServerError)
    (hl : ((start transport settings fresh).after before).loop = .receiving retry)
    (hd : ((start transport settings fresh).after before).isDistracted = false)
    (he : i.unavailable? = some e) :
    let s := (start transport settings fresh).after before
    let t := s.act (.run .loop (.received (.ok (some i))))
    (∀ d, LeavesAlone s t d ↔ d.toNanos ≤ (s.patienceFor e).ticks * 1000000) ∧
      (LeavesAlone s t (s.fullPatienceFor e) ↔
        ∀ d, delayOf e = some d → (Transport.interval s.transport).ticks ≤ d.ticks) := by
  intro s t
  have hgoing : s.isStopping = false := isStopping_of_isDistracted hd
  have halone (d : Duration) :
      LeavesAlone s t d ↔ d.toNanos ≤ (s.patienceFor e).ticks * 1000000 := by
    have hrun : t = _ := runLoop_received hl hd he
    rw [hrun]
    exact leavesAlone_pause (s := s.setWakeup Wakeup.leave) hgoing _ retry d
  exact ⟨halone, (halone _).trans (toNanos_fullPatienceFor_le_iff s e)⟩

/-! ## A server that asks for a second -/

theorem busy_server_is_left_alone_as_asked_statusSent :
    let s := (start ({} : Network.Client) streamAgent "agent").after statusSent
    let t := s.act (.run .loop (.received (.ok (some busyAnswer))))
    (s.loop = .receiving StartSettings.defaultInterval ∧ s.isDistracted = false ∧
        busyAnswer.unavailable? = some { kind := .unavailable, retryAfter := some 1000000000 }) ∧
      LeavesAlone s t (.ofSecs 1) ∧ ¬ LeavesAlone s t (.ofSecs 2) := by
  intro s t
  obtain ⟨halone, -⟩ := busy_server_is_left_alone_as_asked ({} : Network.Client) streamAgent "agent"
    statusSent StartSettings.defaultInterval busyAnswer
    { kind := .unavailable, retryAfter := some 1000000000 } loop_statusSent isDistracted_statusSent
    rfl
  refine ⟨⟨loop_statusSent, isDistracted_statusSent, rfl⟩, ?_, ?_⟩
  · exact (halone (.ofSecs 1)).2 (by decide)
  · exact fun h => absurd ((halone (.ofSecs 2)).1 h) (by decide)

def hurriedAnswer : Instruction :=
  { error := some { kind := .unavailable, retryAfter := some 0 } }

/-- The interval is of thirty seconds, but every refused report is followed by the next at once. -/
theorem busy_server_is_hammered :
    let s := (start ({} : Network.Client) streamAgent "agent").after statusSent
    let answer := .run .loop (.received (.ok (some hurriedAnswer)))
    let t := s.act answer
    let u := t.after [.run .loop (.sent (.ok ())), answer]
    s.loop = .receiving StartSettings.defaultInterval ∧ s.isDistracted = false ∧
      hurriedAnswer.unavailable? = some { kind := .unavailable, retryAfter := some 0 } ∧
      s.fullPatienceFor { kind := .unavailable, retryAfter := some 0 } = .ofSecs 30 ∧
      u.now = s.now ∧ t.reports.length = s.reports.length + 1 ∧
      u.reports.length = s.reports.length + 2 ∧ ¬ LeavesAlone s t (.ofSecs 30) := by
  intro s answer t u
  have hnow : t.now = s.now := by decide
  have hlength : t.reports.length = s.reports.length + 1 := by decide
  refine ⟨loop_statusSent, isDistracted_statusSent, rfl, by decide, by decide, hlength, by decide,
    fun h => ?_⟩
  rcases h [] with hr | hle
  · have hr : t.reports = s.reports := hr
    rw [hr] at hlength
    omega
  · have hle : (Duration.ofSecs 30).toNanos ≤ (t.now - s.now) * 1000000 := hle
    rw [hnow, Nat.sub_self, Nat.zero_mul] at hle
    exact absurd hle (by decide)

end ManagedAgent.Session
