import ManagedAgent.Proofs.Session.Numbers
import ManagedAgent.Proofs.Session.Views

/-!
# The loop heeds what is recorded

The loop is to hear of every change: by a wake-up that is stored, by an operation that is `busy` and
wakes it yet, or because a report was assembled after the change (`Heard`). What holds of the loop
depends on where it waits (`Attentive`): a polling loop hears of all changes from its first exchange
on, a loop on a stream from the moment it has assembled a report that nothing was left out of, up to
the next moment at which it looks for changes by itself.

* `Heard.aside` : steps that concern neither the changes nor the wake-ups;
* `attentive_wait`, `attentive_attend` : the two ways to wait, for the time and on a stream;
* `attentive_process` : an instruction comes between an exchange and the next wait;
* `attentive_runLoop` : wherever the loop goes on from.
-/

set_option autoImplicit false

namespace ManagedAgent

theorem Outbox.anyChanged_eq (o : Outbox) : o.anyChanged = o.marks.any fun b => b := by
  simp [anyChanged, marks, Bool.or_assoc]

/-- After the instruction the loop waits for the time. -/
def Resume.isTimed : Resume → Bool
  | .stream _ => false
  | _ => true

namespace Session
variable {τ : Type} {busy : Prop} {s t : Session τ}

/-! ## What the loop is to hear of -/

/-- Nothing has changed since a report was assembled. -/
def IsCurrent (s : Session τ) : Prop :=
  s.state.outbox.anyChanged = false ∧ s.state.outbox.connectionStatuses = []

/-- The loop hears of all changes, if it has not yet. -/
def Heard (busy : Prop) (s : Session τ) : Prop :=
  s.state.wakeup.isSignalled = true ∨ busy ∨ s.IsCurrent

/-- A loop that waits for the time: it has begun with the exchanges. -/
structure Polls (busy : Prop) (s : Session τ) : Prop where
  heard : s.Heard busy
  begun : s.reports ≠ []

/-- A loop that waits on a stream: there is nothing left to send. -/
structure Listens (busy : Prop) (s : Session τ) : Prop where
  heard : s.Heard busy
  part : s.state.outbox.fullState = false
  taken : s.state.outbox.pending = none

/-- What holds where the loop waits. Where nothing is said it assembles a report before it waits for
a change. -/
def Attentive (busy : Prop) (s : Session τ) : Prop :=
  match s.loop with
  | .waiting _ | .exchanging _ | .verifying .. => s.Polls busy
  | .identifying _ _ .scheduled | .identifying _ _ (.verified _) => s.Polls busy
  | .sending .. => s.Heard busy ∧ s.state.outbox.fullState = false
  | .receiving _ => s.Listens busy
  | _ => True

/-- What concerns neither the changes nor the wake-ups, and takes no time. -/
def Scope.aside : Scope where
  may a := a ∉ [.now, .state .marks, .state .connectionStatuses, .state .wakeup]
  logs _ := True
  tasks _ := True

theorem Frame.reports_ne_nil {S : Scope} (h : Frame S s t) (hs : s.reports ≠ []) :
    t.reports ≠ [] := by
  obtain ⟨es, he, -⟩ := h.logged
  unfold Session.reports at hs ⊢
  rw [he, List.filterMap_append]
  exact List.append_ne_nil_of_left_ne_nil hs _

theorem IsCurrent.of_same (h : s.IsCurrent) (hm : State.Aspect.marks.Same s.state t.state)
    (hc : State.Aspect.connectionStatuses.Same s.state t.state) : t.IsCurrent := by
  have hm : t.state.outbox.marks = s.state.outbox.marks := hm
  refine ⟨?_, Eq.trans hc h.2⟩
  rw [Outbox.anyChanged_eq, hm, ← Outbox.anyChanged_eq]
  exact h.1

theorem Heard.aside (hs : s.Heard busy) (h : Frame .aside s t) : t.Heard busy := by
  have hw : t.state.wakeup = s.state.wakeup := h.same (.state .wakeup) (by simp [Scope.aside])
  unfold Heard
  rw [hw]
  refine hs.imp_right (Or.imp_right fun hs => hs.of_same ?_ ?_)
  · exact h.same (.state .marks) (by simp [Scope.aside])
  · exact h.same (.state .connectionStatuses) (by simp [Scope.aside])

/-- The signal that the loop did not take stays stored. -/
theorem Heard.leave (h : s.Heard busy) : (s.setWakeup Wakeup.leave).Heard busy := by
  refine h.imp_left fun hw => ?_
  have hw : 0 < s.state.wakeup.signals := by simpa [Wakeup.isSignalled] using hw
  have : 0 < min s.state.wakeup.signals 1 := by omega
  exact decide_eq_true this

theorem Polls.aside (hs : s.Polls busy) (h : Frame .aside s t) : t.Polls busy :=
  ⟨hs.heard.aside h, h.reports_ne_nil hs.begun⟩

theorem frame_aside_dispatch (s : Session τ) (i : Instruction) :
    Frame .aside s (s.dispatch i) := by
  refine (frame_dispatch s i).mono (fun a ha hm => ?_) (fun _ _ => trivial) fun _ _ => trivial
  simp only [List.mem_cons, List.not_mem_nil, or_false] at hm
  rcases hm with rfl | rfl | rfl | rfl
  all_goals exact ha

theorem frame_aside_delivered (s : Session τ) (number : UInt64) :
    Frame .aside s (s.delivered number) :=
  .trans (.update s _ (.delivered _ number (by simp [Scope.aside])) trivial)
    (.markConnected _ (by simp [Scope.aside]) trivial)

/-- Where nothing is to be sent, a loop on a stream may wait. -/
theorem Listens.of_idle (h : s.state.hasPendingChanges = false) : s.Listens busy := by
  simp only [State.hasPendingChanges, Outbox.hasPendingChanges, Bool.or_eq_false_iff,
    Bool.not_eq_false', List.isEmpty_iff, Option.isSome_eq_false_iff,
    Option.isNone_iff_eq_none] at h
  obtain ⟨⟨⟨hfull, hm⟩, hc⟩, hp⟩ := h
  exact ⟨.inr (.inr ⟨hm, hc⟩), hfull, hp⟩

/-- A loop that listens and has heard of everything has nothing to send. -/
theorem Listens.idle (h : s.Listens busy) (hw : s.state.wakeup.isSignalled = false)
    (hb : ¬ busy) : s.state.hasPendingChanges = false := by
  obtain ⟨hm, hc⟩ := (h.heard.resolve_left (by rw [hw]; nofun)).resolve_left hb
  unfold State.hasPendingChanges Outbox.hasPendingChanges
  rw [h.part, hm, hc, h.taken]
  rfl

/-! ## The loop comes to rest -/

/-- The loop has just assembled a report. -/
theorem isCurrent_report (s : Session τ) (l : Loop) (e : Event) :
    ({ s.nextReport.2 with loop := l }.emit e).IsCurrent := ⟨rfl, rfl⟩

theorem reports_report (s : Session τ) (l : Loop) {e : Event} {r : Report}
    (he : e.report? = some r) :
    ({ s.nextReport.2 with loop := l }.emit e).reports = s.reports ++ [r] := by
  show (s.history ++ [e]).filterMap Event.report? = _
  rw [List.filterMap_append, List.filterMap_cons, he]
  rfl

theorem polls_report (s : Session τ) (l : Loop) {e : Event} {r : Report} (he : e.report? = some r) :
    ({ s.nextReport.2 with loop := l }.emit e).Polls busy := by
  refine ⟨.inr (.inr (isCurrent_report s l e)), ?_⟩
  rw [reports_report s l he]
  exact List.concat_ne_nil _ _

theorem attentive_poll (s : Session τ) : s.poll.Attentive busy :=
  polls_report s _ (e := .exchanging s.nextReport.1) rfl

theorem attentive_verify (s : Session τ) (task : Nat) (previous : ConnectionSettings)
    (deadline : Nat) : (s.verify task previous deadline).Attentive busy :=
  polls_report s _ (e := .exchanging s.nextReport.1) rfl

theorem attentive_sendReport (s : Session τ) (retry : Duration) :
    (s.sendReport retry).Attentive busy :=
  ⟨.inr (.inr (isCurrent_report s _ (.sending s.nextReport.1))), rfl⟩

theorem attentive_endLoop (s : Session τ) : s.endLoop.Attentive busy := by
  unfold Attentive
  rw [loop_endLoop]
  trivial

theorem attentive_receive (h : s.Listens busy) (retry : Duration) :
    (s.receive retry).Attentive busy :=
  ⟨h.heard, h.part, h.taken⟩

theorem attentive_awaitPoll {deadline : Nat} (h : s.Polls busy ∨ deadline ≤ s.now) :
    (s.awaitPoll deadline).Attentive busy := by
  unfold awaitPoll
  split
  · exact attentive_poll _
  · split
    · exact attentive_poll _
    · next hd =>
      have h := h.resolve_right hd
      exact ⟨h.heard, h.begun⟩

theorem attentive_identifying {r : Resume} (h : r.isTimed = true → s.Polls busy) (uid : String)
    (i : Instruction) :
    ({ s with loop := .identifying uid i r }.call .loop (.identify uid)).Attentive busy := by
  have hf : Frame .aside s ({ s with loop := .identifying uid i r }.call .loop (.identify uid)) :=
    .trans (.setLoop s _ (by simp [Scope.aside])) (.call _ _ _ trivial)
  cases r with
  | scheduled => exact (h rfl).aside hf
  | verified => exact (h rfl).aside hf
  | stream => trivial

theorem Attentive.polls {l : Loop} (h : s.Attentive busy) (hl : s.loop = l)
    (hp : match l with
      | .waiting _ | .exchanging _ | .verifying .. => True
      | .identifying _ _ r => r.isTimed = true
      | _ => False) : s.Polls busy := by
  unfold Attentive at h
  rw [hl] at h
  cases l with
  | waiting | exchanging | verifying => exact h
  | identifying uid i r =>
    cases r with
    | scheduled | verified => exact h
    | stream => contradiction
  | _ => exact False.elim hp

theorem Attentive.listens (h : s.Attentive busy) {retry : Duration}
    (hl : s.loop = .receiving retry) : s.Listens busy := by
  unfold Attentive at h
  rwa [hl] at h

section Loop
variable [Transport τ]

/-! ## Polling -/

theorem attentive_serveRequests {deadline : Nat} (rs : List ReconnectRequest) (s : Session τ)
    (h : s.Polls busy ∨ deadline ≤ s.now) : (serveRequests deadline rs s).Attentive busy := by
  induction rs generalizing s with
  | nil => exact attentive_awaitPoll h
  | cons r rest ih =>
    unfold serveRequests
    dsimp only
    split
    · next e t ha =>
      obtain rfl : _ = t := (Prod.ext_iff.1 ha).2
      have hleave : ({ s with requests := rest }.setWakeup Wakeup.leave).Polls busy ∨
          deadline ≤ s.now := h.imp_left fun h => ⟨Heard.leave (s := s) h.heard, h.begun⟩
      have hframe : Frame .aside ({ s with requests := rest }.setWakeup Wakeup.leave)
          ((({ s with requests := rest }.setWakeup Wakeup.leave).applySettings r.settings).2.reply
            r.task (.error e)) :=
        .trans (.applySettings _ _ (by simp [Scope.aside]) trivial)
          (.reply _ _ _ (fun _ _ _ => trivial) trivial)
      have hnow : Session.now _ = s.now := hframe.same .now (by simp [Scope.aside])
      exact ih _ (hleave.imp (fun h => h.aside hframe) fun hd => by rwa [hnow])
    · exact attentive_verify _ _ _ _

theorem attentive_wait {deadline : Nat} (h : s.Polls busy ∨ deadline ≤ s.now) :
    (s.wait deadline).Attentive busy := by
  unfold wait
  split
  · exact attentive_endLoop s
  · exact attentive_serveRequests _ s h

theorem attentive_waitAtLeast (h : s.Polls busy) (delay : Option Duration) :
    (s.waitAtLeast delay).Attentive busy := attentive_wait (.inl h)

/-! ## Streaming -/

theorem attentive_connect (s : Session τ) : s.connect.Attentive busy := by
  unfold connect
  split
  · exact attentive_endLoop s
  · trivial

theorem attentive_connectAfter (s : Session τ) (length : Duration) :
    (s.connectAfter length).Attentive busy := by
  unfold connectAfter
  split
  · exact attentive_connect s
  · split
    · exact attentive_endLoop s
    · trivial

theorem attentive_lose (s : Session τ) (e : TransportError) (retry : Duration) :
    (s.lose e retry).Attentive busy := attentive_connectAfter _ retry

/-- A loop that may report looks for changes before it waits. -/
theorem attentive_attend (retry : Duration) (turns : Nat) (mayReport : Bool) (s : Session τ)
    (h : mayReport = false → s.Listens busy) :
    (attend retry turns mayReport s).Attentive busy := by
  have listens (hs : ¬ (mayReport && s.state.hasPendingChanges) = true) : s.Listens busy := by
    rw [Bool.not_eq_true, Bool.and_eq_false_iff] at hs
    exact hs.elim h Listens.of_idle
  induction turns generalizing s mayReport with
  | zero =>
    unfold attend
    split
    · exact attentive_sendReport s retry
    · next hs =>
      split
      · exact attentive_endLoop s
      · exact attentive_receive (listens hs) retry
  | succ turns ih =>
    unfold attend
    split
    · exact attentive_sendReport s retry
    · next hs =>
      split
      · exact attentive_endLoop s
      · split
        · dsimp only
          split
          · refine ih true _ (fun h => by cases h) fun hs => ?_
            exact Listens.of_idle (by simpa using hs)
          · trivial
        · split
          · refine ih true _ (fun h => by cases h) fun hs => ?_
            exact Listens.of_idle (by simpa using hs)
          · exact attentive_receive (listens hs) retry

theorem attentive_stream (s : Session τ) (retry : Duration) : (s.stream retry).Attentive busy :=
  attentive_attend retry _ true s nofun

theorem attentive_listen (h : s.Listens busy) (retry : Duration) :
    (s.listen retry).Attentive busy := attentive_attend retry _ false s fun _ => h

theorem attentive_streamAnew (s : Session τ) (retry : Duration) :
    (s.streamAnew retry).Attentive busy := attentive_stream _ retry

theorem attentive_pause (s : Session τ) (length retry : Duration) :
    (s.pause length retry).Attentive busy := by
  unfold pause
  split
  · exact attentive_endLoop s
  · split
    · exact attentive_streamAnew s retry
    · trivial

/-! ## Instructions -/

theorem attentive_resume {r : Resume} (h : r.isTimed = true → s.Polls busy) :
    (s.resume r).Attentive busy := by
  cases r with
  | scheduled => exact attentive_waitAtLeast (h rfl) none
  | verified deadline => exact attentive_wait (.inl (h rfl))
  | stream retry => exact attentive_stream s retry

theorem attentive_route {r : Resume} (h : r.isTimed = true → s.Polls busy) (i : Instruction) :
    ((s.dispatch i).resume r).Attentive busy :=
  attentive_resume fun hr => (h hr).aside (frame_aside_dispatch s i)

theorem attentive_process {r : Resume} (h : r.isTimed = true → s.Polls busy) (i : Instruction) :
    (s.process i r).Attentive busy := by
  have told : Frame .aside s (s.withPart i.error fun s e => s.tell (.serverError e)) := by
    unfold withPart
    split
    · exact .emit s _ trivial
    · exact .refl s
  unfold process
  dsimp only
  generalize hu : (if i.fullState = true then
    (s.withPart i.error fun s e => s.tell (.serverError e)).update State.requestFullState
    else s.withPart i.error fun s e => s.tell (.serverError e)) = u
  have hframe : Frame .aside s u := by
    rw [← hu]
    split
    · exact told.trans (.update _ _ (.requestFullState _ (by simp [Scope.aside])) trivial)
    · exact told
  have hpolls : r.isTimed = true → u.Polls busy := fun hr => (h hr).aside hframe
  split
  · split
    · exact attentive_route hpolls i
    · exact attentive_identifying hpolls _ i
  · exact attentive_route hpolls i

theorem attentive_identified {r : Resume} (h : r.isTimed = true → s.Polls busy) (uid : String)
    (rest : Instruction) (result : Except CallbackError Unit) :
    (s.identified uid rest r result).Attentive busy := by
  cases result with
  | ok _ =>
    have hframe : Frame .aside s (s.update (·.setUid uid)) :=
      .update s _ (.setUid _ uid (by simp [Scope.aside])) trivial
    exact attentive_route (fun hr => (h hr).aside hframe) rest
  | error _ => exact attentive_route h rest

theorem attentive_answered (h : s.Polls busy) (number : UInt64) (i : Option Instruction)
    {r : Resume} : (s.answered number i r).Attentive busy := by
  have hpolls := h.aside (frame_aside_delivered s number)
  unfold answered
  cases i with
  | some i => exact attentive_process (fun _ => hpolls) i
  | none => exact attentive_resume fun _ => hpolls

/-! ## Results -/

theorem attentive_exchanged (h : s.Polls busy) (number : UInt64)
    (r : Except TransportError (Option Instruction)) :
    (s.exchanged number r).Attentive busy := by
  unfold exchanged
  split
  · exact attentive_waitAtLeast h none
  · have hframe (e : TransportError) : Frame .aside s (s.markFailed e) :=
      .markFailed s e (by simp [Scope.aside]) trivial
    exact attentive_waitAtLeast (h.aside (hframe _)) _
  · split
    · exact attentive_waitAtLeast h _
    · exact attentive_answered h number _

theorem attentive_verified (h : s.Polls busy) (task : Nat) (previous : ConnectionSettings)
    (number : UInt64) (deadline : Nat) (r : Except TransportError (Option Instruction)) :
    (s.verified task previous number deadline r).Attentive busy := by
  have restored (e : TransportError) : (s.restore task previous e).Polls busy :=
    h.aside (.restore s task previous e (by simp [Scope.aside]) (fun _ _ _ => trivial) trivial
      trivial)
  unfold verified
  split
  · exact attentive_wait (.inl (restored _))
  · split
    · exact attentive_wait (.inl (restored _))
    · have hreply : Frame .aside s (s.reply task (.ok ())) :=
        .reply s task _ (fun _ _ _ => trivial) trivial
      exact attentive_answered (h.aside hreply) number _

theorem attentive_connected (s : Session τ) (retry : Duration) (r : Except TransportError Unit) :
    (s.connected retry r).Attentive busy := by
  unfold connected
  split
  · exact attentive_streamAnew s retry
  · exact attentive_endLoop s
  · exact attentive_lose s _ retry

theorem attentive_switched (s : Session τ) (task : Nat) (previous : ConnectionSettings)
    (retry : Duration) (r : Except TransportError Unit) :
    (s.switched task previous retry r).Attentive busy := by
  cases r with
  | ok _ => exact attentive_streamAnew _ retry
  | error e => exact attentive_connect _

/-- Once the server has the report, there is nothing left to send but what has changed since. -/
theorem attentive_sent (h : s.Heard busy) (hf : s.state.outbox.fullState = false) {number : UInt64}
    (hp : ∃ r, s.state.outbox.pending = some r ∧ r.sequenceNumber = number) (retry : Duration)
    (r : Except TransportError Unit) : (s.sent number retry r).Attentive busy := by
  unfold sent
  split
  · have hframe := frame_aside_delivered s number
    obtain ⟨report, hp, hn⟩ := hp
    have hstate : (s.delivered number).state = s.state.delivered number := by
      have hmark (t : Session τ) : t.markConnected.state = t.state := by
        unfold markConnected
        split <;> rfl
      exact (hmark _).trans (state_update s _)
    rw [State.delivered_of_confirmed (State.confirmed?_eq_some_iff.2 ⟨hp, hn⟩)] at hstate
    refine attentive_listen ⟨h.aside hframe, ?_, ?_⟩ retry
    · rw [hstate]
      exact hf
    · rw [hstate]
  · exact attentive_endLoop s
  · exact attentive_lose s _ retry

theorem attentive_received (s : Session τ) (retry : Duration)
    (r : Except TransportError (Option Instruction)) :
    (s.received retry r).Attentive busy := by
  unfold received
  split
  · split
    · exact attentive_pause s _ retry
    · exact attentive_process (fun hr => by cases hr) _
  · exact attentive_lose s _ retry
  · exact attentive_lose s _ retry

/-- The first exchange comes at once. -/
theorem attentive_begin (s : Session τ) : s.begin.Attentive busy := by
  unfold begin
  split
  · exact attentive_wait (.inr (Nat.le_refl _))
  · exact attentive_connect s

/-- The loop stays attentive, wherever it goes on from. -/
theorem attentive_runLoop (hs : s.Attentive busy)
    (hp : ∀ number, s.loop.number? = some number →
      ∃ r, s.state.outbox.pending = some r ∧ r.sequenceNumber = number) (input : Input) :
    (s.runLoop input).Attentive busy := by
  unfold runLoop
  split
  · split
    · exact attentive_endLoop s
    · show Session.Attentive busy { (s.enterGate .loop).2 with
        loop := if (s.enterGate .loop).1 then .reading else .queueing }
      unfold Attentive
      dsimp only
      cases (s.enterGate .loop).1 with
      | true => trivial
      | false => trivial
  · split
    · exact attentive_endLoop _
    · split
      · trivial
      · exact hs
  · split
    · exact attentive_endLoop _
    · exact hs
  · split
    · exact attentive_endLoop _
    · exact attentive_begin _
  · next h => exact attentive_wait (.inl (hs.polls h trivial))
  · next h => exact attentive_exchanged (hs.polls h trivial) _ _
  · next h => exact attentive_verified (hs.polls h trivial) _ _ _ _ _
  · split
    · exact attentive_endLoop s
    · split
      · exact attentive_connect s
      · exact hs
  · split
    · exact attentive_endLoop s
    · exact hs
  · split
    · exact attentive_endLoop s
    · exact attentive_connected s _ _
  · next h =>
    have hsent := hs
    unfold Attentive at hsent
    rw [h] at hsent
    exact attentive_sent hsent.1 hsent.2 (hp _ (by rw [h]; rfl)) _ _
  · next h =>
    split
    · exact attentive_listen (hs.listens h) _
    · exact hs
  · next h =>
    split
    · exact attentive_listen (hs.listens h) _
    · exact attentive_received _ _ _
  · split
    · exact attentive_endLoop s
    · split
      · exact attentive_streamAnew s _
      · exact hs
  · exact attentive_switched s _ _ _ _
  · next h => exact attentive_identified (fun hr => hs.polls h hr) _ _ _
  · exact hs

end Loop

end Session

end ManagedAgent
