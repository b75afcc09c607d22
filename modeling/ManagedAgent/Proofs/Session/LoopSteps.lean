import ManagedAgent.Proofs.Session.TaskFrame

/-!
# What the exchange loop does in one go

When the loop goes on, it settles what was under way (`Settles`), works through what it finds
(`Works`, any number of times), routes an instruction if there is one, and comes to rest at the next
thing to wait for (`Rests`). `Goes` is the way from the work to the rest. An invariant of the loop
thus needs one lemma for each of them.

* `runLoop_cases` : the loop stays as it is, or settles and goes;
* `Goes.elim` : what work keeps and rest leads to, going leads to.
-/

set_option autoImplicit false

namespace ManagedAgent

def Event.report? : Event → Option Report
  | .exchanging r | .sending r => some r
  | _ => none

namespace Loop

def number? : Loop → Option UInt64
  | .exchanging n | .verifying _ _ n _ | .sending n _ => some n
  | _ => none

/-- The task whose settings are on trial, and the settings to go back to. -/
def trial? : Loop → Option (Nat × ConnectionSettings)
  | .verifying task previous _ _ | .switching task previous _ => some (task, previous)
  | _ => none

def asked? : Loop → Option (String × Instruction)
  | .identifying uid rest _ => some (uid, rest)
  | _ => none

def isTaken : Except TransportError (Option Instruction) → Bool
  | .ok i => (i.bind Instruction.unavailable?).isNone
  | .error _ => false

/-- How an input ends the attempt that is under way: whether the server has taken the report. -/
def outcome? : Loop → Input → Option Bool
  | .exchanging _, .exchanged r | .verifying .., .exchanged r => some (isTaken r)
  | .sending _ _, .sent r => some r.isOk
  | _, _ => none

/-- An input proves the settings that are on trial: with them the server has taken a report, or a
stream is open. -/
def proves : Loop → Input → Bool
  | .verifying .., .exchanged r => isTaken r
  | .switching .., .connected r => r.isOk
  | _, _ => false

theorem outcome?_eq_none {l : Loop} (h : l.number? = none) (input : Input) :
    l.outcome? input = none := by
  cases l with
  | exchanging | verifying | sending => cases h
  | _ => rfl

end Loop

namespace Session
variable {τ : Type}

/-! ## What work leaves alone -/

@[simp] theorem reply_phase (s : Session τ) (task : Nat) (r : Except TransportError Unit) :
    (s.reply task r).phase = s.phase := by
  unfold reply; split <;> rfl

@[simp] theorem reply_requests (s : Session τ) (task : Nat) (r : Except TransportError Unit) :
    (s.reply task r).requests = s.requests := by
  unfold reply; split <;> rfl

@[simp] theorem reply_loop (s : Session τ) (task : Nat) (r : Except TransportError Unit) :
    (s.reply task r).loop = s.loop := by
  unfold reply; split <;> rfl

@[simp] theorem reply_state (s : Session τ) (task : Nat) (r : Except TransportError Unit) :
    (s.reply task r).state = s.state := by
  unfold reply; split <;> rfl

theorem loop_endLoop (s : Session τ) : s.endLoop.loop = .ended := by
  have replies (rs : List ReconnectRequest) (t : Session τ) :
      (rs.foldl (fun s r => s.reply r.task (.error .closed)) t).loop = t.loop := by
    induction rs generalizing t with
    | nil => rfl
    | cons r rest ih => rw [List.foldl_cons, ih, reply_loop]
  exact replies s.requests { s with loop := .ended, requests := [] }

/-! ## The steps -/

variable [Transport τ]

/-- What the loop does on its way, apart from routing. -/
inductive Works : Session τ → Session τ → Prop
  | connected (s : Session τ) : Works s s.markConnected
  | failed (s : Session τ) (e : TransportError) : Works s (s.markFailed e)
  | serverError (s : Session τ) (e : ServerError) : Works s (s.tell (.serverError e))
  | fullState (s : Session τ) : Works s (s.update State.requestFullState)
  | adopt (s : Session τ) (uid : String) (i : Instruction) (h : s.loop.asked? = some (uid, i)) :
    Works s (s.update (·.setUid uid))
  | read (s : Session τ) (r : Except CallbackError EffectiveConfig) (h : s.loop = .reading) :
    Works s (s.finishReading .loop r).2
  | abandon (s : Session τ) : Works s (s.leaveGate .loop)
  | wakeup (s : Session τ) (f : Wakeup → Wakeup) : Works s (s.setWakeup f)
  /-- The transport refuses the settings of a request. -/
  | refuse (s : Session τ) (r : ReconnectRequest) (rest : List ReconnectRequest)
      (e : TransportError) (h : s.requests = r :: rest)
      (he : (Transport.apply s.transport r.settings).1 = .error e) :
    Works s (({ s with requests := rest }.applySettings r.settings).2.reply r.task (.error e))

/-- How the loop comes to rest. Once stop is requested, nothing begins but the sending of what is
left to report. -/
inductive Rests : Session τ → Session τ → Prop
  | ended (s : Session τ) : Rests s s.endLoop
  | entering (s : Session τ) (hs : s.isStopping = false) :
    Rests s { (s.enterGate .loop).2 with
      loop := if (s.enterGate .loop).1 then .reading else .queueing }
  | reading (s : Session τ) (hs : s.isStopping = false) (ht : s.hasTurn .loop = true) :
    Rests s ({ s with loop := .reading }.call .loop .effectiveConfig)
  | waiting (s : Session τ) (deadline : Nat) (hs : s.isStopping = false)
      (hr : s.requests = []) (hw : s.state.wakeup.isSignalled = false) (hd : s.now < deadline) :
    Rests s ({ s with loop := .waiting deadline }.setWakeup Wakeup.wait)
  | poll (s : Session τ) (hs : s.isStopping = false) : Rests s s.poll
  /-- The transport takes the settings of a request, and an exchange has to prove them. -/
  | verify (s : Session τ) (r : ReconnectRequest) (rest : List ReconnectRequest)
      (previous : ConnectionSettings) (deadline : Nat) (hs : s.isStopping = false)
      (h : s.requests = r :: rest)
      (ha : (Transport.apply s.transport r.settings).1 = .ok previous) :
    Rests s (({ s with requests := rest }.applySettings r.settings).2.verify r.task previous
      deadline)
  | retrying (s : Session τ) (deadline : Nat) (hs : s.isStopping = false) :
    Rests s { s with loop := .retrying deadline }
  | connecting (s : Session τ) (hs : s.isStopping = false) :
    Rests s ({ s with loop := .connecting (Transport.interval s.transport) }.emit .connecting)
  | sendReport (s : Session τ) (retry : Duration) (h : s.state.hasPendingChanges = true) :
    Rests s (s.sendReport retry)
  | receive (s : Session τ) (retry : Duration) (hs : s.isStopping = false)
      (hr : s.requests = []) (hw : s.state.wakeup.isSignalled = false) :
    Rests s (s.receive retry)
  /-- The transport takes the settings of a request, and a stream has to prove them. -/
  | switch (s : Session τ) (r : ReconnectRequest) (rest : List ReconnectRequest)
      (previous : ConnectionSettings) (retry : Duration) (hs : s.isStopping = false)
      (h : s.requests = r :: rest)
      (ha : (Transport.apply s.transport r.settings).1 = .ok previous) :
    Rests s (({ s with requests := rest }.applySettings r.settings).2.switch r.task previous retry)
  | pausing (s : Session τ) (deadline : Nat) (retry : Duration) (hs : s.isStopping = false) :
    Rests s { s with loop := .pausing deadline retry }
  | identifying (s : Session τ) (uid : String) (i : Instruction) (r : Resume)
      (hu : uid ≠ "") (hn : uid ≠ s.state.uid) (hi : i.identification = some ⟨uid⟩) :
    Rests s ({ s with loop := .identifying uid i r }.call .loop (.identify uid))

/-- Work, and then rest. No more than one instruction is routed on the way. -/
inductive Goes : Option Instruction → Session τ → Session τ → Prop
  | rest {s t : Session τ} : Rests s t → Goes none s t
  | work {i : Option Instruction} {s t u : Session τ} : Works s t → Goes i t u → Goes i s u
  | route {s t : Session τ} (i : Instruction) : Goes none (s.dispatch i) t → Goes (some i) s t

/-- What becomes of the attempt and of the settings on trial that the loop waited for. -/
inductive Settles (s : Session τ) (input : Input) : Session τ → Prop
  | nothing (hn : s.loop.number? = none) (ht : s.loop.trial? = none) : Settles s input s
  | missed (number : UInt64) (hn : s.loop.number? = some number) (ht : s.loop.trial? = none)
      (ho : s.loop.outcome? input = some false) : Settles s input s
  | taken (number : UInt64) (hn : s.loop.number? = some number) (ht : s.loop.trial? = none)
      (ho : s.loop.outcome? input = some true) :
    Settles s input (s.update (·.delivered number))
  | proved (task : Nat) (previous : ConnectionSettings) (number : UInt64)
      (hn : s.loop.number? = some number) (ht : s.loop.trial? = some (task, previous))
      (ho : s.loop.outcome? input = some true) (hp : s.loop.proves input = true) :
    Settles s input ((s.reply task (.ok ())).update (·.delivered number))
  | disproved (task : Nat) (previous : ConnectionSettings) (number : UInt64) (e : TransportError)
      (hn : s.loop.number? = some number) (ht : s.loop.trial? = some (task, previous))
      (ho : s.loop.outcome? input = some false) : Settles s input (s.restore task previous e)
  | switched (task : Nat) (previous : ConnectionSettings) (hn : s.loop.number? = none)
      (ht : s.loop.trial? = some (task, previous)) (hp : s.loop.proves input = true) :
    Settles s input (s.reply task (.ok ()))
  | unswitched (task : Nat) (previous : ConnectionSettings) (e : TransportError)
      (hn : s.loop.number? = none) (ht : s.loop.trial? = some (task, previous)) :
    Settles s input (s.restore task previous e)

theorem Goes.elim {M P : Session τ → Prop} (hw : ∀ s t, Works s t → M s → M t)
    (hd : ∀ s i, M s → M (s.dispatch i)) (hr : ∀ s t, Rests s t → M s → P t)
    {i : Option Instruction} {s t : Session τ} (h : Goes i s t) (hs : M s) : P t := by
  induction h with
  | rest h => exact hr _ _ h hs
  | work h _ ih => exact ih (hw _ _ h hs)
  | route i _ ih => exact ih (hd _ i hs)

/-! ## Polling -/

theorem goes_awaitPoll (s : Session τ) (deadline : Nat) (hs : s.isStopping = false)
    (hr : s.requests = []) : Goes none s (s.awaitPoll deadline) := by
  unfold awaitPoll
  split
  · exact .work (.wakeup s Wakeup.take) (.rest (.poll _ hs))
  · next hw =>
    split
    · exact .work (.wakeup s Wakeup.leave) (.rest (.poll _ hs))
    · next hd => exact .rest (.waiting s deadline hs hr (by simpa using hw) (by omega))

theorem goes_serveRequests (deadline : Nat) (rs : List ReconnectRequest) (s : Session τ)
    (h : s.requests = rs) (hs : s.isStopping = false) :
    Goes none s (serveRequests deadline rs s) := by
  induction rs generalizing s with
  | nil => exact goes_awaitPoll s deadline hs h
  | cons r rest ih =>
    refine .work (.wakeup s Wakeup.leave) ?_
    unfold serveRequests
    dsimp only
    split
    · next e t ha =>
      have ha' := Prod.ext_iff.1 ha
      obtain rfl : _ = t := ha'.2
      refine .work (.refuse _ r rest e h ha'.1) (ih _ (by rw [reply_requests]; rfl) ?_)
      unfold isStopping
      rw [reply_phase]
      exact hs
    · next previous t ha =>
      have ha' := Prod.ext_iff.1 ha
      obtain rfl : _ = t := ha'.2
      exact .rest (.verify _ r rest previous deadline hs h ha'.1)

theorem goes_wait (s : Session τ) (deadline : Nat) : Goes none s (s.wait deadline) := by
  unfold wait
  split
  · exact .rest (.ended s)
  · next hs => exact goes_serveRequests deadline s.requests s rfl (by simpa using hs)

theorem goes_waitAtLeast (s : Session τ) (delay : Option Duration) :
    Goes none s (s.waitAtLeast delay) := goes_wait s _

/-! ## Streaming -/

theorem goes_connect (s : Session τ) : Goes none s s.connect := by
  unfold connect
  split
  · exact .rest (.ended s)
  · next hs => exact .rest (.connecting s (by simpa using hs))

theorem goes_connectAfter (s : Session τ) (length : Duration) :
    Goes none s (s.connectAfter length) := by
  unfold connectAfter
  split
  · exact goes_connect s
  · split
    · exact .rest (.ended s)
    · next hs => exact .rest (.retrying s _ (by simpa using hs))

theorem goes_lose (s : Session τ) (e : TransportError) (retry : Duration) :
    Goes none s (s.lose e retry) := .work (.failed s e) (goes_connectAfter _ retry)

/-- Each turn takes a request or a signal away. -/
theorem goes_attend (retry : Duration) (turns : Nat) (mayReport : Bool) (s : Session τ)
    (ht : s.turns ≤ turns) : Goes none s (attend retry turns mayReport s) := by
  induction turns generalizing s mayReport with
  | zero =>
    have hr : s.requests = [] := List.length_eq_zero_iff.1 (by unfold turns at ht; omega)
    have hw : s.state.wakeup.signals = 0 := by unfold turns at ht; omega
    unfold attend
    split
    · next h => exact .rest (.sendReport s retry (Bool.and_eq_true_iff.1 h).2)
    · split
      · exact .rest (.ended s)
      · next hs =>
        exact .rest (.receive s retry (by simpa using hs) hr (by simp [Wakeup.isSignalled, hw]))
  | succ turns ih =>
    unfold attend
    split
    · next h => exact .rest (.sendReport s retry (Bool.and_eq_true_iff.1 h).2)
    · split
      · exact .rest (.ended s)
      · next hs =>
        split
        · next r rest h =>
          refine .work (.wakeup s Wakeup.leave) ?_
          dsimp only
          split
          · next e t ha =>
            have ha' := Prod.ext_iff.1 ha
            obtain rfl : _ = t := ha'.2
            refine .work (.refuse _ r rest e h ha'.1) (ih _ _ ?_)
            unfold Session.turns at ht ⊢
            rw [h, List.length_cons] at ht
            rw [reply_requests, reply_state]
            show rest.length + min s.state.wakeup.signals 1 ≤ turns
            omega
          · next previous t ha =>
            have ha' := Prod.ext_iff.1 ha
            obtain rfl : _ = t := ha'.2
            exact .rest (.switch _ r rest previous retry (Bool.eq_false_iff.2 hs) h ha'.1)
        · next h =>
          split
          · next hw =>
            refine .work (.wakeup s Wakeup.take) (ih _ _ ?_)
            have hw : 0 < s.state.wakeup.signals := by simpa [Wakeup.isSignalled] using hw
            unfold Session.turns at ht ⊢
            show s.requests.length + (s.state.wakeup.signals - 1) ≤ turns
            omega
          · next hw => exact .rest (.receive s retry (by simpa using hs) h (by simpa using hw))

theorem goes_stream (s : Session τ) (retry : Duration) : Goes none s (s.stream retry) :=
  goes_attend retry _ true s (Nat.le_refl _)

theorem goes_listen (s : Session τ) (retry : Duration) : Goes none s (s.listen retry) :=
  goes_attend retry _ false s (Nat.le_refl _)

theorem goes_streamAnew (s : Session τ) (retry : Duration) : Goes none s (s.streamAnew retry) :=
  .work (.fullState s) (goes_stream _ retry)

theorem goes_pause (s : Session τ) (length retry : Duration) :
    Goes none s (s.pause length retry) := by
  unfold pause
  split
  · exact .rest (.ended s)
  · next hs =>
    split
    · exact goes_streamAnew s retry
    · exact .rest (.pausing s _ retry (by simpa using hs))

/-! ## Instructions -/

theorem goes_resume (s : Session τ) (r : Resume) : Goes none s (s.resume r) := by
  cases r with
  | scheduled => exact goes_waitAtLeast s none
  | verified deadline => exact goes_wait s deadline
  | stream retry => exact goes_stream s retry

theorem goes_process (s : Session τ) (i : Instruction) (r : Resume) :
    ∃ routed, Goes routed s (s.process i r) := by
  have told (s : Session τ) {routed : Option Instruction} {t : Session τ}
      (h : Goes routed (s.withPart i.error fun s e => s.tell (.serverError e)) t) :
      Goes routed s t := by
    unfold withPart at h
    split at h
    · exact .work (.serverError s _) h
    · exact h
  have asked (s : Session τ) {routed : Option Instruction} {t : Session τ}
      (h : Goes routed (if i.fullState then s.update State.requestFullState else s) t) :
      Goes routed s t := by
    split at h
    · exact .work (.fullState s) h
    · exact h
  unfold process
  dsimp only
  generalize ht : (if i.fullState = true then
    (s.withPart i.error fun s e => s.tell (.serverError e)).update State.requestFullState
    else s.withPart i.error fun s e => s.tell (.serverError e)) = t
  have before {routed : Option Instruction} {u : Session τ} (h : Goes routed t u) :
      Goes routed s u := told s (asked _ (by rw [ht]; exact h))
  have dispatched : Goes (some i) t ((t.dispatch i).resume r) := .route i (goes_resume _ r)
  split
  · next uid hi =>
    split
    · exact ⟨some i, before dispatched⟩
    · next hu =>
      rw [not_or] at hu
      exact ⟨none, before (.rest (.identifying t uid i r hu.1 hu.2 hi))⟩
  · exact ⟨some i, before dispatched⟩

theorem goes_identified (s : Session τ) (uid : String) (rest : Instruction) (r : Resume)
    (h : s.loop = .identifying uid rest r) (result : Except CallbackError Unit) :
    Goes (some rest) s (s.identified uid rest r result) := by
  cases result with
  | ok _ => exact .work (.adopt s uid rest (by rw [h]; rfl)) (.route rest (goes_resume _ r))
  | error _ => exact .route rest (goes_resume _ r)

theorem goes_answered (s : Session τ) (number : UInt64) (i : Option Instruction) (r : Resume) :
    ∃ routed, Goes routed (s.update (·.delivered number)) (s.answered number i r) := by
  unfold answered delivered
  cases i with
  | some i =>
    obtain ⟨routed, h⟩ := goes_process (s.update (·.delivered number)).markConnected i r
    exact ⟨routed, .work (.connected _) h⟩
  | none => exact ⟨none, .work (.connected _) (goes_resume _ r)⟩

/-! ## Results -/

theorem settles_exchanged (s : Session τ) (number : UInt64) (h : s.loop = .exchanging number)
    (r : Except TransportError (Option Instruction)) :
    ∃ t routed, Settles s (.exchanged r) t ∧ Goes routed t (s.exchanged number r) := by
  have hn : s.loop.number? = some number := by rw [h]; rfl
  have ht : s.loop.trial? = none := by rw [h]; rfl
  have ho : s.loop.outcome? (.exchanged r) = some (Loop.isTaken r) := by rw [h]; rfl
  unfold exchanged
  split
  · exact ⟨s, _, .missed number hn ht ho, goes_waitAtLeast s none⟩
  · exact ⟨s, _, .missed number hn ht ho, .work (.failed s _) (goes_waitAtLeast _ _)⟩
  · next i =>
    split
    · next hi =>
      exact ⟨s, _, .missed number hn ht (by rw [ho, Loop.isTaken, hi]; rfl), goes_waitAtLeast s _⟩
    · next hi =>
      obtain ⟨routed, h⟩ := goes_answered s number i .scheduled
      exact ⟨_, routed, .taken number hn ht (by rw [ho, Loop.isTaken, hi]; rfl), h⟩

theorem settles_verified (s : Session τ) (task : Nat) (previous : ConnectionSettings)
    (number : UInt64) (deadline : Nat) (h : s.loop = .verifying task previous number deadline)
    (r : Except TransportError (Option Instruction)) :
    ∃ t routed, Settles s (.exchanged r) t ∧
      Goes routed t (s.verified task previous number deadline r) := by
  have hn : s.loop.number? = some number := by rw [h]; rfl
  have ht : s.loop.trial? = some (task, previous) := by rw [h]; rfl
  have ho : s.loop.outcome? (.exchanged r) = some (Loop.isTaken r) := by rw [h]; rfl
  unfold verified
  split
  · next e => exact ⟨_, _, .disproved task previous number e hn ht ho, goes_wait _ _⟩
  · next i =>
    split
    · next e hi =>
      exact ⟨_, _, .disproved task previous number _ hn ht (by rw [ho, Loop.isTaken, hi]; rfl),
        goes_wait _ _⟩
    · next hi =>
      obtain ⟨routed, hgo⟩ := goes_answered (s.reply task (.ok ())) number i (.verified deadline)
      have htaken : Loop.isTaken (.ok i) = true := by rw [Loop.isTaken, hi]; rfl
      have hp : s.loop.proves (.exchanged (.ok i)) = true := by rw [h]; exact htaken
      exact ⟨_, routed, .proved task previous number hn ht (by rw [ho, htaken]) hp, hgo⟩

theorem settles_sent (s : Session τ) (number : UInt64) (retry : Duration)
    (h : s.loop = .sending number retry) (r : Except TransportError Unit) :
    ∃ t routed, Settles s (.sent r) t ∧ Goes routed t (s.sent number retry r) := by
  have hn : s.loop.number? = some number := by rw [h]; rfl
  have ht : s.loop.trial? = none := by rw [h]; rfl
  have ho : s.loop.outcome? (.sent r) = some r.isOk := by rw [h]; rfl
  unfold sent
  split
  · exact ⟨_, _, .taken number hn ht ho, .work (.connected _) (goes_listen _ retry)⟩
  · exact ⟨s, _, .missed number hn ht ho, .rest (.ended s)⟩
  · exact ⟨s, _, .missed number hn ht ho, goes_lose s _ retry⟩

theorem settles_switched (s : Session τ) (task : Nat) (previous : ConnectionSettings)
    (retry : Duration) (h : s.loop = .switching task previous retry)
    (r : Except TransportError Unit) :
    ∃ t routed, Settles s (.connected r) t ∧ Goes routed t (s.switched task previous retry r) := by
  have hn : s.loop.number? = none := by rw [h]; rfl
  have ht : s.loop.trial? = some (task, previous) := by rw [h]; rfl
  cases r with
  | ok _ =>
    have hp : s.loop.proves (.connected (.ok ())) = true := by rw [h]; rfl
    exact ⟨_, _, .switched task previous hn ht hp, goes_streamAnew _ retry⟩
  | error e => exact ⟨_, _, .unswitched task previous e hn ht, goes_connect _⟩

theorem goes_connected (s : Session τ) (retry : Duration) (r : Except TransportError Unit) :
    Goes none s (s.connected retry r) := by
  unfold connected
  split
  · exact goes_streamAnew s retry
  · exact .rest (.ended s)
  · exact goes_lose s _ retry

theorem goes_received (s : Session τ) (retry : Duration)
    (r : Except TransportError (Option Instruction)) :
    ∃ routed, Goes routed s (s.received retry r) := by
  unfold received
  split
  · next i =>
    split
    · exact ⟨none, goes_pause s _ retry⟩
    · obtain ⟨routed, h⟩ := goes_process s.markConnected i (.stream retry)
      exact ⟨routed, .work (.connected s) h⟩
  · exact ⟨none, goes_lose s _ retry⟩
  · exact ⟨none, goes_lose s _ retry⟩

theorem goes_begin (s : Session τ) : Goes none s s.begin := by
  unfold begin
  split
  · exact goes_wait s _
  · exact goes_connect s

theorem goes_abandonReading (s : Session τ) : Goes none s s.abandonReading :=
  .work (.abandon s) (.rest (.ended _))

/-- The loop stays as it is, and nothing under way has ended; or it settles and goes. -/
theorem runLoop_cases (s : Session τ) (input : Input) :
    s.loop.outcome? input = none ∧ s.runLoop input = s ∨
      ∃ t routed, Settles s input t ∧ Goes routed t (s.runLoop input) := by
  -- Where nothing is under way and nothing is on trial, there is nothing to settle.
  have go {l : Loop} {t : Session τ} {routed : Option Instruction} (h : s.loop = l)
      (hn : l.number? = none) (ht : l.trial? = none) (hgo : Goes routed s t) :
      s.loop.outcome? input = none ∧ t = s ∨ ∃ u routed, Settles s input u ∧ Goes routed u t :=
    .inr ⟨s, routed, .nothing (by rw [h, hn]) (by rw [h, ht]), hgo⟩
  have stay {l : Loop} (h : s.loop = l) (hn : l.number? = none) :
      s.loop.outcome? input = none ∧ s = s ∨ ∃ t routed, Settles s input t ∧ Goes routed t s :=
    .inl ⟨by rw [h, Loop.outcome?_eq_none hn], rfl⟩
  unfold runLoop
  split
  · next h =>
    split
    · exact go h rfl rfl (.rest (.ended s))
    · next hs => exact go h rfl rfl (.rest (.entering s (Bool.eq_false_iff.2 hs)))
  · next h =>
    split
    · exact go h rfl rfl (goes_abandonReading s)
    · next hs =>
      split
      · next ht => exact go h rfl rfl (.rest (.reading s (Bool.eq_false_iff.2 hs) ht))
      · exact stay h rfl
  · next h =>
    split
    · exact go h rfl rfl (goes_abandonReading s)
    · exact stay h rfl
  · next h =>
    split
    · exact go h rfl rfl (goes_abandonReading s)
    · exact go h rfl rfl (.work (.read s _ h) (goes_begin _))
  · next h => exact go h rfl rfl (goes_wait s _)
  · next h => exact .inr (settles_exchanged s _ h _)
  · next h => exact .inr (settles_verified s _ _ _ _ h _)
  · next h =>
    split
    · exact go h rfl rfl (.rest (.ended s))
    · split
      · exact go h rfl rfl (goes_connect s)
      · exact stay h rfl
  · next h =>
    split
    · exact go h rfl rfl (.rest (.ended s))
    · exact stay h rfl
  · next h =>
    split
    · exact go h rfl rfl (.rest (.ended s))
    · exact go h rfl rfl (goes_connected s _ _)
  · next h => exact .inr (settles_sent s _ _ h _)
  · next h =>
    split
    · exact go h rfl rfl (goes_listen s _)
    · exact stay h rfl
  · next retry r h =>
    split
    · exact go h rfl rfl (goes_listen s _)
    · obtain ⟨routed, hgo⟩ := goes_received (s.setWakeup Wakeup.leave) retry r
      exact go h rfl rfl (.work (.wakeup s Wakeup.leave) hgo)
  · next h =>
    split
    · exact go h rfl rfl (.rest (.ended s))
    · split
      · exact go h rfl rfl (goes_streamAnew s _)
      · exact stay h rfl
  · next h => exact .inr (settles_switched s _ _ _ h _)
  · next h => exact go h rfl rfl (goes_identified s _ _ _ h _)
  · refine .inl ⟨?_, rfl⟩
    unfold Loop.outcome?
    split <;> grind

end Session

end ManagedAgent
