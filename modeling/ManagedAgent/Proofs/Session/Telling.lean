import ManagedAgent.Proofs.Session.Views

/-!
# What the loop tells of the connection

The agent is told when the connection is there and when it failed. For that the loop changes the
phase first, then makes the call, and then goes on; it does so at most once on its way.

* `notices_wait`, `notices_listen` and the like : going on tells of no connection;
* `Session.telling?` : the phase that an input makes the loop change, the call it makes for that, and
  how it goes on;
* `exists_isSplit` : these steps one after the other are what the loop does in one;
* `notices_runLoop` : the loop tells of nothing else;
* `failure?_eq` : which of the calls are about failures.
-/

set_option autoImplicit false

namespace ManagedAgent

def Event.connection? : Event → Option Notice
  | .told .connected => some .connected
  | .told (.connectFailed e) => some (.connectFailed e)
  | _ => none

namespace Session
variable {τ : Type}

def notices (s : Session τ) : List Notice := s.history.filterMap Event.connection?

/-! ## What tells of no connection -/

theorem notices_emit (s : Session τ) {e : Event} (h : e.connection? = none) :
    (s.emit e).notices = s.notices := by
  show (s.history ++ [e]).filterMap Event.connection? = _
  rw [List.filterMap_append, List.filterMap_cons, h]
  exact List.append_nil _

@[simp] theorem notices_update (s : Session τ) (f : State → State) :
    (s.update f).notices = s.notices :=
  apply_update (·.notices) (fun t => notices_emit t rfl) s f

@[simp] theorem notices_reply (s : Session τ) (task : Nat) (r : Except TransportError Unit) :
    (s.reply task r).notices = s.notices := by
  unfold reply
  split
  · exact notices_emit _ rfl
  · rfl

@[simp] theorem notices_leaveGate (s : Session τ) (a : Actor) :
    (s.leaveGate a).notices = s.notices := by
  unfold leaveGate readyNext
  dsimp only
  split
  · exact notices_emit _ rfl
  · rfl

@[simp] theorem notices_finishReading (s : Session τ) (a : Actor)
    (r : Except CallbackError EffectiveConfig) : (s.finishReading a r).2.notices = s.notices := by
  cases r <;> exact notices_leaveGate _ a

@[simp] theorem notices_dispatch (s : Session τ) (i : Instruction) :
    (s.dispatch i).notices = s.notices :=
  (frame_dispatch s i).filterMap_history fun e he => by cases e <;> trivial

@[simp] theorem notices_endLoop (s : Session τ) : s.endLoop.notices = s.notices := by
  have replies (rs : List ReconnectRequest) (t : Session τ) :
      (rs.foldl (fun s r => s.reply r.task (.error .closed)) t).notices = t.notices := by
    induction rs generalizing t with
    | nil => rfl
    | cons r rest ih => rw [List.foldl_cons, ih, notices_reply]
  exact (notices_emit _ rfl).trans (replies s.requests _)

@[simp] theorem notices_abandonReading (s : Session τ) : s.abandonReading.notices = s.notices := by
  simp [abandonReading]

theorem notices_awaitPoll (s : Session τ) (deadline : Nat) :
    (s.awaitPoll deadline).notices = s.notices := by
  unfold awaitPoll
  split
  · exact notices_emit _ rfl
  · split
    · exact notices_emit _ rfl
    · rfl

variable [Transport τ]

@[simp] theorem notices_applySettings (s : Session τ) (settings : ConnectionSettings) :
    (s.applySettings settings).2.notices = s.notices := notices_emit _ rfl

theorem notices_serveRequests (deadline : Nat) (rs : List ReconnectRequest) (s : Session τ) :
    (serveRequests deadline rs s).notices = s.notices := by
  induction rs generalizing s with
  | nil => exact notices_awaitPoll s deadline
  | cons r rest ih =>
    unfold serveRequests
    dsimp only
    have happly := notices_applySettings ({ s with requests := rest }.setWakeup Wakeup.leave)
      r.settings
    split
    · next e t h =>
      rw [h] at happly
      rw [ih, notices_reply]
      exact happly
    · next previous t h =>
      rw [h] at happly
      exact (notices_emit _ rfl).trans happly

@[simp] theorem notices_wait (s : Session τ) (deadline : Nat) :
    (s.wait deadline).notices = s.notices := by
  unfold wait
  split
  · exact notices_endLoop s
  · exact notices_serveRequests deadline s.requests s

@[simp] theorem notices_waitAtLeast (s : Session τ) (delay : Option Duration) :
    (s.waitAtLeast delay).notices = s.notices := notices_wait s _

@[simp] theorem notices_connect (s : Session τ) : s.connect.notices = s.notices := by
  unfold connect
  split
  · exact notices_endLoop s
  · exact notices_emit _ rfl

@[simp] theorem notices_connectAfter (s : Session τ) (length : Duration) :
    (s.connectAfter length).notices = s.notices := by
  unfold connectAfter
  split
  · exact notices_connect s
  · split
    · exact notices_endLoop s
    · rfl

theorem notices_attend (retry : Duration) (turns : Nat) (mayReport : Bool) (s : Session τ) :
    (attend retry turns mayReport s).notices = s.notices := by
  induction turns generalizing s mayReport with
  | zero =>
    unfold attend
    split
    · exact notices_emit _ rfl
    · split
      · exact notices_endLoop s
      · exact notices_emit _ rfl
  | succ turns ih =>
    unfold attend
    split
    · exact notices_emit _ rfl
    · split
      · exact notices_endLoop s
      · split
        · next r rest _ =>
          dsimp only
          have happly := notices_applySettings ({ s with requests := rest }.setWakeup Wakeup.leave)
            r.settings
          split
          · next e t h =>
            rw [h] at happly
            rw [ih, notices_reply]
            exact happly
          · next previous t h =>
            rw [h] at happly
            exact (notices_emit _ rfl).trans happly
        · split
          · rw [ih]
            rfl
          · exact notices_emit _ rfl

@[simp] theorem notices_stream (s : Session τ) (retry : Duration) :
    (s.stream retry).notices = s.notices := notices_attend retry _ true s

@[simp] theorem notices_listen (s : Session τ) (retry : Duration) :
    (s.listen retry).notices = s.notices := notices_attend retry _ false s

@[simp] theorem notices_streamAnew (s : Session τ) (retry : Duration) :
    (s.streamAnew retry).notices = s.notices := by
  unfold streamAnew
  rw [notices_stream, notices_update]

@[simp] theorem notices_pause (s : Session τ) (length retry : Duration) :
    (s.pause length retry).notices = s.notices := by
  unfold pause
  split
  · exact notices_endLoop s
  · split
    · exact notices_streamAnew s retry
    · rfl

@[simp] theorem notices_resume (s : Session τ) (r : Resume) : (s.resume r).notices = s.notices := by
  cases r with
  | scheduled => exact notices_waitAtLeast s none
  | verified deadline => exact notices_wait s deadline
  | stream retry => exact notices_stream s retry

@[simp] theorem notices_process (s : Session τ) (i : Instruction) (r : Resume) :
    (s.process i r).notices = s.notices := by
  have herror : (s.withPart i.error fun s e => s.tell (.serverError e)).notices = s.notices := by
    unfold withPart
    split
    · exact notices_emit _ rfl
    · rfl
  unfold process
  dsimp only
  generalize s.withPart i.error _ = t at herror ⊢
  have hfull : (if i.fullState then t.update State.requestFullState else t).notices = t.notices := by
    split
    · exact notices_update _ _
    · rfl
  generalize (if i.fullState then t.update State.requestFullState else t) = u at hfull ⊢
  rw [← herror, ← hfull]
  split
  · split
    · rw [notices_resume, notices_dispatch]
    · exact notices_emit _ rfl
  · rw [notices_resume, notices_dispatch]

@[simp] theorem notices_identified (s : Session τ) (uid : String) (rest : Instruction) (r : Resume)
    (answer : Except CallbackError Unit) :
    (s.identified uid rest r answer).notices = s.notices := by
  cases answer <;> simp [identified]

@[simp] theorem notices_restore (s : Session τ) (task : Nat) (previous : ConnectionSettings)
    (e : TransportError) : (s.restore task previous e).notices = s.notices := by
  unfold restore
  rw [notices_reply, notices_applySettings]

@[simp] theorem notices_switched (s : Session τ) (task : Nat) (previous : ConnectionSettings)
    (retry : Duration) (r : Except TransportError Unit) :
    (s.switched task previous retry r).notices = s.notices := by
  cases r <;> simp [switched]

@[simp] theorem notices_begin (s : Session τ) : s.begin.notices = s.notices := by
  unfold begin
  split <;> simp

end Session

/-! ## The two steps of the loop -/

/-- What the loop does once the agent was told. -/
inductive Sequel where
  | process (i : Instruction) (r : Resume)
  | resume (r : Resume)
  | listen (retry : Duration)
  | waitAtLeast (delay : Option Duration)
  | connectAfter (length : Duration)

/-- The phase has changed, and the agent is to be told. -/
structure Telling (τ : Type) where
  session : Session τ
  notice : Notice
  sequel : Sequel

namespace Sequel

def ofAnswer (i : Option Instruction) (r : Resume) : Sequel :=
  match i with
  | some i => .process i r
  | none => .resume r

def run {τ : Type} [Transport τ] (s : Session τ) : Sequel → Session τ
  | .process i r => s.process i r
  | .resume r => s.resume r
  | .listen retry => s.listen retry
  | .waitAtLeast delay => s.waitAtLeast delay
  | .connectAfter length => s.connectAfter length

end Sequel

namespace Session
variable {τ : Type}

def tellConnected (s : Session τ) (q : Sequel) : Option (Telling τ) :=
  if s.phase = .connecting then some ⟨{ s with phase := .connected }, .connected, q⟩ else none

def tellFailed (s : Session τ) (e : TransportError) (q : Sequel) : Option (Telling τ) :=
  match e with
  | .unavailable _ => none
  | e =>
    let s := if s.phase = .connected then { s with phase := .connecting } else s
    some ⟨s, .connectFailed e, q⟩

/-- The call about the connection that the input makes the loop make. -/
def telling? (s : Session τ) (input : Input) : Option (Telling τ) :=
  match s.loop, input with
  | .exchanging _, .exchanged (.error .cancelled) => none
  | .exchanging _, .exchanged (.error e) => s.tellFailed e (.waitAtLeast e.retryAfter)
  | .exchanging number, .exchanged (.ok i) =>
    match i.bind Instruction.unavailable? with
    | some _ => none
    | none => (s.update (·.delivered number)).tellConnected (.ofAnswer i .scheduled)
  | .verifying task _ number deadline, .exchanged (.ok i) =>
    match i.bind Instruction.unavailable? with
    | some _ => none
    | none =>
      ((s.reply task (.ok ())).update (·.delivered number)).tellConnected
        (.ofAnswer i (.verified deadline))
  | .connecting _, .connected (.error .cancelled) => none
  | .connecting retry, .connected (.error e) =>
    if s.isStopping then none else s.tellFailed e (.connectAfter retry)
  | .sending _ _, .sent (.error .cancelled) => none
  | .sending _ retry, .sent (.error e) => s.tellFailed e (.connectAfter retry)
  | .sending number retry, .sent (.ok ()) =>
    (s.update (·.delivered number)).tellConnected (.listen retry)
  | .receiving retry, .received r =>
    if s.isDistracted then none
    else
      let s := s.setWakeup Wakeup.leave
      match r with
      | .ok (some i) =>
        match i.unavailable? with
        | some _ => none
        | none => s.tellConnected (.process i (.stream retry))
      | .ok none => s.tellFailed .closed (.connectAfter retry)
      | .error e => s.tellFailed e (.connectAfter retry)
  | _, _ => none

end Session

def Telling.told {τ : Type} (t : Telling τ) : Session τ := t.session.tell t.notice

namespace Session
variable {τ : Type} {s u : Session τ} {q : Sequel} {t : Telling τ}

theorem told_of_tellConnected (h : s.tellConnected q = some t) :
    t.told = s.markConnected ∧ t.sequel = q ∧ t.told.notices = s.notices ++ [t.notice] := by
  unfold tellConnected at h
  split at h
  · next hp =>
    rw [← Option.some.inj h]
    exact ⟨(if_pos hp).symm, rfl, List.filterMap_append⟩
  · contradiction

theorem told_of_tellFailed {e : TransportError} (h : s.tellFailed e q = some t) :
    t.told = s.markFailed e ∧ t.sequel = q ∧ t.told.notices = s.notices ++ [t.notice] := by
  have hsame : (if s.phase = .connected then { s with phase := .connecting } else s).notices =
      s.notices := by
    split <;> rfl
  cases e with
  | unavailable => contradiction
  | _ =>
    rw [← Option.some.inj h]
    exact ⟨rfl, rfl, List.filterMap_append.trans (congrArg (· ++ _) hsame)⟩

theorem phase_update (s : Session τ) (f : State → State) : (s.update f).phase = s.phase :=
  apply_update (·.phase) (fun _ => rfl) s f

theorem markConnected_of_tellConnected (h : s.tellConnected q = none) : s.markConnected = s := by
  unfold tellConnected at h
  split at h
  · contradiction
  · next hp => exact if_neg hp

theorem markFailed_of_tellFailed {e : TransportError} (h : s.tellFailed e q = none) :
    s.markFailed e = s := by
  cases e with
  | unavailable => rfl
  | _ => contradiction

variable [Transport τ]

theorem notices_run (q : Sequel) (s : Session τ) : (q.run s).notices = s.notices := by
  cases q with
  | process i r => exact notices_process s i r
  | resume r => exact notices_resume s r
  | listen retry => exact notices_listen s retry
  | waitAtLeast delay => exact notices_waitAtLeast s delay
  | connectAfter length => exact notices_connectAfter s length

theorem goes_run (q : Sequel) (s : Session τ) : ∃ routed, Goes routed s (q.run s) := by
  cases q with
  | process i r => exact goes_process s i r
  | resume r => exact ⟨none, goes_resume s r⟩
  | listen retry => exact ⟨none, goes_listen s retry⟩
  | waitAtLeast delay => exact ⟨none, goes_waitAtLeast s delay⟩
  | connectAfter length => exact ⟨none, goes_connectAfter s length⟩

/-- What the two steps come to: the notice is that of one of the marks, and the rest is what the loop
does in one step. -/
structure IsSplit (s u : Session τ) (input : Input) (t : Telling τ) : Prop where
  notices : u.notices = s.notices
  phase : u.phase = s.phase
  told : t.told = u.markConnected ∨ ∃ e, t.told = u.markFailed e
  heard : t.told.notices = s.notices ++ [t.notice]
  run : s.runLoop input = t.sequel.run t.told

theorem IsSplit.of_tellConnected {input : Input} (h : u.tellConnected q = some t)
    (hn : u.notices = s.notices) (hp : u.phase = s.phase)
    (hr : s.runLoop input = q.run u.markConnected) : IsSplit s u input t := by
  obtain ⟨htold, rfl, hheard⟩ := told_of_tellConnected h
  exact ⟨hn, hp, .inl htold, hheard.trans (by rw [hn]), htold ▸ hr⟩

theorem IsSplit.of_tellFailed {input : Input} {e : TransportError} (h : u.tellFailed e q = some t)
    (hn : u.notices = s.notices) (hp : u.phase = s.phase)
    (hr : s.runLoop input = q.run (u.markFailed e)) : IsSplit s u input t := by
  obtain ⟨htold, rfl, hheard⟩ := told_of_tellFailed h
  exact ⟨hn, hp, .inr ⟨e, htold⟩, hheard.trans (by rw [hn]), htold ▸ hr⟩

/-! ### What the results come to -/

theorem answered_eq_run (s : Session τ) (number : UInt64) (i : Option Instruction) (r : Resume) :
    s.answered number i r =
      (Sequel.ofAnswer i r).run (s.update (·.delivered number)).markConnected := by
  cases i <;> rfl

theorem exchanged_ok {i : Option Instruction} (h : i.bind Instruction.unavailable? = none)
    (s : Session τ) (number : UInt64) :
    s.exchanged number (.ok i) = s.answered number i .scheduled := by
  unfold exchanged
  dsimp only
  rw [h]

theorem verified_ok {i : Option Instruction} (h : i.bind Instruction.unavailable? = none)
    (s : Session τ) (task : Nat) (previous : ConnectionSettings) (number : UInt64) (deadline : Nat) :
    s.verified task previous number deadline (.ok i) =
      (s.reply task (.ok ())).answered number i (.verified deadline) := by
  unfold verified
  dsimp only
  rw [h]

theorem received_some {i : Instruction} (h : i.unavailable? = none) (s : Session τ)
    (retry : Duration) :
    s.received retry (.ok (some i)) = s.markConnected.process i (.stream retry) := by
  unfold received
  dsimp only
  rw [h]

section
variable {e : TransportError} (h : e ≠ .cancelled) (s : Session τ)
include h

theorem exchanged_error (number : UInt64) :
    s.exchanged number (.error e) = (s.markFailed e).waitAtLeast e.retryAfter := by
  cases e with
  | cancelled => exact absurd rfl h
  | _ => rfl

theorem connected_error (retry : Duration) : s.connected retry (.error e) = s.lose e retry := by
  cases e with
  | cancelled => exact absurd rfl h
  | _ => rfl

theorem sent_error (number : UInt64) (retry : Duration) :
    s.sent number retry (.error e) = s.lose e retry := by
  cases e with
  | cancelled => exact absurd rfl h
  | _ => rfl

end

/-! ### One stage of the loop after the other -/

theorem exists_isSplit_exchanging {number : UInt64} {i : Option Instruction}
    (hl : s.loop = .exchanging number) (hi : i.bind Instruction.unavailable? = none)
    (h : (s.update (·.delivered number)).tellConnected (.ofAnswer i .scheduled) = some t) :
    ∃ u, IsSplit s u (.exchanged (.ok i)) t := by
  refine ⟨_, .of_tellConnected h (notices_update _ _) (phase_update _ _) ?_⟩
  unfold runLoop
  rw [hl, ← answered_eq_run]
  exact exchanged_ok hi s number

theorem exists_isSplit_verifying {task : Nat} {previous : ConnectionSettings} {number : UInt64}
    {deadline : Nat} {i : Option Instruction}
    (hl : s.loop = .verifying task previous number deadline)
    (hi : i.bind Instruction.unavailable? = none)
    (h : ((s.reply task (.ok ())).update (·.delivered number)).tellConnected
      (.ofAnswer i (.verified deadline)) = some t) :
    ∃ u, IsSplit s u (.exchanged (.ok i)) t := by
  refine ⟨_, .of_tellConnected h ((notices_update _ _).trans (notices_reply s _ _))
    ((phase_update _ _).trans (reply_phase s _ _)) ?_⟩
  unfold runLoop
  rw [hl, ← answered_eq_run]
  exact verified_ok hi s task previous number deadline

theorem exists_isSplit_receiving {retry : Duration}
    {r : Except TransportError (Option Instruction)} (hl : s.loop = .receiving retry)
    (h : s.telling? (.received r) = some t) : ∃ u, IsSplit s u (.received r) t := by
  unfold telling? at h
  rw [hl] at h
  dsimp only at h
  split at h
  · contradiction
  · next hd =>
    have hrun : s.runLoop (.received r) = (s.setWakeup Wakeup.leave).received retry r := by
      unfold runLoop
      rw [hl]
      exact if_neg hd
    split at h
    · next i =>
      split at h
      · contradiction
      · next hi => exact ⟨_, .of_tellConnected h rfl rfl (hrun.trans (received_some hi _ retry))⟩
    · exact ⟨_, .of_tellFailed h rfl rfl hrun⟩
    · exact ⟨_, .of_tellFailed h rfl rfl hrun⟩

/-- The two steps one after the other are what the loop does in one. -/
theorem exists_isSplit {input : Input} (h : s.telling? input = some t) :
    ∃ u, IsSplit s u input t := by
  have hwhole := h
  unfold telling? at h
  split at h
  · contradiction
  · next number e hc hl =>
    refine ⟨s, .of_tellFailed h rfl rfl ?_⟩
    unfold runLoop
    rw [hl]
    exact exchanged_error hc s number
  · next hl =>
    split at h
    · contradiction
    · next hi => exact exists_isSplit_exchanging hl hi h
  · next hl =>
    split at h
    · contradiction
    · next hi => exact exists_isSplit_verifying hl hi h
  · contradiction
  · next retry e hc hl =>
    split at h
    · contradiction
    · next hs =>
      refine ⟨s, .of_tellFailed h rfl rfl ?_⟩
      unfold runLoop
      rw [hl]
      exact (if_neg hs).trans (connected_error hc s retry)
  · contradiction
  · next number retry e hc hl =>
    refine ⟨s, .of_tellFailed h rfl rfl ?_⟩
    unfold runLoop
    rw [hl]
    exact sent_error hc s number retry
  · next hl =>
    refine ⟨_, .of_tellConnected h (notices_update _ _) (phase_update _ _) ?_⟩
    unfold runLoop
    rw [hl]
    rfl
  · next hl => exact exists_isSplit_receiving hl hwhole
  · contradiction

/-! ## Where the loop makes no call -/

theorem notices_answered (s : Session τ) (number : UInt64) (i : Option Instruction) (r : Resume) :
    (s.answered number i r).notices = (s.update (·.delivered number)).markConnected.notices := by
  rw [answered_eq_run, notices_run]

theorem notices_exchanged {number : UInt64} {r : Except TransportError (Option Instruction)}
    (hl : s.loop = .exchanging number) (h : s.telling? (.exchanged r) = none) :
    (s.exchanged number r).notices = s.notices := by
  unfold telling? at h
  rw [hl] at h
  unfold exchanged
  split
  · simp
  · next e hc =>
    have hfail : s.tellFailed e (.waitAtLeast e.retryAfter) = none := by
      cases e with
      | cancelled => exact absurd rfl hc
      | _ => exact h
    rw [notices_waitAtLeast, markFailed_of_tellFailed hfail]
  · split
    · simp
    · next hi =>
      dsimp only at h
      rw [hi] at h
      rw [notices_answered, markConnected_of_tellConnected h, notices_update]

theorem notices_verified {task : Nat} {previous : ConnectionSettings} {number : UInt64}
    {deadline : Nat} {r : Except TransportError (Option Instruction)}
    (hl : s.loop = .verifying task previous number deadline)
    (h : s.telling? (.exchanged r) = none) :
    (s.verified task previous number deadline r).notices = s.notices := by
  unfold telling? at h
  rw [hl] at h
  unfold verified
  split
  · simp
  · split
    · simp
    · next hi =>
      dsimp only at h
      rw [hi] at h
      rw [notices_answered, markConnected_of_tellConnected h, notices_update, notices_reply]

theorem notices_lose {e : TransportError} {retry : Duration}
    (h : s.tellFailed e (.connectAfter retry) = none) : (s.lose e retry).notices = s.notices := by
  unfold lose
  rw [notices_connectAfter, markFailed_of_tellFailed h]

theorem notices_connected {retry : Duration} {r : Except TransportError Unit}
    (hl : s.loop = .connecting retry) (hs : ¬ s.isStopping = true)
    (h : s.telling? (.connected r) = none) : (s.connected retry r).notices = s.notices := by
  unfold telling? at h
  rw [hl] at h
  unfold connected
  split
  · simp
  · simp
  · next e hc =>
    refine notices_lose ?_
    cases e with
    | cancelled => exact absurd rfl hc
    | _ => exact (if_neg hs).symm.trans h

theorem notices_sent {number : UInt64} {retry : Duration} {r : Except TransportError Unit}
    (hl : s.loop = .sending number retry) (h : s.telling? (.sent r) = none) :
    (s.sent number retry r).notices = s.notices := by
  unfold telling? at h
  rw [hl] at h
  unfold sent
  split
  · unfold delivered
    rw [notices_listen, markConnected_of_tellConnected h, notices_update]
  · simp
  · next e hc =>
    refine notices_lose ?_
    cases e with
    | cancelled => exact absurd rfl hc
    | _ => exact h

theorem notices_received {retry : Duration} {r : Except TransportError (Option Instruction)}
    (hl : s.loop = .receiving retry) (hd : ¬ s.isDistracted = true)
    (h : s.telling? (.received r) = none) :
    ((s.setWakeup Wakeup.leave).received retry r).notices = s.notices := by
  unfold telling? at h
  rw [hl] at h
  dsimp only at h
  rw [if_neg hd] at h
  unfold received
  split
  · split
    · rw [notices_pause]
      rfl
    · next hi =>
      dsimp only at h
      rw [hi] at h
      rw [notices_process, markConnected_of_tellConnected h]
      rfl
  · exact notices_lose h
  · exact notices_lose h

theorem notices_of_silent {input : Input} (h : s.telling? input = none) :
    (s.runLoop input).notices = s.notices := by
  unfold runLoop
  split
  · split
    · simp
    · unfold enterGate
      dsimp only
      split
      · exact notices_emit _ rfl
      · rfl
  · split
    · simp
    · split
      · exact notices_emit _ rfl
      · rfl
  · split <;> simp
  · split <;> simp
  · exact notices_wait s _
  · next hl => exact notices_exchanged hl h
  · next hl => exact notices_verified hl h
  · split
    · simp
    · split <;> simp
  · split <;> simp
  · next hl =>
    split
    · simp
    · next hs => exact notices_connected hl hs h
  · next hl => exact notices_sent hl h
  · split <;> simp
  · next hl =>
    split
    · simp
    · next hd => exact notices_received hl hd h
  · split
    · simp
    · split <;> simp
  · exact notices_switched s _ _ _ _
  · exact notices_identified s _ _ _ _
  · rfl

/-- The loop makes the call of the input, and no other one. -/
theorem notices_runLoop (s : Session τ) (input : Input) :
    (s.runLoop input).notices = s.notices ++ ((s.telling? input).map (·.notice)).toList := by
  cases h : s.telling? input with
  | none => exact (notices_of_silent h).trans (List.append_nil _).symm
  | some t =>
    obtain ⟨u, hu⟩ := exists_isSplit h
    rw [hu.run, notices_run]
    exact hu.heard

end Session

/-! ## The calls about failures -/

/-- The error with which what the loop waits for ends: an exchange of the schedule, an attempt to
connect, the sending of a report, or the stream. Whether other settings prove themselves is not
among them. -/
def Loop.error? : Loop → Input → Option TransportError
  | .exchanging _, .exchanged (.error e) => some e
  | .connecting _, .connected (.error e) => some e
  | .sending .., .sent (.error e) => some e
  | .receiving _, .received (.error e) => some e
  | .receiving _, .received (.ok none) => some .closed
  | _, _ => none

/-- The error counts as a failure: the server was not just busy, and nothing was given up. A stream
cannot be given up while it is waited for, so that it is lost whatever it says. -/
def Loop.countsAsFailure : Loop → TransportError → Bool
  | _, .unavailable _ => false
  | .receiving _, .cancelled => true
  | _, .cancelled => false
  | _, _ => true

def Loop.failure? (l : Loop) (input : Input) : Option TransportError :=
  (l.error? input).filter l.countsAsFailure

def Notice.failure? : Notice → Option TransportError
  | .connectFailed e => some e
  | _ => none

namespace Session
variable {τ : Type} {s : Session τ}

/-- The loop looks at the result of what it waits for, and not at something that comes before. -/
def looksAtResult (s : Session τ) : Bool :=
  match s.loop with
  | .connecting _ => !s.isStopping
  | .receiving _ => !s.isDistracted
  | _ => true

def failure? (s : Session τ) (input : Input) : Option TransportError :=
  if s.looksAtResult then s.loop.failure? input else none

theorem failure?_tellConnected (s : Session τ) (q : Sequel) :
    (s.tellConnected q).bind (·.notice.failure?) = none := by
  unfold tellConnected
  split <;> rfl

theorem failure?_tellFailed (s : Session τ) (e : TransportError) (q : Sequel) (retry : Duration) :
    (s.tellFailed e q).bind (·.notice.failure?) =
      (some e).filter (Loop.receiving retry).countsAsFailure := by
  cases e <;> rfl

/-- What is given up aside, it does not matter what the loop waited for. -/
theorem filter_countsAsFailure {e : TransportError} (h : e ≠ .cancelled) (l m : Loop) :
    (some e).filter l.countsAsFailure = (some e).filter m.countsAsFailure := by
  cases e with
  | cancelled => exact absurd rfl h
  | _ => rfl

theorem failure?_of_result {l : Loop} {input : Input} (hl : s.loop = l)
    (h : s.looksAtResult = true) : s.failure? input = l.failure? input := by
  unfold failure?
  rw [if_pos h, hl]

theorem failure?_of_quiet {input : Input} (h : s.loop.error? input = none) :
    s.failure? input = none := by
  unfold failure? Loop.failure?
  rw [h]
  exact ite_self none

theorem failure?_of_overlooked {input : Input} (h : s.looksAtResult = false) :
    s.failure? input = none := by
  unfold failure?
  rw [h]
  rfl

theorem failure?_of_error {l : Loop} {input : Input} {e : TransportError} (hl : s.loop = l)
    (h : s.looksAtResult = true) (he : l.error? input = some e) (hc : e ≠ .cancelled)
    (q : Sequel) : (s.tellFailed e q).bind (·.notice.failure?) = s.failure? input := by
  rw [failure?_of_result hl h, Loop.failure?, he, failure?_tellFailed _ _ _ .zero]
  exact filter_countsAsFailure hc _ _

/-- A call tells of a failure exactly when what the loop waited for has ended with one. -/
theorem failure?_telling? (s : Session τ) (input : Input) :
    (s.telling? input).bind (·.notice.failure?) = s.failure? input := by
  unfold telling?
  split
  · next hl =>
    rw [failure?_of_result hl (by unfold looksAtResult; rw [hl])]
    rfl
  · next hc hl => exact failure?_of_error hl (by unfold looksAtResult; rw [hl]) rfl hc _
  · next hl =>
    rw [failure?_of_quiet (by rw [hl]; rfl)]
    split
    · rfl
    · exact failure?_tellConnected _ _
  · next hl =>
    rw [failure?_of_quiet (by rw [hl]; rfl)]
    split
    · rfl
    · exact failure?_tellConnected _ _
  · next hl =>
    cases hs : s.isStopping with
    | true => exact (failure?_of_overlooked (by unfold looksAtResult; simp [hl, hs])).symm
    | false =>
      rw [failure?_of_result hl (by unfold looksAtResult; simp [hl, hs])]
      rfl
  · next hc hl =>
    split
    · next hs => exact (failure?_of_overlooked (by unfold looksAtResult; simp [hl, hs])).symm
    · next hs =>
      exact failure?_of_error hl (by unfold looksAtResult; simp [hl, hs]) rfl hc _
  · next hl =>
    rw [failure?_of_result hl (by unfold looksAtResult; rw [hl])]
    rfl
  · next hc hl => exact failure?_of_error hl (by unfold looksAtResult; rw [hl]) rfl hc _
  · next hl =>
    rw [failure?_of_quiet (by rw [hl]; rfl)]
    exact failure?_tellConnected _ _
  · next retry r hl =>
    split
    · next hd => exact (failure?_of_overlooked (by unfold looksAtResult; simp [hl, hd])).symm
    · next hd =>
      rw [failure?_of_result hl (by unfold looksAtResult; simp [hl, hd])]
      dsimp only
      split
      · split
        · rfl
        · exact failure?_tellConnected _ _
      · exact failure?_tellFailed _ _ _ retry
      · exact failure?_tellFailed _ _ _ retry
  · refine (failure?_of_quiet ?_).symm
    unfold Loop.error?
    split <;> grind

end Session

end ManagedAgent
