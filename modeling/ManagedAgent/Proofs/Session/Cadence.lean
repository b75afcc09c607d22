import ManagedAgent.Proofs.Session.Clock
import ManagedAgent.Proofs.Session.Closed

/-!
# The cadence of polling

Once it has dealt with an exchange of the schedule, the loop reads the interval and waits for as
long, or for longer if the server has asked for it. What happens meanwhile does not start that wait
anew.

* `exchanged_cases` : the loop waits for the agent to take a new identity, or for the next exchange;
* `wait_cases` : where the loop goes on from a wait in which nothing else is to be done;
* `ReachesPoll.waiting` : a wait lasts up to its deadline;
* `polling_keeps_its_cadence` : the whole way from one exchange to the next.
-/

set_option autoImplicit false

namespace ManagedAgent

def Event.tried? : Event → Option ConnectionSettings
  | .applied settings => some settings
  | _ => none

def Loop.isExchanging : Loop → Bool
  | .exchanging _ => true
  | _ => false

/-- The nanoseconds that an unavailable server's error asks for. -/
def Instruction.askedWait (i : Instruction) : Nat :=
  ((i.unavailable?.bind (·.retryAfter)).map UInt64.toNat).getD 0

def askedWait : Except TransportError (Option Instruction) → Nat
  | .error (.unavailable (some d)) => d.toNanos
  | .ok (some i) => i.askedWait
  | _ => 0

namespace Session
variable {τ : Type} {s t : Session τ}

def tried (s : Session τ) : List ConnectionSettings := s.history.filterMap Event.tried?

theorem tried_isPrefix {S : Scope} (h : Frame S s t) : s.tried <+: t.tried := by
  obtain ⟨es, he, -⟩ := h.logged
  unfold tried
  rw [he, List.filterMap_append]
  exact List.prefix_append _ _

/-! ## Dealing with an exchange -/

/-- What dealing with the result of an exchange leaves alone. -/
def Scope.passing : Scope where
  may a := a ∉ [.now, .transport, .requests, .stopping, .state .wakeup]
  logs e := e.tried? = none
  tasks _ := True

theorem frame_passing_dispatch (s : Session τ) (i : Instruction) :
    Frame .passing s (s.dispatch i) := by
  refine (frame_dispatch s i).mono (fun a ha hm => ?_) (fun e he => ?_) fun _ _ => trivial
  · simp only [List.mem_cons, List.not_mem_nil, or_false] at hm
    rcases hm with rfl | rfl | rfl | rfl | rfl
    all_goals exact ha
  · cases e <;> trivial

variable [Transport τ]

/-- The loop waits for the agent to take a new identity, or is through and waits. -/
theorem process_cases (s : Session τ) (i : Instruction) :
    (∃ uid rest, (s.process i .scheduled).loop = .identifying uid rest .scheduled ∧
        Frame .passing s (s.process i .scheduled)) ∨
      ∃ u, s.process i .scheduled = u.waitAtLeast none ∧ Frame .passing s u := by
  have told : Frame .passing s (s.withPart i.error fun s e => s.tell (.serverError e)) := by
    unfold withPart
    split
    · exact .emit s _ rfl
    · exact .refl s
  have asked (t : Session τ) :
      Frame .passing t (if i.fullState then t.update State.requestFullState else t) := by
    split
    · exact .update t _ (.requestFullState _ (by simp [Scope.passing])) rfl
    · exact .refl t
  unfold process
  dsimp only
  have hbefore := told.trans (asked _)
  generalize (if i.fullState = true then
    (s.withPart i.error fun s e => s.tell (.serverError e)).update State.requestFullState
    else s.withPart i.error fun s e => s.tell (.serverError e)) = t at hbefore ⊢
  have hdispatched := hbefore.trans (frame_passing_dispatch t i)
  split
  · next uid _ =>
    split
    · exact .inr ⟨_, rfl, hdispatched⟩
    · refine .inl ⟨uid, i, rfl, hbefore.trans ?_⟩
      exact .trans (t := { t with loop := .identifying uid i .scheduled })
        (.setLoop t _ (by simp [Scope.passing])) (.call _ _ _ rfl)
  · exact .inr ⟨_, rfl, hdispatched⟩

theorem exchanged_cases (s : Session τ) (number : UInt64)
    (r : Except TransportError (Option Instruction)) :
    (∃ uid rest, (s.exchanged number r).loop = .identifying uid rest .scheduled ∧
        Frame .passing s (s.exchanged number r) ∧ askedWait r = 0) ∨
      ∃ u delay, s.exchanged number r = u.waitAtLeast delay ∧ Frame .passing s u ∧
        (delay.map Duration.toNanos).getD 0 = askedWait r := by
  unfold exchanged
  split
  · exact .inr ⟨s, none, rfl, .refl s, rfl⟩
  · next e _ =>
    refine .inr ⟨_, _, rfl, .markFailed s e (by simp [Scope.passing]) rfl, ?_⟩
    cases e with
    | unavailable d => cases d <;> rfl
    | _ => rfl
  · next i =>
    split
    · next e hi =>
      refine .inr ⟨s, _, rfl, .refl s, ?_⟩
      cases i with
      | none => contradiction
      | some i =>
        have hi : i.unavailable? = some e := hi
        show (((e.retryAfter.map fun n => .ofNanos n.toNat).map Duration.toNanos).getD 0) =
          ((i.unavailable?.bind (·.retryAfter)).map UInt64.toNat).getD 0
        rw [hi, Option.bind_some]
        cases e.retryAfter with
        | none => rfl
        | some n => exact Duration.toNanos_ofNanos n
    · next hi =>
      have hd : Frame .passing s (s.delivered number) :=
        .trans (.update s _ (.delivered _ number (by simp [Scope.passing])) rfl)
          (.markConnected _ (by simp [Scope.passing]) rfl)
      unfold answered
      cases i with
      | none => exact .inr ⟨_, none, rfl, hd, rfl⟩
      | some i =>
        have hasked : askedWait (.ok (some i)) = 0 := by
          have hi : i.unavailable? = none := hi
          show ((i.unavailable?.bind (·.retryAfter)).map UInt64.toNat).getD 0 = 0
          rw [hi]
          rfl
        dsimp only
        rcases (s.delivered number).process_cases i with ⟨uid, rest, hl, hf⟩ | ⟨u, hu, hf⟩
        · exact .inl ⟨uid, rest, hl, hd.trans hf, hasked⟩
        · exact .inr ⟨u, none, hu, hd.trans hf, hasked.symm⟩

/-- The agent has taken the identity or has not, and the loop is through. -/
theorem identified_eq (s : Session τ) (uid : String) (rest : Instruction)
    (r : Except CallbackError Unit) :
    ∃ u, s.identified uid rest .scheduled r = u.waitAtLeast none ∧ Frame .passing s u := by
  cases r with
  | ok _ =>
    refine ⟨_, rfl, .trans (.update s _ (.setUid _ uid ?_) rfl) (frame_passing_dispatch _ rest)⟩
    simp [Scope.passing]
  | error _ => exact ⟨_, rfl, frame_passing_dispatch s rest⟩

/-! ## Waiting -/

theorem Goes.tried_isPrefix {routed : Option Instruction} (h : Goes routed s t) :
    s.tried <+: t.tried :=
  h.elim (M := fun u => s.tried <+: u.tried) (P := fun u => s.tried <+: u.tried)
    (fun _ _ h hu => hu.trans (Session.tried_isPrefix h.frame))
    (fun u i hu => hu.trans (Session.tried_isPrefix (frame_dispatch u i)))
    (fun _ _ h hu => hu.trans (Session.tried_isPrefix h.frame)) List.prefix_rfl

/-- Settings that are requested are tried. -/
theorem tried_serveRequests (deadline : Nat) (r : ReconnectRequest) (rest : List ReconnectRequest)
    (hs : s.isStopping = false) :
    s.tried.length < (serveRequests deadline (r :: rest) s).tried.length := by
  let u := ({ s with requests := rest }.setWakeup Wakeup.leave).applySettings r.settings
  have htried : u.2.tried = s.tried ++ [r.settings] := List.filterMap_append
  have hmore {t : Session τ} (h : u.2.tried <+: t.tried) : s.tried.length < t.tried.length := by
    have hle := h.length_le
    rw [htried, List.length_append, List.length_singleton] at hle
    omega
  unfold serveRequests
  dsimp only
  split
  · next e t ha =>
    obtain rfl : u.2 = t := (Prod.ext_iff.1 ha).2
    refine hmore ((Session.tried_isPrefix (S := .any) ?_).trans
      (goes_serveRequests deadline rest _ ?_ ?_).tried_isPrefix)
    · exact .reply _ _ _ (fun _ _ _ => trivial) trivial
    · rw [reply_requests]
      rfl
    · unfold isStopping
      rw [reply_phase]
      exact hs
  · next previous t ha =>
    obtain rfl : u.2 = t := (Prod.ext_iff.1 ha).2
    refine hmore (Session.tried_isPrefix (S := .any) ?_)
    exact .trans (.nextReport _ trivial trivial trivial trivial trivial)
      (.trans (.setLoop _ _ trivial) (.emit _ _ trivial))

/-- Where no settings are tried and no wake-up is stored, the loop waits up to the deadline, unless it
ends. -/
theorem wait_cases {deadline : Nat} (hw : s.state.wakeup.signals = 0)
    (ht : (s.wait deadline).tried = s.tried) :
    (s.wait deadline).loop = .ended ∨
      (deadline ≤ s.now ∧ (s.wait deadline).loop.isExchanging = true) ∨
        (s.wait deadline).loop = .waiting deadline := by
  unfold wait at ht ⊢
  split
  · exact .inl (loop_endLoop s)
  · next hs =>
    rw [if_neg hs] at ht
    cases hr : s.requests with
    | nil =>
      have hsignalled : s.state.wakeup.isSignalled = false := by simp [Wakeup.isSignalled, hw]
      show (s.awaitPoll deadline).loop = _ ∨ _
      unfold serveRequests awaitPoll
      rw [hsignalled, if_neg Bool.false_ne_true]
      split
      · next hd => exact .inr (.inl ⟨hd, rfl⟩)
      · exact .inr (.inr rfl)
    | cons r rest =>
      rw [hr] at ht
      have hlt := tried_serveRequests deadline r rest (by simpa using hs)
      rw [ht] at hlt
      exact absurd hlt (Nat.lt_irrefl _)

/-- A stored wake-up is taken in place of the wait. -/
theorem wait_of_signalled (hs : s.isStopping = false) (hr : s.requests = [])
    (hw : 0 < s.state.wakeup.signals) (deadline : Nat) :
    s.wait deadline = (s.setWakeup Wakeup.take).poll := by
  unfold wait
  rw [hs, if_neg nofun, hr]
  show s.awaitPoll deadline = _
  unfold awaitPoll
  rw [if_pos (by simpa [Wakeup.isSignalled] using hw)]

/-! ## The loop goes on -/

theorem runLoop_waiting {deadline : Nat} (h : s.loop = .waiting deadline) (input : Input) :
    s.runLoop input = s ∨ s.runLoop input = s.wait deadline := by
  unfold runLoop
  rw [h]
  cases input with
  | look => exact .inr rfl
  | _ => exact .inl rfl

theorem runLoop_identifying {uid : String} {rest : Instruction}
    (h : s.loop = .identifying uid rest .scheduled) (input : Input) :
    s.runLoop input = s ∨ ∃ u, s.runLoop input = u.waitAtLeast none ∧ Frame .passing s u := by
  unfold runLoop
  rw [h]
  cases input with
  | answered answer =>
    cases answer with
    | done r => exact .inr (s.identified_eq uid rest r)
    | _ => exact .inl rfl
  | _ => exact .inl rfl

/-! ## From one exchange to the next -/

variable [Carrier τ]

def Moment.result (r : Except TransportError (Option Instruction)) : Moment τ :=
  .act (.run .loop (.exchanged r))

def isOnTime (s : Session τ) : Bool := s.loop.deadline?.all (s.now ≤ ·)

namespace Watch
variable {w : Watch τ}

/-- No wake-up is stored before the moment, and no settings are tried in it. -/
def Idles (w : Watch τ) (m : Moment τ) : Prop :=
  w.session.state.wakeup.signals = 0 ∧ (w.next m).session.tried = w.session.tried

instance (w : Watch τ) (m : Moment τ) : Decidable (w.Idles m) := inferInstanceAs (Decidable (_ ∧ _))

/-- The moments lead to the next exchange of the schedule, and there is nothing else to do for the
loop on the way. -/
def ReachesPoll : List (Moment τ) → Watch τ → Prop
  | [], w => w.session.loop.isExchanging = true
  | m :: rest, w =>
    w.session.loop.isExchanging = false ∧ w.Idles m ∧ ReachesPoll rest (w.next m)

instance decidableReachesPoll : (course : List (Moment τ)) → (w : Watch τ) →
    Decidable (ReachesPoll course w)
  | [], w => inferInstanceAs (Decidable (w.session.loop.isExchanging = true))
  | m :: rest, w =>
    let _ := decidableReachesPoll rest (w.next m)
    inferInstanceAs (Decidable (_ ∧ _ ∧ _))

/-- The loop looks in time, whenever it waits. -/
def IsPunctual : List (Moment τ) → Watch τ → Prop
  | [], w => w.session.isOnTime = true
  | m :: rest, w => w.session.isOnTime = true ∧ IsPunctual rest (w.next m)

instance decidableIsPunctual : (course : List (Moment τ)) → (w : Watch τ) →
    Decidable (IsPunctual course w)
  | [], w => inferInstanceAs (Decidable (w.session.isOnTime = true))
  | m :: rest, w =>
    let _ := decidableIsPunctual rest (w.next m)
    inferInstanceAs (Decidable (_ ∧ _))

/-- The watch at the last of the moments before the loop is through with the exchange. It is not as
long as it waits for the agent to take a new identity. -/
def processing : List (Moment τ) → Watch τ → Watch τ
  | [], w => w
  | m :: rest, w =>
    if (w.next m).session.loop.asked?.isSome then processing rest (w.next m) else w

def elapsed (course : List (Moment τ)) (w : Watch τ) : Nat :=
  (w.after course).session.now - (processing course w).session.now

/-- The nanoseconds that the loop has to wait from then on: as many as the interval has then, or as
the server has asked for with the result. -/
def due (r : Except TransportError (Option Instruction)) (course : List (Moment τ)) (w : Watch τ) :
    Nat :=
  max (Transport.interval (processing course w).session.transport).toNanos (askedWait r)

/-! ## One moment -/

/-- Only the loop itself goes on from where it is. -/
theorem next_cases (w : Watch τ) (m : Moment τ) :
    (∃ input, (w.next m).session = w.session.runLoop input) ∨
      (w.next m).session.loop = w.session.loop := by
  have beside (a : Action τ) (h : a.isLoop = false) : (w.session.act a).loop = w.session.loop :=
    (frame_beside w.session a h).same .loop (by simp [Scope.beside])
  cases m with
  | act a =>
    rcases a.loop_cases with ⟨input, rfl⟩ | h
    · exact .inl ⟨input, rfl⟩
    · exact .inr (beside a h)
  | late a h => exact .inr (beside a h)
  | wake => exact .inr (apply_update (·.loop) (fun _ => rfl) w.session State.notify)

/-! ## All moments -/

theorem not_reachesPoll_of_ended {course : List (Moment τ)} (hl : w.session.loop = .ended) :
    ¬ ReachesPoll course w := by
  induction course generalizing w with
  | nil =>
    intro h
    have h : w.session.loop.isExchanging = true := h
    rw [hl] at h
    contradiction
  | cons m rest ih =>
    rintro ⟨-, -, h⟩
    refine ih ?_ h
    rcases w.next_cases m with ⟨input, hn⟩ | hn
    · rwa [hn, runLoop_of_ended hl]
    · rwa [hn]

/-- A course that starts with an exchange of the schedule is over. -/
theorem eq_nil_of_reachesPoll {course : List (Moment τ)}
    (hl : w.session.loop.isExchanging = true) (h : ReachesPoll course w) : course = [] := by
  cases course with
  | nil => rfl
  | cons m rest =>
    rw [h.1] at hl
    contradiction

/-- A wait lasts up to its deadline. -/
theorem ReachesPoll.waiting {course : List (Moment τ)} (h : ReachesPoll course w) {deadline : Nat}
    (hl : w.session.loop = .waiting deadline) :
    deadline ≤ (w.after course).session.now ∧
      (IsPunctual course w → (w.after course).session.now = deadline) := by
  induction course generalizing w with
  | nil =>
    have h : w.session.loop.isExchanging = true := h
    rw [hl] at h
    contradiction
  | cons m rest ih =>
    obtain ⟨-, hidle, hrest⟩ := h
    have stay (hn : (w.next m).session.loop = .waiting deadline) :
        deadline ≤ ((w.next m).after rest).session.now ∧
          (IsPunctual (m :: rest) w → ((w.next m).after rest).session.now = deadline) :=
      (ih hrest hn).imp_right fun h hp => h hp.2
    rcases w.next_cases m with ⟨input, hn⟩ | hn
    · rcases runLoop_waiting hl input with hsame | hwait
      · exact stay (by rw [hn, hsame, hl])
      · rw [hwait] at hn
        have htried := hidle.2
        rw [hn] at htried
        rcases wait_cases hidle.1 htried with hend | ⟨hd, hpoll⟩ | hwaits
        · exact absurd hrest (not_reachesPoll_of_ended (by rw [hn, hend]))
        · obtain rfl := eq_nil_of_reachesPoll (by rwa [hn]) hrest
          have hlast : (w.after [m]).session.now = w.session.now := by
            show (w.next m).session.now = _
            rw [hn, now_goes (goes_wait w.session deadline)]
          rw [hlast]
          refine ⟨hd, fun hp => Nat.le_antisymm ?_ hd⟩
          have hon : w.session.isOnTime = true := hp.1
          unfold isOnTime at hon
          rw [hl] at hon
          simpa [Loop.deadline?] using hon
        · exact stay (by rw [hn, hwaits])
    · exact stay (hn.trans hl)

/-- The loop is through with an exchange, and waits for the next if it has to. -/
theorem Idles.waitAtLeast {m : Moment τ} {u : Session τ} {delay : Option Duration}
    (hidle : w.Idles m) (hu : (w.next m).session = u.waitAtLeast delay)
    (hf : Frame .passing w.session u) :
    (w.next m).session.now = w.session.now ∧
      let deadline := w.session.now + (w.session.waitLength delay).ticks
      (w.next m).session.loop = .ended ∨
        (deadline ≤ w.session.now ∧ (w.next m).session.loop.isExchanging = true) ∨
          (w.next m).session.loop = .waiting deadline := by
  have hnow : u.now = w.session.now := hf.same .now (by simp [Scope.passing])
  have htransport : u.transport = w.session.transport := hf.same .transport (by simp [Scope.passing])
  have hwakeup : u.state.wakeup = w.session.state.wakeup :=
    hf.same (.state .wakeup) (by simp [Scope.passing])
  have htried : u.tried = w.session.tried := hf.filterMap_history fun _ h => h
  have hlength : u.waitLength delay = w.session.waitLength delay := by
    unfold waitLength
    rw [htransport]
  rw [waitAtLeast_eq, hnow, hlength] at hu
  have hquiet := hidle.2
  rw [hu, ← htried] at hquiet
  have hcases := wait_cases (by rw [hwakeup, hidle.1]) hquiet
  rw [← hu, hnow] at hcases
  refine ⟨?_, hcases⟩
  rw [hu, now_goes (goes_wait u _), hnow]

/-- The exchange has been dealt with before that moment. -/
theorem Idles.processing {course : List (Moment τ)} {m : Moment τ} {u : Session τ}
    {delay : Option Duration} (hidle : w.Idles m)
    (hu : (w.next m).session = u.waitAtLeast delay) (hf : Frame .passing w.session u) :
    processing (m :: course) w = w := by
  have hasked : (w.next m).session.loop.asked? = none := by
    rcases (hidle.waitAtLeast hu hf).2 with hend | ⟨-, hpoll⟩ | hwaits
    · rw [hend]
      rfl
    · generalize (w.next m).session.loop = l at hpoll ⊢
      cases l with
      | exchanging => rfl
      | _ => contradiction
    · rw [hwaits]
      rfl
  rw [Watch.processing, hasked]
  rfl

/-- From that moment on the loop waits for as long as it has to. -/
theorem ReachesPoll.waitAtLeast {course : List (Moment τ)} {m : Moment τ} {u : Session τ}
    {delay : Option Duration} (h : ReachesPoll course (w.next m)) (hidle : w.Idles m)
    (hu : (w.next m).session = u.waitAtLeast delay) (hf : Frame .passing w.session u) :
    let length := w.session.waitLength delay
    let t := ((w.next m).after course).session
    w.session.now + length.ticks ≤ t.now ∧
      (IsPunctual course (w.next m) → t.now = w.session.now + length.ticks) := by
  intro length t
  obtain ⟨hnow, hend | ⟨hd, hpoll⟩ | hwaits⟩ := hidle.waitAtLeast hu hf
  · exact absurd h (not_reachesPoll_of_ended hend)
  · obtain rfl := eq_nil_of_reachesPoll hpoll h
    have hlast : t.now = w.session.now := hnow
    rw [hlast]
    exact ⟨hd, fun _ => Nat.le_antisymm (Nat.le_add_right _ _) hd⟩
  · exact h.waiting hwaits

/-- The loop waits for the agent to take a new identity, then is through, and waits. -/
theorem ReachesPoll.identifying {course : List (Moment τ)} (h : ReachesPoll course w) {uid : String}
    {i : Instruction} (hl : w.session.loop = .identifying uid i .scheduled) :
    let v := (processing course w).session
    let length := Transport.interval v.transport
    let t := (w.after course).session
    v.now + length.ticks ≤ t.now ∧ (IsPunctual course w → t.now = v.now + length.ticks) := by
  induction course generalizing w with
  | nil =>
    have h : w.session.loop.isExchanging = true := h
    rw [hl] at h
    contradiction
  | cons m rest ih =>
    obtain ⟨-, hidle, hrest⟩ := h
    have stay (hn : (w.next m).session.loop = .identifying uid i .scheduled) :
        let v := (processing (m :: rest) w).session
        let length := Transport.interval v.transport
        let t := (w.after (m :: rest)).session
        v.now + length.ticks ≤ t.now ∧
          (IsPunctual (m :: rest) w → t.now = v.now + length.ticks) := by
      have hp : processing (m :: rest) w = processing rest (w.next m) := by
        rw [processing, hn]
        rfl
      rw [hp]
      exact (ih hrest hn).imp_right fun h hp => h hp.2
    rcases w.next_cases m with ⟨input, hn⟩ | hn
    · rcases runLoop_identifying hl input with hsame | ⟨u, hu, hf⟩
      · exact stay (by rw [hn, hsame, hl])
      · rw [hidle.processing (hn.trans hu) hf]
        exact (hrest.waitAtLeast hidle (hn.trans hu) hf).imp_right fun h hp => h hp.2
    · exact stay (hn.trans hl)

/-- From the result of an exchange to the start of the next. -/
theorem ReachesPoll.due_le_elapsed {course : List (Moment τ)} {number : UInt64}
    {r : Except TransportError (Option Instruction)}
    (h : ReachesPoll course (w.next (.result r))) (hl : w.session.loop = .exchanging number)
    (hidle : w.Idles (.result r)) :
    due r (.result r :: course) w ≤ elapsed (.result r :: course) w * 1000000 ∧
      (IsPunctual course (w.next (.result r)) →
        elapsed (.result r :: course) w * 1000000 < due r (.result r :: course) w + 1000000) := by
  have hrun : (w.next (.result r)).session = w.session.exchanged number r := by
    show w.session.runLoop _ = _
    unfold runLoop
    rw [hl]
  -- Both ways to deal with the exchange lead to a wait of this many nanoseconds.
  have waits {v t : Nat} (d : Duration) {nanos : Nat} (hd : d.toNanos = nanos) {P : Prop}
      (h : v + d.ticks ≤ t ∧ (P → t = v + d.ticks)) :
      nanos ≤ (t - v) * 1000000 ∧ (P → (t - v) * 1000000 < nanos + 1000000) := by
    refine ⟨?_, fun hp => ?_⟩
    · rw [← hd, Duration.toNanos_le_iff]
      omega
    · rw [h.2 hp, Nat.add_sub_cancel_left, ← hd]
      exact d.ticks_lt
  unfold due elapsed
  rcases w.session.exchanged_cases number r with ⟨uid, i, hi, hf, hasked⟩ | ⟨u, delay, hu, hf, hasked⟩
  · have hp : processing (.result r :: course) w = processing course (w.next (.result r)) := by
      rw [processing, hrun, hi]
      rfl
    rw [hp, hasked]
    exact waits _ (Nat.max_eq_left (Nat.zero_le _)).symm (h.identifying (by rw [hrun, hi]))
  · rw [hidle.processing (hrun.trans hu) hf, ← hasked]
    exact waits _ (toNanos_waitLength _ _) (h.waitAtLeast hidle (hrun.trans hu) hf)

end Watch

/-! ## A stored wake-up -/

def isThrough (s : Session τ) (input : Input) : Bool :=
  (s.runLoop input).loop.asked?.isNone &&
    match s.loop, input with
    | .exchanging _, .exchanged _ => true
    | .identifying _ _ .scheduled, .answered (.done _) => true
    | _, _ => false

omit [Carrier τ] in
theorem waitAtLeast_of_isThrough {input : Input} (h : s.isThrough input = true) :
    ∃ u delay, s.runLoop input = u.waitAtLeast delay ∧ Frame .passing s u := by
  unfold isThrough at h
  rw [Bool.and_eq_true] at h
  obtain ⟨hasked, hfits⟩ := h
  split at hfits
  · next number r hl =>
    have hrun : s.runLoop (.exchanged r) = s.exchanged number r := by
      unfold runLoop
      rw [hl]
    rcases s.exchanged_cases number r with ⟨uid, i, hi, -⟩ | ⟨u, delay, hu, hf, -⟩
    · rw [hrun, hi] at hasked
      contradiction
    · exact ⟨u, delay, hrun.trans hu, hf⟩
  · next uid i r hl =>
    have hrun : s.runLoop (.answered (.done r)) = s.identified uid i .scheduled r := by
      unfold runLoop
      rw [hl]
    obtain ⟨u, hu, hf⟩ := s.identified_eq uid i r
    exact ⟨u, none, hrun.trans hu, hf⟩
  · contradiction

omit [Carrier τ] in
/-- The next exchange starts at once, and one wake-up fewer is stored. -/
theorem poll_of_isThrough {input : Input} (h : s.isThrough input = true)
    (hs : s.isStopping = false) (hr : s.requests = []) (hw : 0 < s.state.wakeup.signals) :
    (s.runLoop input).loop.isExchanging = true ∧ (s.runLoop input).now = s.now ∧
      (s.runLoop input).state.wakeup.signals + 1 = s.state.wakeup.signals := by
  obtain ⟨u, delay, hu, hf⟩ := waitAtLeast_of_isThrough h
  have hwakeup : u.state.wakeup = s.state.wakeup := hf.same (.state .wakeup) (by simp [Scope.passing])
  have hpoll : s.runLoop input = (u.setWakeup Wakeup.take).poll := by
    rw [hu, waitAtLeast_eq]
    refine wait_of_signalled ?_ ?_ (by rwa [hwakeup]) _
    · exact Eq.trans (hf.same .stopping (by simp [Scope.passing])) hs
    · exact Eq.trans (hf.same .requests (by simp [Scope.passing])) hr
  refine ⟨by rw [hpoll]; rfl, now_runLoop s input, ?_⟩
  rw [hpoll]
  show u.state.wakeup.signals - 1 + 1 = _
  rw [hwakeup]
  omega

omit [Carrier τ] in
/-- At the deadline the loop looks, and the next exchange starts. -/
theorem poll_of_waiting {deadline : Nat} (hl : s.loop = .waiting deadline)
    (hs : s.isStopping = false) (hr : s.requests = []) (hd : deadline ≤ s.now) :
    (s.runLoop .look).loop.isExchanging = true := by
  unfold runLoop
  rw [hl]
  show (s.wait deadline).loop.isExchanging = true
  unfold wait
  rw [hs, if_neg nofun, hr]
  show (s.awaitPoll deadline).loop.isExchanging = true
  unfold awaitPoll
  split
  · rfl
  · rfl

end Session

/-! ## What a response asks for -/

namespace Http.Response

def retrySeconds? (r : Response) : Option UInt64 :=
  (r.header? "retry-after").bind fun value => Text.decimalUInt64? (Text.trim value)

theorem retryAfter?_eq (r : Response) : r.retryAfter? = r.retrySeconds?.map Duration.ofSecs := by
  unfold retryAfter? retrySeconds?
  rw [Option.map_bind]
  refine congrArg (Option.bind _) (funext fun value => ?_)
  exact (Option.map_eq_bind (f := Duration.ofSecs)).symm

/-- A body that is not an instruction asks for nothing. -/
theorem askedWait_decodeInstruction (compressed : Bool) (body : Bytes) {e : TransportError}
    (h : Wire.Body.decodeInstruction compressed body = .error e) : askedWait (.error e) = 0 := by
  have text {e : TransportError} (h : Wire.Body.text compressed body = .error e) :
      askedWait (.error e) = 0 := by
    unfold Wire.Body.text at h
    split at h
    · cases hd : Gzip.decompress body with
      | ok _ =>
        rw [hd] at h
        contradiction
      | error _ =>
        rw [hd] at h
        obtain rfl := Except.error.inj h
        rfl
    · contradiction
  unfold Wire.Body.decodeInstruction at h
  split at h
  · contradiction
  · unfold Wire.Body.decode at h
    cases ht : Wire.Body.text compressed body with
    | error _ =>
      rw [ht] at h
      obtain rfl := Except.error.inj h
      exact text ht
    | ok bytes =>
      rw [ht] at h
      change some <$> (Wire.Codec.instruction.decode bytes).mapError TransportError.decode = _ at h
      cases hc : Wire.Codec.instruction.decode bytes with
      | error _ =>
        rw [hc] at h
        obtain rfl := Except.error.inj h
        rfl
      | ok _ =>
        rw [hc] at h
        contradiction

/-- Only a busy status asks for its seconds; with any other a wait is asked for in an instruction. -/
theorem askedWait_instruction {r : Response} {result : Except TransportError (Option Instruction)}
    (h : r.instruction = some result) :
    askedWait result =
      if r.status = 503 ∨ r.status = 429 then
        (r.retrySeconds?.map fun n => n.toNat * 1000000000).getD 0
      else
        (result.toOption.join.map Instruction.askedWait).getD 0 := by
  unfold instruction refusal? at h
  split
  · next hbusy =>
    rw [if_pos hbusy] at h
    obtain rfl := Option.some.inj h
    rw [retryAfter?_eq]
    cases r.retrySeconds? with
    | none => rfl
    | some n => exact Duration.toNanos_ofSecs n
  · next hbusy =>
    rw [if_neg hbusy] at h
    split at h
    · next e he =>
      split at he
      · contradiction
      · obtain rfl := Option.some.inj he
        obtain rfl := Option.some.inj h
        rfl
    · split at h
      · next body _ =>
        cases result with
        | ok i => cases i <;> rfl
        | error e => exact askedWait_decodeInstruction _ body (Option.some.inj h)
      · obtain rfl := Option.some.inj h
        rfl
      · contradiction

end Http.Response

/-! ## The whole way -/

namespace Session
variable {τ : Type} [Transport τ] [Carrier τ]

/-- **Polling keeps its cadence.** Between the moment at which the loop is through with an exchange
of the schedule and the start of the next, the interval that is read at that moment passes, or what
the server has asked for with the result if that is longer, provided that meanwhile no wake-up is
stored and no settings are tried; and no more passes than the milliseconds that this takes, if the
loop looks in time. The loop does go on at its deadline. A wake-up that is stored when the loop is
through takes the place of the wait, and is gone with it. What a response asks for are the seconds in
its header if its status is 503 or 429, and otherwise what an unavailable server's error asks for. -/
theorem polling_keeps_its_cadence (transport : τ) (settings : StartSettings) (fresh : String)
    (before : List (Moment τ)) :
    let w := (Watch.start transport settings fresh).after before
    let s := w.session
    (∀ number r course, s.loop = .exchanging number → w.Idles (.result r) →
      Watch.ReachesPoll course (w.next (.result r)) →
      let gap := .result r :: course
      Watch.due r gap w ≤ Watch.elapsed gap w * 1000000 ∧
        (Watch.IsPunctual course (w.next (.result r)) →
          Watch.elapsed gap w * 1000000 < Watch.due r gap w + 1000000)) ∧
    (s.isStopping = false → s.requests = [] →
      (∀ deadline, s.loop = .waiting deadline → deadline ≤ s.now →
        (s.act (.run .loop .look)).loop.isExchanging = true) ∧
      ∀ input, s.isThrough input = true → 0 < s.state.wakeup.signals →
        let t := s.act (.run .loop input)
        t.loop.isExchanging = true ∧ t.now = s.now ∧
          t.state.wakeup.signals + 1 = s.state.wakeup.signals) ∧
    ∀ (response : Http.Response) (result : Except TransportError (Option Instruction)),
      response.instruction = some result →
      askedWait result =
        if response.status = 503 ∨ response.status = 429 then
          (response.retrySeconds?.map fun n => n.toNat * 1000000000).getD 0
        else
          (result.toOption.join.map Instruction.askedWait).getD 0 := by
  intro w s
  refine ⟨fun number r course hl hidle h => h.due_le_elapsed hl hidle, fun hs hr => ⟨?_, ?_⟩,
    fun response result h => Http.Response.askedWait_instruction h⟩
  · exact fun deadline hl hd => poll_of_waiting hl hs hr hd
  · exact fun input hthrough hw => poll_of_isThrough hthrough hs hr hw

/-! ## A busy server and a stored wake-up -/

def firstPoll : List (Moment Http.Sender) :=
  [.act (.run .loop .look), .act (.run .loop (.answered (.effective (.error .cancelled))))]

def busyResponse : Http.Response :=
  { status := 503, headers := [("Retry-After", "40")], body := .stalls }

/-- The interval is over before the server's delay is, and is changed meanwhile. -/
def longWait : List (Moment Http.Sender) :=
  [.act (.setTime 30000), .act (.run .loop .look), .act (.setInterval (.ofSecs 1)),
    .act (.setTime 40000), .act (.run .loop .look)]

theorem polling_keeps_its_cadence_busy :
    let w := (Watch.start ({} : Http.Sender) { serverUrl := "http://a" } "agent").after firstPoll
    let busy := .error (.unavailable (some (.ofSecs 40)))
    let gap := .result busy :: longWait
    let woken := (w.next (.act (.setHealth { healthy := true }))).session
    (w.session.loop = .exchanging 0 ∧ w.Idles (.result busy) ∧
        Watch.ReachesPoll longWait (w.next (.result busy)) ∧
        Watch.IsPunctual longWait (w.next (.result busy))) ∧
      busyResponse.instruction = some busy ∧ askedWait busy = 40000000000 ∧
      Watch.elapsed gap w = 40000 ∧
      Watch.due busy gap w ≤ Watch.elapsed gap w * 1000000 ∧
      Watch.elapsed gap w * 1000000 < Watch.due busy gap w + 1000000 ∧
      woken.isThrough (.exchanged (.ok none)) = true ∧ woken.state.wakeup.signals = 1 ∧
      (woken.act (.run .loop (.exchanged (.ok none)))).loop.isExchanging = true ∧
      (woken.act (.run .loop (.exchanged (.ok none)))).state.wakeup.signals + 1 = 1 := by
  intro w busy gap woken
  obtain ⟨hcadence, -, hresponse⟩ := polling_keeps_its_cadence ({} : Http.Sender)
    { serverUrl := "http://a" } "agent" firstPoll
  have hl : w.session.loop = .exchanging 0 := by decide
  have hidle : w.Idles (.result busy) := by decide
  have hnext : Watch.ReachesPoll longWait (w.next (.result busy)) := by decide
  have hpunctual : Watch.IsPunctual longWait (w.next (.result busy)) := by decide
  obtain ⟨hle, hlt⟩ := hcadence 0 busy longWait hl hidle hnext
  have hinstruction : busyResponse.instruction = some busy := by
    have hrefusal : busyResponse.refusal? = some (.unavailable (some (.ofSecs 40))) := by decide
    unfold Http.Response.instruction
    rw [hrefusal]
  have hasked : askedWait busy = 40000000000 :=
    (hresponse busyResponse busy hinstruction).trans (by decide)
  obtain ⟨-, hwake, -⟩ := polling_keeps_its_cadence ({} : Http.Sender) { serverUrl := "http://a" }
    "agent" (firstPoll ++ [.act (.setHealth { healthy := true })])
  have hwoken := (hwake (by decide) (by decide)).2 (.exchanged (.ok none)) (by decide) (by decide)
  exact ⟨⟨hl, hidle, hnext, hpunctual⟩, hinstruction, hasked, by decide, hle,
    hlt hpunctual, by decide, by decide, hwoken.1, hwoken.2.2⟩

end Session

end ManagedAgent
