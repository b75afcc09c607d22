import ManagedAgent.Proofs.Session.Notices

/-!
# Telling of the connection while others go on

The loop changes the phase, tells the agent of it, and goes on. On a thread of its own it does so
while the other actors and the agent go on too: a stop may be requested when the phase has become
connected and the agent has not heard so yet. `Threads` are sessions in which anything may happen
between the two. Once the phase has changed nothing keeps the call from being made, not even the
stop: what the agent hears are the calls that were made and the one it is about to get.

* `Threads.kept_after` : what the marks of the phase keep holds with the call that is still to be
  made, whatever comes between;
* `Threads.heard_after` : the calls are those of the inputs;
* `exists_moves` : if nothing comes between, the courses are those of a session;
* `notices_mirror_the_phase` : what the agent hears of the connection is the phase;
* `connection_is_told_after_stop` : the one call that is still to be made comes after the stop.
-/

set_option autoImplicit false

namespace ManagedAgent

/-- A session whose loop has a thread of its own. -/
structure Threads (τ : Type) where
  session : Session τ
  /-- The phase has changed, the agent is to be told, and then the loop goes on. -/
  pending? : Option (Notice × Sequel) := none

namespace Threads
variable {τ : Type}

def start (transport : τ) (settings : StartSettings) (fresh : String) : Threads τ :=
  { session := .start transport settings fresh }

inductive Move (τ : Type) [Carrier τ] where
  | act (action : Session.Action τ)
  /-- The loop makes the call, and goes on. -/
  | tell

section Moves
variable [Transport τ]

/-- The loop goes on as far as to the call, if it makes one. -/
def runLoop (x : Threads τ) (input : Input) : Threads τ :=
  match x.pending?, x.session.telling? input with
  | some _, _ => x
  | none, some t => ⟨t.session, some (t.notice, t.sequel)⟩
  | none, none => ⟨x.session.runLoop input, none⟩

def tell (x : Threads τ) : Threads τ :=
  match x.pending? with
  | some (n, q) => ⟨q.run (x.session.tell n), none⟩
  | none => x

variable [Carrier τ]

def act (x : Threads τ) : Session.Action τ → Threads τ
  | .run .loop input => x.runLoop input
  | a => { x with session := x.session.act a }

def step (x : Threads τ) : Move τ → Threads τ
  | .act a => x.act a
  | .tell => x.tell

def after (x : Threads τ) (moves : List (Move τ)) : Threads τ := moves.foldl step x

end Moves

/-! ## The call that is still to be made -/

/-- The session once the call is made. -/
def settled (x : Threads τ) : Session τ :=
  match x.pending? with
  | some (n, _) => x.session.tell n
  | none => x.session

/-- What the agent is about to be told of the connection. -/
def about (x : Threads τ) : List Notice :=
  (x.pending?.bind fun (n, _) => (Event.told n).connection?).toList

/-- What the agent has been told of the connection, and what it is about to be told. -/
def heard (x : Threads τ) : List Notice := x.session.notices ++ x.about

theorem heard_eq (x : Threads τ) : x.heard = x.settled.notices := by
  obtain ⟨s, pending⟩ := x
  cases pending with
  | none => exact List.append_nil _
  | some p =>
    show s.notices ++ (Event.told p.1).connection?.toList = (s.history ++ [_]).filterMap _
    rw [List.filterMap_append]
    congr 1

variable {x : Threads τ}

theorem settled_of_none (h : x.pending? = none) : x.settled = x.session := by
  unfold settled
  rw [h]

theorem phase_settled (x : Threads τ) : x.settled.phase = x.session.phase := by
  unfold settled
  split <;> rfl

theorem isStopping_settled (x : Threads τ) : x.settled.isStopping = x.session.isStopping := by
  unfold Session.isStopping
  rw [phase_settled]

/-- Between the two steps, only what changes the phase or the notices matters. -/
theorem settled_aside {s : Session τ} (hn : s.notices = x.session.notices) :
    ({ x with session := s } : Threads τ).settled.notices = x.settled.notices := by
  obtain ⟨t, pending⟩ := x
  cases pending with
  | none => exact hn
  | some p =>
    show (s.history ++ [_]).filterMap _ = (t.history ++ [_]).filterMap _
    rw [List.filterMap_append, List.filterMap_append]
    exact congrArg (· ++ _) hn

section Calls
variable [Carrier τ]

def called? (x : Threads τ) : Move τ → Option Notice
  | .act (.run .loop input) =>
    if x.pending?.isSome then none else (x.session.telling? input).map (·.notice)
  | _ => none

def failure? (x : Threads τ) : Move τ → Option TransportError
  | .act (.run .loop input) => if x.pending?.isSome then none else x.session.failure? input
  | _ => none

/-- A call tells of a failure exactly when the loop learns of one. -/
theorem failure?_called? (x : Threads τ) (move : Move τ) :
    (x.called? move).bind Notice.failure? = x.failure? move := by
  unfold called? failure?
  split
  · next input =>
    split
    · rfl
    · rw [← Session.failure?_telling?, Option.bind_map]
      rfl
  · rfl

end Calls

section Moves
variable [Transport τ]

/-- The loop is in the midst of a call, or makes one, or makes none. -/
theorem runLoop_cases (x : Threads τ) (input : Input) :
    x.pending?.isSome ∧ x.runLoop input = x ∨
      x.pending? = none ∧ (∃ t, x.session.telling? input = some t ∧
        x.runLoop input = ⟨t.session, some (t.notice, t.sequel)⟩) ∨
      x.pending? = none ∧ x.session.telling? input = none ∧
        x.runLoop input = ⟨x.session.runLoop input, none⟩ := by
  unfold runLoop
  split
  · next hp => exact .inl ⟨by rw [hp]; rfl, rfl⟩
  · next t hp ht => exact .inr (.inl ⟨hp, t, ht, rfl⟩)
  · next hp ht => exact .inr (.inr ⟨hp, ht, rfl⟩)

/-- To make the call changes nothing about what is settled, and then the loop goes on. -/
theorem exists_goes_tell (x : Threads τ) :
    x.tell = x ∨ ∃ (q : Sequel) (routed : Option Instruction), x.tell = ⟨q.run x.settled, none⟩ ∧
      Session.Goes routed x.settled (q.run x.settled) := by
  obtain ⟨s, pending⟩ := x
  cases pending with
  | none => exact .inl rfl
  | some p =>
    obtain ⟨routed, h⟩ := Session.goes_run p.2 (s.tell p.1)
    exact .inr ⟨p.2, routed, rfl, h⟩

variable [Carrier τ]

theorem act_of_ne {a : Session.Action τ} (h : ∀ input, a ≠ .run .loop input) :
    x.act a = { x with session := x.session.act a } := by
  cases a with
  | run actor input =>
    cases actor with
    | loop => exact absurd rfl (h input)
    | task id => rfl
  | _ => rfl

/-- What the marks of the phase keep, a move keeps, the call that is still to be made included. -/
theorem kept_step {P : Session τ → Prop} (hP : Session.OutlastsStop P) (hx : P x.settled)
    (move : Move τ) : P (x.step move).settled := by
  cases move with
  | tell =>
    show P x.tell.settled
    rcases exists_goes_tell x with h | ⟨q, routed, h, hgo⟩
    · rwa [h]
    · rw [h]
      exact hP.goes hgo hx
  | act a =>
    show P (x.act a).settled
    by_cases ha : ∃ input, a = .run .loop input
    · obtain ⟨input, rfl⟩ := ha
      show P (x.runLoop input).settled
      rcases runLoop_cases x input with ⟨-, h⟩ | ⟨hp, t, ht, h⟩ | ⟨hp, -, h⟩
      · rwa [h]
      · obtain ⟨u, hu⟩ := Session.exists_isSplit ht
        rw [settled_of_none hp] at hx
        have hu' : P u := hP.silent _ _ hu.notices hu.phase hx
        rw [h]
        show P t.told
        rcases hu.told with htold | ⟨e, htold⟩
        · rw [htold]
          exact hP.connected u hu'
        · rw [htold]
          exact hP.failed u e hu'
      · rw [h]
        rw [settled_of_none hp] at hx
        exact hP.runLoop hx input
    · obtain ⟨hn, hp⟩ := x.session.aside_act a fun input h => ha ⟨input, h⟩
      rw [act_of_ne fun input h => ha ⟨input, h⟩]
      rcases hp with hp | hp
      · refine hP.silent _ _ (settled_aside hn) ?_ hx
        rw [phase_settled, phase_settled]
        exact hp
      · refine hP.stopped _ _ (settled_aside hn) ?_ hx
        rw [isStopping_settled]
        exact hp

theorem kept_after {P : Session τ → Prop} (hP : Session.OutlastsStop P) (hx : P x.settled)
    (moves : List (Move τ)) : P (x.after moves).settled := by
  induction moves generalizing x with
  | nil => exact hx
  | cons move rest ih => exact ih (kept_step hP hx move)

/-- Nothing but a request to stop makes the session stop. -/
theorem isStopping_step {move : Move τ} (h : move ≠ .act .stop) :
    (x.step move).session.isStopping = x.session.isStopping := by
  have goes {routed : Option Instruction} {s t : Session τ} (h : Session.Goes routed s t) :
      t.isStopping = s.isStopping :=
    h.same (a := .stopping) (by simp [Session.Scope.work]) id (by simp [Session.Scope.rest])
  cases move with
  | tell =>
    show x.tell.session.isStopping = _
    rcases exists_goes_tell x with h | ⟨q, routed, h, hgo⟩
    · rw [h]
    · rw [h]
      exact (goes hgo).trans (isStopping_settled x)
  | act a =>
    show (x.act a).session.isStopping = _
    by_cases ha : ∃ input, a = .run .loop input
    · obtain ⟨input, rfl⟩ := ha
      show (x.runLoop input).session.isStopping = _
      rcases runLoop_cases x input with ⟨-, h⟩ | ⟨-, t, ht, h⟩ | ⟨-, -, h⟩
      · rw [h]
      · obtain ⟨u, hu⟩ := Session.exists_isSplit ht
        obtain ⟨routed, hgo⟩ := Session.goes_run t.sequel t.told
        rw [h]
        show t.told.isStopping = _
        rw [← goes hgo, ← hu.run, Session.isStopping_runLoop]
      · rw [h]
        exact Session.isStopping_runLoop _ _
    · rw [act_of_ne fun input h => ha ⟨input, h⟩]
      exact Session.isStopping_act _ fun hstop => h (congrArg Move.act hstop)

/-- A session stops when that is requested. -/
theorem isStopping_after (hx : x.settled.Mirrors) (moves : List (Move τ)) :
    (x.after moves).session.isStopping = true ↔
      x.session.isStopping = true ∨ Move.act .stop ∈ moves := by
  induction moves generalizing x with
  | nil => exact ⟨.inl, fun h => h.resolve_right nofun⟩
  | cons move rest ih =>
    refine (ih (kept_step Session.outlastsStop_mirrors hx move)).trans ?_
    rw [List.mem_cons]
    by_cases hm : move = .act .stop
    · subst hm
      have hstop : (x.step (.act .stop)).session.isStopping = true := by
        show (x.session.act .stop).isStopping = true
        cases h : x.session.isStopping with
        | false =>
          have hrunning : x.settled.isRunning = true :=
            hx.running ((isStopping_settled x).trans h)
          unfold Session.isRunning at hrunning
          rw [phase_settled] at hrunning
          exact Session.isStopping_stop hrunning
        | true => exact Session.isStopping_act_of_stopping h .stop
      simp [hstop]
    · rw [isStopping_step hm]
      simp [Ne.symm hm]

/-! ## The calls -/

def failures (x : Threads τ) : List (Move τ) → List TransportError
  | [] => []
  | move :: rest => (x.failure? move).toList ++ (x.step move).failures rest

theorem heard_step (x : Threads τ) (move : Move τ) :
    (x.step move).heard = x.heard ++ (x.called? move).toList := by
  rw [heard_eq, heard_eq]
  cases move with
  | tell =>
    refine Eq.trans ?_ (List.append_nil x.settled.notices).symm
    show x.tell.settled.notices = x.settled.notices
    rcases exists_goes_tell x with h | ⟨q, routed, h, -⟩
    · rw [h]
    · rw [h]
      exact Session.notices_run q x.settled
  | act a =>
    show (x.act a).settled.notices = x.settled.notices ++ _
    by_cases ha : ∃ input, a = .run .loop input
    · obtain ⟨input, rfl⟩ := ha
      show (x.runLoop input).settled.notices = x.settled.notices ++ (if _ then _ else _ : Option _).toList
      rcases runLoop_cases x input with ⟨hp, h⟩ | ⟨hp, t, ht, h⟩ | ⟨hp, ht, h⟩
      · rw [h, if_pos hp]
        exact (List.append_nil _).symm
      · obtain ⟨u, hu⟩ := Session.exists_isSplit ht
        rw [h, settled_of_none hp, hp, ht]
        exact hu.heard
      · rw [h, settled_of_none hp, hp, ht]
        exact (Session.notices_of_silent ht).trans (List.append_nil _).symm
    · have hne : ∀ input, a ≠ .run .loop input := fun input h => ha ⟨input, h⟩
      have hnone : x.called? (.act a) = none := by
        unfold called?
        split
        · next heq => exact absurd (Move.act.inj heq) (hne _)
        · rfl
      rw [act_of_ne hne, hnone, settled_aside (x.session.aside_act a hne).1]
      exact (List.append_nil _).symm

theorem heard_after (x : Threads τ) (moves : List (Move τ)) :
    (x.after moves).heard.filterMap Notice.failure? =
      x.heard.filterMap Notice.failure? ++ x.failures moves := by
  induction moves generalizing x with
  | nil => exact (List.append_nil _).symm
  | cons move rest ih =>
    have hmove : (x.called? move).toList.filterMap Notice.failure? = (x.failure? move).toList := by
      rw [← failure?_called?]
      cases x.called? move with
      | none => rfl
      | some n => cases h : n.failure? <;> simp [h]
    refine (ih (x.step move)).trans ?_
    rw [heard_step, List.filterMap_append, hmove, List.append_assoc]
    rfl

/-! ## Courses of a session -/

theorem after_append (x : Threads τ) (earlier later : List (Move τ)) :
    x.after (earlier ++ later) = (x.after earlier).after later := List.foldl_append

/-- A step of a session is one or two moves. -/
theorem exists_moves_act (s : Session τ) (a : Session.Action τ) :
    ∃ moves, (⟨s, none⟩ : Threads τ).after moves = ⟨s.act a, none⟩ := by
  by_cases ha : ∃ input, a = .run .loop input
  · obtain ⟨input, rfl⟩ := ha
    rcases runLoop_cases (⟨s, none⟩ : Threads τ) input with ⟨h, -⟩ | ⟨-, t, ht, h⟩ | ⟨-, -, h⟩
    · contradiction
    · obtain ⟨u, hu⟩ := Session.exists_isSplit ht
      refine ⟨[.act (.run .loop input), .tell], ?_⟩
      show (runLoop _ input).tell = ⟨s.runLoop input, none⟩
      rw [h, hu.run]
      rfl
    · exact ⟨[.act (.run .loop input)], h⟩
  · exact ⟨[.act a], act_of_ne fun input h => ha ⟨input, h⟩⟩

/-- The courses of a session are those in which the agent is told at once. -/
theorem exists_moves (s : Session τ) (actions : List (Session.Action τ)) :
    ∃ moves, (⟨s, none⟩ : Threads τ).after moves = ⟨s.after actions, none⟩ := by
  induction actions generalizing s with
  | nil => exact ⟨[], rfl⟩
  | cons a rest ih =>
    obtain ⟨first, hfirst⟩ := exists_moves_act s a
    obtain ⟨moves, hmoves⟩ := ih (s.act a)
    refine ⟨first ++ moves, ?_⟩
    rw [after_append, hfirst, hmoves, Session.after_cons]

/-! ## Every course -/

/-- **What the agent hears of the connection is the phase.** In the course of a session and until
stop is requested, the phase is connecting or connected, and connected exactly if the last notice
tells of a connection. Between two connections a failure is told. The failures that are told are those
with which the exchanges of the schedule, the attempts to connect, the reports sent and the stream
ended, one for each; what becomes of settings on trial is not told. Once stop is requested, the phase
stays stopping or stopped, and the agent hears of no connection but of the one that it was about to
be told of by then. -/
theorem notices_mirror_the_phase (transport : τ) (settings : StartSettings) (fresh : String)
    (moves : List (Move τ)) :
    let s := start transport settings fresh
    let x := s.after moves
    (.act .stop ∉ moves → (x.session.phase = .connecting ∨ x.session.phase = .connected) ∧
        (x.session.phase = .connected ↔ x.heard.getLast? = some .connected)) ∧
      (∀ earlier between later,
        x.heard = earlier ++ .connected :: between ++ .connected :: later →
          ∃ e, Notice.connectFailed e ∈ between) ∧
      x.heard.filterMap Notice.failure? = s.failures moves ∧
      (.act .stop ∈ moves → ∀ later,
        ((x.after later).session.phase = .stopping ∨ (x.after later).session.phase = .stopped) ∧
          (x.after later).heard.count .connected = x.heard.count .connected) := by
  intro s x
  have hstart : s.settled.Mirrors := Session.mirrors_start transport settings fresh
  have hx : x.settled.Mirrors := kept_after Session.outlastsStop_mirrors hstart moves
  have hstop : x.session.isStopping = true ↔ .act .stop ∈ moves := by
    rw [isStopping_after hstart moves]
    exact ⟨fun h => h.resolve_left nofun, .inr⟩
  refine ⟨fun h => ?_, fun _ _ _ h => hx.failure_between (x.heard_eq ▸ h), heard_after s moves,
    fun h later => ?_⟩
  · have hgo : x.settled.isStopping = false := by
      rw [isStopping_settled]
      exact Bool.eq_false_iff.2 fun hs => h (hstop.1 hs)
    have hrunning := hx.running hgo
    have hlast := hx.last hgo
    unfold Session.isRunning at hrunning
    rw [phase_settled] at hrunning hlast
    exact ⟨by simpa using hrunning, x.heard_eq ▸ hlast⟩
  · have hlater : (x.after later).settled.Retired (x.settled.notices.count .connected) :=
      kept_after (Session.outlastsStop_retired _) ⟨(isStopping_settled x).trans (hstop.2 h), rfl⟩ later
    have hphase := hlater.1
    rw [isStopping_settled] at hphase
    rw [heard_eq, heard_eq]
    exact ⟨by simpa [Session.isStopping] using hphase, hlater.2⟩

end Moves

/-- No stream opens at first, then one does. The endpoint b is offered and does not prove itself, the
stream with the endpoint before ends, and the next one opens. -/
def foundAgain : List (Move Network.Client) :=
  [.act (.run .loop .look), .act (.run .loop (.answered (.effective (.error .cancelled)))),
    .act (.run .loop (.connected (.error .closed))), .tell, .act (.setTime 30000),
    .act (.run .loop .look), .act (.run .loop (.connected (.ok ()))),
    .act (.run .loop (.sent (.ok ()))), .tell,
    .act (.run .loop (.received (.ok (some
      { connections := some { management := some { endpoint := "b" } } })))),
    .act (.run (.task 0) .look), .act (.run (.task 0) (.answered (.done (.ok ())))),
    .act (.run .loop .look), .act (.run .loop (.connected (.error .closed))),
    .act (.run (.task 0) .look), .act (.run .loop (.connected (.ok ()))),
    .act (.run .loop (.sent (.ok ()))), .act (.run .loop (.received (.ok none))), .tell,
    .act (.setTime 60000), .act (.run .loop .look), .act (.run .loop (.connected (.ok ()))),
    .act (.run .loop (.sent (.ok ())))]

/-- Stop is requested while the loop is about to tell of the last connection. -/
theorem notices_mirror_the_phase_foundAgain :
    let s := start ({} : Network.Client) { serverUrl := "a" } "agent"
    let x := s.after foundAgain
    let y := s.after (foundAgain ++ [.act .stop])
    x.heard = [.connectFailed .closed, .connected, .connectFailed .closed, .connected] ∧
      x.session.notices = [.connectFailed .closed, .connected, .connectFailed .closed] ∧
      x.session.phase = .connected ∧ s.failures foundAgain = [.closed, .closed] ∧
      (∃ e, Notice.connectFailed e ∈ [Notice.connectFailed .closed]) ∧
      ∀ later, ((y.after later).session.phase = .stopping ∨
        (y.after later).session.phase = .stopped) ∧ (y.after later).heard.count .connected = 2 := by
  obtain ⟨hphase, hbetween, hfailed, -⟩ :=
    notices_mirror_the_phase ({} : Network.Client) { serverUrl := "a" } "agent" foundAgain
  obtain ⟨-, -, -, hstop⟩ := notices_mirror_the_phase ({} : Network.Client) { serverUrl := "a" }
    "agent" (foundAgain ++ [.act .stop])
  have hx : ((start ({} : Network.Client) { serverUrl := "a" } "agent").after foundAgain).heard =
      [.connectFailed .closed, .connected, .connectFailed .closed, .connected] := by
    decide +kernel
  have hgo : .act .stop ∉ foundAgain := by simp [foundAgain]
  dsimp only
  refine ⟨hx, by decide +kernel, (hphase hgo).2.2 (by rw [hx]; rfl), ?_,
    hbetween [.connectFailed .closed] [.connectFailed .closed] [] hx, fun later => ?_⟩
  · rw [← hfailed, hx]
    rfl
  · obtain ⟨hphase, hcount⟩ := hstop (by simp) later
    exact ⟨hphase, hcount.trans (by decide +kernel)⟩

/-- The stream opens and takes the first report, and the phase has become connected. -/
def linked : List (Move Network.Client) :=
  [.act (.run .loop .look), .act (.run .loop (.answered (.effective (.error .cancelled)))),
    .act (.run .loop (.connected (.ok ()))), .act (.run .loop (.sent (.ok ())))]

/-- Stop is requested before the agent has heard of the connection; it hears of it all the same. And a
stream that says that it was cancelled, which nobody can ask of it, is lost like any other. -/
theorem connection_is_told_after_stop :
    let s := start ({} : Network.Client) { serverUrl := "a" } "agent"
    let x := s.after linked
    let y := s.after (linked ++ [.act .stop])
    let z := s.after (linked ++ [.act .stop, .tell])
    let lost := s.after (linked ++ [.tell, .act (.run .loop (.received (.error .cancelled))), .tell])
    (x.session.phase = .connected ∧ x.session.notices = []) ∧
      (y.session.phase = .stopping ∧ y.session.notices = []) ∧
      (z.session.phase = .stopping ∧ z.session.notices = [.connected]) ∧
      lost.session.notices = [.connected, .connectFailed .cancelled] := by
  decide +kernel

end Threads

end ManagedAgent
