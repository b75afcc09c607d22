import ManagedAgent.Proofs.Session.Notices
import ManagedAgent.Rehearsal.Run

/-!
# A rehearsal is a course of a session

Whatever is done to the engine of a rehearsal, and however the rehearsal lets its actors take turns:
what comes of its session is one of the courses that `Session.after` has. What holds in every course
thus holds in every rehearsal.

* `GoesOn` : what happens in the session by itself; dealing with what has happened is of this kind;
* `IsCourse` : the session has come about by actions, and the calls to stop that still drain it or
  wait know its phase; every `Step` keeps it;
* `session_of_rehearsal` : the theorem.
-/

set_option autoImplicit false

namespace ManagedAgent

/-- The script of failures goes on, or a client tries to connect. -/
instance : Carrier Rehearsed where
  Use := Faults × Option (Bool × Network)
  after t use :=
    { faults := use.1
      channel :=
        match t.channel, use.2 with
        | .streaming c, some attempt => .streaming (Carrier.after c attempt : Network.Client)
        | channel, _ => channel }

theorem after_faults (t : Rehearsed) (faults : Faults) :
    Carrier.after t ((faults, none) : Carrier.Use Rehearsed) = { t with faults } := by
  obtain ⟨channel, _⟩ := t
  cases channel <;> rfl

namespace Rehearsal

/-- Nobody stops the session with it. -/
def isOwn : Session.Action Rehearsed → Bool
  | .stop | .endStop | .cancelStop _ => false
  | _ => true

/-- A session that stops goes on stopping. -/
theorem phase_act_own {s : Session Rehearsed} (h : s.phase = .stopping)
    {a : Session.Action Rehearsed} (ha : isOwn a = true) : (s.act a).phase = .stopping := by
  have hheard : Session.IsHeard fun t : Session Rehearsed => t.phase = .stopping := by
    refine ⟨fun _ _ _ hp hs => hp.trans hs, fun t ht => ?_, fun t e ht => ?_⟩
    · unfold Session.markConnected
      rw [if_neg (by rw [ht]; nofun)]
      exact ht
    · unfold Session.markFailed
      split
      · exact ht
      · rw [if_neg (by rw [ht]; nofun)]
        exact ht
  cases a with
  | run actor input =>
    cases actor with
    | loop => exact hheard.runLoop h input
    | task id => exact hheard.unheard (Session.unheard_runTask s id input) h
  | stop | endStop | cancelStop => contradiction
  | setDescription | setHealth => exact (Session.phase_update s _).trans h
  | reportSync hash report => cases report <;> exact (Session.phase_update s _).trans h
  | _ => exact h

theorem phase_after_own {s : Session Rehearsed} (h : s.phase = .stopping)
    {actions : List (Session.Action Rehearsed)} (ha : ∀ a ∈ actions, isOwn a = true) :
    (s.after actions).phase = .stopping := by
  induction actions generalizing s with
  | nil => exact h
  | cons a rest ih =>
    exact ih (phase_act_own h (ha a List.mem_cons_self)) fun b hb => ha b (List.mem_cons_of_mem a hb)

theorem isStopping_after_own {s : Session Rehearsed} (h : s.isStopping = true)
    (actions : List (Session.Action Rehearsed)) : (s.after actions).isStopping = true :=
  Session.after_induction (P := fun t => t.isStopping = true)
    (fun _ a hs => Session.isStopping_act_of_stopping hs a) h actions

def roles (r : Rehearsal) : List (Option StopRole) := r.stops.map (·.role)

/-! ## Going on -/

/-- What happens in the session by itself. -/
structure GoesOn (r r' : Rehearsal) : Prop where
  engine : ∃ actions : List (Session.Action Rehearsed), (∀ a ∈ actions, isOwn a = true) ∧
    r'.engine = r.engine.modify (·.after actions)
  roles : r'.roles = r.roles

namespace GoesOn
variable {r r' r'' : Rehearsal}

theorem of_same (he : r'.engine = r.engine) (hr : r'.roles = r.roles) : GoesOn r r' := by
  refine ⟨⟨[], fun a ha => absurd ha List.not_mem_nil, ?_⟩, hr⟩
  rw [he]
  cases r.engine with
  | idle => rfl
  | started s => exact congrArg Engine.started (Session.after_nil s).symm

theorem refl (r : Rehearsal) : GoesOn r r := of_same rfl rfl

theorem trans (h : GoesOn r r') (h' : GoesOn r' r'') : GoesOn r r'' := by
  obtain ⟨earlier, hearlier, he⟩ := h.engine
  obtain ⟨later, hlater, he'⟩ := h'.engine
  refine ⟨⟨earlier ++ later, fun a ha => ?_, ?_⟩, h'.roles.trans h.roles⟩
  · exact (List.mem_append.1 ha).elim (hearlier a) (hlater a)
  · rw [he', he]
    cases r.engine with
    | idle => rfl
    | started s => exact congrArg Engine.started (Session.after_append s earlier later).symm

theorem act (r : Rehearsal) {a : Session.Action Rehearsed} (ha : isOwn a = true) :
    GoesOn r { r with engine := r.engine.modify (·.act a) } := by
  refine ⟨⟨[a], fun b hb => ?_, rfl⟩, rfl⟩
  rw [List.mem_singleton.1 hb]
  exact ha

theorem foldl {α : Type} {f : Rehearsal → α → Rehearsal} (h : ∀ r x, GoesOn r (f r x))
    (r : Rehearsal) (l : List α) : GoesOn r (l.foldl f r) := by
  induction l generalizing r with
  | nil => exact refl r
  | cons x rest ih => exact (h r x).trans (ih (f r x))

/-! ### What does not concern the session -/

theorem note (r : Rehearsal) (o : Occurrence) : GoesOn r (r.note o) := of_same rfl rfl

theorem enqueue (r : Rehearsal) (x : Runner) : GoesOn r (r.enqueue x) := by
  unfold Rehearsal.enqueue
  split
  · exact refl r
  · exact of_same rfl rfl

theorem drop (r : Rehearsal) (a : Actor) : GoesOn r (r.drop a) := of_same rfl rfl

theorem await (r : Rehearsal) (o : Operation) : GoesOn r (r.await o) := of_same rfl rfl

theorem noteCall (r : Rehearsal) (c : Call) : GoesOn r (r.noteCall c) := by
  cases c <;> exact of_same rfl rfl

theorem cancelCall (r : Rehearsal) (a : Actor) (c : Call) : GoesOn r (r.cancelCall a c) :=
  (note r _).trans (await _ _)

theorem beginCall (r : Rehearsal) (a : Actor) (c : Call) : GoesOn r (r.beginCall a c) := by
  unfold Rehearsal.beginCall
  split
  · exact refl r
  · next agent _ =>
    have hnoted : GoesOn r (if agent.isScripted then r.noteCall c else r) := by
      split
      · exact noteCall r c
      · exact refl r
    dsimp only
    generalize (if agent.isScripted then r.noteCall c else r) = t at hnoted ⊢
    refine hnoted.trans ((of_same rfl rfl :
      GoesOn t { t with agent := some (agent.plan t.now c).2 }).trans ?_)
    split
    · exact cancelCall _ a c
    · exact await _ _

theorem nextReply (r : Rehearsal) (endpoint : String) : GoesOn r (r.nextReply endpoint).2 := by
  unfold Rehearsal.nextReply
  dsimp only
  split <;> exact of_same rfl rfl

theorem beginExchange (r : Rehearsal) (report : Report) : GoesOn r (r.beginExchange report) := by
  unfold Rehearsal.beginExchange
  split
  · exact (note r _).trans ((nextReply _ _).trans (await _ _))
  · exact refl r

theorem wakeStops (r : Rehearsal) (role : StopRole) : GoesOn r (r.wakeStops role) := by
  refine foldl (fun r x => ?_) r _
  dsimp only
  split
  · exact enqueue r _
  · exact refl r

/-! ### The stream -/

theorem setTransport {t : Rehearsed} (h : r.transport? = some t) (use : Carrier.Use Rehearsed) :
    GoesOn r (r.setTransport (Carrier.after t use)) := by
  have hengine : (r.setTransport (Carrier.after t use)).engine =
      r.engine.modify (·.act (.use use)) := by
    obtain ⟨s, hs, rfl⟩ := Option.map_eq_some_iff.1 h
    cases he : r.engine with
    | idle =>
      have hnone : r.engine.session? = some s := hs
      rw [he] at hnone
      contradiction
    | started u =>
      have hsome : r.engine.session? = some s := hs
      rw [he] at hsome
      show r.engine.modify _ = _
      rw [he, Option.some.inj hsome]
      rfl
  exact (act r (a := .use use) rfl).trans (of_same hengine rfl)

theorem setFaults {t : Rehearsed} (h : r.transport? = some t) (faults : Faults) :
    GoesOn r (r.setTransport { t with faults }) :=
  after_faults t faults ▸ setTransport h (faults, none)

theorem connect {t : Rehearsed} (h : r.transport? = some t) : GoesOn r (r.connect t).2 := by
  unfold Rehearsal.connect
  split
  · exact setFaults h _
  · next rest _ =>
    dsimp only
    split
    · exact setFaults h _
    · next client hclient =>
      split
      · exact setFaults h _
      · next connected network hconnect =>
        have hchannel : t.channel = .streaming client := by
          have hclient : t.channel.client? = some client := hclient
          unfold Channel.client? at hclient
          split at hclient
          · next c hc => rw [hc, Option.some.inj hclient]
          · contradiction
        have hafter : Carrier.after t (({ t.faults with connect := rest },
            some (r.isAborting, r.network)) : Carrier.Use Rehearsed) =
              { t with channel := .streaming connected, faults.connect := rest } := by
          obtain ⟨channel, faults⟩ := t
          obtain rfl : channel = .streaming client := hchannel
          have hconnected : Carrier.after client (r.isAborting, r.network) = connected := by
            simp only [Carrier.after, hconnect]
          rw [← hconnected]
          rfl
        rw [← hafter]
        exact (of_same rfl rfl : GoesOn r { r with network }).trans
          (setTransport (r := { r with network }) h _)

theorem beginConnect (r : Rehearsal) : GoesOn r r.beginConnect := by
  unfold Rehearsal.beginConnect
  split
  · exact refl r
  · next h => exact (connect h).trans ((note _ _).trans (await _ _))

theorem beginSend (r : Rehearsal) (report : Report) : GoesOn r (r.beginSend report) := by
  unfold Rehearsal.beginSend
  split
  · exact refl r
  · next h =>
    dsimp only
    split
    · exact (setFaults h _).trans (await _ _)
    · exact (setFaults h _).trans (await _ _)

theorem beginReceive (r : Rehearsal) : GoesOn r r.beginReceive := by
  unfold Rehearsal.beginReceive
  split
  · exact refl r
  · next h =>
    dsimp only
    split
    · exact (setFaults h _).trans (await _ _)
    · exact (setFaults h _).trans (await _ _)

/-! ### What has happened -/

theorem observe (r : Rehearsal) (e : Event) : GoesOn r (r.observe e) := by
  cases e with
  | told n =>
    show GoesOn r (if _ then _ else _)
    split
    · exact note r _
    · exact refl r
  | called a c => exact beginCall r a c
  | exchanging report => exact beginExchange r report
  | connecting => exact beginConnect r
  | sending report => exact beginSend r report
  | receiving => exact beginReceive r
  | applied settings => exact note r _
  | routing => exact refl r
  | ready a => exact enqueue r _
  | refreshed => exact note r _
  | finished id =>
    refine (drop r (.task id)).trans ?_
    show GoesOn (r.drop (.task id)) (if (r.drop (.task id)).engine.isDrained then _ else _)
    split
    · exact wakeStops _ _
    · exact refl _
  | loopEnded => exact (drop r .loop).trans (wakeStops _ _)

theorem absorb (r : Rehearsal) : GoesOn r r.absorb := by
  unfold Rehearsal.absorb
  split
  · exact refl r
  · next s _ =>
    exact (of_same rfl rfl : GoesOn r { r with seen := s.history.length }).trans
      (foldl observe _ _)

theorem onSession (r : Rehearsal) {a : Session.Action Rehearsed} (ha : isOwn a = true) :
    GoesOn r (r.onSession (·.act a)) := (act r ha).trans (absorb _)

theorem feed (r : Rehearsal) (a : Actor) (input : Input) : GoesOn r (r.feed a input) :=
  onSession r (a := .run a input) rfl

theorem setTime (r : Rehearsal) (now : Nat) : GoesOn r (r.setTime now) :=
  (of_same rfl rfl : GoesOn r { r with now }).trans (onSession _ (a := .setTime now) rfl)

/-! ### Operations -/

theorem complete (r : Rehearsal) (a : Actor) (input : Input) : GoesOn r (r.complete a input) :=
  (drop r a).trans (feed _ a input)

theorem reportFor (r : Rehearsal) (c : Call) (report : Option Session.SyncReport) :
    GoesOn r (r.reportFor c report) := by
  unfold Rehearsal.reportFor
  split
  · next p report => exact onSession r (a := .reportSync p.allHash report) rfl
  · exact refl r

theorem continueCall {a : Actor} {c : Call} {plan : Plan} (h : r.continueCall a c plan = some r') :
    GoesOn r r' := by
  unfold Rehearsal.continueCall at h
  split at h
  · rw [← Option.some.inj h]
    exact complete r a _
  · split at h
    · rw [← Option.some.inj h]
      exact (await r _).trans (reportFor _ c _)
    · contradiction

theorem trySend {a : Actor} {report : Report} (h : r.trySend a report = some r') :
    GoesOn r r' := by
  unfold Rehearsal.trySend at h
  obtain ⟨t, -, h⟩ := Option.bind_eq_some_iff.1 h
  obtain ⟨client, -, h⟩ := Option.bind_eq_some_iff.1 h
  obtain ⟨result, -, h⟩ := Option.bind_eq_some_iff.1 h
  split at h
  · rw [← Option.some.inj h]
    exact complete r a _
  · next network =>
    rw [← Option.some.inj h]
    exact (of_same rfl rfl : GoesOn r { r with network }).trans (complete _ a _)

theorem tryReceive {a : Actor} (h : r.tryReceive a = some r') : GoesOn r r' := by
  unfold Rehearsal.tryReceive at h
  obtain ⟨t, -, h⟩ := Option.bind_eq_some_iff.1 h
  obtain ⟨client, -, h⟩ := Option.bind_eq_some_iff.1 h
  obtain ⟨result, -, h⟩ := Option.bind_eq_some_iff.1 h
  split at h
  · rw [← Option.some.inj h]
    exact complete r a _
  · next i network =>
    rw [← Option.some.inj h]
    exact (of_same rfl rfl : GoesOn r { r with network }).trans (complete _ a _)

theorem progress {a : Actor} (h : r.progress? a = some r') : GoesOn r r' := by
  unfold Rehearsal.progress? at h
  obtain ⟨o, -, h⟩ := Option.bind_eq_some_iff.1 h
  dsimp only at h
  split at h
  · split at h
    · rw [← Option.some.inj h]
      exact cancelCall r a _
    · exact continueCall h
  · split at h
    · rw [← Option.some.inj h]
      exact (note r _).trans (complete _ a _)
    · split at h
      · rw [← Option.some.inj h]
        exact complete r a _
      · contradiction
  · exact trySend h
  · exact tryReceive h
  · rw [← Option.some.inj h]
    exact complete r a _

theorem wakeDue (r : Rehearsal) : GoesOn r r.wakeDue := by
  refine foldl (fun u x => ?_) r _
  dsimp only
  split
  · exact enqueue u _
  · exact refl u

end GoesOn

/-! ## Calls to stop -/

def HasRole (r : Rehearsal) (i : Nat) (role : StopRole) : Prop := r.roles[i]? = some (some role)

/-- The session of the rehearsal has come about by actions. A call that drains it is the only one,
and has made it stop; one that waits knows that it stops. -/
structure IsCourse (r : Rehearsal) : Prop where
  session : ∀ s, r.engine = .started s → ∃ transport settings fresh actions,
    s = (Session.start transport settings fresh).after actions
  draining : ∀ i, r.HasRole i .drain → ∃ s, r.engine = .started s ∧ s.phase = .stopping
  waiting : ∀ i, r.HasRole i .wait → ∃ s, r.engine = .started s ∧ s.isStopping = true
  one : ∀ i j, r.HasRole i .drain → r.HasRole j .drain → i = j

variable {r r' : Rehearsal}

/-- Whoever has come about by actions runs until stop is requested. -/
theorem isRunning_after {transport : Rehearsed} {settings : StartSettings} {fresh : String}
    {actions : List (Session.Action Rehearsed)}
    (h : ((Session.start transport settings fresh).after actions).isStopping = false) :
    ((Session.start transport settings fresh).after actions).isRunning = true := by
  have hmirrors : ((Session.start transport settings fresh).after actions).Mirrors :=
    Session.after_induction (P := fun s => s.Mirrors)
      (fun _ a hs => Session.outlastsStop_mirrors.act hs a)
      (Session.mirrors_start transport settings fresh) actions
  exact hmirrors.running h

theorem IsCourse.goesOn (hr : IsCourse r) (h : GoesOn r r') : IsCourse r' := by
  obtain ⟨actions, hactions, he⟩ := h.engine
  have hrole : ∀ i role, r'.HasRole i role ↔ r.HasRole i role := by
    intro i role
    unfold HasRole
    rw [h.roles]
  have hstarted : ∀ s, r.engine = .started s → r'.engine = .started (s.after actions) := by
    intro s hs
    rw [he, hs]
    rfl
  refine ⟨fun s' hs' => ?_, fun i hd => ?_, fun i hw => ?_,
    fun i j hi hj => hr.one i j ((hrole i _).1 hi) ((hrole j _).1 hj)⟩
  · cases hs : r.engine with
    | idle =>
      rw [he, hs] at hs'
      contradiction
    | started s =>
      obtain ⟨transport, settings, fresh, earlier, rfl⟩ := hr.session s hs
      rw [hstarted _ hs] at hs'
      refine ⟨transport, settings, fresh, earlier ++ actions, ?_⟩
      rw [Session.after_append]
      exact (Engine.started.inj hs').symm
  · obtain ⟨s, hs, hp⟩ := hr.draining i ((hrole i _).1 hd)
    exact ⟨_, hstarted s hs, phase_after_own hp hactions⟩
  · obtain ⟨s, hs, hp⟩ := hr.waiting i ((hrole i _).1 hw)
    exact ⟨_, hstarted s hs, isStopping_after_own hp actions⟩

/-- The session after one more action. -/
theorem IsCourse.session_act (hr : IsCourse r) {s : Session Rehearsed} (hs : r.engine = .started s)
    (a : Session.Action Rehearsed) : ∃ transport settings fresh actions,
      s.act a = (Session.start transport settings fresh).after actions := by
  obtain ⟨transport, settings, fresh, actions, rfl⟩ := hr.session s hs
  refine ⟨transport, settings, fresh, actions ++ [a], ?_⟩
  rw [Session.after_append]
  rfl

/-- The call to stop of this number has nothing left to do. -/
theorem IsCourse.clear (hr : IsCourse r) {n : Nat} (he : r'.engine = r.engine)
    (hroles : r'.roles = r.roles.set n none) : IsCourse r' := by
  have hkept : ∀ i role, r'.HasRole i role → r.HasRole i role := by
    intro i role h
    unfold HasRole at h
    rw [hroles, List.getElem?_set] at h
    split at h
    · split at h <;> cases h
    · exact h
  refine ⟨he ▸ hr.session, fun i h => he ▸ hr.draining i (hkept i _ h),
    fun i h => he ▸ hr.waiting i (hkept i _ h), fun i j hi hj => ?_⟩
  exact hr.one i j (hkept i _ hi) (hkept j _ hj)

/-- The call that drains the session is done with it. -/
theorem IsCourse.drained (hr : IsCourse r) {n : Nat} {s : Session Rehearsed}
    (hs : r.engine = .started s) (hn : r.HasRole n .drain)
    {a : Session.Action Rehearsed} (he : r'.engine = .started (s.act a))
    (hroles : r'.roles = r.roles.set n none) : IsCourse r' := by
  have hdrain : ∀ i, ¬ r'.HasRole i .drain := by
    intro i h
    unfold HasRole at h
    rw [hroles, List.getElem?_set] at h
    split at h
    · split at h <;> cases h
    · next hne => exact hne (hr.one n i hn h)
  refine ⟨fun t ht => ?_, fun i h => absurd h (hdrain i), fun i h => ⟨_, he, ?_⟩,
    fun i _ h => absurd h (hdrain i)⟩
  · rw [he] at ht
    exact Engine.started.inj ht ▸ hr.session_act hs a
  · obtain ⟨t, ht, hphase⟩ := hr.draining n hn
    rw [hs] at ht
    refine Session.isStopping_act_of_stopping ?_ a
    unfold Session.isStopping
    rw [Engine.started.inj ht, hphase]
    rfl

/-- A call that waits gives up what is under way. -/
theorem IsCourse.aborted (hr : IsCourse r) {n : Nat} {s : Session Rehearsed}
    (hs : r.engine = .started s) (hphase : s.phase = .stopping)
    (he : r'.engine = .started s.abort) (hroles : r'.roles = r.roles.set n none) :
    IsCourse r' := by
  have habort : s.act (.cancelStop false) = s.abort := by
    show (if s.phase = .stopping then _ else _) = _
    rw [if_pos hphase]
    rfl
  have hstep : IsCourse { r with engine := .started s.abort } := by
    have hstopping : s.abort.isStopping = true := by
      show (s.phase == .stopping || s.phase == .stopped) = true
      rw [hphase]
      rfl
    refine ⟨fun t ht => ?_, fun i h => ⟨_, rfl, hphase⟩, fun i h => ⟨_, rfl, hstopping⟩, hr.one⟩
    rw [← Engine.started.inj ht, ← habort]
    exact hr.session_act hs _
  exact hstep.clear he hroles

/-- A call to stop that returns has done what actions do. -/
theorem IsCourse.returns (hr : IsCourse r) {n : Nat} {role : StopRole}
    (hn : r.HasRole n role) {isCancelled : Bool} {result : Except ClientError Unit}
    (h : r.engine.continueStop isCancelled role = (some result, r'.engine))
    (hroles : r'.roles = r.roles.set n none) : IsCourse r' := by
  unfold Engine.continueStop at h
  cases role with
  | notStarted | nothing => exact hr.clear (Prod.ext_iff.1 h).2.symm hroles
  | drain =>
    obtain ⟨s, hs, hphase⟩ := hr.draining n hn
    dsimp only at h
    rw [hs] at h
    split at h
    · next hd =>
      have hact : s.act .endStop = s.markStopped := if_pos ⟨hphase, hd⟩
      refine hr.drained hs hn (a := .endStop) ?_ hroles
      rw [hact]
      exact (Prod.ext_iff.1 h).2.symm
    · split at h
      · have hact : s.act (.cancelStop true) = s.abort.markStopped := if_pos hphase
        refine hr.drained hs hn (a := .cancelStop true) ?_ hroles
        rw [hact]
        exact (Prod.ext_iff.1 h).2.symm
      · cases h
  | wait =>
    obtain ⟨s, hs, hstopping⟩ := hr.waiting n hn
    dsimp only at h
    split at h
    · exact hr.clear (Prod.ext_iff.1 h).2.symm hroles
    · next hne =>
      split at h
      · rw [hs] at hne h
        have hphase : s.phase = .stopping := by
          have hor : s.phase = .stopping ∨ s.phase = .stopped := by
            simpa [Session.isStopping] using hstopping
          exact hor.resolve_right hne
        exact hr.aborted hs hphase (Prod.ext_iff.1 h).2.symm hroles
      · cases h

theorem HasRole.of_append {new role : StopRole} {i : Nat}
    (hroles : r'.roles = r.roles ++ [some new]) (h : r'.HasRole i role) :
    r.HasRole i role ∨ i = r.roles.length ∧ role = new := by
  unfold HasRole at h ⊢
  rw [hroles] at h
  by_cases hi : i < r.roles.length
  · rw [List.getElem?_append_left hi] at h
    exact .inl h
  · rw [List.getElem?_append_right (by omega)] at h
    obtain ⟨hlt, heq⟩ := List.getElem?_eq_some_iff.1 h
    rw [List.length_singleton] at hlt
    refine .inr ⟨by omega, ?_⟩
    rw [List.getElem_singleton] at heq
    exact (Option.some.inj heq).symm

/-- A call to stop begins that does not drain the session. -/
theorem IsCourse.joins (hr : IsCourse r) {role : StopRole} (he : r'.engine = r.engine)
    (hroles : r'.roles = r.roles ++ [some role]) (hdrain : role ≠ .drain)
    (hwait : role = .wait → ∃ s, r.engine = .started s ∧ s.isStopping = true) : IsCourse r' := by
  have hold : ∀ i, r'.HasRole i .drain → r.HasRole i .drain :=
    fun i hi => (hi.of_append hroles).resolve_right fun h => hdrain h.2.symm
  refine ⟨he ▸ hr.session, fun i hi => he ▸ hr.draining i (hold i hi), fun i hi => ?_,
    fun i j hi hj => hr.one i j (hold i hi) (hold j hj)⟩
  exact he ▸ (hi.of_append hroles).elim (hr.waiting i) fun h => hwait h.2.symm

/-- A call to stop begins that drains the session: before, nobody has made it stop. -/
theorem IsCourse.drains (hr : IsCourse r) {s : Session Rehearsed} (hs : r.engine = .started s)
    (hrunning : s.isRunning = true) (hstopping : ¬ s.isStopping = true)
    (he : r'.engine = .started s.requestStop)
    (hroles : r'.roles = r.roles ++ [some .drain]) : IsCourse r' := by
  have hact : s.act .stop = s.requestStop := if_pos hrunning
  have hphase : s.requestStop.phase = .stopping := by
    unfold Session.requestStop
    dsimp only
    split <;> rfl
  have hfirst : ∀ i, r'.HasRole i .drain → i = r.roles.length := by
    intro i hi
    rcases hi.of_append hroles with h | h
    · obtain ⟨t, ht, hp⟩ := hr.draining i h
      rw [hs] at ht
      rw [Engine.started.inj ht] at hstopping
      exact absurd (by simp [Session.isStopping, hp]) hstopping
    · exact h.1
  refine ⟨fun t ht => ?_, fun i _ => ⟨_, he, hphase⟩, fun i hi => ?_,
    fun i j hi hj => (hfirst i hi).trans (hfirst j hj).symm⟩
  · rw [he] at ht
    rw [← Engine.started.inj ht, ← hact]
    exact hr.session_act hs .stop
  · rcases hi.of_append hroles with h | h
    · obtain ⟨t, ht, hp⟩ := hr.waiting i h
      rw [hs] at ht
      rw [Engine.started.inj ht] at hstopping
      exact absurd hp hstopping
    · cases h.2

theorem beginStop_of_isStopping {s : Session Rehearsed} (h : s.isStopping = true) :
    (Engine.started s).beginStop = (.wait, .started s) ∨
      (Engine.started s).beginStop = (.nothing, .started s) := by
  have hphase : s.phase = .stopping ∨ s.phase = .stopped := by
    simpa [Session.isStopping] using h
  unfold Engine.beginStop
  dsimp only
  rcases hphase with hp | hp <;> rw [hp]
  · exact .inl rfl
  · exact .inr rfl

theorem beginStop_of_isRunning {s : Session Rehearsed} (h : s.isRunning = true) :
    (Engine.started s).beginStop = (.drain, .started s.requestStop) := by
  have hphase : s.phase = .connecting ∨ s.phase = .connected := by
    simpa [Session.isRunning] using h
  unfold Engine.beginStop
  dsimp only
  rcases hphase with hp | hp <;> rw [hp]

/-- A call to stop begins. -/
theorem IsCourse.begins (hr : IsCourse r) (he : r'.engine = r.engine.beginStop.2)
    (hroles : r'.roles = r.roles ++ [some r.engine.beginStop.1]) : IsCourse r' := by
  cases hs : r.engine with
  | idle transport =>
    have hbegin : r.engine.beginStop = (.notStarted, r.engine) := by rw [hs]; rfl
    rw [hbegin] at he hroles
    exact hr.joins he hroles nofun nofun
  | started s =>
    by_cases hstopping : s.isStopping = true
    · rcases beginStop_of_isStopping hstopping with hbegin | hbegin
      · rw [hs, hbegin] at he hroles
        exact hr.joins (he.trans hs.symm) hroles nofun fun _ => ⟨s, hs, hstopping⟩
      · rw [hs, hbegin] at he hroles
        exact hr.joins (he.trans hs.symm) hroles nofun nofun
    · have hrunning : s.isRunning = true := by
        obtain ⟨transport, settings, fresh, actions, rfl⟩ := hr.session s hs
        exact isRunning_after (Bool.eq_false_iff.2 hstopping)
      rw [hs, beginStop_of_isRunning hrunning] at he hroles
      exact hr.drains hs hrunning hstopping he hroles

/-! ## Taking turns -/

/-- Who is woken goes on later. -/
theorem foldl_enqueue {α : Type} {f : Rehearsal → α → Rehearsal}
    (h : ∀ r x, f r x = r ∨ ∃ y, f r x = r.enqueue y) (r : Rehearsal) (l : List α) :
    (l.foldl f r).engine = r.engine ∧ (l.foldl f r).stops = r.stops := by
  induction l generalizing r with
  | nil => exact ⟨rfl, rfl⟩
  | cons x rest ih =>
    have hsame : (f r x).engine = r.engine ∧ (f r x).stops = r.stops := by
      rcases h r x with h | ⟨y, h⟩
      · rw [h]
        exact ⟨rfl, rfl⟩
      · rw [h]
        unfold enqueue
        split <;> exact ⟨rfl, rfl⟩
    exact ⟨(ih _).1.trans hsame.1, (ih _).2.trans hsame.2⟩

theorem wakeStops_same (r : Rehearsal) (role : StopRole) :
    (r.wakeStops role).engine = r.engine ∧ (r.wakeStops role).stops = r.stops := by
  refine foldl_enqueue (fun r x => ?_) r _
  dsimp only
  split
  · exact .inr ⟨_, rfl⟩
  · exact .inl rfl

theorem setStopped_same (r : Rehearsal) (engine : Engine Rehearsed) :
    (r.setStopped engine).engine = engine ∧ (r.setStopped engine).stops = r.stops := by
  unfold setStopped
  dsimp only
  have hheeding : ∀ (u : Rehearsal) (o : Operation),
      (if o.heedsAbort then u.enqueue (.actor o.actor) else u) = u ∨
        ∃ y, (if o.heedsAbort then u.enqueue (.actor o.actor) else u) = u.enqueue y := by
    intro u o
    split
    · exact .inr ⟨_, rfl⟩
    · exact .inl rfl
  have hwoken := foldl_enqueue hheeding { r with engine } r.operations
  split
  · split
    · exact ⟨(wakeStops_same _ _).1.trans hwoken.1, (wakeStops_same _ _).2.trans hwoken.2⟩
    · exact hwoken
  · split
    · exact wakeStops_same _ _
    · exact ⟨rfl, rfl⟩

theorem roles_modify (stops : List StopCall) (n : Nat) :
    (stops.modify n fun c => { c with role := none }).map (·.role) =
      (stops.map (·.role)).set n none := by
  refine List.ext_getElem? fun i => ?_
  rw [List.getElem?_map, List.getElem?_modify, List.getElem?_set, List.getElem?_map,
    List.length_map]
  by_cases hi : n = i
  · subst hi
    by_cases hn : n < stops.length
    · simp [hn]
    · simp [hn]
  · simp [hi]

theorem IsCourse.continueStop (hr : IsCourse r) (n : Nat) : IsCourse (r.continueStop n) := by
  unfold Rehearsal.continueStop
  split
  · next role isCancelled due hn =>
    have hrole : r.HasRole n role := by
      unfold HasRole roles
      rw [List.getElem?_map, hn]
      rfl
    split
    · exact hr
    · next result engine h =>
      obtain ⟨hengine, hstops⟩ := setStopped_same r engine
      have hroles : ((r.setStopped engine).returnStop n result).roles = r.roles.set n none := by
        show ((r.setStopped engine).stops.modify n _).map _ = r.roles.set n none
        rw [hstops]
        exact roles_modify r.stops n
      exact hr.returns hrole (h.trans (congrArg _ hengine.symm)) hroles
  · exact hr

theorem IsCourse.run (hr : IsCourse r) (x : Runner) : IsCourse (r.run x) := by
  cases x with
  | actor a => exact (hr.goesOn (.feed r a .look)).goesOn (.of_same rfl rfl)
  | stop n => exact hr.continueStop n
  | timer n =>
    show IsCourse (r.runTimer n)
    unfold runTimer
    split
    · exact hr
    · split
      · have hroles : (r.stops.modify n fun c => { c with isCancelled := true }).map (·.role) =
            r.roles := by
          refine List.ext_getElem? fun i => ?_
          unfold roles
          rw [List.getElem?_map, List.getElem?_modify, List.getElem?_map]
          split <;> cases r.stops[i]? <;> rfl
        exact (hr.goesOn (.of_same rfl hroles : GoesOn r { r with
          stops := r.stops.modify n fun c => { c with isCancelled := true } })).goesOn
            (.enqueue _ _)
      · exact hr

theorem IsCourse.settleFor (hr : IsCourse r) (fuel : Nat) : IsCourse (settleFor fuel r) := by
  induction fuel generalizing r with
  | zero => exact hr
  | succ fuel ih =>
    unfold Rehearsal.settleFor
    split
    · split
      · next h => exact ih (hr.goesOn (.progress h))
      · exact ih (hr.goesOn (.of_same rfl rfl))
    · split
      · exact hr
      · next x rest _ =>
        exact ih ((hr.goesOn (.of_same rfl rfl : GoesOn r { r with queue := rest })).run x)

theorem IsCourse.settle (hr : IsCourse r) : IsCourse r.settle := hr.settleFor patience

theorem IsCourse.advanceFor (hr : IsCourse r) (target ticks : Nat) :
    IsCourse (advanceFor target ticks r) := by
  induction ticks generalizing r with
  | zero => exact hr.goesOn (.setTime r target)
  | succ ticks ih =>
    unfold Rehearsal.advanceFor
    split
    · next time _ => exact ih ((hr.goesOn ((GoesOn.setTime r time).trans (.wakeDue _))).settle)
    · exact hr.goesOn (.setTime r target)

/-! ## What is done to the engine -/

inductive Step where
  | start (settings : StartSettings) (fresh : String) (hasHandlers canSpawn : Bool)
  | setHealth (h : Health)
  | setDescription (d : Description)
  | setInterval (d : Duration)
  | refresh (isCancelled : Bool)
  | reportSync (number : Nat) (report : Session.SyncReport)
  | stop (isCancelled : Bool) (cancelAfter : Option Nat)
  | advance (ticks : Nat)
  /-- The server's side changes the network. -/
  | setNetwork (network : Network)

def step (r : Rehearsal) : Step → Rehearsal
  | .start settings fresh hasHandlers canSpawn =>
    (r.start settings fresh hasHandlers canSpawn).2
  | .setHealth h => (r.setHealth h).2
  | .setDescription d => (r.setDescription d).2
  | .setInterval d => r.setInterval d
  | .refresh isCancelled => r.refresh isCancelled
  | .reportSync number report => (r.reportSync number report).2
  | .stop isCancelled cancelAfter => r.stop isCancelled cancelAfter
  | .advance ticks => r.advance ticks
  | .setNetwork network => r.setNetwork network

theorem IsCourse.not_hasRole_of_idle (hr : IsCourse r) {transport : Rehearsed}
    (h : r.engine = .idle transport) (i : Nat) : ¬ r.HasRole i .drain ∧ ¬ r.HasRole i .wait := by
  refine ⟨fun hi => ?_, fun hi => ?_⟩
  · obtain ⟨s, hs, -⟩ := hr.draining i hi
    rw [h] at hs
    contradiction
  · obtain ⟨s, hs, -⟩ := hr.waiting i hi
    rw [h] at hs
    contradiction

theorem IsCourse.setInterval (hr : IsCourse r) (d : Duration) : IsCourse (r.setInterval d) := by
  cases he : r.engine with
  | started s =>
    refine hr.goesOn ((GoesOn.act r (a := .setInterval d) rfl).trans (.of_same ?_ rfl))
    show r.engine.setInterval d = r.engine.modify _
    rw [he]
    rfl
  | idle transport =>
    have hidle := hr.not_hasRole_of_idle he
    refine ⟨fun s hs => ?_, fun i h => absurd h (hidle i).1, fun i h => absurd h (hidle i).2,
      fun i _ h => absurd h (hidle i).1⟩
    have hs : r.engine.setInterval d = .started s := hs
    rw [he] at hs
    contradiction

theorem IsCourse.start (hr : IsCourse r) (settings : StartSettings) (fresh : String)
    (hasHandlers canSpawn : Bool) :
    IsCourse { r with engine := (r.engine.start settings fresh hasHandlers canSpawn).2 } := by
  cases he : r.engine with
  | started s => exact hr.goesOn (.of_same he.symm rfl)
  | idle transport =>
    have hidle := hr.not_hasRole_of_idle he
    refine ⟨fun s hs => ?_, fun i h => absurd h (hidle i).1, fun i h => absurd h (hidle i).2,
      fun i _ h => absurd h (hidle i).1⟩
    have hs : ((Engine.idle transport).start settings fresh hasHandlers canSpawn).2 =
      .started s := hs
    unfold Engine.start at hs
    dsimp only at hs
    split at hs
    · contradiction
    · split at hs
      · contradiction
      · split at hs
        · contradiction
        · next t _ => exact ⟨t, settings, fresh, [], (Engine.started.inj hs).symm⟩

theorem IsCourse.whileRunning (hr : IsCourse r) {a : Session.Action Rehearsed}
    (ha : isOwn a = true) :
    IsCourse { r with engine := (r.engine.whileRunning (·.act a)).2 } := by
  have hcases : (r.engine.whileRunning (·.act a)).2 = r.engine ∨
      (r.engine.whileRunning (·.act a)).2 = r.engine.modify (·.act a) := by
    cases r.engine with
    | idle => exact .inl rfl
    | started s =>
      unfold Engine.whileRunning
      dsimp only
      split
      · exact .inr rfl
      · exact .inl rfl
  rcases hcases with h | h
  · exact hr.goesOn (.of_same h rfl)
  · rw [h]
    exact hr.goesOn (.act r ha)

theorem IsCourse.refresh (hr : IsCourse r) (isCancelled : Bool) :
    IsCourse (r.refresh isCancelled) := by
  unfold Rehearsal.refresh
  split
  · next s hs =>
    split
    · have hact : GoesOn r { r with
          engine := .started s.beginRefresh.2
          refreshes := r.refreshes.insert s.beginRefresh.1 isCancelled } := by
        refine (GoesOn.act r (a := .refresh) rfl).trans (.of_same ?_ rfl)
        have hs : r.engine.session? = some s := hs
        cases he : r.engine with
        | idle =>
          rw [he] at hs
          contradiction
        | started u =>
          rw [he] at hs
          obtain rfl := Option.some.inj hs
          rfl
      exact ((hr.goesOn hact).run _).settle
    · exact hr.goesOn (.note r _)
  · exact hr.goesOn (.note r _)

theorem IsCourse.stop (hr : IsCourse r) (isCancelled : Bool) (cancelAfter : Option Nat) :
    IsCourse (r.stop isCancelled cancelAfter) := by
  unfold Rehearsal.stop
  dsimp only
  refine IsCourse.settle (IsCourse.continueStop ?_ _)
  refine IsCourse.goesOn ?_ (.absorb _)
  refine hr.begins rfl ?_
  show roles (if _ then _ else _) = _
  split
  · rw [(GoesOn.enqueue _ _).roles]
    exact List.map_append
  · exact List.map_append

theorem IsCourse.step (hr : IsCourse r) (x : Step) : IsCourse (r.step x) := by
  cases x with
  | start settings fresh hasHandlers canSpawn =>
    exact ((hr.start settings fresh _ canSpawn).goesOn (.setTime _ _)).settle
  | setHealth h =>
    exact ((hr.whileRunning (a := .setHealth h) rfl).goesOn (.absorb _)).settle
  | setDescription d =>
    have hengine : IsCourse { r with engine := (r.engine.setDescription d).2 } := by
      unfold Engine.setDescription
      split
      · exact hr
      · exact hr.whileRunning (a := .setDescription d) rfl
    exact (hengine.goesOn (.absorb _)).settle
  | setInterval d => exact hr.setInterval d
  | refresh isCancelled => exact hr.refresh isCancelled
  | reportSync number report =>
    show IsCourse (r.reportSync number report).2
    unfold Rehearsal.reportSync
    split
    · next hash _ => exact (hr.goesOn (.onSession r (a := .reportSync hash report) rfl)).settle
    · exact hr
  | stop isCancelled cancelAfter => exact hr.stop isCancelled cancelAfter
  | advance ticks => exact hr.advanceFor _ ticks
  | setNetwork network =>
    show IsCourse (r.setNetwork network)
    unfold Rehearsal.setNetwork
    dsimp only
    refine IsCourse.settle ?_
    have hnetwork : IsCourse { r with network } := hr.goesOn (.of_same rfl rfl)
    split
    · exact hnetwork.goesOn (.enqueue _ _)
    · exact hnetwork

/-- **A rehearsal is a course of a session.** Whatever is done to an engine that is idle at first,
and however its agent, its server and the clock are made to behave: the session that it then has is
one that starts somehow and goes on by actions. -/
theorem session_of_rehearsal (r : Rehearsal) {transport : Rehearsed}
    (hidle : r.engine = .idle transport) (hstops : r.stops = []) (steps : List Step)
    (s : Session Rehearsed) (hs : (steps.foldl step r).engine = .started s) :
    ∃ transport settings fresh actions,
      s = (Session.start transport settings fresh).after actions := by
  have hrole : ∀ i role, ¬ r.HasRole i role := by
    intro i role h
    unfold HasRole roles at h
    rw [hstops] at h
    contradiction
  have hr : IsCourse r := by
    refine ⟨fun s h => ?_, fun i h => absurd h (hrole i _), fun i h => absurd h (hrole i _),
      fun i _ h => absurd h (hrole i _)⟩
    rw [hidle] at h
    contradiction
  have hsteps : IsCourse (steps.foldl step r) := by
    clear hs hidle hstops hrole
    induction steps generalizing r with
    | nil => exact hr
    | cons x rest ih => exact ih (r.step x) (hr.step x)
  exact hsteps.session s hs

end Rehearsal

end ManagedAgent
