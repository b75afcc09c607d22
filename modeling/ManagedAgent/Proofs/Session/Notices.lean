import Mathlib.Data.List.Chain
import ManagedAgent.Proofs.Session.Telling

/-!
# What the agent hears about the connection

The agent is told when the connection is there (`Notice.connected`) and when it failed
(`Notice.connectFailed`).

* `Mirrors` : until stop is requested, the phase is what the last of these notices says, and two
  connections are told with a failure between them;
* `Retired` : once it is requested, no more connections are told;
* `IsHeard`, `OutlastsStop` : what the two marks of the phase keep and what nobody hears of, and a
  stop; both of the above are of this kind, and the loop keeps what is (`IsHeard.runLoop`);
* `aside_act` : what the other actors and the agent's calls do to the phase and the notices.
-/

set_option autoImplicit false

namespace ManagedAgent

namespace Session
variable {τ : Type}

/-! ## The phase and the last notice -/

/-- The phase tells what the agent was told last, as long as stop is not requested, and between two
connections the agent was told of a failure. -/
structure Mirrors (s : Session τ) : Prop where
  running : s.isStopping = false → s.isRunning = true
  last : s.isStopping = false → (s.phase = .connected ↔ s.notices.getLast? = some .connected)
  apart : s.notices.IsChain fun a b => ¬ (a = .connected ∧ b = .connected)

theorem mirrors_start (transport : τ) (settings : StartSettings) (fresh : String) :
    (start transport settings fresh).Mirrors :=
  ⟨fun _ => rfl, fun _ => ⟨nofun, nofun⟩, .nil⟩

namespace Mirrors
variable {s t : Session τ}

theorem congr (hs : s.Mirrors) (hp : t.phase = s.phase) (hn : t.notices = s.notices) :
    t.Mirrors := by
  refine ⟨?_, ?_, ?_⟩
  · unfold isStopping isRunning
    rw [hp]
    exact hs.running
  · unfold isStopping
    rw [hp, hn]
    exact hs.last
  · rw [hn]
    exact hs.apart

/-- After a request to stop only the order of the notices is left to say. -/
theorem of_stopping (hs : s.Mirrors) (h : t.isStopping = true) (hn : t.notices = s.notices) :
    t.Mirrors := by
  refine ⟨fun hf => ?_, fun hf => ?_, hn ▸ hs.apart⟩
  · rw [h] at hf
    contradiction
  · rw [h] at hf
    contradiction

/-- The connection is told when the agent does not know of it. -/
theorem markConnected (hs : s.Mirrors) : s.markConnected.Mirrors := by
  unfold Session.markConnected
  split
  · next hp =>
    have hn : ({ s with phase := .connected }.tell .connected).notices = s.notices ++ [.connected] :=
      List.filterMap_append
    have hstop : s.isStopping = false := by
      unfold isStopping
      rw [hp]
      rfl
    have hlast : s.notices.getLast? ≠ some .connected := by
      intro h
      have hc := (hs.last hstop).2 h
      rw [hp] at hc
      contradiction
    refine ⟨fun _ => rfl, fun _ => ?_, ?_⟩
    · rw [hn, List.getLast?_concat]
      exact ⟨fun _ => rfl, fun _ => rfl⟩
    · rw [hn, List.isChain_append]
      refine ⟨hs.apart, .singleton _, ?_⟩
      rintro a ha b - ⟨rfl, -⟩
      exact hlast ha
  · exact hs

theorem markFailed (hs : s.Mirrors) (e : TransportError) : (s.markFailed e).Mirrors := by
  unfold Session.markFailed
  split
  · exact hs
  · dsimp only
    have told (u : Session τ) (hr : u.isStopping = false → u.isRunning = true)
        (hp : u.phase ≠ .connected) (hu : u.notices = s.notices) :
        (u.tell (.connectFailed e)).Mirrors := by
      have hn : (u.tell (.connectFailed e)).notices = s.notices ++ [.connectFailed e] :=
        hu ▸ List.filterMap_append
      refine ⟨hr, fun _ => ?_, ?_⟩
      · rw [hn, List.getLast?_concat]
        exact ⟨fun h => absurd h hp, nofun⟩
      · rw [hn, List.isChain_append]
        refine ⟨hs.apart, .singleton _, ?_⟩
        rintro a - b hb ⟨-, rfl⟩
        cases hb
    split
    · exact told _ (fun _ => rfl) nofun rfl
    · next hp => exact told s hs.running hp rfl

/-- Between two connections that are told there is a failure. -/
theorem failure_between (hs : s.Mirrors) {earlier between later : List Notice}
    (h : s.notices = earlier ++ .connected :: between ++ .connected :: later) :
    ∃ e, Notice.connectFailed e ∈ between := by
  have hchain := hs.apart
  rw [h, List.append_assoc, List.isChain_append] at hchain
  cases between with
  | nil => exact absurd ⟨rfl, rfl⟩ (List.isChain_cons_cons.1 hchain.2.1).1
  | cons n rest =>
    have hn : n ≠ .connected := fun hn => (List.isChain_cons_cons.1 hchain.2.1).1 ⟨rfl, hn⟩
    have hmem : n ∈ s.notices := by simp [h]
    obtain ⟨e, -, he⟩ := List.mem_filterMap.1 hmem
    unfold Event.connection? at he
    split at he
    · exact absurd (Option.some.inj he).symm hn
    · next e => exact ⟨e, Option.some.inj he ▸ List.mem_cons_self⟩
    · cases he

end Mirrors

/-! ## What an actor does about it -/

def Scope.unheard : Scope where
  may a := a ≠ .phase ∧ a ≠ .stopping
  logs e := e.connection? = none
  tasks _ := True

theorem Frame.notices {s t : Session τ} (h : Frame .unheard s t) : t.notices = s.notices :=
  h.filterMap_history fun _ he => he

theorem unheard_runTask (s : Session τ) (id : Nat) (input : Input) :
    Frame .unheard s (s.runTask id input) := by
  cases hx : s.tasks.get? id with
  | none =>
    rw [runTask_of_none hx]
    exact .refl s
  | some x =>
    refine (frame_runTask hx input).mono (fun a ha => ?_) (fun e he => ?_) fun _ _ => trivial
    · constructor
      all_goals
        rintro rfl
        cases x <;> simp [Scope.of, Scope.config, Scope.offer, Scope.packages, Scope.command,
          Scope.refresh] at ha
    · cases x <;> cases e with
      | told n => cases n <;> trivial
      | _ => trivial

theorem unheard_dispatch (s : Session τ) (i : Instruction) : Frame .unheard s (s.dispatch i) := by
  refine (frame_dispatch s i).mono (fun a ha => ?_) (fun e he => ?_) fun _ _ => trivial
  · constructor
    all_goals
      rintro rfl
      exact ha
  · cases e <;> trivial

section Loop
variable [Transport τ] {s t : Session τ}

theorem Works.heard (h : Works s t) :
    t = s.markConnected ∨ (∃ e, t = s.markFailed e) ∨ Frame .unheard s t := by
  have may {a : Aspect} (h : a ≠ .phase) (h' : a ≠ .stopping) : Scope.unheard.may a := ⟨h, h'⟩
  cases h with
  | connected => exact .inl rfl
  | failed e => exact .inr (.inl ⟨e, rfl⟩)
  | serverError e => exact .inr (.inr (.emit s _ rfl))
  | fullState => exact .inr (.inr (.update s _ (.requestFullState _ (may nofun nofun)) rfl))
  | adopt uid => exact .inr (.inr (.update s _ (.setUid _ uid (may nofun nofun)) rfl))
  | read r =>
    exact .inr (.inr (.finishReading s _ r (may nofun nofun) (may nofun nofun) (may nofun nofun)
      fun _ => rfl))
  | abandon => exact .inr (.inr (.leaveGate s _ (may nofun nofun) fun _ => rfl))
  | wakeup f => exact .inr (.inr (.setWakeup s f (may nofun nofun)))
  | refuse r rest e h he =>
    exact .inr (.inr (.trans (.setRequests s rest (may nofun nofun))
      (.trans (.applySettings _ _ (may nofun nofun) rfl) (.reply _ _ _ (fun _ _ _ => trivial) rfl))))

theorem Settles.unheard {input : Input} (h : Settles s input t) : Frame .unheard s t := by
  refine h.frame.mono (fun a ha => ?_) (fun e he => ?_) fun _ _ => trivial
  · constructor
    all_goals
      rintro rfl
      simp [Scope.settling] at ha
  · cases e <;> trivial

theorem Rests.unheard (h : Rests s t) : Frame .unheard s t := by
  refine h.frame.mono (fun a ha => ?_) (fun e he => ?_) fun _ _ => trivial
  · constructor
    all_goals
      rintro rfl
      simp [Scope.rest] at ha
  · cases e <;> trivial

/-- A property that the two marks keep, and whatever leaves the notices and the phase as they are. -/
structure IsHeard (P : Session τ → Prop) : Prop where
  silent : ∀ s t : Session τ, t.notices = s.notices → t.phase = s.phase → P s → P t
  connected : ∀ s : Session τ, P s → P s.markConnected
  failed : ∀ (s : Session τ) (e : TransportError), P s → P (s.markFailed e)

/-- A request to stop keeps it too. -/
structure OutlastsStop (P : Session τ → Prop) : Prop extends IsHeard P where
  stopped : ∀ s t : Session τ, t.notices = s.notices → t.isStopping = true → P s → P t

namespace IsHeard
variable {P : Session τ → Prop}

omit [Transport τ] in
theorem unheard (hP : IsHeard P) (h : Frame .unheard s t) (hs : P s) : P t :=
  hP.silent s t h.notices (h.same .phase fun hp => hp.1 rfl) hs

theorem goes (hP : IsHeard P) {routed : Option Instruction} (h : Goes routed s t) (hs : P s) :
    P t := by
  refine h.elim (M := P) (P := P) (fun u v h hu => ?_)
    (fun u i hu => hP.unheard (unheard_dispatch u i) hu) (fun u v h hu => hP.unheard h.unheard hu) hs
  rcases h.heard with rfl | ⟨e, rfl⟩ | h
  · exact hP.connected u hu
  · exact hP.failed u e hu
  · exact hP.unheard h hu

theorem runLoop (hP : IsHeard P) (hs : P s) (input : Input) : P (s.runLoop input) := by
  rcases s.runLoop_cases input with ⟨-, h⟩ | ⟨u, routed, hset, hgo⟩
  · rw [h]
    exact hs
  · exact hP.goes hgo (hP.unheard hset.unheard hs)

end IsHeard

omit [Transport τ] in
theorem outlastsStop_mirrors : OutlastsStop fun s : Session τ => s.Mirrors where
  silent _ _ hn hp hs := hs.congr hp hn
  stopped _ _ hn hstop hs := hs.of_stopping hstop hn
  connected _ hs := hs.markConnected
  failed _ e hs := hs.markFailed e

/-- Only the loop tells of the connection and marks the phase; the others leave it alone, or request
a stop. -/
theorem aside_act [Carrier τ] (s : Session τ) (a : Action τ)
    (h : ∀ input, a ≠ .run .loop input) :
    (s.act a).notices = s.notices ∧ ((s.act a).phase = s.phase ∨ (s.act a).isStopping = true) := by
  by_cases hc : a.isCall = true
  · refine ⟨(frame_act s a hc).filterMap_history fun e he => by cases e <;> trivial, ?_⟩
    refine (s.phase_call a hc).imp_right fun ⟨_, hp⟩ => ?_
    unfold isStopping
    rw [hp]
    rfl
  · cases a with
    | run actor input =>
      cases actor with
      | loop => exact absurd rfl (h input)
      | task id =>
        have hframe := unheard_runTask s id input
        exact ⟨hframe.notices, .inl (hframe.same .phase fun hp => hp.1 rfl)⟩
    | use | setInterval => exact ⟨rfl, .inl rfl⟩
    | stop =>
      refine ⟨(frame_stop s).filterMap_history fun e he => by cases e <;> trivial, ?_⟩
      by_cases hr : s.isRunning = true
      · exact .inr (isStopping_stop hr)
      · exact .inl (congrArg Session.phase (if_neg hr))
    | _ => exact absurd rfl hc

theorem OutlastsStop.act {P : Session τ → Prop} (hP : OutlastsStop P) [Carrier τ] (hs : P s)
    (a : Action τ) : P (s.act a) := by
  by_cases ha : ∃ input, a = .run .loop input
  · obtain ⟨input, rfl⟩ := ha
    exact hP.runLoop hs input
  · obtain ⟨hn, hp⟩ := s.aside_act a fun input h => ha ⟨input, h⟩
    exact hp.elim (hP.silent _ _ hn · hs) (hP.stopped _ _ hn · hs)

/-- A session stops when that is requested. -/
theorem Mirrors.isStopping_after [Carrier τ] (hs : s.Mirrors) (actions : List (Action τ)) :
    (s.after actions).isStopping = true ↔ s.isStopping = true ∨ Action.stop ∈ actions := by
  induction actions generalizing s with
  | nil => simp
  | cons a rest ih =>
    rw [after_cons, ih (outlastsStop_mirrors.act hs a), List.mem_cons]
    by_cases ha : a = .stop
    · subst ha
      have hstop : (s.act .stop).isStopping = true := by
        cases h : s.isStopping with
        | false => exact isStopping_stop (hs.running h)
        | true => exact isStopping_act_of_stopping h .stop
      simp [hstop]
    · rw [isStopping_act s ha]
      simp [Ne.symm ha]

end Loop

/-! ## After a request to stop -/

/-- Stop was requested, and the agent has been told of `n` connections. -/
def Retired (n : Nat) (s : Session τ) : Prop :=
  s.isStopping = true ∧ s.notices.count .connected = n

theorem Retired.markConnected {s : Session τ} {n : Nat} (hs : s.Retired n) :
    s.markConnected.Retired n := by
  unfold Session.markConnected
  split
  · next hp =>
    have hstop := hs.1
    unfold isStopping at hstop
    rw [hp] at hstop
    contradiction
  · exact hs

theorem Retired.markFailed {s : Session τ} {n : Nat} (hs : s.Retired n) (e : TransportError) :
    (s.markFailed e).Retired n := by
  have hphase : s.phase ≠ .connected := by
    intro hp
    have hstop := hs.1
    unfold isStopping at hstop
    rw [hp] at hstop
    contradiction
  unfold Session.markFailed
  split
  · exact hs
  · refine ⟨?_, ?_⟩
    · rw [if_neg hphase]
      exact hs.1
    · have hn : (s.tell (.connectFailed e)).notices = s.notices ++ [.connectFailed e] :=
        List.filterMap_append
      rw [if_neg hphase, hn, List.count_append, hs.2]
      rfl

theorem outlastsStop_retired (n : Nat) : OutlastsStop fun s : Session τ => s.Retired n where
  silent s t hn hp hs := by
    unfold Retired isStopping
    rw [hp, hn]
    exact hs
  stopped s t hn hstop hs := by
    unfold Retired
    rw [hn]
    exact ⟨hstop, hs.2⟩
  connected _ hs := hs.markConnected
  failed _ e hs := hs.markFailed e

end Session

end ManagedAgent
