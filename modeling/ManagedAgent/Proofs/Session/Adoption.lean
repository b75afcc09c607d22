import ManagedAgent.Proofs.Session.Anonymous
import ManagedAgent.Proofs.Session.BackOff

/-!
# When a new identity counts

The session has the identity that the agent has accepted last, and every report that is sent carries
the one that the session has by then, be it new, sent again, or sent to prove new settings. The
agent is only asked about an identity that is not empty and not the one that it has, and an
identification that it rejects, or is not asked about, leaves no trace.

* `uid_act`, `uid_after` : the identity after an action and a course;
* `instanceUid_act`, `reports_after` : the identity in the reports;
* `AsksAnew.act` : the loop asks for another identity, which is not empty;
* `identity_is_the_one_accepted_last` : the account of a whole session.
-/

set_option autoImplicit false

namespace ManagedAgent

theorem StartSettings.resolvedUid_ne (settings : StartSettings) {fresh : String} (h : fresh ≠ "") :
    settings.resolvedUid fresh ≠ "" := by
  unfold resolvedUid
  split
  · split
    · exact h
    · assumption
  · exact h

namespace Session
variable {τ : Type} {s t : Session τ}

/-- The loop asks the agent to take another identity, which is not empty. -/
def AsksAnew (s : Session τ) : Prop :=
  ∀ uid i, s.loop.asked? = some (uid, i) → uid ≠ "" ∧ uid ≠ s.state.uid

theorem asksAnew_of_none (h : s.loop.asked? = none) : s.AsksAnew := fun uid i hi => by
  rw [h] at hi
  contradiction

theorem AsksAnew.of_same (h : s.AsksAnew) (hl : t.loop = s.loop)
    (hu : t.state.uid = s.state.uid) : t.AsksAnew := by
  unfold AsksAnew
  rw [hl, hu]
  exact h

/-- The identity that the loop takes with an input: the agent accepts it. -/
def takes? (s : Session τ) : Input → Option String
  | .answered (.done (.ok ())) => s.loop.asked?.map (·.1)
  | _ => none

section Loop
variable [Transport τ]

/-! ## The loop -/

theorem Rests.asksAnew (h : Rests s t) : t.AsksAnew := by
  cases h with
  | ended =>
    refine asksAnew_of_none ?_
    rw [loop_endLoop]
    rfl
  | entering =>
    refine asksAnew_of_none ?_
    show (if _ then Loop.reading else Loop.queueing).asked? = none
    split <;> rfl
  | identifying uid i r hu hn =>
    rintro _ _ ⟨⟩
    exact ⟨hu, hn⟩
  | _ => exact asksAnew_of_none rfl

theorem AsksAnew.runLoop (hs : s.AsksAnew) (input : Input) : (s.runLoop input).AsksAnew := by
  rcases s.runLoop_cases input with ⟨-, h⟩ | ⟨u, routed, -, hgo⟩
  · rwa [h]
  · exact hgo.elim (M := fun _ => True) (fun _ _ _ _ => trivial) (fun _ _ _ => trivial)
      (fun _ _ h _ => h.asksAnew) trivial

/-- A loop that has asked for no identity keeps the one that it has. -/
theorem uid_runLoop_of_none (h : s.loop.asked? = none) (input : Input) :
    (s.runLoop input).state.uid = s.state.uid := by
  rcases s.runLoop_cases input with ⟨-, heq⟩ | ⟨u, routed, hset, hgo⟩
  · rw [heq]
  · have hl : u.loop = s.loop := hset.frame.same .loop (by simp [Scope.settling])
    rcases hgo.renames.2 with hu | ⟨i, hi⟩
    · exact hu.trans (hset.frame.same (.state .uid) (by simp [Scope.settling]))
    · rw [hl, h] at hi
      contradiction

/-- The agent has answered whether it takes the identity. -/
theorem uid_identified (s : Session τ) (uid : String) (i : Instruction) (r : Resume)
    (result : Except CallbackError Unit) :
    (s.identified uid i r result).state.uid = if result.isOk then uid else s.state.uid := by
  cases result with
  | ok =>
    have hset : (s.update (·.setUid uid)).state.uid = uid := congrArg State.uid (state_update _ _)
    have hroute : ((s.update (·.setUid uid)).dispatch i).state.uid = _ :=
      (frame_dispatch (s.update (·.setUid uid)) i).same (.state .uid) id
    exact (uid_resume _ r).trans (hroute.trans hset)
  | error e => exact (uid_resume _ r).trans ((frame_dispatch s i).same (.state .uid) id)

theorem uid_runLoop (s : Session τ) (input : Input) :
    (s.runLoop input).state.uid = (s.takes? input).getD s.state.uid := by
  cases ha : s.loop.asked? with
  | none =>
    have hnone : s.takes? input = none := by
      unfold takes?
      rw [ha]
      split <;> rfl
    rw [uid_runLoop_of_none ha, hnone]
    rfl
  | some asked =>
    cases hl : s.loop with
    | identifying uid i r =>
      unfold runLoop takes?
      rw [hl]
      cases input with
      | answered answer =>
        cases answer with
        | done result =>
          refine (uid_identified s uid i r result).trans ?_
          cases result <;> rfl
        | _ => rfl
      | _ => rfl
    | _ =>
      rw [hl] at ha
      contradiction

/-! ## A whole course -/

variable [Carrier τ]

def Action.accepted? (s : Session τ) : Action τ → Option String
  | .run .loop input => s.takes? input
  | _ => none

def identities (s : Session τ) : List (Action τ) → List String
  | [] => []
  | a :: rest => (a.accepted? s).toList ++ (s.act a).identities rest

/-- Only the loop takes another identity. -/
theorem uid_act_of_not_loop (s : Session τ) {a : Action τ} (h : a.isLoop = false) :
    (s.act a).state.uid = s.state.uid := by
  by_cases hc : a.isCall = true
  · exact (frame_act s a hc).same (.state .uid) (by simp [Scope.calls])
  · cases a with
    | run actor input =>
      cases actor with
      | loop => contradiction
      | task id =>
        show (s.runTask id input).state.uid = s.state.uid
        cases hx : s.tasks.get? id with
        | none => rw [runTask_of_none hx]
        | some x =>
          refine (frame_runTask hx input).same (.state .uid) ?_
          cases x <;> simp [Scope.of, Scope.config, Scope.offer, Scope.packages, Scope.command,
            Scope.refresh]
    | use | setInterval => rfl
    | stop => exact (frame_stop s).same (.state .uid) (by simp [Scope.stop])
    | _ => exact absurd rfl hc

theorem uid_act (s : Session τ) (a : Action τ) :
    (s.act a).state.uid = (a.accepted? s).getD s.state.uid := by
  rcases a.loop_cases with ⟨input, rfl⟩ | h
  · exact uid_runLoop s input
  · have hnone : a.accepted? s = none := by
      cases a with
      | run actor input =>
        cases actor with
        | loop => contradiction
        | task => rfl
      | _ => rfl
    rw [hnone]
    exact uid_act_of_not_loop s h

/-- The identity after a course is the one that was accepted last. -/
theorem uid_after (s : Session τ) (actions : List (Action τ)) :
    (s.after actions).state.uid = (s.identities actions).getLast?.getD s.state.uid := by
  induction actions generalizing s with
  | nil => rfl
  | cons a rest ih =>
    rw [after_cons, ih, uid_act, identities, List.getLast?_append]
    cases a.accepted? s with
    | none => rw [Option.toList_none, List.getLast?_nil, Option.or_none, Option.getD_none]
    | some uid =>
      rw [Option.toList_some, List.getLast?_singleton, Option.getD_some]
      cases (((s.act a).identities rest).getLast?) <;> rfl

theorem AsksAnew.act (hs : s.AsksAnew) (a : Action τ) : (s.act a).AsksAnew := by
  rcases a.loop_cases with ⟨input, rfl⟩ | h
  · exact hs.runLoop input
  · exact hs.of_same ((frame_beside s a h).same .loop (by simp [Scope.beside]))
      (uid_act_of_not_loop s h)

theorem asksAnew_after (transport : τ) (settings : StartSettings) (fresh : String)
    (actions : List (Action τ)) : ((start transport settings fresh).after actions).AsksAnew :=
  after_induction (P := AsksAnew) (fun _ a h => h.act a) (asksAnew_of_none rfl) actions

omit [Transport τ] in
/-- The agent accepts only what it is asked about. -/
theorem AsksAnew.ne_of_accepted (hs : s.AsksAnew) {a : Action τ} {uid : String}
    (h : a.accepted? s = some uid) : uid ≠ "" := by
  unfold Action.accepted? takes? at h
  split at h
  · split at h
    · obtain ⟨⟨_, i⟩, ha, rfl⟩ := Option.map_eq_some_iff.1 h
      exact (hs _ i ha).1
    · contradiction
  · contradiction

theorem uid_act_ne (hs : s.AsksAnew) (hu : s.state.uid ≠ "") (a : Action τ) :
    (s.act a).state.uid ≠ "" := by
  rw [uid_act]
  cases h : a.accepted? s with
  | none => exact hu
  | some uid => exact hs.ne_of_accepted h

theorem uid_after_ne (transport : τ) (settings : StartSettings) {fresh : String}
    (hfresh : fresh ≠ "") (actions : List (Action τ)) :
    ((start transport settings fresh).after actions).state.uid ≠ "" := by
  refine (after_induction (P := fun t => t.AsksAnew ∧ t.state.uid ≠ "")
    (fun t a h => ⟨h.1.act a, uid_act_ne h.1 h.2 a⟩) ⟨asksAnew_of_none rfl, ?_⟩ actions).2
  exact settings.resolvedUid_ne hfresh

/-! ## Reports -/

/-- A report that an action sends carries the identity that the session has after the action. -/
theorem instanceUid_act (s : Session τ) (a : Action τ) :
    (s.act a).reports = s.reports ∨ ∃ r, (s.act a).reports = s.reports ++ [r] ∧
      r.instanceUid = (s.act a).state.uid := by
  rcases a.loop_cases with ⟨input, rfl⟩ | h
  · show (s.runLoop input).reports = s.reports ∨ ∃ r,
      (s.runLoop input).reports = s.reports ++ [r] ∧ r.instanceUid = (s.runLoop input).state.uid
    rcases s.exists_report_runLoop input with heq | ⟨w, l, e, hw, he, heq⟩
    · exact .inl heq
    · rw [heq]
      exact .inr ⟨w.nextReport.1, by rw [reports_report w l he, hw], rfl⟩
  · exact .inl ((frame_beside s a h).filterMap_history fun _ h => h)

/-- What is sent in a course carries the identity from before, or one that was accepted in it. -/
theorem reports_after (s : Session τ) (actions : List (Action τ)) :
    ∃ sent, (s.after actions).reports = s.reports ++ sent ∧
      ∀ r ∈ sent, r.instanceUid = s.state.uid ∨ r.instanceUid ∈ s.identities actions := by
  induction actions generalizing s with
  | nil => exact ⟨[], (List.append_nil _).symm, List.forall_mem_nil _⟩
  | cons a rest ih =>
    obtain ⟨sent, hsent, hall⟩ := ih (s.act a)
    have hnow : (s.act a).state.uid = s.state.uid ∨
        (s.act a).state.uid ∈ s.identities (a :: rest) := by
      rw [uid_act]
      cases h : a.accepted? s with
      | none => exact .inl rfl
      | some uid =>
        refine .inr (List.mem_append_left _ ?_)
        rw [h]
        exact List.mem_singleton_self uid
    have hlater (r : Report) (hr : r ∈ sent) :
        r.instanceUid = s.state.uid ∨ r.instanceUid ∈ s.identities (a :: rest) := by
      rcases hall r hr with h | h
      · rwa [h]
      · exact .inr (List.mem_append_right _ h)
    rcases instanceUid_act s a with heq | ⟨r, heq, hr⟩
    · exact ⟨sent, by rw [after_cons, hsent, heq], hlater⟩
    · refine ⟨r :: sent, by rw [after_cons, hsent, heq, List.append_assoc]; rfl, ?_⟩
      exact List.forall_mem_cons.2 ⟨hr ▸ hnow, hlater⟩

/-! ## What leaves no trace -/

def Action.instruction? : Action τ → Option Instruction
  | .run .loop input => input.instruction?
  | _ => none

def Action.anonymous : Action τ → Action τ
  | .run .loop input => .run .loop input.anonymous
  | a => a

theorem act_anonymous {a : Action τ}
    (h : ∀ i uid, a.instruction? = some i → i.identification = some ⟨uid⟩ →
      uid = "" ∨ uid = s.state.uid) :
    (s.act a).anonymous = (s.act a.anonymous).anonymous := by
  cases a with
  | run actor input =>
    cases actor with
    | loop => exact runLoop_anonymous h
    | task => rfl
  | _ => rfl

/-- The agent rejects the identity that it was asked to take. -/
theorem act_rejected {uid : String} {i : Instruction} {r : Resume}
    (hl : s.loop = .identifying uid i r) (e : CallbackError) :
    s.act (.run .loop (.answered (.done (.error e)))) = (s.dispatch i).resume r := by
  show s.runLoop _ = _
  unfold runLoop
  rw [hl]
  rfl

/-- What the identity is in the course of a session: `identity` is the one that was accepted last in
the course of some actions, or the one of the start. -/
structure Bears (begun : Session τ) (actions : List (Action τ))
    (identity : List (Action τ) → String) : Prop where
  current : (begun.after actions).state.uid = identity actions
  not_empty : identity actions ≠ ""
  /-- A report carries the identity that is accepted by then. -/
  report (a : Action τ) : ((begun.after actions).act a).reports = (begun.after actions).reports ∨
    ∃ r, ((begun.after actions).act a).reports = (begun.after actions).reports ++ [r] ∧
      r.instanceUid = identity (actions ++ [a])
  /-- No report carries one from before an acceptance. -/
  reports (later : List (Action τ)) : ∃ sent,
    ((begun.after actions).after later).reports = (begun.after actions).reports ++ sent ∧
      ∀ r ∈ sent, r.instanceUid = identity actions ∨
        r.instanceUid ∈ (begun.after actions).identities later
  asked (uid : String) (i : Instruction) (h : (begun.after actions).loop.asked? = some (uid, i)) :
    i.identification = some ⟨uid⟩ ∧ uid ≠ "" ∧ uid ≠ identity actions
  /-- An empty identity, or the present one, is as none. -/
  ignored (a : Action τ) (h : ∀ i uid, a.instruction? = some i → i.identification = some ⟨uid⟩ →
      uid = "" ∨ uid = identity actions) :
    ((begun.after actions).act a).anonymous = ((begun.after actions).act a.anonymous).anonymous
  /-- A rejected identity stays away, and the rest goes on as without it. -/
  rejected (uid : String) (i : Instruction) (r : Resume)
      (hl : (begun.after actions).loop = .identifying uid i r) (e : CallbackError) :
    let t := (begun.after actions).act (.run .loop (.answered (.done (.error e))))
    t.state.uid = (begun.after actions).state.uid ∧
      t.anonymous = (((begun.after actions).dispatch i.anonymous).resume r).anonymous

/-- **A new identity counts at once, and only if the agent accepts it.** After every course of a
session its identity is the one that the agent has accepted last, or the one that it started with,
and it is not empty. Every report that is sent, a new one or one that is sent again, on the schedule
or to prove new settings, carries the identity accepted by then, so that nothing sent later carries
an identity from before an acceptance. The agent is only asked about an identity that an instruction
names, that is not empty and that the session does not have. An instruction with an empty identity
or the present one is dealt with as without it. So is an instruction whose identity is rejected: the
identity stays, and the rest is routed and the loop goes on; if the agent rejects it right away,
there is nothing to tell but that it was asked. -/
theorem identity_is_the_one_accepted_last (transport : τ) (settings : StartSettings)
    (fresh : String) (hfresh : fresh ≠ "") (actions : List (Action τ)) :
    let begun := start transport settings fresh
    Bears begun actions (fun actions =>
      (begun.identities actions).getLast?.getD (settings.resolvedUid fresh)) ∧
      ∀ (u : Session τ) uid i r e, i.identification = some ⟨uid⟩ → uid ≠ "" → uid ≠ u.state.uid →
        ((u.process i r).act (.run .loop (.answered (.done (.error e))))).anonymous =
          (u.process i.anonymous r).anonymous := by
  intro begun
  have huid (actions : List (Action τ)) : (begun.after actions).state.uid =
      (begun.identities actions).getLast?.getD (settings.resolvedUid fresh) :=
    uid_after begun actions
  have hs := huid actions
  have hanew : (begun.after actions).AsksAnew := asksAnew_after transport settings fresh actions
  have htold := (named_after (asksAsTold_start transport settings fresh) actions).2
  refine ⟨⟨hs, hs ▸ uid_after_ne transport settings hfresh actions, fun a => ?_, fun later => ?_,
    fun uid i h => ⟨(htold uid i h), hs ▸ hanew uid i h⟩, fun a h => act_anonymous (hs ▸ h),
    fun uid i r hl e => ?_⟩, fun u uid i r e hi hu hn => reject_anonymous hi hu hn r e⟩
  · have ha : ((begun.after actions).act a).state.uid =
        (begun.identities (actions ++ [a])).getLast?.getD (settings.resolvedUid fresh) := by
      rw [← huid, after_append]
      rfl
    rw [← ha]
    exact instanceUid_act _ a
  · rw [← hs]
    exact reports_after _ later
  · intro t
    have ht : t = ((begun.after actions).dispatch i).resume r := act_rejected hl e
    rw [ht]
    refine ⟨(uid_resume _ r).trans ((frame_dispatch _ i).same (.state .uid) id), ?_⟩
    exact resume_dispatch_anonymous _ i r

def renamed : List (Action Http.Sender) :=
  [.run .loop .look, .run .loop (.answered (.effective (.error .cancelled))),
    .run .loop (.exchanged (.ok (some { identification := some ⟨"b"⟩ }))),
    .run .loop (.answered (.done (.ok ()))), .setTime 30000]

theorem identity_is_the_one_accepted_last_renamed :
    let s := (start ({} : Http.Sender) { serverUrl := "http://a" } "a").after renamed
    "a" ≠ "" ∧ s.state.uid = "b" ∧ ∃ r, (s.act (.run .loop .look)).reports = s.reports ++ [r] ∧
      r.instanceUid = "b" := by
  intro s
  have h := identity_is_the_one_accepted_last ({} : Http.Sender) { serverUrl := "http://a" } "a"
    (by decide) renamed
  exact ⟨by decide, h.1.current, (h.1.report (.run .loop .look)).resolve_left (by decide)⟩

end Loop

end Session

end ManagedAgent
