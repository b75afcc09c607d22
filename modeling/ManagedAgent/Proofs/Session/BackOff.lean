import ManagedAgent.Proofs.Session.OfferRuns
import ManagedAgent.Proofs.Session.Wakeups

/-!
# A busy server on a stream

On a stream a report counts as taken once it is sent. A server that says later that it is busy is
left alone for a while, and then gets a full report. The full report brings every part back, but no
status of a connection: those went with a report that counts as taken.

* `reports_streamAnew` : what a full report carries;
* `BacksOff.act` : while the loop leaves the server alone it sends nothing, and the first report
  after that is a full one;
* `Since.act` : a report carries no status but those that no report had before;
* `busy_server_gets_a_full_report` : both, over a whole course.
-/

set_option autoImplicit false

namespace ManagedAgent

/-! ## Parts that come back -/

/-- What an earlier report carried of the part is there in a later one: the value that the part has
now, and the same as before if the part has not changed. -/
def Part.Renews {α : Type} (p : Part α) (earlier later : Option α) : Prop :=
  ∀ a, earlier = some a → ∃ b, later = some b ∧ p.value = some b ∧ (p.changed = false → b = a)

structure Outbox.Renews (o : Outbox) (earlier later : Parts) : Prop where
  description : o.description.Renews earlier.description later.description
  health : o.health.Renews earlier.health later.health
  effectiveConfig : o.effectiveConfig.Renews earlier.effectiveConfig later.effectiveConfig
  remoteConfigStatus :
    o.remoteConfigStatus.Renews earlier.remoteConfigStatus later.remoteConfigStatus
  packageStatuses : o.packageStatuses.Renews earlier.packageStatuses later.packageStatuses

theorem Part.Told.renews {α : Type} {p : Part α} {begun : Prop} {carried told sent : Option α}
    (h : p.Told begun carried (sent.or told)) (hb : begun) : p.Renews sent p.value := by
  intro a ha
  rw [ha, Option.some_or] at h
  cases hv : p.value with
  | none => exact absurd (h.unsent hv) nofun
  | some b =>
    refine ⟨b, rfl, rfl, fun hc => ?_⟩
    have hright := h.right hb hc
    rw [hv] at hright
    exact (Option.some.inj hright).symm

/-- What the last report carried comes back with all that the state has. -/
theorem Outbox.Told.renews {s : State} {begun : Prop} {told : Parts} {sent : Parts}
    (h : s.outbox.Told begun (told.receive sent)) (hb : begun) : s.outbox.Renews sent s.parts :=
  ⟨h.description.renews hb, h.health.renews hb, h.effectiveConfig.renews hb,
    h.remoteConfigStatus.renews hb, h.packageStatuses.renews hb⟩

namespace Session
variable {τ : Type} {s t v : Session τ}

/-! ## A full report -/

def fullReport (s : Session τ) : Report := s.state.requestFullState.nextReport.1

/-- A full report has the statuses that no report had before. -/
theorem connectionStatuses_fullReport (h : s.state.outbox.pending = none) :
    s.fullReport.connectionStatuses = s.state.outbox.connectionStatuses := by
  show s.state.requestFullState.base.1.connectionStatuses ++ s.state.outbox.connectionStatuses = _
  unfold State.base
  rw [show s.state.requestFullState.outbox.pending = none from h]
  rfl

/-! ## The server is left alone -/

/-- Since `s` the loop leaves the server alone, and the statuses that were recorded wait. -/
structure BacksOff (s : Session τ) (retry : Duration) (recorded : List ConnectionStatus)
    (v : Session τ) : Prop where
  going : v.isStopping = false
  loop : ∃ deadline, v.loop = .pausing deadline retry
  reports : v.reports = s.reports
  taken : v.state.outbox.pending = none
  statuses : v.state.outbox.connectionStatuses =
    s.state.outbox.connectionStatuses ++ recorded

/-- While no further report is sent, the parts of the last one are there with their last values. -/
theorem Tells.renews {statuses : List ConnectionStatus} (hs : s.Tells statuses)
    {earlier : List Report} {last : Report} (h : s.reports = earlier ++ [last]) :
    s.state.outbox.Renews last.parts s.state.parts := by
  have htold := hs.told
  rw [h, Parts.told_concat] at htold
  exact htold.renews (List.concat_ne_nil _ _)

section Loop
variable [Transport τ]

/-- What has to be reported comes before everything else on a stream. -/
theorem stream_of_pending (h : s.state.hasPendingChanges = true) (retry : Duration) :
    s.stream retry = s.sendReport retry := by
  unfold stream attend
  split
  all_goals rw [h]; rfl

theorem reports_streamAnew (s : Session τ) (retry : Duration) :
    (s.streamAnew retry).reports = s.reports ++ [s.fullReport] := by
  have hpending : (s.update State.requestFullState).state.hasPendingChanges = true := by
    rw [state_update]
    rfl
  unfold streamAnew
  rw [stream_of_pending hpending]
  refine (reports_report _ _ (e := .sending _) rfl).trans ?_
  rw [reports_update, state_update]
  rfl

theorem runLoop_pausing {deadline : Nat} {retry : Duration} (h : s.loop = .pausing deadline retry)
    (hgoing : s.isStopping = false) (input : Input) :
    s.runLoop input = s ∨ s.runLoop input = s.streamAnew retry := by
  unfold runLoop
  rw [h]
  cases input with
  | look =>
    dsimp only
    rw [hgoing, if_neg nofun]
    split
    · exact .inr rfl
    · exact .inl rfl
  | _ => exact .inl rfl

theorem runLoop_pausing_of_le {deadline : Nat} {retry : Duration}
    (h : s.loop = .pausing deadline retry) (hgoing : s.isStopping = false)
    (hd : deadline ≤ s.now) : s.runLoop .look = s.streamAnew retry := by
  unfold runLoop
  rw [h]
  dsimp only
  rw [hgoing, if_neg nofun, if_pos hd]

omit [Transport τ] in
theorem isStopping_of_isDistracted (h : s.isDistracted = false) : s.isStopping = false := by
  unfold isDistracted at h
  simp only [Bool.or_eq_false_iff] at h
  exact h.1.1

/-- The server says that it is busy, where the loop has nothing else to do. -/
theorem runLoop_received {retry : Duration} {i : Instruction} {e : ServerError}
    (hl : s.loop = .receiving retry) (hd : s.isDistracted = false) (he : i.unavailable? = some e) :
    s.runLoop (.received (.ok (some i))) = (s.setWakeup Wakeup.leave).pause
      ((delayOf e).getD (Transport.interval s.transport)) retry := by
  unfold runLoop
  rw [hl]
  dsimp only
  rw [hd, if_neg nofun]
  unfold received
  dsimp only
  rw [he]
  rfl

/-- A go of the loop sends no report, or it ends with the one that it assembles. -/
theorem exists_report_runLoop (s : Session τ) (input : Input) :
    (s.runLoop input).reports = s.reports ∨ ∃ (w : Session τ) (l : Loop) (e : Event),
      w.reports = s.reports ∧ e.report? = some w.nextReport.1 ∧
        s.runLoop input = { w.nextReport.2 with loop := l }.emit e := by
  rcases s.runLoop_cases input with ⟨-, h⟩ | ⟨u, routed, hset, hgo⟩
  · rw [h]
    exact .inl rfl
  · have hset : u.reports = s.reports :=
      hset.frame.filterMap_history (Scope.report?_eq_none (fun _ h => h) fun _ h => h)
    refine hgo.elim (M := fun u => u.reports = s.reports)
      (P := fun v => v.reports = s.reports ∨ ∃ (w : Session τ) (l : Loop) (e : Event),
        w.reports = s.reports ∧ e.report? = some w.nextReport.1 ∧
          v = { w.nextReport.2 with loop := l }.emit e)
      (fun u v h hu => h.frame.silent_of_work.reports.trans hu)
      (fun u i hu => (frame_silent_dispatch u i).reports.trans hu) (fun u v h hu => ?_) hset
    rcases h.report_or_pause with ⟨hp, -⟩ | ⟨w, l, e, hp, he, -, rfl⟩
    · exact .inl (hp.silent_of_pause.reports.trans hu)
    · exact .inr ⟨w, l, e, hp.silent_of_pause.reports.trans hu, he, rfl⟩

/-- A report that the loop sends is the pending one, and it has every part that has changed. -/
theorem reports_runLoop (s : Session τ) (input : Input) :
    (s.runLoop input).reports = s.reports ∨ ∃ r,
      (s.runLoop input).reports = s.reports ++ [r] ∧
        (s.runLoop input).state.outbox.pending = some r ∧
        (s.runLoop input).state.outbox.anyChanged = false := by
  rcases s.exists_report_runLoop input with h | ⟨w, l, e, hw, he, h⟩
  · exact .inl h
  · rw [h]
    refine .inr ⟨w.nextReport.1, ?_, rfl, rfl⟩
    rw [reports_report w l he, hw]

variable [Carrier τ]

theorem reports_act (s : Session τ) (a : Action τ) :
    (s.act a).reports = s.reports ∨ ∃ r,
      (s.act a).reports = s.reports ++ [r] ∧ (s.act a).state.outbox.pending = some r ∧
        (s.act a).state.outbox.anyChanged = false := by
  rcases a.loop_cases with ⟨input, rfl⟩ | ha
  · exact reports_runLoop s input
  · exact .inl ((frame_beside s a ha).filterMap_history fun _ h => h)

/-! ## Statuses that a report may have -/

theorem filterMap_offerRuns_cons (s : Session τ) (a : Action τ) (rest : List (Action τ)) :
    (s.offerRuns (a :: rest)).filterMap (·.status?) =
      ((a.offerRun? s).bind (·.status?)).toList ++
        ((s.act a).offerRuns rest).filterMap (·.status?) := by
  rw [offerRuns]
  cases a.offerRun? s with
  | none => rfl
  | some r =>
    rw [Option.toList_some, List.singleton_append, List.filterMap_cons, Option.bind_some]
    cases r.status? with
    | none => rfl
    | some status => rfl

/-- What the server does not have yet, and what was sent since, is among the statuses. -/
structure Since (origin : Session τ) (statuses : List ConnectionStatus) (s : Session τ) : Prop where
  undelivered : s.state.undelivered ⊆ statuses
  reports : ∃ sent, s.reports = origin.reports ++ sent ∧
    ∀ r ∈ sent, r.connectionStatuses ⊆ statuses

theorem Since.act {origin : Session τ} {statuses : List ConnectionStatus}
    {attempts : List Attempt} (h : Since origin statuses s) (hs : Along attempts s)
    (a : Action τ) :
    Since origin (statuses ++ ((a.offerRun? s).bind (·.status?)).toList) (s.act a) := by
  have hres := (resolves_act hs a).undelivered
  have hun : (s.act a).state.undelivered ⊆
      statuses ++ ((a.offerRun? s).bind (·.status?)).toList := by
    refine List.Subset.trans (List.subset_append_right (s.taking (a.outcome? s)) _) ?_
    rw [hres]
    exact List.append_subset.2
      ⟨List.Subset.trans h.undelivered (List.subset_append_left _ _), List.subset_append_right _ _⟩
  obtain ⟨sent, hsent, hstatuses⟩ := h.reports
  have hkept (r : Report) (hr : r ∈ sent) :
      r.connectionStatuses ⊆ statuses ++ ((a.offerRun? s).bind (·.status?)).toList :=
    List.Subset.trans (hstatuses r hr) (List.subset_append_left _ _)
  refine ⟨hun, ?_⟩
  rcases reports_act s a with hr | ⟨r, hr, hp, -⟩
  · exact ⟨sent, hr.trans hsent, hkept⟩
  · refine ⟨sent ++ [r], by rw [hr, hsent, List.append_assoc], fun r' hr' => ?_⟩
    rcases List.mem_append.1 hr' with hr' | hr'
    · exact hkept r' hr'
    · obtain rfl := List.mem_singleton.1 hr'
      refine List.Subset.trans ?_ hun
      unfold State.undelivered
      rw [hp]
      exact List.subset_append_left _ _

theorem Since.after {origin : Session τ} {statuses : List ConnectionStatus}
    {attempts : List Attempt} (h : Since origin statuses s) (hs : Along attempts s)
    (actions : List (Action τ)) :
    Since origin (statuses ++ (s.offerRuns actions).filterMap (·.status?)) (s.after actions) := by
  induction actions generalizing s statuses attempts with
  | nil => rwa [offerRuns, List.filterMap_nil, List.append_nil]
  | cons a rest ih =>
    obtain ⟨ended, hend, -⟩ := hs.act a
    have hrest := ih (h.act hs a) hend
    rw [filterMap_offerRuns_cons, ← List.append_assoc]
    exact hrest

/-! ## A course after the server has said that it is busy -/

/-- The loop goes on to leave the server alone, or sends a full report. -/
theorem BacksOff.act {retry : Duration} {recorded : List ConnectionStatus}
    {attempts : List Attempt} (h : BacksOff s retry recorded v) (hv : Along attempts v)
    {a : Action τ} (ha : a ≠ .stop) :
    BacksOff s retry (recorded ++ ((a.offerRun? v).bind (·.status?)).toList) (v.act a) ∨
      (v.act a).reports = v.reports ++ [v.fullReport] := by
  obtain ⟨deadline, hloop⟩ := h.loop
  rcases a.loop_cases with ⟨input, rfl⟩ | hl
  · rcases runLoop_pausing hloop h.going input with hsame | hanew
    · refine .inl ?_
      show BacksOff s retry (recorded ++ []) (v.runLoop input)
      rwa [hsame, List.append_nil]
    · refine .inr ?_
      show (v.runLoop input).reports = _
      rw [hanew]
      exact reports_streamAnew v retry
  · have hframe := frame_beside v a hl
    have hpending : (v.act a).state.outbox.pending = v.state.outbox.pending :=
      hframe.same (.state .pending) (by simp [Scope.beside])
    have hloop' : (v.act a).loop = v.loop := hframe.same .loop (by simp [Scope.beside])
    have hstatuses : (v.act a).state.outbox.connectionStatuses =
        v.state.outbox.connectionStatuses ++ ((a.offerRun? v).bind (·.status?)).toList := by
      have hout : a.outcome? v = none := by
        cases a with
        | run actor input =>
          cases actor with
          | loop => contradiction
          | task => rfl
        | _ => rfl
      have hres := (resolves_act hv a).undelivered
      rw [hout] at hres
      unfold State.undelivered at hres
      rw [hpending, h.taken] at hres
      exact hres
    refine .inl ⟨(isStopping_act v ha).trans h.going, ⟨deadline, hloop'.trans hloop⟩, ?_,
      hpending.trans h.taken, ?_⟩
    · exact (hframe.filterMap_history fun _ h => h).trans h.reports
    · rw [hstatuses, h.statuses, List.append_assoc]

/-- The action is the first since `s` to send a report, and this is a full one. -/
structure SendsFull (s : Session τ) (recorded : List ConnectionStatus) (v : Session τ)
    (a : Action τ) : Prop where
  silent : v.reports = s.reports
  sends : (v.act a).reports = s.reports ++ [v.fullReport]
  statuses : v.fullReport.connectionStatuses = s.state.outbox.connectionStatuses ++ recorded

theorem BacksOff.after {retry : Duration} {recorded : List ConnectionStatus}
    {attempts : List Attempt} (h : BacksOff s retry recorded v) (hv : Along attempts v)
    {actions : List (Action τ)} (hstop : Action.stop ∉ actions) :
    BacksOff s retry (recorded ++ (v.offerRuns actions).filterMap (·.status?)) (v.after actions) ∨
      ∃ mid a rest, actions = mid ++ a :: rest ∧
        SendsFull s (recorded ++ (v.offerRuns mid).filterMap (·.status?)) (v.after mid) a := by
  induction actions generalizing v recorded attempts with
  | nil =>
    refine .inl ?_
    rwa [offerRuns, List.filterMap_nil, List.append_nil]
  | cons a rest ih =>
    have ha : a ≠ .stop := fun h => hstop (h ▸ List.mem_cons_self)
    rcases h.act hv ha with hon | hsent
    · obtain ⟨ended, hend, -⟩ := hv.act a
      rcases ih hon hend fun h => hstop (List.mem_cons_of_mem _ h) with hall | hsplit
      · refine .inl ?_
        rw [filterMap_offerRuns_cons, ← List.append_assoc]
        exact hall
      · obtain ⟨mid, b, later, rfl, hsends⟩ := hsplit
        refine .inr ⟨a :: mid, b, later, rfl, ?_⟩
        rw [filterMap_offerRuns_cons, ← List.append_assoc]
        exact hsends
    · refine .inr ⟨[], a, rest, rfl, h.reports, h.reports ▸ hsent, ?_⟩
      rw [offerRuns, List.filterMap_nil, List.append_nil]
      exact (connectionStatuses_fullReport h.taken).trans h.statuses

/-- The server says that it is busy. -/
theorem backsOff_received {retry : Duration} {i : Instruction} {e : ServerError}
    (hl : s.loop = .receiving retry) (hd : s.isDistracted = false)
    (hp : s.state.outbox.pending = none) (he : i.unavailable? = some e) :
    BacksOff s retry [] (s.act (.run .loop (.received (.ok (some i))))) ∨
      (s.act (.run .loop (.received (.ok (some i))))).reports = s.reports ++ [s.fullReport] := by
  have hgoing : s.isStopping = false := isStopping_of_isDistracted hd
  have hrun : s.act (.run .loop (.received (.ok (some i)))) = _ := runLoop_received hl hd he
  rw [hrun]
  unfold pause
  rw [show (s.setWakeup Wakeup.leave).isStopping = false from hgoing, if_neg nofun]
  split
  · exact .inr (reports_streamAnew _ retry)
  · exact .inl ⟨hgoing, ⟨_, rfl⟩, rfl, hp, (List.append_nil _).symm⟩

/-- The loop leaves the server alone until it sends a full report. -/
theorem backsOff_after {retry : Duration} {i : Instruction} {e : ServerError}
    {attempts : List Attempt} (hs : Along attempts s)
    (hl : s.loop = .receiving retry) (hd : s.isDistracted = false)
    (hp : s.state.outbox.pending = none) (he : i.unavailable? = some e)
    {later : List (Action τ)} (hstop : Action.stop ∉ later) :
    let actions := .run .loop (.received (.ok (some i))) :: later
    BacksOff s retry ((s.offerRuns actions).filterMap (·.status?)) (s.after actions) ∨
      ∃ mid a rest, actions = mid ++ a :: rest ∧
        SendsFull s ((s.offerRuns mid).filterMap (·.status?)) (s.after mid) a := by
  rcases backsOff_received hl hd hp he with hback | hsent
  · obtain ⟨ended, hend, -⟩ := hs.act (.run .loop (.received (.ok (some i))))
    refine (hback.after hend hstop).imp (fun h => h) ?_
    rintro ⟨mid, a, rest, rfl, hsends⟩
    exact ⟨_ :: mid, a, rest, rfl, hsends⟩
  · refine .inr ⟨[], _, later, rfl, rfl, hsent, ?_⟩
    exact (connectionStatuses_fullReport hp).trans (List.append_nil _).symm

theorem Watch.session_after (w : Watch τ) (actions : List (Action τ)) :
    (w.after (actions.map .act)).session = w.session.after actions := by
  induction actions generalizing w with
  | nil => rfl
  | cons a rest ih => exact ih (w.next (.act a))

/-- What holds at every moment holds after every course. -/
theorem sound_after (transport : τ) (settings : StartSettings) (fresh : String)
    (actions : List (Action τ)) : ∃ busy, ∃ attempts,
      Along attempts ((start transport settings fresh).after actions) ∧
      ((start transport settings fresh).after actions).Attentive busy ∧
      ((start transport settings fresh).after actions).Tells [] := by
  have h := (sound_start transport settings fresh).after (actions.map .act)
  obtain ⟨attempts, halong⟩ := h.along
  have hsession : ((Watch.start transport settings fresh).after (actions.map .act)).session =
      (start transport settings fresh).after actions := Watch.session_after _ _
  rw [← hsession]
  exact ⟨_, attempts, halong, h.attentive, h.tells⟩

theorem reports_prefix_after (s : Session τ) (actions : List (Action τ)) :
    s.reports <+: (s.after actions).reports := by
  refine after_induction (P := fun t => s.reports <+: t.reports) (fun t a ht => ?_)
    List.prefix_rfl actions
  rcases reports_act t a with h | ⟨r, h, -⟩
  · rwa [h]
  · rw [h]
    exact ht.trans (List.prefix_append _ _)

/-- **A busy server on a stream gets a full report.** After the server has said on a stream that it is
busy, and unless stop is requested, the loop leaves it alone up to a deadline, at which it sends a
report. The first report that is sent has all parts that the session has then, and with them every
part that the last report carried, in its last value. Its statuses of connections are those that were
recorded since the last report was assembled; and no report that is sent later has any other, so that
a status of the last report comes back only if the same was recorded again. -/
theorem busy_server_gets_a_full_report (transport : τ) (settings : StartSettings) (fresh : String)
    (before later : List (Action τ)) (retry : Duration) (i : Instruction) (e : ServerError)
    (hl : ((start transport settings fresh).after before).loop = .receiving retry)
    (hd : ((start transport settings fresh).after before).isDistracted = false)
    (he : i.unavailable? = some e) :
    let s := (start transport settings fresh).after before
    let actions := .run .loop (.received (.ok (some i))) :: later
    let t := s.after actions
    ∃ last sent, s.reports.getLast? = some last ∧ t.reports = s.reports ++ sent ∧
      (∀ r ∈ sent, r.connectionStatuses ⊆
        s.state.outbox.connectionStatuses ++ (s.offerRuns actions).filterMap (·.status?)) ∧
      (Action.stop ∉ later →
        (sent = [] → ∃ deadline, t.loop = .pausing deadline retry ∧
          (deadline ≤ t.now → (t.act (.run .loop .look)).reports = t.reports ++ [t.fullReport] ∧
            t.state.outbox.Renews last.parts t.fullReport.parts)) ∧
        ∀ r rest, sent = r :: rest → ∃ mid a end_, actions = mid ++ a :: end_ ∧
          let v := s.after mid
          v.reports = s.reports ∧ (v.act a).reports = s.reports ++ [r] ∧
            r.parts = v.state.parts ∧ v.state.outbox.Renews last.parts r.parts ∧
            r.connectionStatuses = s.state.outbox.connectionStatuses ++
              (s.offerRuns mid).filterMap (·.status?)) := by
  intro s actions t
  have tells (mid : List (Action τ)) : (s.after mid).Tells [] := by
    obtain ⟨_, _, -, -, htells⟩ := sound_after transport settings fresh (before ++ mid)
    rwa [after_append] at htells
  obtain ⟨_, attempts, hs, hattentive, hnow⟩ := sound_after transport settings fresh before
  have hlistens := hattentive.listens hl
  have hsome : s.reports ≠ [] := hnow.first.resolve_right (by simp [hlistens.part])
  obtain ⟨earlier, last, hlast⟩ := (List.eq_nil_or_concat s.reports).resolve_left hsome
  rw [List.concat_eq_append] at hlast
  have hsince : Since s s.state.outbox.connectionStatuses s := by
    refine ⟨?_, [], (List.append_nil _).symm, List.forall_mem_nil _⟩
    show ((start transport settings fresh).after before).state.undelivered ⊆ _
    unfold State.undelivered
    rw [hlistens.taken]
    exact List.Subset.refl _
  obtain ⟨sent, hsent, hstatuses⟩ := (hsince.after hs actions).reports
  have renews (mid : List (Action τ)) (hr : (s.after mid).reports = s.reports) :
      (s.after mid).state.outbox.Renews last.parts (s.after mid).state.parts :=
    (tells mid).renews (hr.trans hlast)
  refine ⟨last, sent, ?_, hsent, hstatuses, fun hstop => ?_⟩
  · rw [hlast]
    exact List.getLast?_concat
  · rcases backsOff_after hs hl hd hlistens.taken he hstop with hback | hsends
    · -- Nothing has been sent yet.
      have hnone : sent = [] := by
        have hr : s.reports ++ sent = s.reports := hsent.symm.trans hback.reports
        simpa using hr
      refine ⟨fun _ => ?_, fun r rest hr => absurd (hnone.symm.trans hr) nofun⟩
      obtain ⟨deadline, hloop⟩ := hback.loop
      refine ⟨deadline, hloop, fun hle => ⟨?_, renews actions hback.reports⟩⟩
      show (t.runLoop .look).reports = _
      rw [runLoop_pausing_of_le hloop hback.going hle]
      exact reports_streamAnew t retry
    · obtain ⟨mid, a, rest, hsplit, hsends⟩ := hsends
      have hfirst : ∃ more, sent = (s.after mid).fullReport :: more := by
        obtain ⟨more, hmore⟩ := reports_prefix_after ((s.after mid).act a) rest
        have hafter : ((s.after mid).act a).after rest = t := by
          show _ = s.after actions
          rw [show actions = mid ++ a :: rest from hsplit, after_append]
          rfl
        rw [hafter, hsends.sends, hsent, List.append_assoc] at hmore
        exact ⟨more, (List.append_cancel_left hmore).symm⟩
      obtain ⟨more, hmore⟩ := hfirst
      refine ⟨fun hnone => absurd (hnone.symm.trans hmore) nofun, fun r others hr => ?_⟩
      obtain ⟨rfl, -⟩ := List.cons.inj (hmore.symm.trans hr)
      exact ⟨mid, a, rest, hsplit, hsends.silent, hsends.sends, rfl, renews mid hsends.silent,
        hsends.statuses⟩

/-! ## A status that does not come back -/

def streamAgent : StartSettings := { serverUrl := "a" }

def ownMetrics : Instruction :=
  { connections := some { metrics := some { endpoint := "http://m" } } }

/-- Settings for the agent's metrics are accepted, and the status goes with the second report. -/
def statusSent : List (Action Network.Client) :=
  [.run .loop .look, .run .loop (.answered (.effective (.error .cancelled))),
    .run .loop (.connected (.ok ())), .run .loop (.sent (.ok ())),
    .run .loop (.received (.ok (some ownMetrics))),
    .run (.task 0) .look, .run (.task 0) (.answered (.done (.ok ()))),
    .run .loop .look, .run .loop (.sent (.ok ()))]

def busyAnswer : Instruction :=
  { error := some { kind := .unavailable, retryAfter := some 1000000000 } }

/-- The loop waits, and sends the full report. -/
def patience : List (Action Network.Client) :=
  [.setTime 1000, .run .loop .look, .run .loop (.sent (.ok ()))]

theorem loop_statusSent : ((start ({} : Network.Client) streamAgent "agent").after statusSent).loop =
    .receiving StartSettings.defaultInterval := by decide

theorem isDistracted_statusSent :
    ((start ({} : Network.Client) streamAgent "agent").after statusSent).isDistracted = false := by
  decide

theorem busy_server_gets_a_full_report_statusSent :
    let s := (start ({} : Network.Client) streamAgent "agent").after statusSent
    let actions := .run .loop (.received (.ok (some busyAnswer))) :: patience
    s.loop = .receiving StartSettings.defaultInterval ∧ s.isDistracted = false ∧
      busyAnswer.unavailable? = some { kind := .unavailable, retryAfter := some 1000000000 } ∧
      ∃ last sent, s.reports.getLast? = some last ∧ (s.after actions).reports = s.reports ++ sent ∧
        (∀ r ∈ sent, r.connectionStatuses ⊆
          s.state.outbox.connectionStatuses ++ (s.offerRuns actions).filterMap (·.status?)) ∧
        ∀ r rest, sent = r :: rest → ∃ v : Session Network.Client, r.parts = v.state.parts ∧
          v.state.outbox.Renews last.parts r.parts := by
  intro s actions
  obtain ⟨last, sent, hlast, hsent, hstatuses, hrest⟩ := busy_server_gets_a_full_report
    ({} : Network.Client) streamAgent "agent" statusSent patience StartSettings.defaultInterval
    busyAnswer { kind := .unavailable, retryAfter := some 1000000000 } loop_statusSent
    isDistracted_statusSent rfl
  refine ⟨loop_statusSent, isDistracted_statusSent, rfl, last, sent, hlast, hsent, hstatuses,
    fun r rest hr => ?_⟩
  obtain ⟨mid, a, later, -, -, -, hparts, hrenews, -⟩ :=
    (hrest (by simp [patience])).2 r rest hr
  exact ⟨_, hparts, hrenews⟩

/-- The server is busy when it has the report with the status. The full report after the wait has no
status, and is the last one of the session. -/
theorem busy_server_misses_a_status :
    let s := (start ({} : Network.Client) streamAgent "agent").after statusSent
    let u := s.after (.run .loop (.received (.ok (some busyAnswer))) :: patience)
    let t := u.after [.stop, .run .loop .look, .endStop]
    s.loop = .receiving StartSettings.defaultInterval ∧ s.isDistracted = false ∧
      busyAnswer.unavailable? = some { kind := .unavailable, retryAfter := some 1000000000 } ∧
      u.isStopping = false ∧ u.reports.length = s.reports.length + 1 ∧
      t.phase = .stopped ∧ t.reports = u.reports ∧
      s.reports.getLast?.map (·.connectionStatuses) =
        some [{ kind := .telemetry .metrics, verdict := .accepted }] ∧
      ∀ r ∈ t.reports.drop s.reports.length, r.connectionStatuses = [] :=
  ⟨loop_statusSent, isDistracted_statusSent, rfl, by decide, by decide, by decide, by decide,
    by decide, by decide⟩

end Loop

end Session

end ManagedAgent
