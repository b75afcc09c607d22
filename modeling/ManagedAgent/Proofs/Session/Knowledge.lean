import ManagedAgent.Proofs.Session.BackOff

/-!
# What the server knows of a session

What the server knows are the parts of the reports that it has taken, a later one over an earlier
one. The reports that it has not taken are merged into the pending one, so that with the pending
report it would know what all reports tell (`Completes`). The last report tells of every part what
the session had when it was assembled, and with its delivery the server knows that.

* `Part.Told.carry_or` : a part that a report leaves out needs none of the reports that got lost;
* `Completes.runLoop` : the invariant over one go of the loop;
* `told_landing` : what the server knows after a delivery;
* `told_act` : what all reports tell when one is assembled;
* `Known.act` : what holds from one action to the next.
-/

set_option autoImplicit false

namespace ManagedAgent

/-! ## Lost reports -/

/-- Whoever has a copy that the pending report completes gets to the same with the next one. -/
theorem Part.Told.carry_or {α : Type} {p : Part α} {begun : Prop} {carried told copy : Option α}
    (h : p.Told begun carried told) (hc : carried.or copy = told) (full : Bool) :
    (p.carry full carried).or copy = (p.carry full carried).or told := by
  cases hx : p.carry full carried with
  | some a => rfl
  | none =>
    rw [Option.none_or, Option.none_or]
    unfold carry at hx
    split at hx
    · rw [h.unsent hx] at hc ⊢
      exact (Option.or_eq_none_iff.1 hc).2
    · rw [hx, Option.none_or] at hc
      exact hc

theorem Outbox.Told.receive_nextReport {s : State} {begun : Prop} {told copy : Parts}
    (h : s.outbox.Told begun told) (hc : copy.receive s.outbox.carried = told) :
    copy.receive s.nextReport.1.parts = told.receive s.nextReport.1.parts := by
  have hb := s.parts_base
  subst hc
  have hd := h.description.carry_or rfl s.outbox.fullState
  have hh := h.health.carry_or rfl s.outbox.fullState
  have he := h.effectiveConfig.carry_or rfl s.outbox.fullState
  have hr := h.remoteConfigStatus.carry_or rfl s.outbox.fullState
  have hp := h.packageStatuses.carry_or rfl s.outbox.fullState
  rw [← hb] at hd hh he hr hp ⊢
  show Parts.mk _ _ _ _ _ = Parts.mk _ _ _ _ _
  rw [Parts.mk.injEq]
  exact ⟨hd, hh, he, hr, hp⟩

/-- A configuration that is in force is replaced, and never taken away. -/
theorem State.Changes.isSome_effectiveConfig {s t : State} (h : s.Changes t)
    (hs : s.outbox.effectiveConfig.value.isSome) : t.outbox.effectiveConfig.value.isSome := by
  refine h.induction (P := fun u => u.outbox.effectiveConfig.value.isSome) (fun u op ho hu => ?_) hs
  cases op with
  | nextReport => contradiction
  | delivered number =>
    show (u.delivered number).outbox.effectiveConfig.value.isSome
    cases hc : u.confirmed? number with
    | none => rwa [delivered_of_not_confirmed hc]
    | some r =>
      rw [delivered_of_confirmed hc]
      exact hu
  | setEffectiveConfig c =>
    show (u.setEffectiveConfig c).2.outbox.effectiveConfig.value.isSome
    rcases u.setEffectiveConfig_snd c with h | h
    · rwa [h]
    · rw [h]
      rfl
  | endSync hash outcome =>
    show (u.endSync hash outcome).outbox.effectiveConfig.value.isSome
    unfold endSync
    dsimp only
    split <;> exact hu
  | _ => exact hu

namespace Session
variable {τ : Type} {s t : Session τ} {taken : List Report} {statuses : List ConnectionStatus}

/-- What the taken reports tell, and over it the pending one, is what all reports tell. -/
def Completes (taken : List Report) (s : Session τ) : Prop :=
  (Parts.told taken).receive s.state.outbox.carried = Parts.told s.reports

theorem Completes.of_same (hs : s.Completes taken)
    (hp : t.state.outbox.pending = s.state.outbox.pending) (hr : t.reports = s.reports) :
    t.Completes taken := by
  unfold Completes Outbox.carried
  rw [hp, hr]
  exact hs

theorem Completes.silent (hs : s.Completes taken) (h : Frame .silent s t) : t.Completes taken :=
  hs.of_same h.pending h.reports

/-- A report is assembled. -/
theorem Completes.report (hs : s.Completes taken) (ht : s.Tells statuses) (l : Loop) {e : Event}
    (he : e.report? = some s.nextReport.1) :
    ({ s.nextReport.2 with loop := l }.emit e).Completes taken := by
  unfold Completes
  rw [reports_report s l he, Parts.told_concat]
  exact ht.told.receive_nextReport hs

/-- The pending report is delivered. -/
theorem Completes.deliver (hs : s.Completes taken) {r : Report}
    (hr : s.state.outbox.pending = some r) : Parts.told (taken ++ [r]) = Parts.told s.reports := by
  have hc : s.state.outbox.carried = r.parts := by
    unfold Outbox.carried
    rw [hr]
  rw [Parts.told_concat, ← hc]
  exact hs

/-- What the server knows after an attempt has ended. -/
theorem Completes.told_landing (hs : s.Completes taken) {outcome : Option Bool}
    (hp : outcome = some true → s.state.outbox.pending ≠ none) :
    Parts.told (taken ++ s.landing outcome) =
      if outcome = some true then Parts.told s.reports else Parts.told taken := by
  unfold landing
  split
  · next ho =>
    obtain ⟨r, hr⟩ := Option.ne_none_iff_exists'.1 (hp ho)
    rw [hr]
    exact hs.deliver hr
  · rw [List.append_nil]

section Loop
variable [Transport τ]

theorem Settles.completes {input : Input} (h : Settles s input t) (hs : s.Completes taken)
    (hp : ∀ number, s.loop.number? = some number →
      ∃ r, s.state.outbox.pending = some r ∧ r.sequenceNumber = number) :
    t.Completes (taken ++ s.landing (s.loop.outcome? input)) := by
  have missed {u : Session τ} (ho : s.loop.outcome? input ≠ some true) (hu : u.Completes taken) :
      u.Completes (taken ++ s.landing (s.loop.outcome? input)) := by
    unfold landing
    rw [if_neg ho, List.append_nil]
    exact hu
  have took {u : Session τ} (number : UInt64) (hn : s.loop.number? = some number)
      (ho : s.loop.outcome? input = some true) (hu : Frame .silent s u) :
      (u.update (·.delivered number)).Completes
        (taken ++ s.landing (s.loop.outcome? input)) := by
    obtain ⟨r, hr, rfl⟩ := hp number hn
    have hstate : (u.update (·.delivered r.sequenceNumber)).state.outbox.pending = none := by
      rw [state_update, State.delivered_of_confirmed
        (State.confirmed?_eq_some_iff.2 ⟨hu.pending.trans hr, rfl⟩)]
    unfold Completes Outbox.carried
    rw [hstate, reports_update, hu.reports, hs.told_landing fun _ => by simp [hr], if_pos ho]
    rfl
  have reply (task : Nat) (r : Except TransportError Unit) : Frame .silent s (s.reply task r) :=
    .reply s task r (fun _ _ _ => trivial) rfl
  have restore (task : Nat) (previous : ConnectionSettings) (e : TransportError) :
      Frame .silent s (s.restore task previous e) :=
    .restore s task previous e (by simp [Scope.silent]) (fun _ _ _ => trivial) rfl rfl
  cases h with
  | nothing hn => exact missed (by simp [Loop.outcome?_eq_none hn]) hs
  | missed _ _ _ ho => exact missed (by simp [ho]) hs
  | taken number hn _ ho => exact took number hn ho (.refl s)
  | proved task _ number hn _ ho => exact took number hn ho (reply task _)
  | disproved task previous _ e _ _ ho =>
    exact missed (by simp [ho]) (hs.silent (restore task previous e))
  | switched task _ hn =>
    exact missed (by simp [Loop.outcome?_eq_none hn]) (hs.silent (reply task _))
  | unswitched task previous e hn =>
    exact missed (by simp [Loop.outcome?_eq_none hn]) (hs.silent (restore task previous e))

theorem Rests.completes (h : Rests s t) (hs : s.Completes taken) (ht : s.Tells statuses) :
    t.Completes taken := by
  rcases h.report_or_pause with ⟨hp, -⟩ | ⟨u, l, e, hp, he, -, rfl⟩
  · exact hs.silent hp.silent_of_pause
  · have hu : u.Tells statuses := ht.frame hp (by simp [reported, Scope.pause])
      (Scope.report?_eq_none (fun _ h => h) fun _ h => h)
    exact (hs.silent hp.silent_of_pause).report hu l he

theorem Completes.runLoop (hs : s.Completes taken) (ht : s.Tells statuses)
    (hp : ∀ number, s.loop.number? = some number →
      ∃ r, s.state.outbox.pending = some r ∧ r.sequenceNumber = number) (input : Input) :
    (s.runLoop input).Completes (taken ++ s.landing (s.loop.outcome? input)) := by
  rcases s.runLoop_cases input with ⟨ho, h⟩ | ⟨u, routed, hset, hgo⟩
  · rw [ho, h]
    exact (List.append_nil taken).symm ▸ hs
  · refine hgo.elim (M := fun u => u.Tells statuses ∧
      u.Completes (taken ++ s.landing (s.loop.outcome? input))) ?_ ?_ ?_
      ⟨hset.tells ht, hset.completes hs hp⟩
    · exact fun u v h hu => ⟨h.tells hu.1, hu.2.silent h.frame.silent_of_work⟩
    · exact fun u i hu => ⟨tells_dispatch hu.1 i, hu.2.silent (frame_silent_dispatch u i)⟩
    · exact fun u v h hu => h.completes hu.2 hu.1

end Loop

/-! ## From one action to the next -/

section Course
variable {attempts : List Attempt}

/-- The attempts that have ended, what the reports tell, and what the server knows. -/
structure Known (attempts : List Attempt) (s : Session τ) : Prop where
  along : Along attempts s
  tells : s.Tells []
  completes : s.Completes (takenReports attempts)

theorem known_start (transport : τ) (settings : StartSettings) (fresh : String) :
    Known [] (start transport settings fresh) where
  along := ⟨wellNumbered_nil, State.counts_start settings fresh, rfl⟩
  tells := tells_start transport settings fresh
  completes := rfl

variable [Carrier τ]

theorem landing_of_not_loop {a : Action τ} (h : a.isLoop = false) :
    s.landing (a.outcome? s) = [] := by
  cases a with
  | run actor input =>
    cases actor with
    | loop => contradiction
    | task => rfl
  | _ => rfl

variable [Transport τ]

theorem Tells.act (hs : s.Tells statuses) (a : Action τ) : (s.act a).Tells statuses := by
  rcases a.loop_cases with ⟨input, rfl⟩ | h
  · exact tells_runLoop hs input
  · exact tells_act hs a h

/-- When a report is assembled, all reports together tell what the session has. -/
theorem told_act (hs : s.Tells statuses) {a : Action τ} (h : (s.act a).reports ≠ s.reports) :
    Parts.told (s.act a).reports = (s.act a).state.parts := by
  obtain ⟨r, hr, -, hchanged⟩ := (reports_act s a).resolve_left h
  exact (hs.act a).told.eq_parts (hr ▸ List.concat_ne_nil _ _) hchanged

theorem Completes.act (hs : s.Completes taken) (ht : s.Tells statuses) (ha : Along attempts s)
    (a : Action τ) : (s.act a).Completes (taken ++ s.landing (a.outcome? s)) := by
  rcases a.loop_cases with ⟨input, rfl⟩ | h
  · exact hs.runLoop ht ha.pending input
  · rw [landing_of_not_loop h, List.append_nil]
    have hb := frame_beside s a h
    exact hs.of_same (hb.same (.state .pending) (by simp [Scope.beside]))
      (hb.filterMap_history fun _ he => he)

/-- Once an attempt has brought the server a report, the server knows what all reports tell. -/
theorem Known.act (hs : Known attempts s) (a : Action τ) : ∃ ended,
    Known (attempts ++ ended) (s.act a) ∧ ended.map (·.2) = (a.outcome? s).toList ∧
      Parts.told (takenReports (attempts ++ ended)) =
        if a.outcome? s = some true then Parts.told s.reports
        else Parts.told (takenReports attempts) := by
  obtain ⟨ended, hend, ho⟩ := hs.along.act a
  have htaken : takenReports (attempts ++ ended) =
      takenReports attempts ++ s.landing (a.outcome? s) := by
    rw [takenReports_append, hs.along.takenReports_act hend ho]
  refine ⟨ended, ⟨hend, hs.tells.act a, ?_⟩, ho, ?_⟩
  · rw [htaken]
    exact hs.completes.act hs.tells hs.along a
  · rw [htaken]
    refine hs.completes.told_landing fun hout => ?_
    have hloop : s.loop.number? ≠ none := fun hn => by
      rw [Action.outcome?_eq_none hn a] at hout
      contradiction
    obtain ⟨number, hn⟩ := Option.ne_none_iff_exists'.1 hloop
    obtain ⟨r, hr, -⟩ := hs.along.pending number hn
    exact hr ▸ nofun

theorem Known.after (hs : Known attempts s) (actions : List (Action τ)) : ∃ ended,
    Known (attempts ++ ended) (s.after actions) ∧ ended.map (·.2) = s.outcomes actions := by
  induction actions generalizing s attempts with
  | nil => exact ⟨[], by rwa [List.append_nil], rfl⟩
  | cons a rest ih =>
    obtain ⟨first, hfirst, hf, -⟩ := hs.act a
    obtain ⟨others, hothers, ho⟩ := ih hfirst
    refine ⟨first ++ others, by rwa [← List.append_assoc], ?_⟩
    rw [List.map_append, hf, ho]
    rfl

omit [Carrier τ] in
theorem isSome_effectiveConfig_runLoop (hs : s.state.outbox.effectiveConfig.value.isSome)
    (input : Input) : (s.runLoop input).state.outbox.effectiveConfig.value.isSome := by
  have same {u v : Session τ}
      (h : v.state.outbox.effectiveConfig.value = u.state.outbox.effectiveConfig.value)
      (hu : u.state.outbox.effectiveConfig.value.isSome) :
      v.state.outbox.effectiveConfig.value.isSome := by rwa [h]
  rcases s.runLoop_cases input with ⟨-, h⟩ | ⟨u, routed, hset, hgo⟩
  · rwa [h]
  · refine hgo.elim (M := fun u => u.state.outbox.effectiveConfig.value.isSome)
      (P := fun u => u.state.outbox.effectiveConfig.value.isSome) ?_ ?_ ?_
      (hset.changes.isSome_effectiveConfig hs)
    · exact fun u v h => h.changes.isSome_effectiveConfig
    · exact fun u i => same ((frame_dispatch u i).same (.state .effectiveConfig) id)
    · exact fun u v h => same (h.frame.same (.state .effectiveConfig) (by simp [Scope.rest]))

/-- A session that has a configuration in force keeps one. -/
theorem isSome_effectiveConfig_act (a : Action τ)
    (hs : s.state.outbox.effectiveConfig.value.isSome) :
    (s.act a).state.outbox.effectiveConfig.value.isSome := by
  rcases a.loop_cases with ⟨input, rfl⟩ | h
  · exact isSome_effectiveConfig_runLoop hs input
  · cases announces_act s a h with
    | quiet ho => rwa [ho]
    | wakes u hc ht =>
      rw [ht]
      exact hc.isSome_effectiveConfig hs
    | adopts c _ _ ht =>
      rw [ht]
      exact (State.Changes.of_ops [.setEffectiveConfig c] (by simp)).isSome_effectiveConfig hs

end Course

end Session

end ManagedAgent
