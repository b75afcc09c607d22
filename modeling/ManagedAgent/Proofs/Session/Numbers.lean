import ManagedAgent.Proofs.Session.LoopFrame
import ManagedAgent.Proofs.State.Operation

/-!
# The numbers of reports

An attempt is a report that goes out and, once it has ended, whether the server has taken it. Each
attempt has as its number how many reports the server has taken before: a report that was not taken
stays pending and keeps its number, and one that was taken makes room for the next.

* `State.Counts` : the state is about to send the report of a number;
* `Settles.between`, `Works.between`, `Rests.along` : the invariant over one go of the loop;
* `numbers_are_contiguous` : it holds over a whole session.
-/

set_option autoImplicit false

namespace ManagedAgent

/-! ## The next number -/

namespace State

/-- The server has taken `k` reports: the pending report has this number, or the next one will. -/
def Counts (k : Nat) (s : State) : Prop :=
  (s.outbox.pending = none ∧ s.sequence.issued = .ofNat k) ∨
    ∃ r, s.outbox.pending = some r ∧ r.sequenceNumber = .ofNat k ∧
      s.sequence.issued = .ofNat (k + 1)

variable {k : Nat} {s t : State}

theorem Counts.of_same (h : s.Counts k) (hs : Aspect.sequence.Same s t)
    (hp : Aspect.pending.Same s t) : t.Counts k := by
  have hs : t.sequence = s.sequence := hs
  have hp : t.outbox.pending = s.outbox.pending := hp
  unfold Counts
  rw [hs, hp]
  exact h

theorem pending_nextReport (s : State) :
    s.nextReport.2.outbox.pending = some s.nextReport.1 := rfl

theorem Counts.number_nextReport (h : s.Counts k) :
    s.nextReport.1.sequenceNumber = .ofNat k := by
  show s.base.1.sequenceNumber = _
  unfold base
  rcases h with ⟨hp, hi⟩ | ⟨r, hp, hr, -⟩
  · rw [hp]
    exact hi
  · rw [hp]
    exact hr

theorem Counts.nextReport (h : s.Counts k) : s.nextReport.2.Counts k := by
  refine .inr ⟨_, s.pending_nextReport, h.number_nextReport, ?_⟩
  show s.base.2.issued = _
  unfold base
  rcases h with ⟨hp, hi⟩ | ⟨r, hp, -, hi⟩
  · rw [hp]
    show s.sequence.issued + 1 = _
    rw [hi, UInt64.ofNat_add]
    rfl
  · rw [hp]
    exact hi

theorem Counts.delivered (h : s.Counts k) {r : Report} (hr : s.outbox.pending = some r) :
    (s.delivered r.sequenceNumber).Counts (k + 1) := by
  rw [delivered_of_confirmed (confirmed?_eq_some_iff.2 ⟨hr, rfl⟩)]
  rcases h with ⟨hp, -⟩ | ⟨_, -, -, hi⟩
  · rw [hp] at hr
    contradiction
  · exact .inl ⟨rfl, hi⟩

theorem counts_start (settings : StartSettings) (fresh : String) :
    (start settings fresh).Counts 0 := .inl ⟨rfl, rfl⟩

end State

/-! ## Attempts -/

/-- A report that went out, and whether the server has taken it. -/
abbrev Attempt := Report × Bool

def taken (attempts : List Attempt) : Nat := attempts.countP (·.2)

theorem taken_cons (a : Attempt) (attempts : List Attempt) :
    taken (a :: attempts) = taken attempts + if a.2 then 1 else 0 := List.countP_cons

theorem taken_append (earlier later : List Attempt) :
    taken (earlier ++ later) = taken earlier + taken later := List.countP_append

theorem taken_concat (attempts : List Attempt) (a : Attempt) :
    taken (attempts ++ [a]) = taken attempts + if a.2 then 1 else 0 := by
  rw [taken_append, taken_cons]
  exact congrArg _ (Nat.zero_add _)

/-- The attempts are found again in what they consist of. -/
theorem zip_attempts (attempts : List Attempt) (rest : List Report) :
    (attempts.map (·.1) ++ rest).zip (attempts.map (·.2)) = attempts := by
  induction attempts with
  | nil => exact List.zip_nil_right
  | cons a attempts ih =>
    rw [List.map_cons, List.map_cons, List.cons_append, List.zip_cons_cons, ih]

/-- Every attempt has as its number how many reports were taken before. -/
def WellNumbered (attempts : List Attempt) : Prop :=
  ∀ earlier a later, attempts = earlier ++ a :: later → a.1.sequenceNumber = .ofNat (taken earlier)

theorem wellNumbered_nil : WellNumbered [] := by
  intro earlier a later h
  simp at h

theorem WellNumbered.concat {attempts : List Attempt} (h : WellNumbered attempts) {a : Attempt}
    (ha : a.1.sequenceNumber = .ofNat (taken attempts)) : WellNumbered (attempts ++ [a]) := by
  intro earlier b later hb
  rcases List.eq_nil_or_concat later with rfl | ⟨later, c, rfl⟩
  · obtain ⟨rfl, hab⟩ := List.append_inj' hb rfl
    obtain rfl : a = b := by simpa using hab
    exact ha
  · have hb : attempts ++ [a] = (earlier ++ b :: later) ++ [c] := by rw [hb]; simp
    exact h earlier b later (List.append_inj' hb rfl).1

/-- The attempts that succeed are numbered through. -/
theorem WellNumbered.filter (earlier later : List Attempt) (h : WellNumbered (earlier ++ later)) :
    (later.filter (·.2)).map (·.1.sequenceNumber) =
      (List.range' (taken earlier) (taken later)).map .ofNat := by
  induction later generalizing earlier with
  | nil => rfl
  | cons a later ih =>
    have ha := h earlier a later rfl
    have ih := ih (earlier ++ [a]) (by rwa [List.append_assoc])
    rw [taken_concat] at ih
    obtain ⟨r, isTaken⟩ := a
    rw [taken_cons]
    cases isTaken with
    | false => exact ih
    | true =>
      rw [List.filter_cons_of_pos rfl, List.map_cons, ha, ih, if_pos rfl, List.range'_succ,
        List.map_cons]

namespace Session
variable {τ : Type}

def reports (s : Session τ) : List Report := s.history.filterMap Event.report?

/-- Between two attempts: all that have begun have ended. -/
structure Between (attempts : List Attempt) (s : Session τ) : Prop where
  reports : s.reports = attempts.map (·.1)
  numbered : WellNumbered attempts
  counts : s.state.Counts (taken attempts)

/-- All attempts but the one under way, if there is one, have ended. -/
structure Along (attempts : List Attempt) (s : Session τ) : Prop where
  numbered : WellNumbered attempts
  counts : s.state.Counts (taken attempts)
  reports : match s.loop.number? with
    | none => s.reports = attempts.map (·.1)
    | some number => ∃ r, s.state.outbox.pending = some r ∧ r.sequenceNumber = number ∧
        s.reports = attempts.map (·.1) ++ [r]

/-- The report under way is the pending one. -/
theorem Along.pending {attempts : List Attempt} {s : Session τ} (hs : Along attempts s) :
    ∀ number, s.loop.number? = some number →
      ∃ r, s.state.outbox.pending = some r ∧ r.sequenceNumber = number := by
  intro number hn
  have hr := hs.reports
  rw [hn] at hr
  obtain ⟨r, hp, hnum, -⟩ := hr
  exact ⟨r, hp, hnum⟩

namespace Scope

def silent : Scope where
  may a := a ≠ .state .sequence ∧ a ≠ .state .pending
  logs e := e.report? = none
  tasks _ := True

end Scope

section Silent
variable {s t : Session τ}

theorem Frame.reports (h : Frame .silent s t) : t.reports = s.reports := by
  obtain ⟨es, he, hes⟩ := h.logged
  unfold Session.reports
  rw [he, List.filterMap_append, List.filterMap_eq_nil_iff.2 hes, List.append_nil]

theorem reports_update (s : Session τ) (f : State → State) : (s.update f).reports = s.reports :=
  apply_update (·.reports) (fun _ => (Frame.emit _ (.ready .loop) rfl).reports) s f

theorem Frame.counts {k : Nat} (h : Frame .silent s t) (hs : s.state.Counts k) :
    t.state.Counts k :=
  hs.of_same (h.same (.state .sequence) fun h => h.1 rfl)
    (h.same (.state .pending) fun h => h.2 rfl)

theorem Frame.pending (h : Frame .silent s t) : t.state.outbox.pending = s.state.outbox.pending :=
  h.same (.state .pending) fun h => h.2 rfl

theorem Between.frame {attempts : List Attempt} (hs : Between attempts s)
    (h : Frame .silent s t) : Between attempts t where
  reports := h.reports.trans hs.reports
  numbered := hs.numbered
  counts := h.counts hs.counts

theorem Along.frame {attempts : List Attempt} (hs : Along attempts s) (h : Frame .silent s t)
    (hl : t.loop = s.loop) : Along attempts t where
  numbered := hs.numbered
  counts := h.counts hs.counts
  reports := by
    rw [hl, h.reports, h.pending]
    exact hs.reports

/-! ### Tasks and calls -/

/-- Of all events only an exchange and the sending of a report begin an attempt. -/
theorem Frame.silent_of {S : Scope} (h : Frame S s t) (hm : ∀ a, S.may a → Scope.silent.may a)
    (hx : ∀ r, ¬ S.logs (.exchanging r)) (hs : ∀ r, ¬ S.logs (.sending r)) :
    Frame .silent s t := by
  refine h.mono hm (fun e he => ?_) fun _ _ => trivial
  cases e with
  | exchanging r => exact absurd he (hx r)
  | sending r => exact absurd he (hs r)
  | _ => rfl

theorem Frame.silent_of_config (h : Frame .config s t) : Frame .silent s t :=
  h.silent_of (by simp [Scope.config, Scope.silent]) (fun _ => id) fun _ => id

theorem Frame.silent_of_offer {kind : ConnectionKind} (h : Frame (.offer kind) s t) :
    Frame .silent s t :=
  h.silent_of (by simp [Scope.offer, Scope.silent, or_imp, forall_and]) (fun _ => id) fun _ => id

theorem Frame.silent_of_packages (h : Frame .packages s t) : Frame .silent s t :=
  h.silent_of (by simp [Scope.packages, Scope.silent]) (fun _ => id) fun _ => id

theorem Frame.silent_of_command (h : Frame .command s t) : Frame .silent s t :=
  h.silent_of (fun _ => False.elim) (fun _ => id) fun _ => id

theorem Frame.silent_of_refresh (h : Frame .refresh s t) : Frame .silent s t :=
  h.silent_of (by simp [Scope.refresh, Scope.silent]) (fun _ => id) fun _ => id

theorem Frame.silent_of_work (h : Frame .work s t) : Frame .silent s t :=
  h.silent_of (by simp [Scope.work, Scope.silent]) (fun _ => id) fun _ => id

theorem Frame.silent_of_pause (h : Frame .pause s t) : Frame .silent s t :=
  h.silent_of (by simp [Scope.pause, Scope.silent]) (fun _ => id) fun _ => id

theorem Frame.silent_of_calls (h : Frame .calls s t) : Frame .silent s t :=
  h.silent_of (by simp [Scope.calls, Scope.silent]) (fun _ => id) fun _ => id

theorem Frame.silent_of_stop (h : Frame .stop s t) : Frame .silent s t :=
  h.silent_of (by simp [Scope.stop, Scope.silent]) (fun _ => id) fun _ => id

theorem frame_silent_dispatch (s : Session τ) (i : Instruction) :
    Frame .silent s (s.dispatch i) := by
  refine dispatch_induction (P := Frame .silent s) i ?_ ?_ ?_ ?_ s (.emit s _ rfl)
  · exact fun t c _ h => h.trans (frame_dispatchRemoteConfig t c).silent_of_config
  · exact fun t _ c h => h.trans (frame_dispatchOffer t c).silent_of_offer
  · exact fun t p h => h.trans (frame_dispatchPackages t p).silent_of_packages
  · exact fun t c h => h.trans (frame_dispatchCommand t c).silent_of_command

theorem frame_silent_runTask (s : Session τ) (id : Nat) (input : Input) :
    Frame .silent s (s.runTask id input) := by
  unfold runTask
  split
  · next h => exact (frame_runConfig s id _ _ h input).silent_of_config
  · next h => exact (frame_runOffer s id _ _ h input).silent_of_offer
  · next h => exact (frame_runPackages s id _ _ h input).silent_of_packages
  · next h => exact (frame_runCommand s id _ _ h input).silent_of_command
  · next h => exact (frame_runRefresh s id _ h input).silent_of_refresh
  · exact .refl s

end Silent

/-! ## One go of the loop -/

section Loop
variable [Transport τ] {s t : Session τ} {attempts : List Attempt}

/-- A report that was under way has ended, as the input says. -/
theorem Settles.between {input : Input} (h : Settles s input t) (hs : Along attempts s) :
    ∃ ended : List Attempt, Between (attempts ++ ended) t ∧
      ended.map (·.2) = (s.loop.outcome? input).toList := by
  -- The report under way is the pending one, and has the number of an attempt that ends now.
  have ends (number : UInt64) (b : Bool) (hn : s.loop.number? = some number) :
      ∃ r, s.state.outbox.pending = some r ∧ r.sequenceNumber = number ∧
        s.reports = (attempts ++ [(r, b)]).map (·.1) ∧ WellNumbered (attempts ++ [(r, b)]) := by
    have hr := hs.reports
    rw [hn] at hr
    obtain ⟨r, hp, hnum, hr⟩ := hr
    refine ⟨r, hp, hnum, by rw [hr, List.map_append]; rfl, hs.numbered.concat ?_⟩
    rcases hs.counts with ⟨hp', -⟩ | ⟨r', hp', hr', -⟩
    · rw [hp] at hp'
      contradiction
    · rw [hp] at hp'
      exact Option.some_inj.1 hp' ▸ hr'
  have missed (number : UInt64) (hn : s.loop.number? = some number)
      (ho : s.loop.outcome? input = some false) {u : Session τ} (hu : Frame .silent s u) :
      ∃ ended : List Attempt, Between (attempts ++ ended) u ∧
        ended.map (·.2) = (s.loop.outcome? input).toList := by
    obtain ⟨r, -, -, hr, hw⟩ := ends number false hn
    refine ⟨[(r, false)], Between.frame ⟨hr, hw, ?_⟩ hu, by rw [ho]; rfl⟩
    rw [taken_concat]
    exact hs.counts
  have took (number : UInt64) (hn : s.loop.number? = some number)
      (ho : s.loop.outcome? input = some true) {u : Session τ} (hu : Frame .silent s u) :
      ∃ ended : List Attempt, Between (attempts ++ ended) (u.update (·.delivered number)) ∧
        ended.map (·.2) = (s.loop.outcome? input).toList := by
    obtain ⟨r, hp, rfl, hr, hw⟩ := ends number true hn
    refine ⟨[(r, true)], ⟨?_, hw, ?_⟩, by rw [ho]; rfl⟩
    · rw [reports_update, hu.reports]
      exact hr
    · rw [state_update, taken_concat]
      exact (hu.counts hs.counts).delivered (hu.pending.trans hp)
  have reply (task : Nat) (r : Except TransportError Unit) : Frame .silent s (s.reply task r) :=
    .reply s task r (fun _ _ _ => trivial) rfl
  have restore (task : Nat) (previous : ConnectionSettings) (e : TransportError) :
      Frame .silent s (s.restore task previous e) :=
    .restore s task previous e (by simp [Scope.silent]) (fun _ _ _ => trivial) rfl rfl
  have none (hn : s.loop.number? = none) {u : Session τ} (hu : Frame .silent s u) :
      ∃ ended : List Attempt, Between (attempts ++ ended) u ∧
        ended.map (·.2) = (s.loop.outcome? input).toList := by
    have hr := hs.reports
    rw [hn] at hr
    rw [Loop.outcome?_eq_none hn]
    refine ⟨[], ?_, rfl⟩
    rw [List.append_nil]
    exact Between.frame ⟨hr, hs.numbered, hs.counts⟩ hu
  cases h with
  | nothing hn _ => exact none hn (.refl s)
  | missed number hn _ ho => exact missed number hn ho (.refl s)
  | taken number hn _ ho => exact took number hn ho (.refl s)
  | proved task previous number hn _ ho => exact took number hn ho (reply task _)
  | disproved task previous number e hn _ ho => exact missed number hn ho (restore task previous e)
  | switched task previous hn _ => exact none hn (reply task _)
  | unswitched task previous e hn _ => exact none hn (restore task previous e)

theorem Works.between (h : Works s t) (hs : Between attempts s) : Between attempts t :=
  hs.frame h.frame.silent_of_work

theorem Rests.along (h : Rests s t) (hs : Between attempts s) : Along attempts t := by
  rcases h.report_or_pause with ⟨hp, hn⟩ | ⟨u, l, e, hp, he, hl, rfl⟩
  · refine ⟨hs.numbered, hp.silent_of_pause.counts hs.counts, ?_⟩
    rw [hn]
    exact hp.silent_of_pause.reports.trans hs.reports
  · have hu := hs.frame hp.silent_of_pause
    refine ⟨hs.numbered, hu.counts.nextReport, ?_⟩
    show match l.number? with | none => _ | some number => _
    rw [hl]
    refine ⟨u.nextReport.1, u.state.pending_nextReport, rfl, ?_⟩
    show (u.history ++ [e]).filterMap Event.report? = _
    rw [List.filterMap_append, ← hu.reports, List.filterMap_cons, he]
    rfl

theorem Along.runLoop (hs : Along attempts s) (input : Input) :
    ∃ ended : List Attempt, Along (attempts ++ ended) (s.runLoop input) ∧
      ended.map (·.2) = (s.loop.outcome? input).toList := by
  rcases s.runLoop_cases input with ⟨ho, h⟩ | ⟨u, routed, hset, hgo⟩
  · rw [h, ho]
    exact ⟨[], by rwa [List.append_nil], rfl⟩
  · obtain ⟨ended, hu, ho⟩ := hset.between hs
    refine ⟨ended, hgo.elim (fun _ _ => Works.between) ?_ (fun _ _ => Rests.along) hu, ho⟩
    exact fun s i hs => hs.frame (frame_silent_dispatch s i)

end Loop

/-! ## A whole session -/

section Session

section Outcome
variable [Carrier τ] {s : Session τ}

def Action.outcome? (s : Session τ) : Action τ → Option Bool
  | .run .loop input => s.loop.outcome? input
  | _ => none

theorem Action.outcome?_eq_none (h : s.loop.number? = none) (a : Action τ) :
    a.outcome? s = none := by
  cases a with
  | run actor input =>
    cases actor with
    | loop => exact Loop.outcome?_eq_none h input
    | task => rfl
  | _ => rfl

end Outcome

variable [Transport τ] [Carrier τ] {s : Session τ} {attempts : List Attempt}

def outcomes (s : Session τ) : List (Action τ) → List Bool
  | [] => []
  | a :: rest => (a.outcome? s).toList ++ (s.act a).outcomes rest

theorem outcomes_append (s : Session τ) (before later : List (Action τ)) :
    s.outcomes (before ++ later) = s.outcomes before ++ (s.after before).outcomes later := by
  induction before generalizing s with
  | nil => rfl
  | cons a before ih =>
    rw [List.cons_append, outcomes, outcomes, ih, List.append_assoc]
    rfl

theorem Along.act (hs : Along attempts s) (a : Action τ) :
    ∃ ended : List Attempt, Along (attempts ++ ended) (s.act a) ∧
      ended.map (·.2) = (a.outcome? s).toList := by
  have quiet {t : Session τ} (h : Frame .silent s t) (hl : t.loop = s.loop) :
      ∃ ended : List Attempt, Along (attempts ++ ended) t ∧ ended.map (·.2) = [] :=
    ⟨[], by rw [List.append_nil]; exact hs.frame h hl, rfl⟩
  by_cases hc : a.isCall = true
  · have h := frame_act s a hc
    have ho : a.outcome? s = none := by
      cases a with
      | run => cases hc
      | _ => rfl
    rw [ho]
    exact quiet h.silent_of_calls (h.same .loop (by simp [Scope.calls]))
  · cases a with
    | run actor input =>
      cases actor with
      | loop => exact hs.runLoop input
      | task id => exact quiet (frame_silent_runTask s id input) (loop_runTask s id input)
    | use u => exact quiet (.setTransport s _ (by simp [Scope.silent])) rfl
    | setInterval d => exact quiet (.setTransport s _ (by simp [Scope.silent])) rfl
    | stop =>
      have h := frame_stop s
      exact quiet h.silent_of_stop (h.same .loop (by simp [Scope.stop]))
    | _ => exact absurd rfl hc

theorem Along.after (hs : Along attempts s) (actions : List (Action τ)) :
    ∃ ended : List Attempt, Along (attempts ++ ended) (s.after actions) ∧
      ended.map (·.2) = s.outcomes actions := by
  induction actions generalizing s attempts with
  | nil => exact ⟨[], by rwa [List.append_nil], rfl⟩
  | cons a rest ih =>
    obtain ⟨first, hfirst, hf⟩ := hs.act a
    obtain ⟨others, hothers, ho⟩ := ih hfirst
    refine ⟨first ++ others, by rwa [← List.append_assoc], ?_⟩
    rw [List.map_append, hf, ho]
    rfl

/-- **The numbers of reports are contiguous.** In the course of a session with fewer than `2 ^ 64`
reports, those that the server takes have the numbers 0, 1, 2 and so on, and a report that it does
not take has the number of the next one that it takes. -/
theorem numbers_are_contiguous (transport : τ) (settings : StartSettings) (fresh : String)
    (actions : List (Action τ))
    (h : ((start transport settings fresh).after actions).reports.length < UInt64.size) :
    let t := (start transport settings fresh).after actions
    let outcomes := (start transport settings fresh).outcomes actions
    let attempts := t.reports.zip outcomes
    t.reports.length = outcomes.length + (if t.loop.number?.isSome then 1 else 0) ∧
      (attempts.filter (·.2)).map (·.1.sequenceNumber.toNat) = List.range (taken attempts) ∧
      ∀ earlier missed between took later,
        attempts = earlier ++ (missed, false) :: (between ++ (took, true) :: later) →
          (∀ a ∈ between, a.2 = false) → missed.sequenceNumber = took.sequenceNumber := by
  intro t outcomes attempts
  have hs : Along [] (start transport settings fresh) :=
    ⟨wellNumbered_nil, State.counts_start settings fresh, rfl⟩
  obtain ⟨ended, ht, ho⟩ := hs.after actions
  rw [List.nil_append] at ht
  have ho : outcomes = ended.map (·.2) := ho.symm
  obtain ⟨flying, hr, hf⟩ : ∃ flying, t.reports = ended.map (·.1) ++ flying ∧
      flying.length = if t.loop.number?.isSome then 1 else 0 := by
    have hr := ht.reports
    cases hn : t.loop.number? with
    | none =>
      rw [hn] at hr
      exact ⟨[], by rw [List.append_nil]; exact hr, rfl⟩
    | some number =>
      rw [hn] at hr
      obtain ⟨r, -, -, hr⟩ := hr
      exact ⟨[r], hr, rfl⟩
  have ha : attempts = ended := by
    show t.reports.zip outcomes = ended
    rw [hr, ho, zip_attempts]
  have hw : WellNumbered attempts := ha ▸ ht.numbered
  refine ⟨by rw [hr, ho, List.length_append, List.length_map, List.length_map, hf], ?_, ?_⟩
  · have hn := WellNumbered.filter [] attempts hw
    have hlt : taken attempts < UInt64.size := by
      have hc : taken attempts ≤ attempts.length := List.countP_le_length
      have hl : t.reports.length = attempts.length + flying.length := by
        rw [hr, ha, List.length_append, List.length_map]
      have h : t.reports.length < UInt64.size := h
      omega
    have hn := congrArg (List.map UInt64.toNat) hn
    rw [List.map_map, List.map_map] at hn
    refine hn.trans ?_
    rw [List.range_eq_range']
    refine (List.map_congr_left fun k hk => ?_).trans (List.map_id _)
    have hk : k < taken attempts := by
      have := (List.mem_range'_1.1 hk).2
      rwa [show taken [] = 0 from rfl, Nat.zero_add] at this
    exact UInt64.toNat_ofNat_of_lt' (Nat.lt_trans hk hlt)
  · intro earlier missed between took later hsplit hb
    have hm := hw earlier (missed, false) _ hsplit
    have hk := hw (earlier ++ (missed, false) :: between) (took, true) later (by simpa using hsplit)
    have hz : taken between = 0 := by
      refine List.countP_eq_zero.2 fun a hm => ?_
      rw [hb a hm]
      exact Bool.false_ne_true
    rw [hm, hk, taken_append, taken_cons, hz]
    rfl

/-- A polling session whose first exchange fails; the next one succeeds. -/
def retried : List (Action Http.Sender) :=
  [.run .loop .look, .run .loop (.answered (.effective (.error .cancelled))),
    .run .loop (.exchanged (.error .closed)), .setTime 30000, .run .loop .look,
    .run .loop (.exchanged (.ok none)), .setTime 60000, .run .loop .look]

theorem numbers_are_contiguous_retried :
    let t := (start ({} : Http.Sender) { serverUrl := "http://a" } "agent").after retried
    let outcomes := (start ({} : Http.Sender) { serverUrl := "http://a" } "agent").outcomes retried
    t.reports.map (·.sequenceNumber) = [0, 0, 1] ∧ outcomes = [false, true] ∧
      ((t.reports.zip outcomes).filter (·.2)).map (·.1.sequenceNumber.toNat) =
        List.range (taken (t.reports.zip outcomes)) :=
  ⟨by decide, by decide, (numbers_are_contiguous _ _ _ retried (by decide)).2.1⟩

end Session

end Session

end ManagedAgent
