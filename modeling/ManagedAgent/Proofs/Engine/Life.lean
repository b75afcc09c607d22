import ManagedAgent.Proofs.Session.Closed

/-!
# The life of an engine

A `Life` is an engine with the calls to start and to stop that were made. A call to stop has a role
from its beginning and comes to a result when it is found to be over. The steps may come in any
order: any number of callers, with whatever happens in the session between them.

* `Life.closed_step` : every step keeps a closed session closed, and hushed;
* `Life.Sound` : one start at most has succeeded, and the session that a call to stop has drained is
  closed; every step keeps it;
* `stopped_sessions_stay_silent` : what a drained session never does again.
-/

set_option autoImplicit false

namespace ManagedAgent

structure Stopper where
  role : StopRole
  /-- The caller's patience has run out. -/
  isCancelled : Bool := false
  /-- What the call has come to, unless it still waits. -/
  result : Option (Except ClientError Unit) := none

structure Life (τ : Type) where
  engine : Engine τ
  /-- What the calls to start have come to. -/
  starts : List (Except ClientError Unit) := []
  stops : List Stopper := []

namespace Life
variable {τ : Type} [Transport τ] [Carrier τ]

inductive Step (τ : Type) [Carrier τ] where
  | start (settings : StartSettings) (fresh : String) (hasHandlers canSpawn : Bool)
  | stop (isCancelled : Bool)
  /-- The call to stop of this number sees whether it is over. -/
  | continueStop (n : Nat)
  /-- The patience of its caller runs out. -/
  | cancelStop (n : Nat)
  | setInterval (d : Duration)
  /-- Whatever can happen in a session happens in the one there is. -/
  | within (a : Session.Action τ)

def step (l : Life τ) : Step τ → Life τ
  | .start settings fresh hasHandlers canSpawn =>
    let (result, engine) := l.engine.start settings fresh hasHandlers canSpawn
    { l with engine, starts := l.starts ++ [result] }
  | .stop isCancelled =>
    let (role, engine) := l.engine.beginStop
    { l with engine, stops := l.stops ++ [{ role, isCancelled }] }
  | .continueStop n =>
    match l.stops[n]? with
    | some ⟨role, isCancelled, none⟩ =>
      let (result, engine) := l.engine.continueStop isCancelled role
      { l with engine, stops := l.stops.set n ⟨role, isCancelled, result⟩ }
    | _ => l
  | .cancelStop n => { l with stops := l.stops.modify n fun c => { c with isCancelled := true } }
  | .setInterval d => { l with engine := l.engine.setInterval d }
  | .within a => { l with engine := l.engine.modify (·.act a) }

def after (l : Life τ) (steps : List (Step τ)) : Life τ := steps.foldl step l

def new (transport : τ) : Life τ := { engine := .idle transport }

/-! ## A closed session -/

/-- There is a session, it is closed, and since `s` it was hushed. -/
def ClosedSince (s : Session τ) (e : Engine τ) : Prop :=
  ∃ t, e = .started t ∧ t.Closed ∧ Session.Hushed s t

omit [Transport τ] [Carrier τ] in
theorem closed_continueStop {s t : Session τ} (ht : t.Closed) (h : Session.Hushed s t)
    (isCancelled : Bool) (role : StopRole) :
    ClosedSince s ((Engine.started t).continueStop isCancelled role).2 := by
  have keep : ClosedSince s (.started t) := ⟨t, rfl, ht, h⟩
  have stopped : t.markStopped.Closed := ⟨rfl, ht.loop, ht.untracked, ht.numbered⟩
  have aborted : t.abort.Closed := ⟨ht.phase, ht.loop, ht.untracked, ht.numbered⟩
  have cut : t.abort.markStopped.Closed := ⟨rfl, ht.loop, ht.untracked, ht.numbered⟩
  unfold Engine.continueStop
  cases role with
  | notStarted => exact keep
  | nothing => exact keep
  | drain =>
    dsimp only
    split
    · exact ⟨_, rfl, stopped, h.reports, h.begun⟩
    · split
      · exact ⟨_, rfl, cut, h.reports, h.begun⟩
      · exact keep
  | wait =>
    dsimp only
    split
    · exact keep
    · split
      · exact ⟨_, rfl, aborted, h.reports, h.begun⟩
      · exact keep

/-- Whoever calls, and whatever happens: a closed session stays closed. -/
theorem closed_step {s : Session τ} {l : Life τ} (hl : ClosedSince s l.engine) (x : Step τ) :
    ClosedSince s (l.step x).engine := by
  obtain ⟨t, he, ht, h⟩ := hl
  cases x with
  | start settings fresh hasHandlers canSpawn =>
    show ClosedSince s (l.engine.start settings fresh hasHandlers canSpawn).2
    rw [he]
    exact ⟨t, rfl, ht, h⟩
  | stop isCancelled =>
    show ClosedSince s l.engine.beginStop.2
    have hb : (Engine.started t).beginStop = (.nothing, .started t) := by
      unfold Engine.beginStop
      dsimp only
      rw [ht.phase]
    rw [he, hb]
    exact ⟨t, rfl, ht, h⟩
  | continueStop n =>
    unfold step
    dsimp only
    split
    · next role isCancelled _ =>
      rw [he]
      exact closed_continueStop ht h isCancelled role
    · exact ⟨t, he, ht, h⟩
  | cancelStop n => exact ⟨t, he, ht, h⟩
  | setInterval d =>
    show ClosedSince s (l.engine.setInterval d)
    rw [he]
    have hact := ht.act (.setInterval d)
    exact ⟨_, rfl, hact.1, h.trans hact.2⟩
  | within a =>
    show ClosedSince s (l.engine.modify (·.act a))
    rw [he]
    exact ⟨_, rfl, (ht.act a).1, h.trans (ht.act a).2⟩

theorem closed_after {s : Session τ} {l : Life τ} (hl : ClosedSince s l.engine)
    (steps : List (Step τ)) : ClosedSince s (l.after steps).engine := by
  induction steps generalizing l with
  | nil => exact hl
  | cons x rest ih => exact ih (closed_step hl x)

/-! ## Starting and stopping -/

omit [Transport τ] [Carrier τ] in
/-- A call that has drained the session leaves it closed. -/
theorem closed_of_drained {e : Engine τ} (hn : ∀ s, e = .started s → s.Numbered)
    {isCancelled : Bool} (h : (e.continueStop isCancelled .drain).1 = some (.ok ())) :
    ∃ s, (e.continueStop isCancelled .drain).2 = .started s ∧ s.Closed := by
  unfold Engine.continueStop at h ⊢
  dsimp only at h ⊢
  split
  · next hd =>
    cases e with
    | idle => exact absurd hd (by simp [Engine.isDrained, Engine.session?])
    | started s =>
      have hd : s.isDrained = true := by simpa [Engine.isDrained, Engine.session?] using hd
      exact ⟨_, rfl, Session.closed_markStopped hd (hn s rfl)⟩
  · next hd =>
    rw [if_neg hd] at h
    split at h
    · cases h
    · cases h

/-- There is a session after a step if there was one before, and its tasks stay numbered. -/
structure Keeps (e e' : Engine τ) : Prop where
  session : e'.session?.isSome = e.session?.isSome
  numbered : (∀ s, e = .started s → s.Numbered) → ∀ s, e' = .started s → s.Numbered

omit [Transport τ] [Carrier τ] in
theorem Keeps.refl (e : Engine τ) : Keeps e e := ⟨rfl, id⟩

omit [Transport τ] [Carrier τ] in
theorem keeps_idle (transport t : τ) : Keeps (.idle transport) (.idle t) :=
  ⟨rfl, fun _ _ h => by cases h⟩

omit [Transport τ] [Carrier τ] in
theorem keeps_modify (e : Engine τ) {f : Session τ → Session τ}
    (hf : ∀ s, s.Numbered → (f s).Numbered) : Keeps e (e.modify f) := by
  cases e with
  | idle => exact .refl _
  | started s =>
    refine ⟨rfl, fun h t ht => ?_⟩
    obtain rfl : f s = t := by injection ht
    exact hf s (h s rfl)

omit [Transport τ] [Carrier τ] in
theorem numbered_start (transport : τ) (settings : StartSettings) (fresh : String) :
    (Session.start transport settings fresh).Numbered := by
  intro id x h
  have h : ({} : Table Nat Task).get? id = some x := h
  rw [Table.get?_empty] at h
  cases h

omit [Carrier τ] in
/-- A start fails and leaves the sessions alone, or it is the first one to succeed. -/
theorem start_cases (e : Engine τ) (settings : StartSettings) (fresh : String)
    (hasHandlers canSpawn : Bool) :
    let r := e.start settings fresh hasHandlers canSpawn
    (r.1.isOk = false ∧ Keeps e r.2) ∨
      (r.1.isOk = true ∧ e.session? = none ∧ ∃ s, r.2 = .started s ∧ s.Numbered) := by
  cases e with
  | started s => exact .inl ⟨rfl, .refl _⟩
  | idle transport =>
    unfold Engine.start
    dsimp only
    split
    · exact .inl ⟨rfl, keeps_idle _ _⟩
    · split
      · exact .inl ⟨rfl, keeps_idle _ _⟩
      · split
        · exact .inl ⟨rfl, keeps_idle _ _⟩
        · exact .inr ⟨rfl, rfl, _, rfl, numbered_start _ _ _⟩

omit [Transport τ] [Carrier τ] in
theorem keeps_continueStop (e : Engine τ) (isCancelled : Bool) (role : StopRole) :
    Keeps e (e.continueStop isCancelled role).2 := by
  unfold Engine.continueStop
  cases role with
  | notStarted | nothing => exact .refl e
  | drain | wait =>
    dsimp only
    split
    · first | exact keeps_modify e fun _ h => h | exact .refl e
    · split
      · exact keeps_modify e fun _ h => h
      · exact .refl e

omit [Transport τ] [Carrier τ] in
theorem keeps_beginStop (e : Engine τ) : Keeps e e.beginStop.2 := by
  unfold Engine.beginStop
  split
  · exact .refl _
  · next s =>
    split
    · exact .refl _
    · exact .refl _
    · refine keeps_modify (.started s) fun s h => ?_
      unfold Session.requestStop
      dsimp only
      split <;> exact h

/-- What holds all through the life of an engine. -/
structure Sound (l : Life τ) : Prop where
  /-- There is a session for every start that has succeeded, and one at most. -/
  starts : l.starts.countP Except.isOk = l.engine.session?.isSome.toNat
  numbered : ∀ s, l.engine = .started s → s.Numbered
  drained : ∀ c ∈ l.stops, c.role = .drain → c.result = some (.ok ()) →
    ∃ s, l.engine = .started s ∧ s.Closed

omit [Transport τ] [Carrier τ] in
/-- A step that is no call to start. -/
theorem Sound.keep {l m : Life τ} (hl : l.Sound) (he : Keeps l.engine m.engine)
    (hs : m.starts = l.starts)
    (hd : ∀ c ∈ m.stops, c.role = .drain → c.result = some (.ok ()) →
      ∃ s, m.engine = .started s ∧ s.Closed) : m.Sound where
  starts := by rw [hs, he.session, hl.starts]
  numbered := he.numbered hl.numbered
  drained := hd

theorem Sound.start {l : Life τ} (hl : l.Sound) (settings : StartSettings) (fresh : String)
    (hasHandlers canSpawn : Bool)
    (old : ∀ c ∈ l.stops, c.role = .drain → c.result = some (.ok ()) → ∃ s,
      (l.step (.start settings fresh hasHandlers canSpawn)).engine = .started s ∧ s.Closed) :
    (l.step (.start settings fresh hasHandlers canSpawn)).Sound := by
  have hcases := start_cases l.engine settings fresh hasHandlers canSpawn
  have hstarts : (l.step (.start settings fresh hasHandlers canSpawn)).starts =
      l.starts ++ [(l.engine.start settings fresh hasHandlers canSpawn).1] := rfl
  have hengine : (l.step (.start settings fresh hasHandlers canSpawn)).engine =
      (l.engine.start settings fresh hasHandlers canSpawn).2 := rfl
  generalize l.engine.start settings fresh hasHandlers canSpawn = r at hcases hstarts hengine
  rcases hcases with ⟨hr, hkeep⟩ | ⟨hr, hnone, s, hs, hn⟩
  · refine ⟨?_, ?_, old⟩
    · rw [hstarts, hengine, hkeep.session, List.countP_append, hl.starts]
      simp [hr]
    · rw [hengine]
      exact hkeep.numbered hl.numbered
  · refine ⟨?_, ?_, old⟩
    · rw [hstarts, hengine, hs, List.countP_append, hl.starts, hnone]
      simp [hr, Engine.session?]
    · intro t ht
      rw [hengine, hs] at ht
      exact Engine.started.inj ht ▸ hn

theorem Sound.continueStop {l : Life τ} (hl : l.Sound) (n : Nat)
    (old : ∀ c ∈ l.stops, c.role = .drain → c.result = some (.ok ()) →
      ∃ s, (l.step (.continueStop n)).engine = .started s ∧ s.Closed) :
    (l.step (.continueStop n)).Sound := by
  unfold Life.step at old ⊢
  dsimp only at old ⊢
  split
  · next role isCancelled hn =>
    rw [hn] at old
    refine hl.keep (keeps_continueStop l.engine isCancelled role) rfl fun c hc hr hok => ?_
    rcases List.mem_or_eq_of_mem_set hc with hc | rfl
    · exact old c hc hr hok
    · obtain rfl : role = .drain := hr
      exact closed_of_drained hl.numbered hok
  · exact hl

theorem Sound.step {l : Life τ} (hl : l.Sound) (x : Step τ) : (l.step x).Sound := by
  -- A session that was drained earlier is closed, whatever the step is.
  have old (c : Stopper) (hc : c ∈ l.stops) (hr : c.role = .drain) (hok : c.result = some (.ok ())) :
      ∃ s, (l.step x).engine = .started s ∧ s.Closed := by
    obtain ⟨s, he, hs⟩ := hl.drained c hc hr hok
    obtain ⟨t, ht, hclosed, -⟩ := closed_step (l := l) ⟨s, he, hs, .refl s⟩ x
    exact ⟨t, ht, hclosed⟩
  cases x with
  | start settings fresh hasHandlers canSpawn => exact hl.start settings fresh _ _ old
  | stop isCancelled =>
    refine hl.keep (keeps_beginStop l.engine) rfl fun c hc hr hok => ?_
    rcases List.mem_append.1 hc with hc | hc
    · exact old c hc hr hok
    · obtain rfl := List.mem_singleton.1 hc
      cases hok
  | continueStop n => exact hl.continueStop n old
  | cancelStop n =>
    refine hl.keep (.refl _) rfl fun c hc hr hok => ?_
    obtain ⟨i, hi⟩ := List.getElem?_of_mem hc
    have hi : (l.stops.modify n fun c => { c with isCancelled := true })[i]? = some c := hi
    rw [List.getElem?_modify] at hi
    cases hd : l.stops[i]? with
    | none => simp [hd] at hi
    | some d =>
      have hdc : d.role = c.role ∧ d.result = c.result := by
        rw [hd] at hi
        split at hi
        all_goals
          obtain rfl := Option.some.inj hi
          exact ⟨rfl, rfl⟩
      exact old d (List.mem_of_getElem? hd) (hdc.1.trans hr) (hdc.2.trans hok)
  | setInterval d =>
    refine hl.keep ?_ rfl old
    show Keeps l.engine (l.engine.setInterval d)
    cases l.engine with
    | idle transport => exact keeps_idle transport _
    | started s =>
      exact keeps_modify (.started s)
        (f := fun s => { s with transport := Transport.setInterval s.transport d }) fun _ h => h
  | within a => exact hl.keep (keeps_modify _ fun s h => (Session.frame_any s a).numbered h) rfl old

theorem Sound.after {l : Life τ} (hl : l.Sound) (steps : List (Step τ)) : (l.after steps).Sound := by
  induction steps generalizing l with
  | nil => exact hl
  | cons x rest ih => exact ih (hl.step x)

omit [Transport τ] [Carrier τ] in
theorem sound_new (transport : τ) : (new transport).Sound where
  starts := rfl
  numbered s h := by
    have h : Engine.idle transport = .started s := h
    cases h
  drained c hc := absurd hc List.not_mem_nil

/-- **A stopped session stays silent.** However calls to start and to stop, the loop and the tasks
take turns: one start at most succeeds. Once a call to stop that had to drain the session has
returned well, the loop has ended, there is no task that a stop waits for, and the session is
stopped. From then on it stays so, whatever is done: no report is sent, and the agent is called
about no configuration, status, connection, package or identity. -/
theorem stopped_sessions_stay_silent (transport : τ) (steps : List (Step τ)) :
    let l := (new transport).after steps
    l.starts.countP Except.isOk ≤ 1 ∧
      ∀ c ∈ l.stops, c.role = .drain → c.result = some (.ok ()) →
        ∃ s, l.engine = .started s ∧ s.phase = .stopped ∧ s.loop = .ended ∧
          (∀ id x, s.tasks.get? id = some x → x.isTracked = false) ∧
          ∀ later : List (Step τ), ∃ t, (l.after later).engine = .started t ∧
            t.phase = .stopped ∧ t.loop = .ended ∧ t.reports = s.reports ∧
            ∀ k, k ≠ .effectiveConfig → k ≠ .command → t.begun k = s.begun k := by
  intro l
  have hl : l.Sound := (sound_new transport).after steps
  refine ⟨?_, fun c hc hr hok => ?_⟩
  · rw [hl.starts]
    exact Bool.toNat_le _
  · obtain ⟨s, he, hs⟩ := hl.drained c hc hr hok
    refine ⟨s, he, hs.phase, hs.loop, fun _ _ hx => hs.untracked_of_get? hx, fun later => ?_⟩
    obtain ⟨t, ht, hclosed, hhushed⟩ := closed_after ⟨s, he, hs, .refl s⟩ later
    exact ⟨t, ht, hclosed.phase, hclosed.loop, hhushed.reports, hhushed.begun⟩

/-- Stop is called twice while the agent takes a configuration; the first caller waits for that, and
the second one for the first. The engine is not started again. -/
def stoppedTwice : List (Step Network.Client) :=
  [.start { serverUrl := "a" } "agent" true true, .within (.run .loop .look),
    .within (.run .loop (.answered (.effective (.error .cancelled)))),
    .within (.run .loop (.connected (.ok ()))), .within (.run .loop (.sent (.ok ()))),
    .within (.run .loop (.received (.ok (some { remoteConfig := some { hash := [1] } })))),
    .within (.run (.task 0) .look), .stop false, .stop false, .continueStop 0,
    .within (.run .loop .look), .continueStop 0,
    .within (.run (.task 0) (.answered (.applied (.error .cancelled)))), .continueStop 0,
    .start { serverUrl := "a" } "agent" true true, .continueStop 1]

theorem stopped_sessions_stay_silent_twoCallers :
    let l := (new ({} : Network.Client)).after stoppedTwice
    (∃ c ∈ l.stops, c.role = .drain ∧ c.result = some (.ok ())) ∧
      l.starts.map Except.isOk = [true, false] ∧
      ∃ s, l.engine = .started s ∧ s.phase = .stopped ∧ s.loop = .ended ∧
        s.reports.length = 1 ∧ (s.begun .remoteConfig).length = 1 ∧
        ∀ later : List (Step Network.Client), ∃ t, (l.after later).engine = .started t ∧
          t.phase = .stopped ∧ t.reports = s.reports ∧
          t.begun .remoteConfig = s.begun .remoteConfig := by
  intro l
  have hc : ⟨.drain, false, some (.ok ())⟩ ∈ l.stops := .head _
  obtain ⟨s, he, hp, hl, -, hlater⟩ :=
    (stopped_sessions_stay_silent ({} : Network.Client) stoppedTwice).2 _ hc rfl rfl
  have hs : l.engine.session?.map (fun s => (s.reports.length, (s.begun .remoteConfig).length)) =
      some (1, 1) := by decide
  rw [show l.engine = .started s from he] at hs
  obtain ⟨hr, hb⟩ := Prod.ext_iff.1 (Option.some.inj hs)
  refine ⟨⟨_, hc, rfl, rfl⟩, by decide, s, he, hp, hl, hr, hb, fun later => ?_⟩
  obtain ⟨t, ht, hp, -, hreports, hbegun⟩ := hlater later
  exact ⟨t, ht, hp, hreports, hbegun _ nofun nofun⟩

end Life

end ManagedAgent
