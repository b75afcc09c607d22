import ManagedAgent.Proofs.Http.Requests
import ManagedAgent.Proofs.Session.LoopFrame
import ManagedAgent.Proofs.Session.Management

/-!
# The settings in use

The loop tries settings on the transport, and puts the last accepted ones back if they do not prove
themselves. `Kept` is what holds at rest: no settings are on trial (`Untried`), or those of a task
are, and the loop has kept the last accepted ones.

* `Untried.works`, `Rests.kept` : the loop refuses settings at once, or begins a trial;
* `Settles.untried` : a trial ends;
* `settings_in_use` : while nothing is being proved, both places have the last accepted settings,
  and nothing is accepted without a proof.
-/

set_option autoImplicit false

namespace ManagedAgent.Session
variable {τ : Type}

def Tries (s : Session τ) (id : Nat) (settings : ConnectionSettings) : Prop :=
  s.tasks.get? id = some (.connection .management settings .requesting) ∧
    ∃ previous, s.loop.trial? = some (id, previous)

/-- The settings of the task have proved themselves, and are to be recorded. -/
def Proved (s : Session τ) (id : Nat) (settings : ConnectionSettings) : Prop :=
  s.tasks.get? id = some (.connection .management settings (.replied (.ok ())))

def Proving (s : Session τ) : Prop := ∃ id settings, s.Tries id settings ∨ s.Proved id settings

/-- Where no task deals with the management connection, nothing is being proved. -/
theorem not_proving {s : Session τ} (h : ∀ id settings stage,
    s.tasks.get? id ≠ some (.connection .management settings stage)) : ¬ s.Proving := by
  rintro ⟨id, settings, ⟨hx, -⟩ | hx⟩
  · exact h id settings _ hx
  · exact h id settings _ hx

/-! ## What has nothing to do with the management connection -/

section Elsewhere
variable {s t : Session τ}

/-- Of all events only what the agent is told can concern the management connection. -/
theorem Frame.elsewhere_of {S : Scope} (h : Frame S s t)
    (hm : ∀ a, S.may a → Scope.elsewhere.may a) (hl : ∀ n, ¬ S.logs (.told n))
    (ht : ∀ kind settings stage, ¬ S.tasks (.connection kind settings stage)) :
    Frame .elsewhere s t := by
  refine h.mono hm (fun e he => ?_) fun x hx => ?_
  · cases e with
    | told n => exact absurd he (hl n)
    | _ => rfl
  · cases x with
    | connection kind settings stage => exact absurd hx (ht kind settings stage)
    | _ => rfl

theorem Frame.elsewhere_of_config (h : Frame .config s t) : Frame .elsewhere s t :=
  h.elsewhere_of (by simp [Scope.config, Scope.elsewhere]) (fun _ => id) fun _ _ _ => id

theorem Frame.elsewhere_of_offer {kind : ConnectionKind} (hk : kind ≠ .management)
    (h : Frame (.offer kind) s t) : Frame .elsewhere s t := by
  refine h.mono (by simp [Scope.offer, Scope.elsewhere, or_imp, forall_and, hk]) ?_ ?_
  · intro e he
    cases e with
    | told n =>
      cases n with
      | connectionAccepted k _ =>
        obtain rfl : k = kind := he
        cases k with
        | management => exact absurd rfl hk
        | _ => rfl
      | _ => rfl
    | _ => rfl
  · intro x hx
    cases x with
    | connection k _ _ =>
      obtain rfl : k = kind := hx
      cases k with
      | management => exact absurd rfl hk
      | _ => rfl
    | _ => rfl

theorem Frame.elsewhere_of_packages (h : Frame .packages s t) : Frame .elsewhere s t :=
  h.elsewhere_of (by simp [Scope.packages, Scope.elsewhere]) (fun _ => id) fun _ _ _ => id

theorem Frame.elsewhere_of_command (h : Frame .command s t) : Frame .elsewhere s t :=
  h.elsewhere_of (fun _ => False.elim) (fun _ => id) fun _ _ _ => id

theorem Frame.elsewhere_of_refresh (h : Frame .refresh s t) : Frame .elsewhere s t :=
  h.elsewhere_of (by simp [Scope.refresh, Scope.elsewhere]) (fun _ => id) fun _ _ _ => id

theorem Frame.elsewhere_of_errand (h : Frame .errand s t) : Frame .elsewhere s t := by
  refine h.mono (by simp [Scope.errand, Scope.elsewhere]) ?_ fun _ => False.elim
  intro e he
  cases e with
  | told n =>
    cases n with
    | connectionAccepted => exact False.elim he
    | _ => rfl
  | _ => rfl

theorem Frame.elsewhere_of_settle (h : Frame .settle s t) : Frame .elsewhere s t :=
  h.elsewhere_of (by simp [Scope.settle, Scope.elsewhere]) (fun _ => id) fun _ _ _ => id

theorem Frame.elsewhere_of_calls (h : Frame .calls s t) : Frame .elsewhere s t :=
  h.elsewhere_of (by simp [Scope.calls, Scope.elsewhere]) (fun _ => id) fun _ _ _ => id

theorem Frame.elsewhere_of_stop (h : Frame .stop s t) : Frame .elsewhere s t :=
  h.elsewhere_of (by simp [Scope.stop, Scope.elsewhere]) (fun _ => id) fun _ _ _ => id

end Elsewhere

variable [Transport τ] [Carrier τ] [Switchable τ]

/-- The transport uses the settings, and the state records them. -/
def InUse (s : Session τ) (settings : ConnectionSettings) : Prop :=
  Switchable.current s.transport = some settings ∧ s.state.connection .management = some settings

/-- No settings are on trial. `known` tells of those that may have proved themselves. -/
def Untried (first : ConnectionSettings) (past : List ConnectionSettings)
    (known : Nat → ConnectionSettings → Prop) (s : Session τ) : Prop :=
  ∃ id task, Steady first past s id task ∧
    ∀ settings, task = some (settings, .replied (.ok ())) → known id settings

/-- Where the loop rests, it knows what is on trial, and what was in use before. -/
def Kept (first : ConnectionSettings) (past : List ConnectionSettings)
    (known : Nat → ConnectionSettings → Prop) (s : Session τ) : Prop :=
  match s.loop.trial? with
  | none => Untried first past known s
  | some (id, previous) =>
    previous = past.getLastD first ∧ ∃ settings, OnTrial first past s id settings

section Kept
variable {s t : Session τ} {first : ConnectionSettings} {past : List ConnectionSettings}
  {known known' : Nat → ConnectionSettings → Prop} {id : Nat} {settings : ConnectionSettings}

theorem Untried.mono (hs : Untried first past known s)
    (h : ∀ id settings, known id settings → known' id settings) : Untried first past known' s := by
  obtain ⟨id, task, hs, hk⟩ := hs
  exact ⟨id, task, hs, fun settings ht => h id settings (hk settings ht)⟩

theorem Untried.frame (hs : Untried first past known s) (h : Frame .elsewhere s t) :
    Untried first past known t := by
  obtain ⟨id, task, hs, hk⟩ := hs
  exact ⟨id, task, hs.frame h, hk⟩

theorem Kept.of_none (h : s.loop.trial? = none) :
    Kept first past known s ↔ Untried first past known s := by
  unfold Kept
  rw [h]

theorem Kept.of_some {previous : ConnectionSettings} (h : s.loop.trial? = some (id, previous)) :
    Kept first past known s ↔
      previous = past.getLastD first ∧ ∃ settings, OnTrial first past s id settings := by
  unfold Kept
  rw [h]

theorem Kept.mono (hs : Kept first past known s)
    (h : ∀ id settings, known id settings → known' id settings) : Kept first past known' s := by
  cases hl : s.loop.trial? with
  | none => exact (Kept.of_none hl).2 (((Kept.of_none hl).1 hs).mono h)
  | some trial => exact (Kept.of_some hl).2 ((Kept.of_some hl).1 hs)

theorem Kept.frame (hs : Kept first past known s) (h : Frame .elsewhere s t)
    (hl : t.loop = s.loop) : Kept first past known t := by
  cases ht : s.loop.trial? with
  | none => exact (Kept.of_none (by rw [hl, ht])).2 (((Kept.of_none ht).1 hs).frame h)
  | some trial =>
    obtain ⟨hp, settings, hs⟩ := (Kept.of_some ht).1 hs
    exact (Kept.of_some (by rw [hl, ht])).2 ⟨hp, settings, hs.frame h⟩

theorem Kept.managed (hs : Kept first past known s) :
    ∃ id task, Managed first past s id task ∧
      ∀ settings, task = some (settings, .replied (.ok ())) → known id settings := by
  cases hl : s.loop.trial? with
  | none =>
    obtain ⟨id, task, hs, hk⟩ := (Kept.of_none hl).1 hs
    exact ⟨id, task, hs.toManaged, hk⟩
  | some trial =>
    obtain ⟨-, settings, hs⟩ := (Kept.of_some hl).1 hs
    exact ⟨trial.1, _, hs.toManaged, nofun⟩

theorem Kept.accepted (hs : Kept first past known s) : s.accepted = past := by
  obtain ⟨_, _, hs, -⟩ := hs.managed
  exact hs.accepted

theorem Kept.known_of_proved (hs : Kept first past known s) (h : s.Proved id settings) :
    known id settings := by
  obtain ⟨id', task, hs, hk⟩ := hs.managed
  obtain ⟨rfl, ht⟩ := hs.eq_of_get? h
  exact hk settings ht

/-- What may have proved itself is what has. -/
theorem Kept.self (hs : Kept first past known s) : Kept first s.accepted s.Proved s := by
  rw [hs.accepted]
  cases hl : s.loop.trial? with
  | none =>
    obtain ⟨id, task, hs, hk⟩ := (Kept.of_none hl).1 hs
    refine (Kept.of_none hl).2 ⟨id, task, hs, ?_⟩
    rintro settings rfl
    exact hs.toManaged.get?
  | some trial => exact (Kept.of_some hl).2 ((Kept.of_some hl).1 hs)

end Kept

/-! ## Routing -/

section Route
variable {s t : Session τ} {first : ConnectionSettings} {past : List ConnectionSettings}
  {known : Nat → ConnectionSettings → Prop}

theorem Untried.dispatch (hs : Untried first past known s) (i : Instruction) :
    Untried first past known (s.dispatch i) := by
  refine dispatch_induction i ?_ ?_ ?_ ?_ s (hs.frame (.emit s (.routing i) rfl))
  · exact fun s config _ hs => hs.frame (frame_dispatchRemoteConfig s config).elsewhere_of_config
  · intro s kind settings hs
    by_cases hk : kind = .management
    · subst hk
      obtain ⟨id, task, hs, hknown⟩ := hs
      obtain ⟨id', task', hsame, hs'⟩ := hs.dispatchOffer settings
      refine ⟨id', task', hs', fun x hx => ?_⟩
      rcases hsame with ⟨rfl, rfl⟩ | hopen
      · exact hknown x hx
      · exact absurd hx (hopen x)
    · exact hs.frame ((frame_dispatchOffer s settings).elsewhere_of_offer hk)
  · exact fun s packages hs => hs.frame (frame_dispatchPackages s packages).elsewhere_of_packages
  · exact fun s command hs => hs.frame (frame_dispatchCommand s command).elsewhere_of_command

end Route

/-! ## A trial begins -/

section Begin
variable {s t : Session τ} {first : ConnectionSettings} {past : List ConnectionSettings}
  {known : Nat → ConnectionSettings → Prop} {id : Nat} {settings : ConnectionSettings}
  {task : Option (ConnectionSettings × OfferStage)}

/-- Settings are tried on the transport. -/
theorem Managed.applySettings (hs : Managed first past s id task) (rest : List ReconnectRequest)
    (settings : ConnectionSettings)
    (h : Switchable.Sound (Transport.apply s.transport settings).2) :
    Managed first past ({ s with requests := rest }.applySettings settings).2 id task := by
  have hm : Managed first past
      { s with requests := rest, transport := (Transport.apply s.transport settings).2 } id task :=
    { hs with sound := h }
  exact hm.emit (.applied settings) rfl

/-- The request of the task is answered. -/
theorem Managed.reply (hs : Managed first past s id (some (settings, .requesting)))
    (hb : s.offerSlot .management ≠ .idle) (hr : s.requests = []) (r : Except TransportError Unit)
    (hc : Switchable.current s.transport =
      some (used (past.getLastD first) (some (settings, .replied r)))) :
    Steady first past (s.reply id r) id (some (settings, .replied r)) := by
  have he := hs.endpoint settings .requesting rfl
  unfold Session.reply
  rw [hs.get?]
  have hm := (hs.setTask settings (.replied r) he).emit (.ready (.task id)) rfl
  exact { hm with idle := fun hi => absurd hi hb, requests := .inl hr, current := hc }

/-- The request that waits is that of the task. -/
theorem Steady.requests_cons (hs : Steady first past s id task) {r : ReconnectRequest}
    {rest : List ReconnectRequest} (h : s.requests = r :: rest) :
    r = ⟨id, r.settings⟩ ∧ rest = [] ∧ task = some (r.settings, .requesting) := by
  rcases hs.requests with hr | ⟨settings, ht, hr⟩
  · rw [h] at hr
    cases hr
  · rw [h] at hr
    obtain ⟨rfl, rfl⟩ := List.cons.inj hr
    exact ⟨rfl, rfl, ht⟩

/-- What the transport refuses is not tried. -/
theorem Untried.works (hs : Untried first past known s) (h : Works s t) :
    Untried first past known t := by
  rcases h.errand_or_refuse with h | ⟨r, rest, e, hreq, happly, rfl⟩
  · exact hs.frame h.elsewhere_of_errand
  · obtain ⟨id, task, hs, -⟩ := hs
    obtain ⟨hid, rfl, rfl⟩ := hs.requests_cons hreq
    have hsame : (Transport.apply s.transport r.settings).2 = s.transport :=
      Switchable.apply_refused happly
    have hm := hs.toManaged.applySettings [] r.settings (by rw [hsame]; exact hs.sound)
    have hb : s.offerSlot .management ≠ .idle := fun hi => absurd (hs.idle hi) nofun
    refine ⟨id, some (r.settings, .replied (.error e)), ?_, by rintro settings ⟨⟩⟩
    rw [congrArg ReconnectRequest.task hid]
    refine hm.reply hb rfl (.error e) ?_
    show Switchable.current (Transport.apply s.transport r.settings).2 = _
    rw [hsame]
    exact hs.current

/-- The loop is over, and a request that waits is answered. -/
theorem Untried.endLoop (hs : Untried first past known s) : Untried first past known s.endLoop := by
  obtain ⟨id, task, hs, hk⟩ := hs
  unfold Session.endLoop
  dsimp only
  rcases hs.requests with hr | ⟨settings, rfl, hr⟩
  · rw [hr]
    have hm := (show Managed first past { s with loop := .ended, requests := [] } id task from
      { hs.toManaged with }).emit .loopEnded rfl
    exact ⟨id, task, { hm with idle := hs.idle, requests := .inl rfl, current := hs.current }, hk⟩
  · rw [hr]
    have hm : Managed first past { s with loop := .ended, requests := [] } id
        (some (settings, .requesting)) := { hs.toManaged with }
    have hb : s.offerSlot .management ≠ .idle := fun hi => absurd (hs.idle hi) nofun
    have hreply := hm.reply hb rfl (.error .closed) hs.current
    exact Untried.frame ⟨id, _, hreply, nofun⟩ (.emit _ .loopEnded rfl)

theorem Rests.kept (h : Rests s t) (hs : Untried first past known s) :
    Kept first past known t := by
  rcases h.trial_or_quiet with rfl | ⟨hframe, hl⟩ | ⟨r, rest, previous, hreq, happly, hframe, hl⟩
  · refine (Kept.of_none ?_).2 hs.endLoop
    rw [loop_endLoop]
    rfl
  · exact (Kept.of_none hl).2 (hs.frame hframe.elsewhere_of_settle)
  · obtain ⟨id, task, hs, -⟩ := hs
    obtain ⟨hid, rfl, rfl⟩ := hs.requests_cons hreq
    have he := hs.endpoint r.settings .requesting rfl
    obtain ⟨hold, hnew, hsound⟩ := Switchable.current_apply hs.sound he happly
    have hprevious : previous = past.getLastD first :=
      (Option.some.inj (hs.current.symm.trans hold)).symm
    rw [congrArg ReconnectRequest.task hid] at hl
    have htrial : OnTrial first past ({ s with requests := [] }.applySettings r.settings).2 id
        r.settings :=
      { hs.toManaged.applySettings [] r.settings hsound with
        busy := fun hi => absurd (hs.idle hi) nofun
        requests := rfl
        current := hnew
        before := ⟨s.transport, hs.sound, Switchable.setup_apply _ _, hs.current⟩ }
    exact (Kept.of_some hl).2 ⟨hprevious, _, htrial.frame hframe.elsewhere_of_settle⟩

end Begin

/-! ## A trial ends -/

/-- The settings have proved themselves, or do so with the action. -/
def Proves (s : Session τ) (a : Action τ) (id : Nat) (settings : ConnectionSettings) : Prop :=
  s.Proved id settings ∨
    s.Tries id settings ∧ ∃ input, a = .run .loop input ∧ s.loop.proves input = true

section End
variable {s t : Session τ} {first : ConnectionSettings} {past : List ConnectionSettings}
  {id : Nat} {settings : ConnectionSettings} {input : Input}

theorem OnTrial.prove (hs : OnTrial first past s id settings) :
    Steady first past (s.reply id (.ok ())) id (some (settings, .replied (.ok ()))) :=
  hs.toManaged.reply hs.busy hs.requests (.ok ()) hs.current

/-- The last accepted settings are put back. -/
theorem OnTrial.restore (hs : OnTrial first past s id settings) (e : TransportError) :
    Steady first past (s.restore id (past.getLastD first) e) id
      (some (settings, .replied (.error e))) := by
  obtain ⟨u, hu, hsame, hlast⟩ := hs.before
  have hin : (Switchable.current s.transport).isSome := by rw [hs.current]; rfl
  obtain ⟨old, happly⟩ := Switchable.apply_again hin hu hlast hs.filled hsame
  obtain ⟨-, hnew, hsound⟩ := Switchable.current_apply hs.sound hs.filled happly
  have hm := hs.toManaged.applySettings s.requests (past.getLastD first) hsound
  exact hm.reply hs.busy hs.requests (.error e) hnew

/-- The settings on trial are in use from now on, or the last accepted ones are again. -/
theorem Settles.untried (h : Settles s input t) (hs : Kept first past s.Proved s) :
    Untried first past (s.Proves (.run .loop input)) t := by
  have quiet (hl : s.loop.trial? = none) : Untried first past (s.Proves (.run .loop input)) s :=
    ((Kept.of_none hl).1 hs).mono fun _ _ => .inl
  have take (u : Session τ) (number : UInt64) :
      Frame .elsewhere u (u.update (·.delivered number)) :=
    .update u _ (.delivered _ number (by simp [Scope.elsewhere])) rfl
  have trial {task : Nat} {previous : ConnectionSettings}
      (hl : s.loop.trial? = some (task, previous)) :
      previous = past.getLastD first ∧ ∃ x, OnTrial first past s task x ∧ s.Tries task x := by
    obtain ⟨hp, x, hs⟩ := (Kept.of_some hl).1 hs
    exact ⟨hp, x, hs, hs.toManaged.get?, previous, hl⟩
  have prove {task : Nat} {previous : ConnectionSettings}
      (hl : s.loop.trial? = some (task, previous)) (hp : s.loop.proves input = true) :
      Untried first past (s.Proves (.run .loop input)) (s.reply task (.ok ())) := by
    obtain ⟨-, x, hs, htries⟩ := trial hl
    refine ⟨task, _, hs.prove, fun settings hx => ?_⟩
    obtain ⟨rfl, -⟩ := Prod.mk.inj (Option.some.inj hx)
    exact .inr ⟨htries, input, rfl, hp⟩
  have restore {task : Nat} {previous : ConnectionSettings} (e : TransportError)
      (hl : s.loop.trial? = some (task, previous)) :
      Untried first past (s.Proves (.run .loop input)) (s.restore task previous e) := by
    obtain ⟨rfl, x, hs, -⟩ := trial hl
    refine ⟨task, _, hs.restore e, ?_⟩
    rintro settings ⟨⟩
  cases h with
  | nothing _ hl => exact quiet hl
  | missed _ _ hl => exact quiet hl
  | taken number _ hl => exact (quiet hl).frame (take s number)
  | proved task previous number _ hl _ hp => exact (prove hl hp).frame (take _ number)
  | disproved task previous number e _ hl => exact restore e hl
  | switched task previous _ hl hp => exact prove hl hp
  | unswitched task previous e _ hl => exact restore e hl

end End

/-! ## A step of the session -/

section Step
variable {s t : Session τ} {first : ConnectionSettings} {past : List ConnectionSettings}

theorem Kept.runLoop (hs : Kept first past s.Proved s) (input : Input) :
    Kept first past (s.Proves (.run .loop input)) (s.runLoop input) := by
  rcases s.runLoop_cases input with ⟨-, h⟩ | ⟨u, routed, hset, hgo⟩
  · rw [h]
    exact hs.mono fun _ _ => .inl
  · refine hgo.elim ?_ ?_ ?_ (hset.untried hs)
    · exact fun _ _ h hs => hs.works h
    · exact fun _ i hs => hs.dispatch i
    · exact fun _ _ h hs => h.kept hs

/-- A task that waits for the loop waits on. -/
theorem OnTrial.runOffer {id : Nat} {settings : ConnectionSettings}
    (hs : OnTrial first past s id settings) (input : Input) :
    OnTrial first past (s.runOffer id .management settings .requesting input) id settings := by
  cases input <;> exact hs

/-- A task goes on, and may accept settings that have proved themselves. -/
theorem Kept.runOffer (hs : Kept first past s.Proved s) {id : Nat} {settings : ConnectionSettings}
    {stage : OfferStage} (hx : s.tasks.get? id = some (.connection .management settings stage))
    (input : Input) (hl : (s.runOffer id .management settings stage input).loop = s.loop) :
    Kept first past s.Proved (s.runOffer id .management settings stage input) ∨
      ∃ settings', s.Proved id settings' ∧ Kept first (past ++ [settings']) (fun _ _ => False)
        (s.runOffer id .management settings stage input) := by
  cases ht : s.loop.trial? with
  | none =>
    obtain ⟨id', task, hs, -⟩ := (Kept.of_none ht).1 hs
    obtain ⟨rfl, rfl⟩ := hs.eq_of_get? hx
    rcases hs.runOffer input with ⟨rfl, task', hopen, hs'⟩ | ⟨task', htask, hs'⟩
    · refine .inr ⟨settings, hx, (Kept.of_none (by rw [hl, ht])).2 ⟨id, task', hs', ?_⟩⟩
      exact fun x hx => hopen x hx
    · refine .inl ((Kept.of_none (by rw [hl, ht])).2 ⟨id, task', hs', fun x hx' => ?_⟩)
      rcases htask with rfl | hopen
      · obtain ⟨rfl, rfl⟩ := Prod.mk.inj (Option.some.inj hx')
        exact hx
      · exact absurd hx' (hopen x)
  | some trial =>
    obtain ⟨hp, x, hs⟩ := (Kept.of_some ht).1 hs
    obtain ⟨rfl, hstage⟩ := hs.eq_of_get? hx
    obtain ⟨rfl, rfl⟩ := Prod.mk.inj (Option.some.inj hstage)
    exact .inl ((Kept.of_some (by rw [hl, ht])).2 ⟨hp, x, hs.runOffer input⟩)

theorem Kept.runTask (hs : Kept first past s.Proved s) (id : Nat) (input : Input) :
    Kept first past s.Proved (s.runTask id input) ∨ ∃ settings, s.Proved id settings ∧
      Kept first (past ++ [settings]) (fun _ _ => False) (s.runTask id input) := by
  have hloop := s.loop_runTask id input
  have other (h : Frame .elsewhere s (s.runTask id input)) :
      Kept first past s.Proved (s.runTask id input) ∨ ∃ settings, s.Proved id settings ∧
        Kept first (past ++ [settings]) (fun _ _ => False) (s.runTask id input) :=
    .inl (hs.frame h hloop)
  unfold Session.runTask at hloop other ⊢
  cases hx : s.tasks.get? id with
  | none => exact .inl hs
  | some x =>
    rw [hx] at hloop other
    cases x with
    | remoteConfig => exact other (frame_runConfig s id _ _ hx input).elsewhere_of_config
    | packages => exact other (frame_runPackages s id _ _ hx input).elsewhere_of_packages
    | command => exact other (frame_runCommand s id _ _ hx input).elsewhere_of_command
    | refresh => exact other (frame_runRefresh s id _ hx input).elsewhere_of_refresh
    | connection kind settings stage =>
      by_cases hk : kind = .management
      · subst hk
        exact hs.runOffer hx input hloop
      · exact other ((frame_runOffer s id settings stage hx input).elsewhere_of_offer hk)

theorem Kept.setTransport {known : Nat → ConnectionSettings → Prop} (hs : Kept first past known s)
    (transport : τ) (hc : Switchable.current transport = Switchable.current s.transport)
    (hsame : Switchable.setup transport = Switchable.setup s.transport)
    (hsound : Switchable.Sound s.transport → Switchable.Sound transport) :
    Kept first past known { s with transport } := by
  cases hl : s.loop.trial? with
  | none =>
    obtain ⟨id, task, hs, hk⟩ := (Kept.of_none hl).1 hs
    have hs' : Steady first past { s with transport } id task :=
      { hs with sound := hsound hs.sound, current := hc.trans hs.current }
    exact (Kept.of_none (s := { s with transport }) hl).2 ⟨id, task, hs', hk⟩
  | some trial =>
    obtain ⟨hp, x, hs⟩ := (Kept.of_some hl).1 hs
    have hs' : OnTrial first past { s with transport } trial.1 x :=
      { hs with
        sound := hsound hs.sound
        current := hc.trans hs.current
        before := by
          obtain ⟨u, hu, hsetup, hlast⟩ := hs.before
          exact ⟨u, hu, hsame.trans hsetup, hlast⟩ }
    exact (Kept.of_some (s := { s with transport }) hl).2 ⟨hp, x, hs'⟩

/-- An action accepts only settings that have proved themselves. -/
theorem Kept.act (hs : Kept first past s.Proved s) (a : Action τ) :
    Kept first past (s.Proves a) (s.act a) ∨ ∃ id settings, s.Proved id settings ∧
      Kept first (past ++ [settings]) (fun _ _ => False) (s.act a) := by
  have still {t : Session τ} (h : Kept first past s.Proved t) : Kept first past (s.Proves a) t :=
    h.mono fun _ _ => .inl
  by_cases hc : a.isCall = true
  · have hframe := frame_act s a hc
    have hloop : (s.act a).loop = s.loop := hframe.same .loop (by simp [Scope.calls])
    exact .inl (still (hs.frame hframe.elsewhere_of_calls hloop))
  · cases a with
    | run actor input =>
      cases actor with
      | loop => exact .inl (hs.runLoop input)
      | task id =>
        rcases hs.runTask id input with h | ⟨x, hx, h⟩
        · exact .inl (still h)
        · exact .inr ⟨id, x, hx, h⟩
    | use u =>
      exact .inl (still (hs.setTransport _ (Switchable.current_after _ u)
        (Switchable.setup_after _ u) (Switchable.sound_after u)))
    | setInterval d =>
      exact .inl (still (hs.setTransport _ (Switchable.current_setInterval _ d)
        (Switchable.setup_setInterval _ d) (Switchable.sound_setInterval d)))
    | stop =>
      have hframe := frame_stop s
      have hloop : (s.act .stop).loop = s.loop := hframe.same .loop (by simp [Scope.stop])
      exact .inl (still (hs.frame hframe.elsewhere_of_stop hloop))
    | _ => exact absurd rfl hc

/-- What is kept along the whole course of a session. -/
theorem Kept.after (hs : Kept first s.accepted s.Proved s) (actions : List (Action τ)) :
    Kept first (s.after actions).accepted (s.after actions).Proved (s.after actions) := by
  refine after_induction (P := fun s => Kept first s.accepted s.Proved s) (fun s a hs => ?_) hs
    actions
  rcases hs.act a with h | ⟨_, _, -, h⟩
  · exact h.self
  · exact h.self

end Step

/-! ## The whole course -/

section Course
variable {transport : τ} {settings : StartSettings} {fresh : String} {hasHandlers canSpawn : Bool}
  {s : Session τ}

omit [Carrier τ] [Switchable τ] in
/-- A session that has started has configured its transport. -/
theorem exists_eq_start_of_start (h : Engine.start (.idle transport) settings fresh hasHandlers canSpawn =
    (.ok (), .started s)) :
    ∃ configured, Transport.configure transport settings = (.ok (), configured) ∧
      s = .start configured settings fresh := by
  unfold Engine.start at h
  split at h
  · cases h
  · next hidle =>
    cases hidle
    split at h
    · cases h
    · split at h
      · cases h
      · split at h
        · cases h
        · next configured hconf =>
          cases h
          exact ⟨configured, hconf, rfl⟩

theorem kept_of_start (h : Engine.start (.idle transport) settings fresh hasHandlers canSpawn =
    (.ok (), .started s)) : Kept settings.connection s.accepted s.Proved s := by
  have hne : settings.serverUrl ≠ "" := by
    rintro hurl
    unfold Engine.start StartSettings.validate at h
    rw [hurl] at h
    cases h
  obtain ⟨configured, hconf, rfl⟩ := exists_eq_start_of_start h
  obtain ⟨hcurrent, hsound⟩ := Switchable.configured (congrArg Prod.fst hconf)
  rw [hconf] at hcurrent hsound
  have hs : Steady settings.connection [] (.start configured settings fresh) 0 none := by
    constructor
    · constructor
      · exact nofun
      · exact hsound
      · rfl
      · rfl
      · exact hne
      · intro i
        show none = if i = 0 then none else none
        rw [ite_self]
      · exact nofun
      · exact nofun
    · exact fun _ => rfl
    · exact .inl rfl
    · exact hcurrent
  have hkept : Kept settings.connection [] (fun _ _ => False) (.start configured settings fresh) :=
    (Kept.of_none rfl).2 ⟨0, none, hs, nofun⟩
  exact hkept.self

theorem Kept.inUse {first : ConnectionSettings} (hs : Kept first s.accepted s.Proved s)
    (h : ¬ s.Proving) : s.InUse (s.accepted.getLastD first) := by
  cases hl : s.loop.trial? with
  | none =>
    obtain ⟨id, task, hs, hk⟩ := (Kept.of_none hl).1 hs
    refine ⟨?_, hs.recorded⟩
    rw [hs.current]
    unfold used
    split
    · next settings => exact absurd ⟨id, settings, .inr (hk settings rfl)⟩ h
    · rfl
  | some trial =>
    obtain ⟨-, settings, hs⟩ := (Kept.of_some hl).1 hs
    exact absurd ⟨trial.1, settings, .inl ⟨hs.toManaged.get?, trial.2, hl⟩⟩ h

/-- **The settings in use.** While nothing is being proved, the transport uses what the state
records, the last accepted settings or those of the start. What is not accepted leaves both as they
were. Settings are accepted only if they have proved themselves, by a trial that has gone well. -/
theorem settings_in_use (h : Engine.start (.idle transport) settings fresh hasHandlers canSpawn =
    (.ok (), .started s)) (actions : List (Action τ)) :
    let t := s.after actions
    (¬ t.Proving → t.InUse (t.accepted.getLastD settings.connection)) ∧
      (∀ later x, (t.after later).accepted = t.accepted → ¬ t.Proving → ¬ (t.after later).Proving →
        t.InUse x → (t.after later).InUse x) ∧
      (∀ a, (t.act a).accepted = t.accepted ∨
        ∃ id x, t.Proved id x ∧ (t.act a).accepted = t.accepted ++ [x]) ∧
      ∀ a id x, (t.act a).Proved id x → t.Proves a id x := by
  have hs := (kept_of_start h).after actions
  refine ⟨hs.inUse, fun later x hsame hbefore hafter hx => ?_, fun a => ?_, fun a id x hx => ?_⟩
  · have hnow := hs.inUse hbefore
    have hx : x = _ := Option.some.inj (hx.1.symm.trans hnow.1)
    rw [hx, ← hsame]
    exact (hs.after later).inUse hafter
  · rcases hs.act a with h | ⟨id, x, hx, h⟩
    · exact .inl h.accepted
    · exact .inr ⟨id, x, hx, h.accepted⟩
  · rcases hs.act a with h | ⟨_, _, -, h⟩
    · exact h.known_of_proved hx
    · exact (h.known_of_proved hx).elim

end Course

/-! ## A trial that fails -/

/-- The stream is open, and everything is reported. -/
def opened : List (Action Network.Client) :=
  [.run .loop .look, .run .loop (.answered (.effective (.error .cancelled))),
    .run .loop (.connected (.ok ())), .run .loop (.sent (.ok ()))]

/-- The endpoint b is offered and wanted, and no stream opens with it. -/
def unreachable : List (Action Network.Client) :=
  [.run .loop (.received (.ok (some
      { connections := some { management := some { endpoint := "b" } } }))),
    .run (.task 0) .look, .run (.task 0) (.answered (.done (.ok ()))), .run .loop .look,
    .run .loop (.connected (.error .closed)), .run (.task 0) .look]

def home : Session Network.Client :=
  start { settings := { endpoint := "a" } } { serverUrl := "a" } "agent"

def overHttp : StartSettings := { serverUrl := "http://[::1]/" }

theorem exists_start_overHttp (lib : Http.TlsLibrary) (h : lib.client {} overHttp.connection = .ok ()) :
    ∃ s, Engine.start (.idle ({} : Http.SecuredSender lib)) overHttp "agent" true true =
      (.ok (), .started s) := by
  obtain ⟨url, hparse⟩ := Http.exists_parseUrl_loopback
  have hcheck : lib.check overHttp.tls overHttp.connection = .ok () := by
    show (lib.client {} overHttp.connection).mapError _ = _
    rw [h]
    rfl
  have hbuild : Http.Endpoint.build lib overHttp.tls overHttp.connection =
      .ok ⟨url, .empty, overHttp.connection⟩ :=
    Http.Endpoint.build_eq_ok_iff.2 ⟨⟨hparse, rfl⟩, hcheck, rfl⟩
  have hconfigure := Http.SecuredSender.transport_configure ({} : Http.SecuredSender lib) overHttp
  rw [Http.Sender.configureWith_on, hbuild] at hconfigure
  have hvalidate : overHttp.validate true = .ok () := by
    unfold StartSettings.validate
    rw [show Text.isBlank overHttp.serverUrl = false by decide +kernel]
    rfl
  refine ⟨.start (Transport.configure {} overHttp).2 overHttp "agent", ?_⟩
  unfold Engine.start
  dsimp only
  rw [hvalidate, hconfigure]
  rfl

/-- Over HTTP there is a TLS library that refuses certificates. -/
theorem settings_in_use_unreachable :
    (Engine.start (.idle ({} : Network.Client)) { serverUrl := "a" } "agent" true true =
        (.ok (), .started home) ∧
      (home.after opened).InUse { endpoint := "a" } ∧
      ((home.after opened).after unreachable).InUse { endpoint := "a" }) ∧
    ∃ s : Session (Http.SecuredSender .distrusting),
      Engine.start (.idle {}) overHttp "agent" true true = (.ok (), .started s) ∧
        s.InUse overHttp.connection ∧ ∀ actions, ¬ (s.after actions).Proving →
          (s.after actions).InUse ((s.after actions).accepted.getLastD overHttp.connection) := by
  constructor
  · have h : Engine.start (.idle ({} : Network.Client)) { serverUrl := "a" } "agent" true true =
      (.ok (), .started home) := rfl
    have hbefore : ¬ (home.after opened).Proving := not_proving nofun
    have hafter : ¬ ((home.after opened).after unreachable).Proving := not_proving nofun
    obtain ⟨huse, hfailed, -⟩ := settings_in_use h opened
    exact ⟨h, huse hbefore, hfailed unreachable _ rfl hbefore hafter (huse hbefore)⟩
  · obtain ⟨s, hs⟩ := exists_start_overHttp .distrusting rfl
    obtain ⟨configured, -, rfl⟩ := exists_eq_start_of_start hs
    exact ⟨_, hs, (settings_in_use hs []).1 (not_proving nofun), fun actions =>
      (settings_in_use hs actions).1⟩

end ManagedAgent.Session
