import ManagedAgent.Proofs.Session.Identity
import ManagedAgent.Proofs.Session.Lanes

/-!
# A server that repeats itself

A course in which one instruction is routed again and again calls the agent once at most for each of
its parts. When the tasks are over, the instruction is settled: to route it again comes to nothing
but its command.

* `Lanes.dispatch` : the instruction is routed, at any moment;
* `Follows.act` : any other step, as long as nothing is given up;
* `dispatch_of_settled` : what is left of a settled instruction;
* `repetition_works_once` : both together, over a whole course.
-/

set_option autoImplicit false

namespace ManagedAgent

/-- A part of an instruction that the agent is called for once. -/
def Topic.isPart : Topic → Bool
  | .remoteConfig | .connection _ | .packages => true
  | _ => false

def Task.isHandler : Task → Bool
  | .remoteConfig .. | .connection .. | .packages .. => true
  | _ => false

def Instruction.offer? (i : Instruction) (kind : ConnectionKind) : Option ConnectionSettings :=
  i.connections.bind (·.get? kind)

def Instruction.Asks (i : Instruction) : Topic → Prop
  | .remoteConfig => i.remoteConfig ≠ none
  | .connection kind => i.offer? kind ≠ none
  | .packages => i.packages ≠ none
  | _ => True

/-- There is nothing left to do for any part of the instruction. -/
structure State.HasSettled (s : State) (i : Instruction) : Prop where
  config : ∀ c, i.remoteConfig = some c → s.isHandled c.withHash = true
  offers : ∀ kind c, i.offer? kind = some c →
    s.isSettled kind (s.connections.complete kind c) = true
  packages : ∀ p, i.packages = some p → s.packages.isKnown p.allHash = true

theorem State.beginSync_of_known {s : State} {hash : Bytes} (h : s.packages.isKnown hash = true) :
    s.beginSync hash = (false, s) := by
  unfold beginSync PackageSync.claim
  rw [if_pos h]

/-- The agent has not given the call up. -/
def Input.isKept : Input → Bool
  | .answered (.applied (.error .cancelled)) | .answered (.done (.error .cancelled)) => false
  | _ => true

def Session.SyncReport.isEnd : Session.SyncReport → Bool
  | .status _ => false
  | _ => true

namespace Session
variable {τ : Type} {s t u : Session τ} {id : Nat} {i : Instruction}

def IsIdle (s : Session τ) : Prop := ∀ id x, s.tasks.get? id = some x → x.isHandler = false

/-! ## Scopes that spare a lane -/

namespace Scope

structure SparesConfig (S : Scope) : Prop where
  slot : ¬ S.may .remoteConfig
  status : ¬ S.may (.state .remoteConfigStatus)
  tasks : ∀ x, S.tasks x → x.config? = none

structure SparesOffer (S : Scope) (kind : ConnectionKind) : Prop where
  slot : ¬ S.may (.offers kind)
  current : ¬ S.may (.state (.current kind))
  resolved : ¬ S.may (.state (.resolved kind))
  tasks : ∀ x, S.tasks x → x.offerRun? kind = none

structure SparesPackages (S : Scope) : Prop where
  packages : ¬ S.may (.state .packages)
  tasks : ∀ x, S.tasks x → x.packagesRun? = none

theorem config?_of_scope {x y : Task} (h : x.config? = none) (hy : (Scope.of x).tasks y) :
    y.config? = none := by
  cases x with
  | remoteConfig => contradiction
  | _ =>
    cases y with
    | remoteConfig => exact False.elim hy
    | _ => rfl

theorem packagesRun?_of_scope {x y : Task} (h : x.packagesRun? = none)
    (hy : (Scope.of x).tasks y) : y.packagesRun? = none := by
  cases x with
  | packages => contradiction
  | _ =>
    cases y with
    | packages => exact False.elim hy
    | _ => rfl

theorem sparesConfig_of {x : Task} (h : x.config? = none) : (Scope.of x).SparesConfig := by
  refine ⟨?_, ?_, fun y => config?_of_scope h⟩
  all_goals
    cases x with
    | remoteConfig => contradiction
    | connection => simp [Scope.of, Scope.offer]
    | packages => simp [Scope.of, Scope.packages]
    | command => exact fun h => h
    | refresh => simp [Scope.of, Scope.refresh]

theorem sparesOffer_of {x : Task} {kind : ConnectionKind} (h : x.offerRun? kind = none) :
    (Scope.of x).SparesOffer kind := by
  refine ⟨?_, ?_, ?_, fun y => offerRun?_of_scope h⟩
  all_goals
    cases x with
    | connection k settings stage =>
      have hk : kind ≠ k := by
        rintro rfl
        rw [offerRun?_self] at h
        contradiction
      simp [Scope.of, Scope.offer, hk]
    | remoteConfig => simp [Scope.of, Scope.config]
    | packages => simp [Scope.of, Scope.packages]
    | command => exact fun h => h
    | refresh => simp [Scope.of, Scope.refresh]

theorem sparesPackages_of {x : Task} (h : x.packagesRun? = none) : (Scope.of x).SparesPackages := by
  refine ⟨?_, fun y => packagesRun?_of_scope h⟩
  cases x with
  | packages => contradiction
  | remoteConfig => simp [Scope.of, Scope.config]
  | connection => simp [Scope.of, Scope.offer]
  | command => exact fun h => h
  | refresh => simp [Scope.of, Scope.refresh]

end Scope

/-! ## All lanes of an instruction -/

/-- Since `s`, the agent was called about the topic as often as the lane says. -/
def OnceSince {α : Type} (s t : Session τ) (k : Topic) (l : Lane α) (payload? : Option α)
    (isRouted : Prop) : Prop :=
  ∃ n, (t.begun k).length = (s.begun k).length + n ∧ l.Once payload? isRouted n

/-- What has become of the parts of an instruction since `s`; `isRouted` says which of them have
come in. -/
structure Lanes (i : Instruction) (s : Session τ) (isRouted : Topic → Prop) (t : Session τ) :
    Prop where
  numbered : t.Numbered
  config : OnceSince s t .remoteConfig t.configLane (i.remoteConfig.map (·.withHash))
    (isRouted .remoteConfig)
  offers : ∀ kind, OnceSince s t (.connection kind) (t.offerLane kind)
    ((i.offer? kind).map (s.state.connections.complete kind)) (isRouted (.connection kind))
  /-- The offers mean what they meant. -/
  meaning : ∀ kind offered, i.offer? kind = some offered →
    t.state.connections.complete kind offered = s.state.connections.complete kind offered
  packages : OnceSince s t .packages t.packagesLane i.packages (isRouted .packages)

section Parts
variable {α : Type} {k : Topic} {l m : Lane α} {payload? : Option α} {isRouted isRouted' : Prop}

theorem OnceSince.keep (h : OnceSince s t k l payload? isRouted) (hb : u.begun k = t.begun k)
    (hl : ∀ n, l.Once payload? isRouted n → m.Once payload? isRouted' n) :
    OnceSince s u k m payload? isRouted' := by
  obtain ⟨n, hn, honce⟩ := h
  exact ⟨n, (congrArg List.length hb).trans hn, hl n honce⟩

theorem OnceSince.step (h : OnceSince s t k l payload? isRouted)
    (hl : ∀ n, l.Once payload? isRouted n → ∃ d, (u.begun k).length = (t.begun k).length + d ∧
      m.Once payload? isRouted (n + d)) : OnceSince s u k m payload? isRouted := by
  obtain ⟨n, hn, honce⟩ := h
  obtain ⟨d, hd, honce⟩ := hl n honce
  exact ⟨n + d, by rw [hd, hn, Nat.add_assoc], honce⟩

theorem OnceSince.mono (h : OnceSince s t k l payload? isRouted)
    (hr : payload? ≠ none → isRouted' → isRouted) : OnceSince s t k l payload? isRouted' :=
  h.keep rfl fun _ honce => honce.mono hr

end Parts

section Lanes
variable {r r' : Topic → Prop} {S : Scope}

/-- A step that spares a lane and begins no call about its topic. -/
theorem OnceSince.config_frame {config? : Option RemoteConfig} {isRouted : Prop}
    (h : OnceSince s t .remoteConfig t.configLane config? isRouted) (hf : Frame S t u)
    (hn : t.Numbered) (hS : S.SparesConfig) (hb : u.begun .remoteConfig = t.begun .remoteConfig) :
    OnceSince s u .remoteConfig u.configLane config? isRouted :=
  h.keep hb fun _ honce => once_config_of_view honce (hf.same .remoteConfig hS.slot)
    (hf.same (.state .remoteConfigStatus) hS.status) (hf.view hn hS.tasks)

theorem OnceSince.offer_frame {kind : ConnectionKind} {settings? : Option ConnectionSettings}
    {isRouted : Prop}
    (h : OnceSince s t (.connection kind) (t.offerLane kind) settings? isRouted) (hf : Frame S t u)
    (hn : t.Numbered) (hS : S.SparesOffer kind)
    (hb : u.begun (.connection kind) = t.begun (.connection kind)) :
    OnceSince s u (.connection kind) (u.offerLane kind) settings? isRouted :=
  h.keep hb fun _ honce => once_offer_of_view honce (hf.offerSlot_of hS.slot)
    (isSettled_of_frame hf hS.current hS.resolved) (hf.view hn hS.tasks)

theorem OnceSince.packages_frame {packages? : Option PackagesAvailable} {isRouted : Prop}
    (h : OnceSince s t .packages t.packagesLane packages? isRouted) (hf : Frame S t u)
    (hn : t.Numbered) (hS : S.SparesPackages) (hb : u.begun .packages = t.begun .packages) :
    OnceSince s u .packages u.packagesLane packages? isRouted := by
  have hp : u.state.packages = t.state.packages := hf.same (.state .packages) hS.packages
  refine h.keep hb fun _ honce => once_packages_of_view honce (fun p _ hk => ?_)
    (hf.view hn hS.tasks)
  rw [hp]
  exact hk

theorem meaning_of_frame {kind : ConnectionKind} (hf : Frame S t u)
    (hS : ¬ S.may (.state (.current kind))) (offered : ConnectionSettings) :
    u.state.connections.complete kind offered = t.state.connections.complete kind offered :=
  complete_of_connection (.inl (hf.same (.state (.current kind)) hS))

/-! ## Routing -/

theorem Lanes.mono (h : Lanes i s r t) (hr : ∀ k, i.Asks k → r' k → r k) : Lanes i s r' t where
  numbered := h.numbered
  config := h.config.mono fun hp => hr .remoteConfig (mt (congrArg _) hp)
  offers kind := (h.offers kind).mono fun hp => hr (.connection kind) (mt (congrArg _) hp)
  meaning := h.meaning
  packages := h.packages.mono (hr .packages)

theorem Lanes.emit (h : Lanes i s r t) {e : Event} (he : e.call? = none) :
    Lanes i s r (t.emit e) := by
  have hb {k : Topic} : (t.emit e).begun k = t.begun k := begun_of_calls (calls_emit t he)
  exact ⟨h.numbered, h.config.keep hb fun _ ho => ho,
    fun kind => (h.offers kind).keep hb fun _ ho => ho,
    h.meaning, h.packages.keep hb fun _ ho => ho⟩

theorem Lanes.routeConfig (h : Lanes i s r t) :
    Lanes i s (fun k => k = .remoteConfig ∨ r k)
      (t.withPart i.remoteConfig dispatchRemoteConfig) := by
  cases hi : i.remoteConfig with
  | none => exact h.mono fun k ha hk => hk.resolve_left (by rintro rfl; exact ha hi)
  | some c =>
    have hf := frame_dispatchRemoteConfig t c
    have hb {k : Topic} : (t.dispatchRemoteConfig c).begun k = t.begun k :=
      (frame_routing_remoteConfig t c).begun_of_routing
    have hc := h.config
    rw [hi] at hc
    refine ⟨hf.numbered h.numbered, ?_, fun kind => ?_, fun kind offered ho => ?_, ?_⟩
    · rw [hi]
      exact hc.keep hb fun _ ho => once_dispatchRemoteConfig ho _
    · refine ((h.offers kind).offer_frame hf h.numbered ?_ hb).mono fun _ hk => hk.resolve_left nofun
      exact Scope.sparesOffer_of (x := .remoteConfig c .fresh) rfl
    · exact (meaning_of_frame (frame_routing_remoteConfig t c) (fun h => h) offered).trans
        (h.meaning kind offered ho)
    · refine (h.packages.packages_frame hf h.numbered ?_ hb).mono fun _ hk => hk.resolve_left nofun
      exact Scope.sparesPackages_of (x := .remoteConfig c .fresh) rfl

theorem Lanes.routeOffer (h : Lanes i s r t) {kind : ConnectionKind} {offered : ConnectionSettings}
    (hi : i.offer? kind = some offered) :
    Lanes i s (fun k => k = .connection kind ∨ r k) (t.dispatchOffer kind offered) := by
  have hf : Frame (.offer kind) t (t.dispatchOffer kind offered) := frame_dispatchOffer t offered
  have hb {k : Topic} : (t.dispatchOffer kind offered).begun k = t.begun k :=
    (frame_routing_offer t kind offered).begun_of_routing
  have ho := h.offers kind
  rw [hi] at ho
  refine ⟨hf.numbered h.numbered, ?_, fun k => ?_, fun k settings hk => ?_, ?_⟩
  · refine (h.config.config_frame hf h.numbered ?_ hb).mono fun _ hk => hk.resolve_left nofun
    exact Scope.sparesConfig_of (x := .connection kind offered .fresh) rfl
  · by_cases hk : kind = k
    · subst hk
      rw [hi]
      exact ho.keep hb fun _ honce => once_dispatchOffer honce (h.meaning kind offered hi) _
    · refine ((h.offers k).offer_frame hf h.numbered ?_ hb).mono fun _ hr =>
        hr.resolve_left fun he => hk (Topic.connection.inj he).symm
      exact Scope.sparesOffer_of (x := .connection kind offered .fresh) (if_neg hk)
  · exact (meaning_of_frame (frame_routing_offer t kind offered) (fun h => h) settings).trans
      (h.meaning k settings hk)
  · refine (h.packages.packages_frame hf h.numbered ?_ hb).mono fun _ hk => hk.resolve_left nofun
    exact Scope.sparesPackages_of (x := .connection kind offered .fresh) rfl

theorem Lanes.routeOffers (h : Lanes i s r t) :
    Lanes i s (fun k => (∃ kind, k = .connection kind) ∨ r k)
      (t.withPart i.connections fun t offers =>
        offers.toList.foldl (fun t o => t.dispatchOffer o.1 o.2) t) := by
  have fold (l : List (ConnectionKind × ConnectionSettings))
      (hl : ∀ o ∈ l, i.offer? o.1 = some o.2) {r : Topic → Prop} {t : Session τ}
      (h : Lanes i s r t) : Lanes i s (fun k => (∃ o ∈ l, k = .connection o.1) ∨ r k)
        (l.foldl (fun t o => t.dispatchOffer o.1 o.2) t) := by
    induction l generalizing r t with
    | nil => exact h.mono fun k _ hk => hk.resolve_left nofun
    | cons o rest ih =>
      have hrest := ih (fun o ho => hl o (List.mem_cons_of_mem _ ho))
        (h.routeOffer (hl o List.mem_cons_self))
      refine hrest.mono fun k _ hk => ?_
      rcases hk with ⟨p, hp, rfl⟩ | hk
      · rcases List.mem_cons.1 hp with rfl | hp
        · exact .inr (.inl rfl)
        · exact .inl ⟨p, hp, rfl⟩
      · exact .inr (.inr hk)
  unfold withPart
  split
  · next offers hi =>
    have hoffer (kind : ConnectionKind) (c : ConnectionSettings) :
        i.offer? kind = some c ↔ (kind, c) ∈ offers.toList := by
      unfold Instruction.offer?
      rw [hi, ConnectionOffers.mem_toList]
      rfl
    refine (fold offers.toList (fun o ho => (hoffer o.1 o.2).2 ho) h).mono fun k ha hk => ?_
    refine hk.imp_left ?_
    rintro ⟨kind, rfl⟩
    obtain ⟨c, hc⟩ := Option.ne_none_iff_exists'.1 ha
    exact ⟨(kind, c), (hoffer kind c).1 hc, rfl⟩
  · next hi =>
    refine h.mono fun k ha hk => hk.resolve_left ?_
    rintro ⟨kind, rfl⟩
    refine ha ?_
    unfold Instruction.offer?
    rw [hi]
    rfl

theorem Lanes.routePackages (h : Lanes i s r t) :
    Lanes i s (fun k => k = .packages ∨ r k) (t.withPart i.packages dispatchPackages) := by
  cases hi : i.packages with
  | none => exact h.mono fun k ha hk => hk.resolve_left (by rintro rfl; exact ha hi)
  | some p =>
    have hf := frame_dispatchPackages t p
    have hb {k : Topic} : (t.dispatchPackages p).begun k = t.begun k :=
      (frame_routing_packages t p).begun_of_routing
    have hp := h.packages
    rw [hi] at hp
    refine ⟨hf.numbered h.numbered, ?_, fun kind => ?_, fun kind offered ho => ?_, ?_⟩
    · refine (h.config.config_frame hf h.numbered ?_ hb).mono fun _ hk => hk.resolve_left nofun
      exact Scope.sparesConfig_of (x := .packages p .fresh) rfl
    · refine ((h.offers kind).offer_frame hf h.numbered ?_ hb).mono fun _ hk => hk.resolve_left nofun
      exact Scope.sparesOffer_of (x := .packages p .fresh) rfl
    · exact (meaning_of_frame (frame_routing_packages t p) (fun h => h) offered).trans
        (h.meaning kind offered ho)
    · rw [hi]
      exact hp.keep hb fun _ ho => once_dispatchPackages ho _

theorem Lanes.routeCommand (h : Lanes i s r t) :
    Lanes i s r (t.withPart i.command dispatchCommand) := by
  unfold withPart
  split
  · next command _ =>
    have hf := frame_dispatchCommand t command
    have hb {k : Topic} : (t.dispatchCommand command).begun k = t.begun k :=
      (frame_routing_spawn t rfl).begun_of_routing
    refine ⟨hf.numbered h.numbered, ?_, fun kind => ?_, fun kind offered ho => ?_, ?_⟩
    · exact h.config.config_frame hf h.numbered
        (Scope.sparesConfig_of (x := .command command .fresh) rfl) hb
    · exact (h.offers kind).offer_frame hf h.numbered
        (Scope.sparesOffer_of (x := .command command .fresh) rfl) hb
    · exact (meaning_of_frame hf (fun h => h) offered).trans (h.meaning kind offered ho)
    · exact h.packages.packages_frame hf h.numbered
        (Scope.sparesPackages_of (x := .command command .fresh) rfl) hb
  · exact h

/-- Once the instruction is routed, all of its parts have come in. -/
theorem Lanes.dispatch (h : Lanes i s r t) (r' : Topic → Prop) : Lanes i s r' (t.dispatch i) := by
  have hparts := (h.emit (e := .routing i) rfl).routeConfig.routeOffers.routePackages
  have hall : Lanes i s r' _ :=
    ⟨hparts.numbered, hparts.config.mono fun _ _ => .inr (.inr (.inl rfl)),
      fun kind => (hparts.offers kind).mono fun _ _ => .inr (.inl ⟨kind, rfl⟩), hparts.meaning,
      hparts.packages.mono fun _ _ => .inl rfl⟩
  exact hall.routeCommand

/-! ## A task goes on -/

theorem Lanes.offer_runTask (h : Lanes i s r t) {id : Nat} {x : Task}
    (hx : t.tasks.get? id = some x) (input : Input) (kind : ConnectionKind)
    (ho : ∀ run, Task.endedRun? id t.loop input x = some run → run.result ≠ .cancelled) :
    OnceSince s (t.runTask id input) (.connection kind) ((t.runTask id input).offerLane kind)
      ((i.offer? kind).map (s.state.connections.complete kind)) (r (.connection kind)) := by
  have hf := frame_runTask hx input
  have hb (hk : .connection kind ∉ x.topics) := begun_runTask h.numbered hx input hk
  cases x with
  | connection k settings stage =>
    by_cases hk : k = kind
    · subst hk
      rw [runTask_of_offer hx]
      refine (h.offers k).step fun _ honce => once_runOffer honce hx fun e he => ?_
      exact ho ⟨id, k, settings, e⟩ (congrArg (Option.map _) he)
    · refine (h.offers kind).offer_frame hf h.numbered (Scope.sparesOffer_of (if_neg hk)) (hb ?_)
      simpa [Task.topics] using Ne.symm hk
  | _ =>
    exact (h.offers kind).offer_frame hf h.numbered (Scope.sparesOffer_of rfl)
      (hb (by simp [Task.topics]))

/-- What a task adopts is the offer of its lane, so that the offer means the same after it. -/
theorem Lanes.meaning_runTask (h : Lanes i s r t) {id : Nat} {x : Task}
    (hx : t.tasks.get? id = some x) (input : Input) {kind : ConnectionKind}
    {offered : ConnectionSettings} (hoffered : i.offer? kind = some offered) :
    (t.runTask id input).state.connections.complete kind offered =
      t.state.connections.complete kind offered := by
  have hf := frame_runTask hx input
  cases x with
  | connection k settings stage =>
    by_cases hk : k = kind
    · subst hk
      rw [runTask_of_offer hx]
      obtain ⟨n, -, honce⟩ := h.offers k
      have hp := (honce.only (view_offerRun hx)).1
      rw [hoffered, Option.map_some, ← h.meaning k offered hoffered] at hp
      refine complete_of_connection
        ((connection_runOffer t id k settings stage input).imp_right ?_)
      exact fun hc => hc.trans hp.symm
    · have hspares := Scope.sparesOffer_of (x := .connection k settings stage) (if_neg hk)
      exact meaning_of_frame hf hspares.current offered
  | _ => exact meaning_of_frame hf (Scope.SparesOffer.current (Scope.sparesOffer_of rfl)) offered

theorem Lanes.runTask (h : Lanes i s r t) (id : Nat) {input : Input} (hi : input.isKept = true)
    (ho : ∀ run, (t.tasks.get? id).bind (Task.endedRun? id t.loop input) = some run →
      run.result ≠ .cancelled) : Lanes i s r (t.runTask id input) := by
  cases hx : t.tasks.get? id with
  | none =>
    rw [runTask_of_none hx]
    exact h
  | some x =>
    have hn := h.numbered
    have hf := frame_runTask hx input
    have hb {k : Topic} (hk : k ∉ x.topics) := begun_runTask hn hx input hk
    refine ⟨hf.numbered hn, ?_, fun kind => ?_, fun kind offered hoffered => ?_, ?_⟩
    · cases x with
      | remoteConfig config stage =>
        refine h.config.step fun _ honce => ?_
        unfold Session.runTask
        rw [hx]
        exact once_runConfig honce hx (by rintro rfl; contradiction)
      | _ =>
        exact h.config.config_frame hf hn (Scope.sparesConfig_of rfl) (hb (by simp [Task.topics]))
    · refine h.offer_runTask hx input kind fun run he => ho run ?_
      rw [hx]
      exact he
    · exact (h.meaning_runTask hx input hoffered).trans (h.meaning kind offered hoffered)
    · cases x with
      | packages packages stage =>
        refine h.packages.step fun _ honce => ?_
        unfold Session.runTask
        rw [hx]
        exact once_runPackages honce hx (by rintro rfl; contradiction)
      | _ =>
        exact h.packages.packages_frame hf hn (Scope.sparesPackages_of rfl)
          (hb (by simp [Task.topics]))

/-! ## The loop goes on -/

/-- A step that leaves alone what the lanes are about, and of whose tasks nothing is seen but what
was. -/
theorem Lanes.of_view (h : Lanes i s r t) (hf : Frame S t u)
    (hslot : ¬ S.may .remoteConfig) (hstatus : ¬ S.may (.state .remoteConfigStatus))
    (hoffers : ∀ kind, ¬ S.may (.offers kind)) (hcur : ∀ kind, ¬ S.may (.state (.current kind)))
    (hres : ∀ kind, ¬ S.may (.state (.resolved kind)))
    (hknown : ∀ p, i.packages = some p → t.state.packages.isKnown p.allHash = true →
      u.state.packages.isKnown p.allHash = true)
    (hv : ∀ {σ : Type} {v : Task → Option σ}, IgnoresReplies v → v (.refresh .fresh) = none →
      ∀ id, u.view v id = t.view v id)
    (hb : ∀ k : Topic, k.isPart = true → u.begun k = t.begun k) : Lanes i s r u where
  numbered := hf.numbered h.numbered
  config := h.config.keep (hb _ rfl) fun _ honce => once_config_of_view honce
    (hf.same .remoteConfig hslot) (hf.same (.state .remoteConfigStatus) hstatus)
    (hv (fun _ _ _ => rfl) rfl)
  offers kind := (h.offers kind).keep (hb _ rfl) fun _ honce => once_offer_of_view honce
    (hf.offerSlot_of (hoffers kind)) (isSettled_of_frame hf (hcur kind) (hres kind))
    (hv (ignoresReplies_offerRun kind) rfl)
  meaning kind offered ho :=
    (meaning_of_frame hf (hcur kind) offered).trans (h.meaning kind offered ho)
  packages := h.packages.keep (hb _ rfl) fun _ honce => once_packages_of_view honce hknown
    (hv (fun _ _ _ => rfl) rfl)

end Lanes

/-! ## A course -/

/-- If nothing was routed since `s` but the instruction, its lanes tell what has become of it. -/
structure Follows (i : Instruction) (s t : Session τ) : Prop where
  numbered : t.Numbered
  lanes : ∃ later, t.routed = s.routed ++ later ∧
    ((∀ j ∈ later, j = i) → Lanes i s (fun _ => later ≠ []) t)

theorem Follows.keep (h : Follows i s t) (hn : u.Numbered) (hr : u.routed = t.routed)
    (hl : ∀ r, Lanes i s r t → Lanes i s r u) : Follows i s u := by
  obtain ⟨later, hlater, hlanes⟩ := h.lanes
  exact ⟨hn, later, hr.trans hlater, fun hj => hl _ (hlanes hj)⟩

theorem Follows.dispatch (h : Follows i s t) (j : Instruction) : Follows i s (t.dispatch j) := by
  obtain ⟨later, hlater, hlanes⟩ := h.lanes
  refine ⟨(frame_dispatch t j).numbered h.numbered, later ++ [j], ?_, fun hj => ?_⟩
  · rw [routed_dispatch, hlater, List.append_assoc]
  · obtain rfl := hj j (List.mem_append_right _ List.mem_cons_self)
    exact (hlanes fun x hx => hj x (List.mem_append_left _ hx)).dispatch _

theorem Follows.runTask (h : Follows i s t) (id : Nat) {input : Input} (hi : input.isKept = true)
    (ho : ∀ run, (t.tasks.get? id).bind (Task.endedRun? id t.loop input) = some run →
      run.result ≠ .cancelled) : Follows i s (t.runTask id input) := by
  refine h.keep ((frame_any_runTask t id input).numbered h.numbered) ?_ fun r hl =>
    hl.runTask id hi ho
  cases hx : t.tasks.get? id with
  | none => rw [runTask_of_none hx]
  | some x =>
    refine (frame_runTask hx input).routed fun j hj => ?_
    cases x with
    | _ => exact hj

section Course
variable [Transport τ]

theorem Follows.runLoop (h : Follows i s t) (input : Input) : Follows i s (t.runLoop input) := by
  have part {k : Topic} (hk : k.isPart = true) : k ≠ .effectiveConfig ∧ k ≠ .identity := by
    constructor
    all_goals
      rintro rfl
      contradiction
  have known {S : Scope} {u v : Session τ} (hf : Frame S u v) (hp : ¬ S.may (.state .packages))
      (p : PackagesAvailable) (hk : u.state.packages.isKnown p.allHash = true) :
      v.state.packages.isKnown p.allHash = true := by
    have hsame : v.state.packages = u.state.packages := hf.same (.state .packages) hp
    rw [hsame]
    exact hk
  rcases t.runLoop_cases input with ⟨-, heq⟩ | ⟨u, routed, hset, hgo⟩
  · rw [heq]
    exact h
  · refine hgo.elim (M := Follows i s) ?_ (fun u j hu => hu.dispatch j) ?_ ?_
    · intro u v hw hu
      have hstill := hw.still hu.numbered
      refine hu.keep hstill.numbered (hw.frame.routed fun _ h => h) fun r hl => ?_
      refine hl.of_view hw.frame ?_ ?_ ?_ ?_ ?_ (fun p _ => known hw.frame ?_ p)
        (fun hv _ => hw.view hu.numbered hv) fun k _ => begun_of_calls hstill.calls
      all_goals simp [Scope.work]
    · intro u v hr hu
      refine hu.keep (hr.frame.numbered hu.numbered) (hr.frame.routed fun _ h => h) fun r hl => ?_
      refine hl.of_view hr.frame ?_ ?_ ?_ ?_ ?_ (fun p _ => known hr.frame ?_ p)
        (fun hv _ => hr.view hu.numbered hv) fun k hk => hr.begun (part hk).1 (part hk).2
      all_goals simp [Scope.rest]
    · have hstill := hset.still h.numbered
      refine h.keep hstill.numbered (hset.frame.routed fun _ h => h) fun r hl => ?_
      refine hl.of_view hset.frame ?_ ?_ ?_ ?_ ?_ (fun p _ => known hset.frame ?_ p)
        (fun hv _ => hset.view hv) fun k _ => begun_of_calls hstill.calls
      all_goals simp [Scope.settling]

variable [Carrier τ]

/-- Nothing is given up, and no work ends but on the packages of the instruction. -/
def Action.isSteady (i : Instruction) (s : Session τ) : Action τ → Bool
  | .run (.task id) input =>
    input.isKept && ((s.tasks.get? id).bind (Task.endedRun? id s.loop input)).all
      (·.result != .cancelled)
  | .reportSync hash report => !report.isEnd || i.packages.all (·.allHash == hash)
  | _ => true

def isSteady (i : Instruction) (s : Session τ) : List (Action τ) → Bool
  | [] => true
  | a :: rest => a.isSteady i s && (s.act a).isSteady i rest

theorem isKnown_act {a : Action τ} (hc : a.isCall = true) (ha : a.isSteady i s = true)
    {p : PackagesAvailable} (hp : i.packages = some p)
    (hk : s.state.packages.isKnown p.allHash = true) :
    (s.act a).state.packages.isKnown p.allHash = true := by
  have update (f : State → State) (h : (f s.state).packages.isKnown p.allHash = true) :
      (s.update f).state.packages.isKnown p.allHash = true := by
    rw [state_update]
    exact h
  cases a with
  | setTime | refresh => exact hk
  | setDescription d => exact update _ hk
  | setHealth h => exact update _ hk
  | reportSync hash report =>
    cases report with
    | status status => exact update _ hk
    | done =>
      obtain rfl : p.allHash = hash := by simpa [Action.isSteady, SyncReport.isEnd, hp] using ha
      refine update _ ?_
      show (s.state.endSync p.allHash .done).packages.isKnown p.allHash = true
      rw [packages_endSync]
      exact isKnown_finish _ _ nofun
    | failed error =>
      obtain rfl : p.allHash = hash := by simpa [Action.isSteady, SyncReport.isEnd, hp] using ha
      refine update _ ?_
      show ((s.state.setPackagesError error).endSync p.allHash .failed).packages.isKnown
        p.allHash = true
      rw [packages_endSync]
      exact isKnown_finish _ _ nofun
  | endStop =>
    show (if s.phase = .stopping ∧ s.isDrained then s.markStopped else s).state.packages.isKnown
      p.allHash = true
    split <;> exact hk
  | cancelStop isFirst =>
    show (if s.phase = .stopping then
      (if isFirst then s.abort.markStopped else s.abort) else s).state.packages.isKnown
        p.allHash = true
    split
    · split <;> exact hk
    · exact hk
  | _ => contradiction

theorem Follows.act (h : Follows i s t) {a : Action τ} (ha : a.isSteady i t = true) :
    Follows i s (t.act a) := by
  by_cases hc : a.isCall = true
  · have hf := frame_act t a hc
    have hb {k : Topic} : (t.act a).begun k = t.begun k := by
      refine begun_of_calls (Calm.act a ?_ h.numbered).calls
      rintro actor input rfl
      contradiction
    refine h.keep (hf.numbered h.numbered) (hf.routed fun _ h => h) fun r hl => ?_
    refine hl.of_view hf ?_ ?_ ?_ ?_ ?_ (fun p hp => isKnown_act hc ha hp)
      (fun _ hfresh => view_act t a hc h.numbered hfresh) fun k _ => hb
    all_goals simp [Scope.calls]
  · cases a with
    | run actor input =>
      cases actor with
      | loop => exact h.runLoop input
      | task id =>
        obtain ⟨hi, hr⟩ := Bool.and_eq_true_iff.1 ha
        refine h.runTask id hi fun run hrun => ?_
        rw [hrun] at hr
        simpa using hr
    | use u =>
      exact h.keep h.numbered rfl fun r hl =>
        ⟨hl.numbered, hl.config, hl.offers, hl.meaning, hl.packages⟩
    | setInterval d =>
      exact h.keep h.numbered rfl fun r hl =>
        ⟨hl.numbered, hl.config, hl.offers, hl.meaning, hl.packages⟩
    | stop =>
      have hf := frame_stop t
      refine h.keep (hf.numbered h.numbered) (hf.routed fun _ h => h) fun r hl => ?_
      refine hl.of_view hf ?_ ?_ ?_ ?_ ?_ (fun p _ hk => ?_)
        (fun _ _ => hf.view h.numbered fun _ => False.elim)
        fun k _ => begun_of_calls (Calm.act .stop (fun _ _ h => by cases h) h.numbered).calls
      · simp [Scope.stop]
      · simp [Scope.stop]
      · simp [Scope.stop]
      · simp [Scope.stop]
      · simp [Scope.stop]
      · have hsame : (t.act .stop).state.packages = t.state.packages :=
          hf.same (.state .packages) (by simp [Scope.stop])
        rw [hsame]
        exact hk
    | _ => exact absurd rfl hc

theorem Follows.after (h : Follows i s t) {actions : List (Action τ)}
    (ha : t.isSteady i actions = true) : Follows i s (t.after actions) := by
  induction actions generalizing t with
  | nil => exact h
  | cons a rest ih =>
    obtain ⟨hfirst, hrest⟩ := Bool.and_eq_true_iff.1 ha
    exact ih (h.act hfirst) hrest

end Course

/-! ## Before the first time, and after the last task -/

theorem IsIdle.of_isEmpty (h : s.tasks.entries.isEmpty = true) : s.IsIdle := fun id x hx => by
  have hx : s.tasks.entries.lookup id = some x := hx
  rw [List.isEmpty_iff.1 h] at hx
  contradiction

theorem IsIdle.view {σ : Type} {v : Task → Option σ} (h : s.IsIdle)
    (hv : ∀ x, x.isHandler = false → v x = none) (id : Nat) : s.view v id = none :=
  Option.eq_none_iff_forall_ne_some.2 fun y hy => by
    obtain ⟨x, hx, hxy⟩ := view_eq_some.1 hy
    rw [hv x (h id x hx)] at hxy
    contradiction

theorem IsIdle.config (h : s.IsIdle) : ∀ id, s.view Task.configRun? id = none :=
  h.view fun x hx => by
    cases x with
    | remoteConfig => contradiction
    | _ => rfl

theorem IsIdle.offer (h : s.IsIdle) (kind : ConnectionKind) :
    ∀ id, s.view (Task.offerRun? kind) id = none :=
  h.view fun x hx => by
    cases x with
    | connection => contradiction
    | _ => rfl

theorem IsIdle.packages (h : s.IsIdle) : ∀ id, s.view Task.packagesRun? id = none :=
  h.view fun x hx => by
    cases x with
    | packages => contradiction
    | _ => rfl

/-- Where no task deals with parts of instructions, all lanes are free. -/
theorem follows_self (i : Instruction) (ho : s.Orderly) (hgoing : s.isStopping = false)
    (hidle : s.IsIdle) : Follows i s s := by
  have free {α : Type} {slot : Slot α} {task? : Nat → Option (α × Bool)}
      (h : slot.Served s.isStopping task?) (hn : ∀ i, task? i = none) : slot = .idle := by
    cases h with
    | vacant hs => exact hs.resolve_right (by rw [hgoing]; nofun)
    | busy id x _ hone =>
      have hid := hone id
      rw [hn, if_pos rfl] at hid
      contradiction
  refine ⟨ho.numbered, [], (List.append_nil _).symm, fun _ => ⟨ho.numbered, ?_, fun kind => ?_,
    fun _ _ _ => rfl, ?_⟩⟩
  · exact ⟨0, rfl, .idle (fun h => absurd rfl h) (free ho.config hidle.config) hidle.config⟩
  · exact ⟨0, rfl, .idle (fun h => absurd rfl h) (free (ho.offers kind) (hidle.offer kind))
      (hidle.offer kind)⟩
  · exact ⟨0, rfl, .idle (fun h => absurd rfl h) trivial hidle.packages⟩

theorem Lanes.length_begun_le {r : Topic → Prop} (h : Lanes i s r t) {k : Topic}
    (hk : k.isPart = true) : (t.begun k).length ≤ (s.begun k).length + 1 := by
  have le {α : Type} {l : Lane α} {p? : Option α} {R : Prop} (ho : OnceSince s t k l p? R) :
      (t.begun k).length ≤ (s.begun k).length + 1 := by
    obtain ⟨n, hn, honce⟩ := ho
    have := honce.le_one
    omega
  cases k with
  | remoteConfig => exact le h.config
  | connection kind => exact le (h.offers kind)
  | packages => exact le h.packages
  | _ => contradiction

theorem Lanes.hasSettled {r : Topic → Prop} (h : Lanes i s r t) (hr : ∀ k, r k)
    (hidle : t.IsIdle) : t.state.HasSettled i where
  config c hc := by
    obtain ⟨n, -, honce⟩ := h.config
    exact honce.isSettled (hr _) hidle.config (congrArg _ hc)
  offers kind c hc := by
    obtain ⟨n, -, honce⟩ := h.offers kind
    refine honce.isSettled (hr _) (hidle.offer kind) ?_
    rw [hc, h.meaning kind c hc]
    rfl
  packages p hp := by
    obtain ⟨n, -, honce⟩ := h.packages
    exact honce.isSettled (hr _) hidle.packages hp

/-! ## A settled instruction -/

/-- What is left of routing a settled instruction: the command. -/
def routeAgain (s : Session τ) (i : Instruction) : Session τ :=
  (s.emit (.routing i)).withPart i.command dispatchCommand

/-- What comes before routing: the agent is told of an error, and everything is asked for. -/
def heed (s : Session τ) (i : Instruction) : Session τ :=
  let s := s.withPart i.error fun s e => s.tell (.serverError e)
  if i.fullState then { s with state := s.state.requestFullState } else s

theorem withPart_eq_self {α : Type} {part : Option α} {f : Session τ → α → Session τ}
    (h : ∀ a, part = some a → f s a = s) : s.withPart part f = s := by
  cases part with
  | none => rfl
  | some a => exact h a rfl

theorem dispatch_of_settled (h : t.state.HasSettled i) : t.dispatch i = t.routeAgain i := by
  have hconfig : (t.emit (.routing i)).withPart i.remoteConfig dispatchRemoteConfig =
      t.emit (.routing i) := by
    refine withPart_eq_self fun c hc => ?_
    unfold dispatchRemoteConfig
    exact if_pos (h.config c hc)
  have fold (l : List (ConnectionKind × ConnectionSettings))
      (hl : ∀ o ∈ l, i.offer? o.1 = some o.2) :
      l.foldl (fun s o => s.dispatchOffer o.1 o.2) (t.emit (.routing i)) = t.emit (.routing i) := by
    induction l with
    | nil => rfl
    | cons o rest ih =>
      have hone : (t.emit (.routing i)).dispatchOffer o.1 o.2 = t.emit (.routing i) := by
        unfold dispatchOffer
        exact if_pos (h.offers o.1 o.2 (hl o List.mem_cons_self))
      rw [List.foldl_cons, hone]
      exact ih fun o ho => hl o (List.mem_cons_of_mem _ ho)
  have hoffers : (t.emit (.routing i)).withPart i.connections (fun s offers =>
      offers.toList.foldl (fun s o => s.dispatchOffer o.1 o.2) s) = t.emit (.routing i) := by
    refine withPart_eq_self fun offers ho => fold offers.toList fun o hm => ?_
    unfold Instruction.offer?
    rw [ho]
    exact ConnectionOffers.mem_toList.1 hm
  have hpackages : (t.emit (.routing i)).withPart i.packages dispatchPackages =
      t.emit (.routing i) := by
    refine withPart_eq_self fun p hp => ?_
    have hknown : (t.emit (.routing i)).state.beginSync p.allHash = (false, t.state) :=
      State.beginSync_of_known (h.packages p hp)
    unfold dispatchPackages
    rw [hknown]
    rfl
  unfold Session.dispatch
  dsimp only
  rw [hconfig, hoffers, hpackages]
  rfl

/-- Asking for everything wakes nobody. -/
theorem update_requestFullState (s : Session τ) :
    s.update State.requestFullState = { s with state := s.state.requestFullState } := by
  unfold Session.update
  refine if_neg fun h => ?_
  obtain ⟨ha, hs⟩ := Bool.and_eq_true_iff.1 h
  have hs : s.state.wakeup.isSignalled = true := hs
  unfold isAsleep at ha
  rw [hs] at ha
  exact Bool.false_ne_true ((Bool.and_false _).symm.trans ha)

theorem state_heed (s : Session τ) (i : Instruction) :
    (s.heed i).state = if i.fullState then s.state.requestFullState else s.state := by
  have htold : (s.withPart i.error fun s e => s.tell (.serverError e)).state = s.state := by
    unfold withPart
    split <;> rfl
  unfold heed
  dsimp only
  split
  · exact congrArg State.requestFullState htold
  · exact htold

theorem state_routeAgain (s : Session τ) (i : Instruction) : (s.routeAgain i).state = s.state := by
  unfold routeAgain withPart
  split <;> rfl

variable [Transport τ]

/-- What a settled instruction comes to: only another identity makes the loop wait. -/
def processAgain (s : Session τ) (i : Instruction) (r : Resume) : Session τ :=
  match i.identification with
  | some ⟨uid⟩ =>
    if uid = "" ∨ uid = s.state.uid then ((s.heed i).routeAgain i).resume r
    else { s.heed i with loop := .identifying uid i r }.call .loop (.identify uid)
  | none => ((s.heed i).routeAgain i).resume r

/-- What it comes to when the agent has answered whether it takes the other identity. -/
def identifiedAgain (s : Session τ) (uid : String) (i : Instruction) (r : Resume) :
    Except CallbackError Unit → Session τ
  | .ok () => ((s.update (·.setUid uid)).routeAgain i).resume r
  | .error _ => (s.routeAgain i).resume r

theorem process_of_settled (h : t.state.HasSettled i) (r : Resume) :
    t.process i r = t.processAgain i r := by
  have hstate := state_heed t i
  have hset : (t.heed i).state.HasSettled i := by
    rw [hstate]
    split
    · exact ⟨h.config, h.offers, h.packages⟩
    · exact h
  have huid : (t.heed i).state.uid = t.state.uid := by
    rw [hstate]
    split <;> rfl
  have hheed : t.heed i =
      if i.fullState then
        (t.withPart i.error fun s e => s.tell (.serverError e)).update State.requestFullState
      else t.withPart i.error fun s e => s.tell (.serverError e) := by
    rw [update_requestFullState]
    rfl
  unfold process processAgain
  dsimp only
  rewrite [← hheed, ← dispatch_of_settled hset, ← huid]
  rfl

theorem identified_of_settled (h : t.state.HasSettled i) (uid : String) (r : Resume)
    (result : Except CallbackError Unit) :
    t.identified uid i r result = t.identifiedAgain uid i r result := by
  cases result with
  | ok =>
    have hset : (t.update (·.setUid uid)).state.HasSettled i := by
      rw [state_update]
      exact ⟨h.config, h.offers, h.packages⟩
    unfold identifiedAgain
    rewrite [← dispatch_of_settled hset]
    rfl
  | error e =>
    unfold identifiedAgain
    rewrite [← dispatch_of_settled h]
    rfl

variable [Carrier τ]

/-- The identity that the instruction names is kept, once the session has it. -/
theorem uid_of_routed {origin : Session τ} (hs : s.AsksAsTold) (hearlier : origin.Named s)
    (actions : List (Action τ)) {n : Nat}
    (hrouted : (s.after actions).routed = origin.routed ++ List.replicate n i) {uid : String}
    (hi : i.identification = some ⟨uid⟩) (hu : s.state.uid = uid) :
    (s.after actions).state.uid = uid := by
  obtain ⟨first, hfirst, -⟩ := hearlier
  obtain ⟨later, hlater, hnamed⟩ := (named_after hs actions).1
  rw [hlater, hfirst, List.append_assoc] at hrouted
  have hall : first ++ later = List.replicate n i := List.append_cancel_left hrouted
  rcases hnamed with h | ⟨j, hj, h⟩
  · exact h.trans hu
  · obtain rfl : j = i :=
      List.eq_of_mem_replicate (hall ▸ List.mem_append_right first hj : j ∈ List.replicate n i)
    exact congrArg Identification.instanceUid (Option.some.inj (h.symm.trans hi))

/-- **A server that repeats its instruction causes work only once.** Let the session be idle, and let
it go on in any way in which nothing is routed but one instruction, nothing is given up, and no work
ends but on the packages of the instruction. Then the agent is called once at most about the offered
configuration, about the settings for each kind of connection, and about the packages. Once the
instruction was routed and the session is idle again, the instruction is settled, and when it comes
in again it changes nothing of the state but that everything is asked for: the agent is told of the
error, asked to take the identity if it has another one, and called for the command. Once the session
has the identity that the instruction names, it keeps it, and the agent is not asked again. -/
theorem repetition_works_once (transport : τ) (settings : StartSettings) (fresh : String)
    (before actions : List (Action τ)) (i : Instruction) (n : Nat)
    (hgoing : ((start transport settings fresh).after before).isStopping = false)
    (hidle : ((start transport settings fresh).after before).IsIdle)
    (hsteady : ((start transport settings fresh).after before).isSteady i actions = true)
    (hrouted : (((start transport settings fresh).after before).after actions).routed =
      ((start transport settings fresh).after before).routed ++ List.replicate n i) :
    let s := (start transport settings fresh).after before
    let t := s.after actions
    (∀ k : Topic, k.isPart = true → (t.begun k).length ≤ (s.begun k).length + 1) ∧
      (n ≠ 0 → t.IsIdle →
        (∀ r, t.process i r = t.processAgain i r) ∧
        (∀ uid r result, t.identified uid i r result = t.identifiedAgain uid i r result) ∧
        (t.heed i).state = (if i.fullState then t.state.requestFullState else t.state) ∧
        ((t.heed i).routeAgain i).state = (t.heed i).state ∧ (t.routeAgain i).state = t.state) ∧
      ∀ uid, i.identification = some ⟨uid⟩ → ∀ earlier, earlier <+: actions →
        (s.after earlier).state.uid = uid → t.state.uid = uid := by
  intro s t
  have ho : s.Orderly := (orderly_start transport settings fresh).after before
  have hfollows := (follows_self i ho hgoing hidle).after hsteady
  obtain ⟨later, hlater, hlanes⟩ := hfollows.lanes
  obtain rfl : later = List.replicate n i := List.append_cancel_left (hlater.symm.trans hrouted)
  have hlanes := hlanes fun j hj => List.eq_of_mem_replicate hj
  refine ⟨fun k hk => hlanes.length_begun_le hk, fun hn hi => ?_, ?_⟩
  · have hset := hlanes.hasSettled (fun _ hr => hn (by simpa using hr)) hi
    exact ⟨process_of_settled hset, identified_of_settled hset, state_heed t i,
      state_routeAgain _ i, state_routeAgain t i⟩
  · rintro uid hi earlier ⟨rest, hrest⟩ hu
    have hasked := (named_after (asksAsTold_start transport settings fresh) before).2
    obtain ⟨hearlier, hasks⟩ := named_after hasked earlier
    have ht : t = (s.after earlier).after rest := by
      show s.after actions = _
      rw [← hrest]
      exact List.foldl_append
    rw [ht]
    exact uid_of_routed hasks hearlier rest ((congrArg routed ht).symm.trans hrouted) hi hu

def upgrade : Instruction where
  remoteConfig := some { hash := [2] }
  connections := some { metrics := some { endpoint := "http://b" } }
  packages := some { allHash := [7] }

/-- They are offered, and offered again while the agent is at work on them. The agent rejects the
settings. -/
def upgradeTwice : List (Action Http.Sender) :=
  [.run .loop .look, .run .loop (.answered (.effective (.error .cancelled))),
    .run .loop (.exchanged (.ok (some upgrade))), .run (.task 0) .look, .run (.task 1) .look,
    .run (.task 2) .look, .setTime 30000, .run .loop .look,
    .run .loop (.exchanged (.ok (some upgrade))), .run (.task 0) (.answered (.applied (.ok {}))),
    .run (.task 0) (.answered (.done (.ok ()))),
    .run (.task 1) (.answered (.done (.error (.rejected "no")))),
    .run (.task 2) (.answered (.done (.ok ())))]

theorem repetition_works_once_upgradeTwice :
    let s := start ({} : Http.Sender) { serverUrl := "http://a" } "agent"
    let t := s.after upgradeTwice
    s.isSteady upgrade upgradeTwice = true ∧ t.routed = [upgrade, upgrade] ∧ t.IsIdle ∧
      (t.begun (.connection (.telemetry .metrics))).length ≤ 1 ∧
      ∀ r, t.process upgrade r = t.processAgain upgrade r := by
  intro s t
  have hsteady : s.isSteady upgrade upgradeTwice = true := by decide
  have hrouted : t.routed = [upgrade, upgrade] := by decide
  have hidle : t.IsIdle := .of_isEmpty (by decide)
  have h := repetition_works_once ({} : Http.Sender) { serverUrl := "http://a" } "agent" []
    upgradeTwice upgrade 2 rfl (.of_isEmpty rfl) hsteady hrouted
  exact ⟨hsteady, hrouted, hidle, h.1 _ rfl, (h.2.1 nofun hidle).1⟩

end Session

end ManagedAgent
