import ManagedAgent.Proofs.Session.InForce
import ManagedAgent.Supervisor

/-!
# A supervisor and its session have the same configuration

A supervisor holds the configuration in force, and its session records one too. A `Supervision` is a
session whose calls about configurations a supervisor handles. A handler looks at what the
supervisor holds, changes it and gives its answer in one step. When the session records that answer
is another matter: the actors that ask run beside each other, so an answer may be on its way while
another actor's handler runs, and be overtaken by its answer. Readings wait for each other at the
gate, but what an applied configuration brings is recorded past it.

* `Supervision.recordings` : what the session records, and what the supervisor held by then;
* `Supervision.Follows` : how far the session has come with what the supervisor did;
* `Following.step`, `Following.after` : so it is after any moves;
* `exists_actions` : what the moves come to in the session is one of its courses;
* `supervisor_and_session_agree_iff` : the two agree unless a reading was overtaken.
-/

set_option autoImplicit false

namespace ManagedAgent

/-- The call asks for the configuration in force, or offers one. -/
def Call.isAboutConfig : Call → Bool
  | .applyRemoteConfig _ | .effectiveConfig => true
  | _ => false

def Call.offered? : Call → Option ConfigMap
  | .applyRemoteConfig config => some config.config
  | _ => none

theorem Call.eq_of_topic {c : Call} (h : c.topic = .remoteConfig) :
    ∃ config, c = .applyRemoteConfig config := by
  cases c with
  | applyRemoteConfig config => exact ⟨config, rfl⟩
  | _ => cases h

namespace Session
variable {τ : Type}

def handed (s : Session τ) : List ConfigMap := s.calls.filterMap (·.2.offered?)

theorem handed_eq (s : Session τ) :
    s.handed = (s.begun .remoteConfig).filterMap (·.2.offered?) := by
  unfold handed begun
  rw [List.filterMap_filter]
  refine congrArg (s.calls.filterMap ·) (funext fun x => ?_)
  cases x.2 <;> rfl

theorem calling?_of_isEmpty {s : Session τ} (h : s.tasks.entries.isEmpty = true) (id : Nat) :
    s.calling? (.task id) = none := by
  show (s.tasks.entries.lookup id).bind Task.call? = none
  rw [List.isEmpty_iff.1 h]
  rfl

section Course
variable [Carrier τ] {s : Session τ}

def Action.answersConfig (s : Session τ) : Action τ → Bool
  | .run actor (.answered _) => (s.calling? actor).any Call.isAboutConfig
  | _ => false

/-- Only answers to such calls bring a configuration. -/
theorem answersConfig_of_brought {a : Action τ} {c : EffectiveConfig}
    (h : a.brought? s = some c) : a.answersConfig s = true := by
  cases a with
  | run actor input =>
    cases actor with
    | loop =>
      have h : s.loopBrought? input = some c := h
      unfold loopBrought? at h
      split at h
      · split at h
        · next hl =>
          show (s.loop.call?).any Call.isAboutConfig = true
          rw [hl.1]
          rfl
        · contradiction
      · contradiction
    | task id =>
      obtain ⟨x, hx, hb⟩ := Option.bind_eq_some_iff.1 h
      unfold Task.brought? at hb
      split at hb
      all_goals first
        | contradiction
        | exact congrArg (Option.any Call.isAboutConfig) (view_of_get? hx)
  | _ => contradiction

/-- An answer ends only a call that the actor has made, and which it can answer. -/
theorem ended?_run {actor other : Actor} {input : Input} {config : RemoteConfig}
    (h : (Action.run actor input : Action τ).ended? s = some (other, .applyRemoteConfig config)) :
    s.calling? actor = some (.applyRemoteConfig config) ∧ other = actor ∧
      ∃ r, input = .answered (.applied r) := by
  obtain ⟨c, hc, heq⟩ := Option.map_eq_some_iff.1 h
  cases heq
  obtain ⟨hcall, hends⟩ := Option.filter_eq_some_iff.1 hc
  refine ⟨hcall, rfl, ?_⟩
  cases input with
  | answered answer =>
    cases answer with
    | applied r => exact ⟨r, rfl⟩
    | _ => cases actor <;> contradiction
  | _ => cases actor <;> contradiction

/-- Only answers end a call to apply a configuration. -/
theorem ended?_ne {a : Action τ} (h : a.answersConfig s = false) (actor : Actor)
    (config : RemoteConfig) : a.ended? s ≠ some (actor, .applyRemoteConfig config) := by
  intro hended
  cases a with
  | run other input =>
    obtain ⟨hcall, -, r, rfl⟩ := ended?_run hended
    have hanswers : (s.calling? other).any Call.isAboutConfig = false := h
    rw [hcall] at hanswers
    contradiction
  | _ => contradiction

variable [Transport τ]

/-- An action that ends no call to apply a configuration. -/
theorem ended_eq_nil {a : Action τ}
    (h : ∀ actor config, a.ended? s ≠ some (actor, .applyRemoteConfig config)) :
    s.ended .remoteConfig [a] = [] := by
  have hnone : (a.ended? s).filter (·.2.topic = .remoteConfig) = none := by
    refine Option.filter_eq_none_iff.2 fun x hx htopic => ?_
    obtain ⟨actor, c⟩ := x
    obtain ⟨config, rfl⟩ := Call.eq_of_topic (decide_eq_true_eq.mp htopic)
    exact h actor config hx
  unfold Session.ended
  rw [hnone]
  rfl

theorem ended_applied {actor : Actor} {config : RemoteConfig}
    (hc : s.calling? actor = some (.applyRemoteConfig config))
    (r : Except CallbackError ApplyOutcome) :
    s.ended .remoteConfig [.run actor (.answered (.applied r))] =
      [(actor, .applyRemoteConfig config)] := by
  have hended : (Action.run actor (.answered (.applied r)) : Action τ).ended? s =
      some (actor, .applyRemoteConfig config) := by
    show (s.ending? actor _).map (actor, ·) = _
    rw [ending?_of_ends actor _ hc rfl, hc]
    rfl
  unfold Session.ended
  rw [hended]
  rfl

/-- A call to apply a configuration runs until it is answered. -/
theorem calling?_act (hn : s.Numbered) {a : Action τ} {actor : Actor}
    (h : ∀ config, a.ended? s ≠ some (actor, .applyRemoteConfig config)) {config : RemoteConfig}
    (hc : s.calling? actor = some (.applyRemoteConfig config)) :
    (s.act a).calling? actor = some (.applyRemoteConfig config) := by
  obtain ⟨other, ending, he, hturn⟩ := turn_act s a hn
  cases hturn with
  | stays hcalm => rw [hcalm.calling, hc]
  | goes hending _ ho =>
    by_cases hactor : actor = other
    · refine absurd ?_ (h config)
      rw [he, hending, ← hactor, hc]
      rfl
    · rw [ho actor hactor, hc]

theorem handed_isPrefix (s : Session τ) (a : Action τ) : s.handed <+: (s.act a).handed := by
  obtain ⟨es, hes, -⟩ := (frame_any s a).logged
  unfold handed calls
  rw [hes, List.filterMap_append, List.filterMap_append]
  exact List.prefix_append _ _

end Course

end Session

def Answer.config? : Answer → Option EffectiveConfig
  | .effective (.ok c) => some c
  | .applied (.ok ⟨true, c⟩) => c
  | _ => none

/-- What an actor that was answered brings, the answer has brought it. -/
theorem Answer.config?_of_brought {τ : Type} [Carrier τ] {s : Session τ} {actor : Actor}
    {answer : Answer} {c : EffectiveConfig}
    (h : (Session.Action.run actor (.answered answer) : Session.Action τ).brought? s = some c) :
    answer.config? = some c := by
  cases actor with
  | loop =>
    have h : s.loopBrought? (.answered answer) = some c := h
    unfold Session.loopBrought? at h
    split at h
    · next r heq =>
      cases heq
      replace h : (if s.loop = .reading ∧ s.isStopping = false then r.toOption else none) =
        some c := h
      split at h
      · cases r with
        | ok d => exact h
        | error e => contradiction
      · contradiction
    · contradiction
  | task id =>
    obtain ⟨y, -, hb⟩ := Option.bind_eq_some_iff.1 h
    unfold Task.brought? at hb
    split at hb
    all_goals first
      | contradiction
      | next heq => cases hb; cases heq <;> rfl

/-! ## Supervised sessions -/

/-- A session whose calls about configurations a supervisor handles. -/
structure Supervision (τ : Type) where
  session : Session τ
  supervisor : Supervisor := {}
  /-- The answers of handlers that have run, on their way to the actors that called them. -/
  answers : Table Actor Answer := {}

/-- A configuration that the session has recorded. -/
structure Recording where
  config : EffectiveConfig
  /-- What the supervisor held by then. -/
  held : EffectiveConfig
  deriving DecidableEq

namespace Supervision
variable {τ : Type}

def start (transport : τ) (settings : StartSettings) (fresh : String) : Supervision τ :=
  { session := .start transport settings fresh }

inductive Move (τ : Type) [Carrier τ] where
  /-- The handler that the actor has called runs. -/
  | handle (actor : Actor)
  /-- The answer that is on its way to the actor arrives. -/
  | reply (actor : Actor)
  /-- Anything else happens in the session. -/
  | act (action : Session.Action τ)

/-- Run the handler that the actor has called. That no other handler runs at the same time is what
is assumed of handlers; the answers of others may be on their way. -/
def handle (x : Supervision τ) (actor : Actor) : Supervision τ :=
  match x.answers.get? actor, x.session.calling? actor with
  | none, some c =>
    if c.isAboutConfig then
      { x with
        supervisor := (x.supervisor.answer c).2
        answers := x.answers.insert actor (x.supervisor.answer c).1 }
    else x
  | _, _ => x

section Moves
variable [Carrier τ]

/-- What the session records when an answer arrives. -/
def recording? (x : Supervision τ) : Move τ → Option Recording
  | .reply actor =>
    (x.answers.get? actor).bind fun answer =>
      ((Session.Action.run actor (.answered answer) : Session.Action τ).brought? x.session).map
        (⟨·, x.supervisor.effective⟩)
  | _ => none

variable [Transport τ]

def deliver (x : Supervision τ) (actor : Actor) (answer : Answer) : Supervision τ :=
  { x with
    session := x.session.act (.run actor (.answered answer))
    answers := x.answers.erase actor }

def reply (x : Supervision τ) (actor : Actor) : Supervision τ :=
  match x.answers.get? actor with
  | some answer => x.deliver actor answer
  | none => x

/-- Nobody but the supervisor answers calls about configurations. -/
def act (x : Supervision τ) (a : Session.Action τ) : Supervision τ :=
  if a.answersConfig x.session then x else { x with session := x.session.act a }

def step (x : Supervision τ) : Move τ → Supervision τ
  | .handle actor => x.handle actor
  | .reply actor => x.reply actor
  | .act a => x.act a

def after (x : Supervision τ) (moves : List (Move τ)) : Supervision τ := moves.foldl step x

def recordings (x : Supervision τ) : List (Move τ) → List Recording
  | [] => []
  | move :: rest => (x.recording? move).toList ++ (x.step move).recordings rest

/-- No handler runs while an answer is on its way. -/
def IsPrompt (x : Supervision τ) : List (Move τ) → Prop
  | [] => True
  | move :: rest => (∀ actor, move = .handle actor → x.answers = {}) ∧ (x.step move).IsPrompt rest

end Moves

/-! ## What is kept -/

/-- What was recorded last is what the supervisor holds, if it was so by then. -/
def Agrees (x : Supervision τ) (past : List Recording) : Prop :=
  ∀ r, past.getLast? = some r → (r.config = x.supervisor.effective ↔ r.config = r.held)

/-- The last of the configurations that were handed over, or the empty one. -/
def latest (handed : List (Actor × Call)) : ConfigMap :=
  (handed.filterMap (·.2.offered?)).getLast?.getD {}

theorem latest_concat (handed : List (Actor × Call)) (actor : Actor) (config : RemoteConfig) :
    latest (handed ++ [(actor, .applyRemoteConfig config)]) = config.config := by
  unfold latest
  rw [List.filterMap_append]
  show ((handed.filterMap _ ++ [config.config]).getLast?).getD {} = _
  rw [List.getLast?_concat, Option.getD_some]

/-- How far the session has come with the configurations that the supervisor was handed: those that
it was done with, and the one that it is handed now. -/
inductive Follows (x : Supervision τ) (past : List Recording) (handed : List (Actor × Call)) :
    Option (Actor × Call) → Prop
  /-- No configuration was taken over that the session does not know of. -/
  | steady {running : Option (Actor × Call)}
      (ha : ∀ actor r, x.answers.get? actor ≠ some (.applied r))
      (he : x.supervisor.effective = .of (latest handed)) (hs : x.Agrees past) :
      Follows x past handed running
  /-- The supervisor has taken the configuration over, and the session will. -/
  | taken {actor : Actor} {config : RemoteConfig} {outcome : ApplyOutcome}
      (ha : ∀ other r,
        x.answers.get? other = some (.applied r) ↔ other = actor ∧ r = .ok outcome)
      (he : x.supervisor.effective = .of config.config)
      (ho : outcome = .changedTo x.supervisor.effective ∨ outcome = .unchanged ∧ x.Agrees past) :
      Follows x past handed (some (actor, .applyRemoteConfig config))

/-- The files of every configuration that is held, recorded or on its way are among `maps`. -/
structure Following (maps : List ConfigMap) (x : Supervision τ) (past : List Recording) : Prop where
  separate : x.session.Separate
  recorded : x.session.state.inForce? = past.getLast?.map (·.config)
  known : ∀ r ∈ past, ∃ m ∈ maps, r.config = .of m
  held : ∃ m ∈ maps, x.supervisor.effective = .of m
  coming : ∀ actor answer c, x.answers.get? actor = some answer → answer.config? = some c →
    ∃ m ∈ maps, c = .of m
  follows : ∃ handed running, x.session.Running .remoteConfig running ∧
    x.session.begun .remoteConfig = handed ++ running.toList ∧ Follows x past handed running

variable {maps : List ConfigMap} {x : Supervision τ} {past : List Recording}

theorem following_start (hmaps : {} ∈ maps) (transport : τ) (settings : StartSettings)
    (fresh : String) : Following maps (start transport settings fresh) [] where
  separate := Session.separate_start transport settings fresh
  recorded := rfl
  known _ h := nomatch h
  held := ⟨{}, hmaps, rfl⟩
  coming _ _ _ h := nomatch h
  follows := by
    refine ⟨[], none, fun a c => ⟨fun h => ?_, fun h => nomatch h⟩, rfl, .steady ?_ rfl ?_⟩
    · cases a <;> cases h.1
    · exact fun _ _ h => nomatch h
    · exact fun _ h => nomatch h

/-- What is recorded now is what the supervisor holds now. -/
theorem agrees_append {new : Option Recording}
    (hnew : ∀ r, new = some r → r.held = x.supervisor.effective)
    (h : new = none → x.Agrees past) : x.Agrees (past ++ new.toList) := by
  cases new with
  | none =>
    rw [Option.toList_none, List.append_nil]
    exact h rfl
  | some r =>
    intro q hq
    rw [Option.toList_some, List.getLast?_concat] at hq
    obtain rfl := Option.some.inj hq
    rw [hnew r rfl]

/-! ## Handlers -/

theorem takeConfig_cases (s : Supervisor) (config : RemoteConfig) :
    (s.takeConfig config = (.unchanged, s) ∧ s.effective = .of config.config) ∨
      s.takeConfig config = (.changedTo (.of config.config), ⟨.of config.config⟩) := by
  unfold Supervisor.takeConfig
  dsimp only
  split
  · next h => exact .inl ⟨rfl, h⟩
  · exact .inr rfl

theorem effective_takeConfig (s : Supervisor) (config : RemoteConfig) :
    (s.takeConfig config).2.effective = .of config.config := by
  rcases takeConfig_cases s config with ⟨htake, hin⟩ | htake
  · rw [htake]
    exact hin
  · rw [htake]

theorem config?_answer (s : Supervisor) {c : Call} (hc : c.isAboutConfig = true)
    {e : EffectiveConfig} (h : (s.answer c).1.config? = some e) : e = (s.answer c).2.effective := by
  cases c with
  | effectiveConfig => exact (Option.some.inj h).symm
  | applyRemoteConfig config =>
    have h : (Answer.applied (.ok (s.takeConfig config).1)).config? = some e := h
    show e = (s.takeConfig config).2.effective
    rcases takeConfig_cases s config with ⟨htake, -⟩ | htake
    · rw [htake] at h
      contradiction
    · rw [htake] at h ⊢
      exact (Option.some.inj h).symm
  | _ => contradiction

theorem Following.coming_insert (h : Following maps x past) {actor : Actor} {new : Answer}
    (hnew : ∀ c, new.config? = some c → ∃ m ∈ maps, c = .of m) :
    ∀ other answer c, (x.answers.insert actor new).get? other = some answer →
      answer.config? = some c → ∃ m ∈ maps, c = .of m := by
  intro other answer c hget hc
  rw [Table.get?_insert] at hget
  split at hget
  · rw [← Option.some.inj hget] at hc
    exact hnew c hc
  · exact h.coming other answer c hget hc

theorem applied_insert_iff (ha : ∀ actor r, x.answers.get? actor ≠ some (.applied r))
    {actor : Actor} {result : Except CallbackError ApplyOutcome} (other : Actor)
    (r : Except CallbackError ApplyOutcome) :
    (x.answers.insert actor (.applied result)).get? other = some (.applied r) ↔
      other = actor ∧ r = result := by
  rw [Table.get?_insert]
  by_cases hother : other = actor
  · simp [hother, eq_comm]
  · simp [hother, ha other r]

/-- Once its answer is on its way, the supervisor has taken the configuration over. -/
theorem Following.take (h : Following maps x past) (hm : ∀ m ∈ x.session.handed, m ∈ maps)
    {actor : Actor} {config : RemoteConfig} (hnone : x.answers.get? actor = none)
    (hcall : x.session.calling? actor = some (.applyRemoteConfig config)) :
    Following maps { x with
      supervisor := (x.supervisor.takeConfig config).2
      answers := x.answers.insert actor (.applied (.ok (x.supervisor.takeConfig config).1)) }
      past := by
  obtain ⟨handed, running, hr, hb, hf⟩ := h.follows
  obtain rfl : running = some (actor, .applyRemoteConfig config) := (hr actor _).1 ⟨hcall, rfl⟩
  have hconfig : config.config ∈ maps := by
    refine hm _ ?_
    rw [Session.handed_eq, hb, List.filterMap_append]
    exact List.mem_append_right _ (List.mem_singleton.2 rfl)
  cases hf with
  | taken ha =>
    rw [(ha actor _).2 ⟨rfl, rfl⟩] at hnone
    contradiction
  | steady ha _ hs =>
    have hheld := effective_takeConfig x.supervisor config
    refine ⟨h.separate, h.recorded, h.known, ⟨_, hconfig, hheld⟩, h.coming_insert fun c hc => ?_,
      handed, _, hr, hb, .taken (applied_insert_iff ha) hheld ?_⟩
    · have hbrought := config?_answer x.supervisor (c := .applyRemoteConfig config) rfl hc
      exact ⟨_, hconfig, hbrought.trans hheld⟩
    rcases takeConfig_cases x.supervisor config with ⟨htake, -⟩ | htake
    · rw [htake]
      exact .inr ⟨rfl, hs⟩
    · rw [htake]
      exact .inl rfl

/-- The supervisor is asked for what it holds. -/
theorem Following.read (h : Following maps x past) {actor : Actor}
    (hcall : x.session.calling? actor = some .effectiveConfig) :
    Following maps { x with
      answers := x.answers.insert actor (.effective (.ok x.supervisor.effective)) } past := by
  obtain ⟨handed, running, hr, hb, hf⟩ := h.follows
  refine ⟨h.separate, h.recorded, h.known, h.held, h.coming_insert fun c hc => ?_, handed, running,
    hr, hb, ?_⟩
  · obtain ⟨m, hm, he⟩ := h.held
    exact ⟨m, hm, (Option.some.inj hc).symm.trans he⟩
  · cases hf with
    | steady ha he hs =>
      refine .steady (fun other r => ?_) he hs
      rw [Table.get?_insert]
      split
      · intro heq
        cases heq
      · exact ha other r
    | @taken applying config outcome ha he ho =>
      refine .taken (fun other r => ?_) he ho
      rw [Table.get?_insert]
      split
      · next hother =>
        -- who reads is not the one who applies a configuration
        have hne : other ≠ applying := by
          rintro rfl
          rw [← hother, ((hr other _).2 rfl).1] at hcall
          cases hcall
        refine ⟨fun heq => ?_, fun happlied => absurd happlied.1 hne⟩
        cases heq
      · exact ha other r

theorem Following.handle (h : Following maps x past) (hm : ∀ m ∈ x.session.handed, m ∈ maps)
    (actor : Actor) : Following maps (x.handle actor) past := by
  unfold Supervision.handle
  split
  · next c hnone hcall =>
    cases c with
    | applyRemoteConfig config => exact h.take hm hnone hcall
    | effectiveConfig => exact h.read hcall
    | _ => exact h
  · exact h

/-! ## Answers, and everything else -/

/-- No two of the configurations have the same digest. -/
def Distinct (maps : List ConfigMap) : Prop :=
  ∀ a ∈ maps, ∀ b ∈ maps, a.digest = b.digest → a = b

/-- What is brought is recorded, if nothing else that is recorded has its hash. -/
theorem inForce?_taking {s : State} {m : ConfigMap}
    (hs : ∀ d, s.inForce? = some d → d.hash = m.digest → d = .of m) :
    (s.taking (some (.of m))).inForce? = some (.of m) := by
  rcases s.taking_cases (.of m) with htake | ⟨d, hd, hhash, htake⟩
  · exact htake
  · rw [htake, hs d hd hhash]

/-- What is recorded is what is held, exactly if what was recorded last was held by then. -/
theorem Following.inForce?_eq_iff (h : Following maps x past) (hs : x.Agrees past) :
    x.session.state.inForce? = some x.supervisor.effective ↔
      ∃ r, past.getLast? = some r ∧ r.config = r.held := by
  rw [h.recorded]
  constructor
  · intro heq
    obtain ⟨r, hr, hconfig⟩ := Option.map_eq_some_iff.1 heq
    exact ⟨r, hr, (hs r hr).1 hconfig⟩
  · rintro ⟨r, hr, hconfig⟩
    rw [hr, Option.map_some, (hs r hr).2 hconfig]

/-- What is on its way is what the supervisor holds. -/
def IsFresh (x : Supervision τ) : Prop :=
  ∀ actor answer c, x.answers.get? actor = some answer → answer.config? = some c →
    c = x.supervisor.effective

theorem isFresh_of_empty (h : x.answers = {}) : x.IsFresh := by
  intro actor answer c hget
  rw [h] at hget
  contradiction

section Moves
variable [Carrier τ]

theorem held_of_recording {move : Move τ} {r : Recording} (h : x.recording? move = some r) :
    r.held = x.supervisor.effective := by
  cases move with
  | reply actor =>
    obtain ⟨answer, -, h⟩ := Option.bind_eq_some_iff.1 h
    obtain ⟨c, -, rfl⟩ := Option.map_eq_some_iff.1 h
    rfl
  | _ => contradiction

theorem Following.known_append (h : Following maps x past) (move : Move τ) :
    ∀ r ∈ past ++ (x.recording? move).toList, ∃ m ∈ maps, r.config = .of m := by
  intro r hr
  rcases List.mem_append.1 hr with hr | hr
  · exact h.known r hr
  · cases move with
    | reply actor =>
      obtain ⟨answer, hget, hr⟩ := Option.bind_eq_some_iff.1 (Option.mem_toList.1 hr)
      obtain ⟨c, hbrought, rfl⟩ := Option.map_eq_some_iff.1 hr
      exact h.coming actor answer c hget (Answer.config?_of_brought hbrought)
    | _ => contradiction

/-- What the session is told was taken over, it records. -/
theorem recording?_of_taken {id : Nat} {config : RemoteConfig} {outcome : ApplyOutcome}
    (hcall : x.session.calling? (.task id) = some (.applyRemoteConfig config))
    (hget : x.answers.get? (.task id) = some (.applied (.ok outcome)))
    (ho : outcome = .changedTo x.supervisor.effective ∨ outcome = .unchanged ∧ x.Agrees past) :
    x.recording? (.reply (.task id)) = none → x.Agrees past := by
  intro hnone
  rcases ho with rfl | ⟨-, hagrees⟩
  · have htask := Session.get?_of_applying hcall
    have hnone : (x.answers.get? (.task id)).bind (fun answer =>
        ((x.session.tasks.get? id).bind (·.brought? (.answered answer))).map
          (Recording.mk · x.supervisor.effective)) = none := hnone
    rw [hget, htask] at hnone
    contradiction
  · exact hagrees

variable [Transport τ]

/-- What an action does to the calls to apply a configuration. -/
theorem account_act (hs : x.session.Separate) {handed : List (Actor × Call)}
    {running : Option (Actor × Call)} (hr : x.session.Running .remoteConfig running)
    (hb : x.session.begun .remoteConfig = handed ++ running.toList) (a : Session.Action τ) :
    ∃ r, (x.session.act a).Running .remoteConfig r ∧
      (x.session.act a).begun .remoteConfig =
        handed ++ x.session.ended .remoteConfig [a] ++ r.toList :=
  hs.account (k := .remoteConfig) ⟨nofun, nofun⟩ [a] hr hb

theorem Following.act (h : Following maps x past) (a : Session.Action τ) :
    Following maps (x.act a) past := by
  unfold Supervision.act
  split
  · exact h
  · next hno =>
    have hno := Bool.eq_false_iff.2 hno
    obtain ⟨handed, running, hr, hb, hf⟩ := h.follows
    obtain ⟨r, hr', hb'⟩ := account_act h.separate hr hb a
    rw [Session.ended_eq_nil (Session.ended?_ne hno), List.append_nil] at hb'
    have hsame : (x.session.act a).state.inForce? = x.session.state.inForce? := by
      rw [Session.inForce?_act]
      cases hc : a.brought? x.session with
      | none => rfl
      | some c =>
        rw [Session.answersConfig_of_brought hc] at hno
        contradiction
    refine ⟨h.separate.act a, hsame.trans h.recorded, h.known, h.held, h.coming, handed, r, hr',
      hb', ?_⟩
    cases hf with
    | steady ha he hs => exact .steady ha he hs
    | @taken actor config outcome ha he ho =>
      have hcall := ((hr actor (.applyRemoteConfig config)).2 rfl).1
      have hstill := Session.calling?_act h.separate.orderly.numbered
        (Session.ended?_ne hno actor) hcall
      rw [(hr' actor _).1 ⟨hstill, rfl⟩]
      exact .taken ha he ho

/-- The session records what an answer brings it. -/
theorem Following.inForce?_deliver (h : Following maps x past) (hd : Distinct maps) {actor : Actor}
    {answer : Answer} (hget : x.answers.get? actor = some answer) :
    (x.deliver actor answer).session.state.inForce? =
      (past ++ (x.recording? (.reply actor)).toList).getLast?.map (·.config) := by
  have hrecording : x.recording? (.reply actor) =
      ((Session.Action.run actor (.answered answer) : Session.Action τ).brought? x.session).map
        (⟨·, x.supervisor.effective⟩) := by
    show (x.answers.get? actor).bind _ = _
    rw [hget, Option.bind_some]
  show (x.session.act _).state.inForce? = _
  rw [Session.inForce?_act, hrecording]
  cases hbrought : (Session.Action.run actor (.answered answer) :
      Session.Action τ).brought? x.session with
  | none =>
    rw [Option.map_none, Option.toList_none, List.append_nil]
    exact h.recorded
  | some c =>
    obtain ⟨m, hm, rfl⟩ := h.coming actor answer c hget (Answer.config?_of_brought hbrought)
    rw [Option.map_some, Option.toList_some, List.getLast?_concat, Option.map_some]
    refine inForce?_taking fun d hrecorded hhash => ?_
    rw [h.recorded] at hrecorded
    obtain ⟨r, hr, rfl⟩ := Option.map_eq_some_iff.1 hrecorded
    obtain ⟨n, hn, heq⟩ := h.known r (List.mem_of_getLast? hr)
    rw [heq] at hhash ⊢
    rw [hd n hn m hm hhash]

/-- The session has what was taken over. -/
theorem Follows.deliver_applied {handed : List (Actor × Call)} {running r : Option (Actor × Call)}
    (h : Follows x past handed running) (hr : x.session.Running .remoteConfig running)
    {actor : Actor} {result : Except CallbackError ApplyOutcome}
    (hget : x.answers.get? actor = some (.applied result)) :
    Follows (x.deliver actor (.applied result))
      (past ++ (x.recording? (.reply actor)).toList)
      (handed ++ x.session.ended .remoteConfig [.run actor (.answered (.applied result))]) r := by
  cases h with
  | steady ha => exact absurd hget (ha actor result)
  | @taken applying config outcome ha he ho =>
    obtain ⟨rfl, rfl⟩ := (ha actor result).1 hget
    have hcall := ((hr actor (.applyRemoteConfig config)).2 rfl).1
    rw [Session.ended_applied hcall]
    refine .steady (fun other q hq => ?_) ?_ ?_
    · have hq : (x.answers.erase actor).get? other = some (.applied q) := hq
      rw [Table.get?_erase] at hq
      split at hq
      · contradiction
      · next hother => exact hother ((ha other q).1 hq).1
    · show x.supervisor.effective = _
      rw [latest_concat, he]
    · cases actor with
      | loop => rcases Session.topic_of_loop hcall with h | h <;> cases h
      | task id =>
        exact agrees_append (x := x) (fun q hq => held_of_recording hq)
          (recording?_of_taken hcall hget ho)

/-- Another answer leaves what is taken over on its way. -/
theorem Follows.deliver_other (hn : x.session.Numbered) {handed : List (Actor × Call)}
    {running r : Option (Actor × Call)} (h : Follows x past handed running)
    (hr : x.session.Running .remoteConfig running) {actor : Actor} {answer : Answer}
    (hget : x.answers.get? actor = some answer) (hne : ∀ result, answer ≠ .applied result)
    (hr' : (x.deliver actor answer).session.Running .remoteConfig r) :
    Follows (x.deliver actor answer) (past ++ (x.recording? (.reply actor)).toList)
      (handed ++ x.session.ended .remoteConfig [.run actor (.answered answer)]) r := by
  have hends : ∀ other config, (Session.Action.run actor (.answered answer) :
      Session.Action τ).ended? x.session ≠ some (other, .applyRemoteConfig config) := by
    intro other config hended
    obtain ⟨-, -, q, hq⟩ := Session.ended?_run hended
    cases hq
    exact hne q rfl
  have hother : ∀ other q, (x.deliver actor answer).answers.get? other = some (.applied q) ↔
      x.answers.get? other = some (.applied q) := by
    intro other q
    show (x.answers.erase actor).get? other = _ ↔ _
    rw [Table.get?_erase]
    split
    · next heq =>
      rw [heq, hget]
      refine ⟨fun h => ?_, fun h => absurd (Option.some.inj h) (hne q)⟩
      cases h
    · exact Iff.rfl
  have hagrees : x.Agrees past →
      (x.deliver actor answer).Agrees (past ++ (x.recording? (.reply actor)).toList) :=
    fun hs => agrees_append (x := x) (fun q hq => held_of_recording hq) fun _ => hs
  rw [Session.ended_eq_nil hends, List.append_nil]
  cases h with
  | steady ha he hs =>
    exact .steady (fun other q hq => ha other q ((hother other q).1 hq)) he (hagrees hs)
  | @taken applying config outcome ha he ho =>
    have hcall := ((hr applying (.applyRemoteConfig config)).2 rfl).1
    rw [(hr' applying _).1 ⟨Session.calling?_act hn (hends applying) hcall, rfl⟩]
    exact .taken (fun other q => (hother other q).trans (ha other q)) he
      (ho.imp_right fun hu => ⟨hu.1, hagrees hu.2⟩)

theorem Following.deliver (h : Following maps x past) (hd : Distinct maps) {actor : Actor}
    {answer : Answer} (hget : x.answers.get? actor = some answer) :
    Following maps (x.deliver actor answer) (past ++ (x.recording? (.reply actor)).toList) := by
  obtain ⟨handed, running, hr, hb, hf⟩ := h.follows
  obtain ⟨r, hr', hb'⟩ := account_act h.separate hr hb (.run actor (.answered answer))
  refine ⟨h.separate.act (.run actor (.answered answer)), h.inForce?_deliver hd hget,
    h.known_append (.reply actor), h.held, fun other a c hother hc => ?_, _, r, hr', hb', ?_⟩
  · have hother : (x.answers.erase actor).get? other = some a := hother
    rw [Table.get?_erase] at hother
    split at hother
    · contradiction
    · exact h.coming other a c hother hc
  · by_cases happlied : ∃ result, answer = .applied result
    · obtain ⟨result, rfl⟩ := happlied
      exact hf.deliver_applied hr hget
    · exact hf.deliver_other h.separate.orderly.numbered hr hget
        (fun result heq => happlied ⟨result, heq⟩) hr'

theorem Following.reply (h : Following maps x past) (hd : Distinct maps) (actor : Actor) :
    Following maps (x.reply actor) (past ++ (x.recording? (.reply actor)).toList) := by
  unfold Supervision.reply
  split
  · next answer hget => exact h.deliver hd hget
  · next hget =>
    have hnone : x.recording? (.reply actor) = none := by
      show (x.answers.get? actor).bind _ = none
      rw [hget, Option.bind_none]
    rw [hnone, Option.toList_none, List.append_nil]
    exact h

/-- A move leaves the session as it is, or something happens in it. -/
theorem session_step (x : Supervision τ) (move : Move τ) :
    (x.step move).session = x.session ∨ ∃ a, (x.step move).session = x.session.act a := by
  cases move with
  | handle actor =>
    show (x.handle actor).session = _ ∨ _
    unfold Supervision.handle
    split
    · split <;> exact .inl rfl
    · exact .inl rfl
  | reply actor =>
    show (x.reply actor).session = _ ∨ ∃ a, (x.reply actor).session = _
    unfold Supervision.reply
    split
    · next answer _ => exact .inr ⟨.run actor (.answered answer), rfl⟩
    · exact .inl rfl
  | act a =>
    show (x.act a).session = _ ∨ ∃ b, (x.act a).session = _
    unfold Supervision.act
    split
    · exact .inl rfl
    · exact .inr ⟨a, rfl⟩

/-- What the moves come to in the session is a course of it. -/
theorem exists_actions (x : Supervision τ) (moves : List (Move τ)) :
    ∃ actions, (x.after moves).session = x.session.after actions := by
  induction moves generalizing x with
  | nil => exact ⟨[], rfl⟩
  | cons move rest ih =>
    obtain ⟨actions, hrest⟩ := ih (x.step move)
    rcases session_step x move with h | ⟨a, h⟩
    · exact ⟨actions, hrest.trans (by rw [h])⟩
    · exact ⟨a :: actions, hrest.trans (by rw [h, Session.after_cons])⟩

theorem handed_isPrefix (x : Supervision τ) (moves : List (Move τ)) :
    x.session.handed <+: (x.after moves).session.handed := by
  obtain ⟨actions, h⟩ := exists_actions x moves
  rw [h]
  exact Session.after_induction (P := fun t => x.session.handed <+: t.handed)
    (fun t a ht => ht.trans (t.handed_isPrefix a)) List.prefix_rfl actions

theorem Following.step (h : Following maps x past) (hd : Distinct maps)
    (hm : ∀ m ∈ x.session.handed, m ∈ maps) (move : Move τ) :
    Following maps (x.step move) (past ++ (x.recording? move).toList) := by
  cases move with
  | handle actor => exact (List.append_nil past).symm ▸ h.handle hm actor
  | reply actor => exact h.reply hd actor
  | act a => exact (List.append_nil past).symm ▸ h.act a

theorem Following.after (h : Following maps x past) (hd : Distinct maps) (moves : List (Move τ))
    (hm : ∀ m ∈ (x.after moves).session.handed, m ∈ maps) :
    Following maps (x.after moves) (past ++ x.recordings moves) := by
  induction moves generalizing x past with
  | nil =>
    show Following maps x (past ++ [])
    rw [List.append_nil]
    exact h
  | cons move rest ih =>
    have hx : ∀ m ∈ x.session.handed, m ∈ maps :=
      fun m hmem => hm m ((handed_isPrefix x (move :: rest)).subset hmem)
    have hrest := ih (h.step hd hx move) hm
    rw [List.append_assoc] at hrest
    exact hrest

/-! ## Prompt answers -/

theorem IsFresh.step (h : x.IsFresh) {move : Move τ}
    (hprompt : ∀ actor, move = .handle actor → x.answers = {}) : (x.step move).IsFresh := by
  cases move with
  | handle actor =>
    show (x.handle actor).IsFresh
    unfold Supervision.handle
    split
    · next c _ _ =>
      split
      · next hc =>
        intro other answer e hget he
        have hget : (x.answers.insert actor (x.supervisor.answer c).1).get? other =
          some answer := hget
        rw [Table.get?_insert, hprompt actor rfl] at hget
        split at hget
        · rw [← Option.some.inj hget] at he
          exact config?_answer x.supervisor hc he
        · contradiction
      · exact h
    · exact h
  | reply actor =>
    show (x.reply actor).IsFresh
    unfold Supervision.reply
    split
    · intro other answer c hget
      have hget : (x.answers.erase actor).get? other = some answer := hget
      rw [Table.get?_erase] at hget
      split at hget
      · contradiction
      · exact h other answer c hget
    · exact h
  | act a =>
    show (x.act a).IsFresh
    unfold Supervision.act
    split <;> exact h

/-- What is recorded before another handler runs is what the supervisor holds. -/
theorem IsFresh.recordings (h : x.IsFresh) {moves : List (Move τ)} (hprompt : x.IsPrompt moves) :
    ∀ r ∈ x.recordings moves, r.config = r.held := by
  induction moves generalizing x with
  | nil => nofun
  | cons move rest ih =>
    intro r hr
    rcases List.mem_append.1 hr with hr | hr
    · cases move with
      | reply actor =>
        obtain ⟨answer, hget, hr⟩ := Option.bind_eq_some_iff.1 (Option.mem_toList.1 hr)
        obtain ⟨c, hbrought, rfl⟩ := Option.map_eq_some_iff.1 hr
        exact h actor answer c hget (Answer.config?_of_brought hbrought)
      | _ => contradiction
    · exact ih (h.step hprompt.1) hprompt.2 r hr

/-! ## The theorem -/

/-- **The effective configuration of the supervisor is that of its session, unless an answer was
overtaken.** Whatever happens in the session, in whatever order, while no call to apply a
configuration is running: the supervisor holds the configuration that was handed to it last, or the
empty one, under the hash of its content, whatever hashes the server supplied. The session records
exactly that if what it recorded last was what the supervisor held by then, and only so: a reading
that is recorded after what was applied meanwhile stays in the place of it. If every answer arrives
before the next handler runs, there is no such reading, and the two agree from the first reading on.
No two of the configurations may have the same digest. -/
theorem supervisor_and_session_agree_iff (transport : τ) (settings : StartSettings)
    (fresh : String) (moves : List (Move τ)) :
    let s := start transport settings fresh
    let x := s.after moves
    Distinct ({} :: x.session.handed) →
    (∀ id config, x.session.calling? (.task id) ≠ some (.applyRemoteConfig config)) →
      x.supervisor.effective = .of (x.session.handed.getLast?.getD {}) ∧
      (x.session.state.inForce? = some x.supervisor.effective ↔
        ∃ r, (s.recordings moves).getLast? = some r ∧ r.config = r.held) ∧
      (s.IsPrompt moves → x.session.state.inForce?.isSome →
        x.session.state.inForce? = some x.supervisor.effective) := by
  intro s x hd hidle
  have hx : Following ({} :: x.session.handed) x (s.recordings moves) :=
    (following_start List.mem_cons_self transport settings fresh).after hd moves
      fun _ => List.mem_cons_of_mem _
  obtain ⟨handed, running, hr, hb, hf⟩ := hx.follows
  have hnone : running = none := by
    refine Option.eq_none_iff_forall_ne_some.2 fun ⟨actor, c⟩ hrunning => ?_
    obtain ⟨hcall, htopic⟩ := (hr actor c).2 hrunning
    obtain ⟨config, rfl⟩ := Call.eq_of_topic htopic
    cases actor with
    | loop => exact (Session.topic_of_loop hcall).elim nofun nofun
    | task id => exact hidle id config hcall
  subst hnone
  cases hf with
  | steady _ he hagrees =>
    rw [Option.toList_none, List.append_nil] at hb
    refine ⟨?_, hx.inForce?_eq_iff hagrees, fun hprompt hread => ?_⟩
    · rw [he, Session.handed_eq, hb]
      rfl
    · refine (hx.inForce?_eq_iff hagrees).2 ?_
      rw [hx.recorded, Option.isSome_map] at hread
      obtain ⟨r, hlast⟩ := Option.isSome_iff_exists.1 hread
      have hfresh : s.IsFresh := isFresh_of_empty rfl
      exact ⟨r, hlast, hfresh.recordings hprompt r (List.mem_of_getLast? hlast)⟩

/-- The loop reads the configuration before it begins. -/
def untilRead : List (Move Http.Sender) :=
  [.act (.run .loop .look), .handle .loop, .reply .loop]

/-- A configuration is offered. -/
def offered : Move Http.Sender :=
  .act (.run .loop (.exchanged (.ok (some { remoteConfig := some ⟨.single "a" "" [1], [9]⟩ }))))

/-- The supervisor takes it over. Before the session hears of that, it is asked to read the
configuration again, which it does before the status is saved. -/
def offeredAndRead : List (Move Http.Sender) :=
  [offered, .act (.run (.task 0) .look), .handle (.task 0), .act .refresh, .reply (.task 0),
    .act (.run (.task 1) .look), .handle (.task 1), .reply (.task 1),
    .act (.run (.task 0) (.answered (.done (.ok ()))))]

/-- The session asks for the configuration, and the answer is on its way until another one was
taken over. -/
def overtaken : List (Move Http.Sender) :=
  [.act .refresh, .act (.run (.task 0) .look), .handle (.task 0),
    offered, .act (.run (.task 1) .look), .handle (.task 1), .reply (.task 1),
    .act (.run (.task 1) (.answered (.done (.ok ())))), .reply (.task 0)]

/-- In the first course the two agree; in the other one the session is left behind. -/
theorem supervisor_and_session_agree_iff_offered :
    let s := start ({} : Http.Sender) { serverUrl := "http://a" } "agent"
    let x := s.after (untilRead ++ offeredAndRead)
    let y := s.after (untilRead ++ overtaken)
    (x.session.state.inForce? = some x.supervisor.effective ∧
      x.supervisor.effective = .of (.single "a" "" [1])) ∧
    (y.session.state.inForce? ≠ some y.supervisor.effective ∧
      y.supervisor.effective = .of (.single "a" "" [1])) := by
  have hagree := supervisor_and_session_agree_iff ({} : Http.Sender)
    { serverUrl := "http://a" } "agent" (untilRead ++ offeredAndRead)
  have hbehind := supervisor_and_session_agree_iff ({} : Http.Sender)
    { serverUrl := "http://a" } "agent" (untilRead ++ overtaken)
  have hd : Distinct [{}, .single "a" "" [1]] := by
    unfold Distinct
    decide +kernel
  dsimp only at hagree hbehind ⊢
  generalize hs : start ({} : Http.Sender) { serverUrl := "http://a" } "agent" = s at *
  have hlast : (s.recordings (untilRead ++ offeredAndRead)).getLast? =
      some ⟨.of (.single "a" "" [1]), .of (.single "a" "" [1])⟩ := by
    rw [← hs]
    decide +kernel
  have hold : (s.recordings (untilRead ++ overtaken)).getLast? =
      some ⟨.of {}, .of (.single "a" "" [1])⟩ := by
    rw [← hs]
    decide +kernel
  -- what comes out is not computed here, as it has digests in it
  generalize hx : s.after (untilRead ++ offeredAndRead) = x at hagree ⊢
  generalize hy : s.after (untilRead ++ overtaken) = y at hbehind ⊢
  have hxhanded : x.session.handed = [.single "a" "" [1]] := by
    rw [← hx, ← hs]
    decide +kernel
  have hyhanded : y.session.handed = [.single "a" "" [1]] := by
    rw [← hy, ← hs]
    decide +kernel
  have hxdone : x.session.tasks.entries.isEmpty = true := by
    rw [← hx, ← hs]
    decide +kernel
  have hydone : y.session.tasks.entries.isEmpty = true := by
    rw [← hy, ← hs]
    decide +kernel
  rw [hxhanded, List.getLast?_singleton, Option.getD_some] at hagree
  rw [hyhanded, List.getLast?_singleton, Option.getD_some] at hbehind
  obtain ⟨hxheld, hxrecorded, -⟩ := hagree hd fun id config => by
    rw [Session.calling?_of_isEmpty hxdone]
    nofun
  obtain ⟨hyheld, hyrecorded, -⟩ := hbehind hd fun id config => by
    rw [Session.calling?_of_isEmpty hydone]
    nofun
  refine ⟨⟨hxrecorded.2 ⟨_, hlast, rfl⟩, hxheld⟩, fun hsame => ?_, hyheld⟩
  obtain ⟨r, hr, hconfig⟩ := hyrecorded.1 hsame
  rw [hold] at hr
  rw [← Option.some.inj hr] at hconfig
  revert hconfig
  decide +kernel

end Moves

end Supervision

end ManagedAgent
