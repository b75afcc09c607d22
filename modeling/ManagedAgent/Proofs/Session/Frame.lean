import ManagedAgent.Proofs.State.Frame
import ManagedAgent.Session

/-!
# What a step of a session leaves alone

A `Scope` says which aspects of a session a step may change, what it may add to the history, and
which tasks it may start, change or end. `Frame S s t` says that the step from `s` to `t` kept to
the scope `S`. An invariant then looks at the few steps whose scope meets what it speaks about.

* `Frame.trans`, `Frame.mono` : scopes can be followed by one another, and be widened;
* `Frame.update` : a change of the state has the scope of that change, and may wake the loop;
* `Frame.spawn`, `Frame.setTask`, `Frame.finish` : a task is started, changed and ended.
-/

set_option autoImplicit false

namespace ManagedAgent.Session

inductive Aspect where
  | transport
  | phase
  /-- Whether stop was requested. -/
  | stopping
  | aborting
  | now
  | loop
  | requests
  | remoteConfig
  | offers (kind : ConnectionKind)
  | gate
  | state (a : State.Aspect)

variable {τ : Type}

def Aspect.Same (s t : Session τ) : Aspect → Prop
  | .transport => t.transport = s.transport
  | .phase => t.phase = s.phase
  | .stopping => t.isStopping = s.isStopping
  | .aborting => t.aborting = s.aborting
  | .now => t.now = s.now
  | .loop => t.loop = s.loop
  | .requests => t.requests = s.requests
  | .remoteConfig => t.remoteConfig = s.remoteConfig
  | .offers kind => t.offers.get? kind = s.offers.get? kind
  | .gate => t.gate = s.gate
  | .state a => a.Same s.state t.state

theorem Aspect.Same.refl (s : Session τ) (a : Aspect) : a.Same s s := by
  cases a with
  | state a => exact State.Aspect.Same.refl s.state a
  | _ => rfl

theorem Aspect.Same.trans {s t u : Session τ} {a : Aspect} (h₁ : a.Same s t) (h₂ : a.Same t u) :
    a.Same s u := by
  cases a with
  | state a => exact State.Aspect.Same.trans h₁ h₂
  | _ => exact Eq.trans h₂ h₁

/-- Every task has a number that was handed out. -/
def Numbered (s : Session τ) : Prop := ∀ id x, s.tasks.get? id = some x → id < s.nextTask

theorem Numbered.get?_nextTask {s : Session τ} (h : s.Numbered) :
    s.tasks.get? s.nextTask = none := by
  cases hx : s.tasks.get? s.nextTask with
  | none => rfl
  | some x => exact absurd (h _ x hx) (Nat.lt_irrefl _)

structure Scope where
  /-- These aspects may change. -/
  may : Aspect → Prop := fun _ => False
  /-- These events may come to the history. -/
  logs : Event → Prop := fun _ => False
  /-- These tasks may start, change or end. -/
  tasks : Task → Prop := fun _ => False

/-- The step from `s` to `t` kept to the scope. -/
structure Frame (S : Scope) (s t : Session τ) : Prop where
  same : ∀ a, ¬ S.may a → a.Same s t
  logged : ∃ es, t.history = s.history ++ es ∧ ∀ e ∈ es, S.logs e
  numbered : s.Numbered → t.Numbered
  task : s.Numbered →
    ∀ id x, ¬ S.tasks x → (t.tasks.get? id = some x ↔ s.tasks.get? id = some x)

namespace Frame
variable {S S' : Scope} {s t u : Session τ}

theorem refl (s : Session τ) : Frame S s s where
  same a _ := .refl s a
  logged := ⟨[], (List.append_nil _).symm, List.forall_mem_nil _⟩
  numbered h := h
  task _ _ _ _ := Iff.rfl

theorem trans (h₁ : Frame S s t) (h₂ : Frame S t u) : Frame S s u where
  same a ha := (h₁.same a ha).trans (h₂.same a ha)
  logged := by
    obtain ⟨es₁, he₁, hl₁⟩ := h₁.logged
    obtain ⟨es₂, he₂, hl₂⟩ := h₂.logged
    refine ⟨es₁ ++ es₂, by rw [he₂, he₁, List.append_assoc], fun e he => ?_⟩
    exact (List.mem_append.1 he).elim (hl₁ e) (hl₂ e)
  numbered h := h₂.numbered (h₁.numbered h)
  task h id x hx := (h₂.task (h₁.numbered h) id x hx).trans (h₁.task h id x hx)

theorem mono (h : Frame S s t) (hm : ∀ a, S.may a → S'.may a) (hl : ∀ e, S.logs e → S'.logs e)
    (ht : ∀ x, S.tasks x → S'.tasks x) : Frame S' s t where
  same a ha := h.same a (mt (hm a) ha)
  logged := by
    obtain ⟨es, he, hes⟩ := h.logged
    exact ⟨es, he, fun e hm => hl e (hes e hm)⟩
  numbered := h.numbered
  task hn id x hx := h.task hn id x (mt (ht x) hx)

/-- A step that leaves history and tasks alone. -/
theorem ofSame (h : ∀ a, ¬ S.may a → a.Same s t) (hh : t.history = s.history)
    (ht : t.tasks = s.tasks) (hn : t.nextTask = s.nextTask) : Frame S s t where
  same := h
  logged := ⟨[], by rw [hh, List.append_nil], List.forall_mem_nil _⟩
  numbered hs := by intro id x; rw [ht, hn]; exact hs id x
  task _ id x _ := by rw [ht]

theorem emit (s : Session τ) (e : Event) (h : S.logs e) : Frame S s (s.emit e) where
  same a _ := by cases a with | state a => exact State.Aspect.Same.refl s.state a | _ => rfl
  logged := ⟨[e], rfl, by simpa using h⟩
  numbered h := h
  task _ _ _ _ := Iff.rfl

theorem ready (s : Session τ) (a : Actor) (h : S.logs (.ready a)) : Frame S s (s.ready a) :=
  emit s _ h

theorem call (s : Session τ) (a : Actor) (c : Call) (h : S.logs (.called a c)) :
    Frame S s (s.call a c) := emit s _ h

/-- A change of the state. -/
theorem setState (s : Session τ) (st : State)
    (h : State.Frame (fun a => S.may (.state a)) s.state st) :
    Frame S s { s with state := st } := by
  refine ofSame (fun a ha => ?_) rfl rfl rfl
  cases a with
  | state a => exact h a ha
  | _ => rfl

theorem update (s : Session τ) (f : State → State)
    (h : State.Frame (fun a => S.may (.state a)) s.state (f s.state)) (hl : S.logs (.ready .loop)) :
    Frame S s (s.update f) := by
  unfold Session.update
  dsimp only
  split
  · exact (setState s _ h).trans (ready _ _ hl)
  · exact setState s _ h

theorem setTransport (s : Session τ) (transport : τ) (h : S.may .transport) :
    Frame S s { s with transport } := by
  refine ofSame (fun a ha => ?_) rfl rfl rfl
  cases a with
  | transport => exact absurd h ha
  | state a => exact State.Aspect.Same.refl s.state a
  | _ => rfl

theorem setPhase (s : Session τ) (phase : Phase) (h : S.may .phase)
    (hs : S.may .stopping ∨ { s with phase }.isStopping = s.isStopping) :
    Frame S s { s with phase } := by
  refine ofSame (fun a ha => ?_) rfl rfl rfl
  cases a with
  | phase => exact absurd h ha
  | stopping => exact hs.resolve_left ha
  | state a => exact State.Aspect.Same.refl s.state a
  | _ => rfl

theorem setAborting (s : Session τ) (aborting : Bool) (h : S.may .aborting) :
    Frame S s { s with aborting } := by
  refine ofSame (fun a ha => ?_) rfl rfl rfl
  cases a with
  | aborting => exact absurd h ha
  | state a => exact State.Aspect.Same.refl s.state a
  | _ => rfl

theorem setNow (s : Session τ) (now : Nat) (h : S.may .now) : Frame S s { s with now } := by
  refine ofSame (fun a ha => ?_) rfl rfl rfl
  cases a with
  | now => exact absurd h ha
  | state a => exact State.Aspect.Same.refl s.state a
  | _ => rfl

theorem setLoop (s : Session τ) (loop : Loop) (h : S.may .loop) : Frame S s { s with loop } := by
  refine ofSame (fun a ha => ?_) rfl rfl rfl
  cases a with
  | loop => exact absurd h ha
  | state a => exact State.Aspect.Same.refl s.state a
  | _ => rfl

theorem setRequests (s : Session τ) (requests : List ReconnectRequest) (h : S.may .requests) :
    Frame S s { s with requests } := by
  refine ofSame (fun a ha => ?_) rfl rfl rfl
  cases a with
  | requests => exact absurd h ha
  | state a => exact State.Aspect.Same.refl s.state a
  | _ => rfl

theorem setConfigSlot (s : Session τ) (slot : Slot RemoteConfig) (h : S.may .remoteConfig) :
    Frame S s { s with remoteConfig := slot } := by
  refine ofSame (fun a ha => ?_) rfl rfl rfl
  cases a with
  | remoteConfig => exact absurd h ha
  | state a => exact State.Aspect.Same.refl s.state a
  | _ => rfl

theorem setOffers (s : Session τ) (kind : ConnectionKind) (slot : Slot ConnectionSettings)
    (h : S.may (.offers kind)) : Frame S s { s with offers := s.offers.insert kind slot } := by
  refine ofSame (fun a ha => ?_) rfl rfl rfl
  cases a with
  | offers k =>
    have hk : k ≠ kind := by rintro rfl; exact ha h
    show (s.offers.insert kind slot).get? k = s.offers.get? k
    rw [Table.get?_insert, if_neg hk]
  | state a => exact State.Aspect.Same.refl s.state a
  | _ => rfl

theorem setGate (s : Session τ) (gate : Gate Actor) (h : S.may .gate) :
    Frame S s { s with gate } := by
  refine ofSame (fun a ha => ?_) rfl rfl rfl
  cases a with
  | gate => exact absurd h ha
  | state a => exact State.Aspect.Same.refl s.state a
  | _ => rfl

/-! ## Tasks -/

theorem setTask (s : Session τ) (id : Nat) (old new : Task) (h : s.tasks.get? id = some old)
    (hold : S.tasks old) (hnew : S.tasks new) : Frame S s (s.setTask id new) where
  same a _ := by cases a with | state a => exact State.Aspect.Same.refl s.state a | _ => rfl
  logged := ⟨[], (List.append_nil _).symm, List.forall_mem_nil _⟩
  numbered hs := by
    intro i x hx
    have hx : (s.tasks.insert id new).get? i = some x := hx
    rw [Table.get?_insert] at hx
    split at hx
    · next hi => exact hi ▸ hs id old h
    · exact hs i x hx
  task _ i x hx := by
    show (s.tasks.insert id new).get? i = some x ↔ _
    rw [Table.get?_insert]
    split
    · next hi =>
      subst hi
      rw [h, Option.some_inj, Option.some_inj]
      exact ⟨fun h => absurd (h ▸ hnew) hx, fun h => absurd (h ▸ hold) hx⟩
    · exact Iff.rfl

theorem insertTask (s : Session τ) (new : Task) (h : S.tasks new) :
    Frame S s { s with tasks := s.tasks.insert s.nextTask new, nextTask := s.nextTask + 1 } where
  same a _ := by cases a with | state a => exact State.Aspect.Same.refl s.state a | _ => rfl
  logged := ⟨[], (List.append_nil _).symm, List.forall_mem_nil _⟩
  numbered hs := by
    intro i x hx
    have hx : (s.tasks.insert s.nextTask new).get? i = some x := hx
    show i < s.nextTask + 1
    rw [Table.get?_insert] at hx
    split at hx
    · omega
    · have := hs i x hx
      omega
  task hs i x hx := by
    show (s.tasks.insert s.nextTask new).get? i = some x ↔ _
    rw [Table.get?_insert]
    split
    · next hi =>
      subst hi
      rw [hs.get?_nextTask, Option.some_inj]
      exact ⟨fun h' => absurd (h' ▸ h) hx, nofun⟩
    · exact Iff.rfl

theorem spawn (s : Session τ) (new : Task) (h : S.tasks new)
    (hl : S.logs (.ready (.task s.nextTask))) : Frame S s (s.spawn new) :=
  (insertTask s new h).trans (ready _ _ hl)

theorem finish (s : Session τ) (id : Nat) (old : Task) (h : s.tasks.get? id = some old)
    (hold : S.tasks old) (hl : S.logs (.finished id)) : Frame S s (s.finish id) := by
  refine trans (t := { s with tasks := s.tasks.erase id }) ?_ (emit _ _ hl)
  constructor
  · intro a _
    cases a with | state a => exact State.Aspect.Same.refl s.state a | _ => rfl
  · exact ⟨[], (List.append_nil _).symm, List.forall_mem_nil _⟩
  · intro hs i x hx
    have hx : (s.tasks.erase id).get? i = some x := hx
    rw [Table.get?_erase] at hx
    split at hx
    · exact absurd hx nofun
    · exact hs i x hx
  · intro _ i x hx
    show (s.tasks.erase id).get? i = some x ↔ _
    rw [Table.get?_erase]
    split
    · next hi =>
      subst hi
      rw [h, Option.some_inj]
      exact ⟨nofun, fun h => absurd (h ▸ hold) hx⟩
    · exact Iff.rfl

/-! ## Reading the agent's configuration -/

theorem enterGate (s : Session τ) (a : Actor) (h : S.may .gate)
    (hl : S.logs (.called a .effectiveConfig)) : Frame S s (s.enterGate a).2 := by
  unfold Session.enterGate
  dsimp only
  split
  · exact (setGate s _ h).trans (call _ _ _ hl)
  · exact setGate s _ h

theorem leaveGate (s : Session τ) (a : Actor) (h : S.may .gate) (hl : ∀ b, S.logs (.ready b)) :
    Frame S s (s.leaveGate a) := by
  unfold Session.leaveGate Session.readyNext
  dsimp only
  split
  · exact (setGate s _ h).trans (ready _ _ (hl _))
  · exact setGate s _ h

theorem finishReading (s : Session τ) (a : Actor) (r : Except CallbackError EffectiveConfig)
    (h : S.may .gate) (hc : S.may (.state .effectiveConfig)) (hm : S.may (.state .marks))
    (hl : ∀ b, S.logs (.ready b)) : Frame S s (s.finishReading a r).2 := by
  cases r with
  | ok c => exact (setState s _ (.setEffectiveConfig _ c hc hm)).trans (leaveGate _ a h hl)
  | error e => exact leaveGate s a h hl

end Frame

end ManagedAgent.Session
