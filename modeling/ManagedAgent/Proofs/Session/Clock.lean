import ManagedAgent.Proofs.Session.Wakeups

/-!
# The time of a session

Time goes on in ticks of one millisecond, and only where an action says so.

* `Duration.toNanos_le_iff` : how many ticks a duration takes;
* `now_act`, `now_le_after` : time goes on with nothing but `Action.setTime`, and never back.
-/

set_option autoImplicit false

namespace ManagedAgent

/-! ## Lengths -/

namespace Duration

@[simp] theorem toNanos_ofSecs (n : UInt64) : (ofSecs n).toNanos = n.toNat * 1000000000 :=
  Nat.add_zero _

/-- A number of nanoseconds that a message can have is not cut. -/
theorem toNanos_ofNanos (n : UInt64) : (ofNanos n.toNat).toNanos = n.toNat := by
  have hn : n.toNat / 1000000000 < UInt64.size :=
    Nat.lt_of_le_of_lt (Nat.div_le_self _ _) n.toNat_lt
  show (UInt64.ofNat (n.toNat / 1000000000)).toNat * 1000000000 + n.toNat % 1000000000 = n.toNat
  rw [UInt64.toNat_ofNat_of_lt' hn]
  omega

theorem toNanos_max (a b : Duration) : (a.max b).toNanos = Nat.max a.toNanos b.toNanos := by
  unfold Duration.max
  split
  · next h => exact (Nat.max_eq_right h).symm
  · next h => exact (Nat.max_eq_left (by omega)).symm

/-- A wait takes the least number of ticks that is long enough. -/
theorem toNanos_le_iff (d : Duration) (n : Nat) : d.toNanos ≤ n * 1000000 ↔ d.ticks ≤ n := by
  unfold ticks
  omega

theorem toNanos_le_ticks (d : Duration) : d.toNanos ≤ d.ticks * 1000000 :=
  (d.toNanos_le_iff _).2 (Nat.le_refl _)

theorem ticks_lt (d : Duration) : d.ticks * 1000000 < d.toNanos + 1000000 := by
  unfold ticks
  omega

end Duration

namespace Session
variable {τ : Type} [Transport τ]

/-! ## The wait between exchanges -/

/-- The wait before the next exchange: the interval, or longer if the server asks for it. -/
def waitLength (s : Session τ) (delay : Option Duration) : Duration :=
  match delay with
  | some d => d.max (Transport.interval s.transport)
  | none => Transport.interval s.transport

theorem waitAtLeast_eq (s : Session τ) (delay : Option Duration) :
    s.waitAtLeast delay = s.wait (s.now + (s.waitLength delay).ticks) := rfl

theorem toNanos_waitLength (s : Session τ) (delay : Option Duration) :
    (s.waitLength delay).toNanos =
      max (Transport.interval s.transport).toNanos ((delay.map Duration.toNanos).getD 0) := by
  cases delay with
  | none => exact (Nat.max_eq_left (Nat.zero_le _)).symm
  | some d => exact (Duration.toNanos_max d _).trans (Nat.max_comm _ _)

/-! ## Who lets time pass -/

theorem now_goes {s t : Session τ} {routed : Option Instruction} (h : Goes routed s t) :
    t.now = s.now :=
  h.same (a := .now) (by simp [Scope.work]) id (by simp [Scope.rest])

theorem now_runLoop (s : Session τ) (input : Input) : (s.runLoop input).now = s.now :=
  s.same_runLoop input (a := .now) (by simp [Scope.settling]) (by simp [Scope.work]) id
    (by simp [Scope.rest])

omit [Transport τ] in
theorem now_runTask (s : Session τ) (id : Nat) (input : Input) :
    (s.runTask id input).now = s.now := by
  cases hx : s.tasks.get? id with
  | none => rw [runTask_of_none hx]
  | some x =>
    refine (frame_runTask hx input).same .now ?_
    cases x with
    | remoteConfig => simp [Scope.of, Scope.config]
    | connection => simp [Scope.of, Scope.offer]
    | packages => simp [Scope.of, Scope.packages]
    | command => exact fun h => h
    | refresh => simp [Scope.of, Scope.refresh]

omit [Transport τ] in
@[simp] theorem now_update (s : Session τ) (f : State → State) : (s.update f).now = s.now :=
  apply_update (·.now) (fun _ => rfl) s f

variable [Carrier τ]

def Action.time? : Action τ → Option Nat
  | .setTime now => some now
  | _ => none

theorem now_act (s : Session τ) (a : Action τ) :
    (s.act a).now = max s.now (a.time?.getD s.now) := by
  cases a with
  | setTime now => rfl
  | run actor input =>
    refine Eq.trans ?_ (Nat.max_self _).symm
    cases actor with
    | loop => exact now_runLoop s input
    | task id => exact now_runTask s id input
  | use | setInterval | refresh => exact (Nat.max_self _).symm
  | setDescription | setHealth => exact (now_update s _).trans (Nat.max_self _).symm
  | reportSync hash report =>
    cases report <;> exact (now_update s _).trans (Nat.max_self _).symm
  | stop =>
    refine Eq.trans ?_ (Nat.max_self _).symm
    show (if s.isRunning then s.requestStop else s).now = s.now
    unfold requestStop
    dsimp only
    split
    · split <;> rfl
    · rfl
  | endStop =>
    refine Eq.trans ?_ (Nat.max_self _).symm
    show (if s.phase = .stopping ∧ s.isDrained then s.markStopped else s).now = s.now
    split <;> rfl
  | cancelStop isFirst =>
    refine Eq.trans ?_ (Nat.max_self _).symm
    show (if s.phase = .stopping then
      (if isFirst then s.abort.markStopped else s.abort) else s).now = s.now
    split
    · split <;> rfl
    · rfl

theorem now_le_act (s : Session τ) (a : Action τ) : s.now ≤ (s.act a).now := by
  rw [now_act]
  exact Nat.le_max_left _ _

theorem now_le_after (s : Session τ) (actions : List (Action τ)) : s.now ≤ (s.after actions).now :=
  after_induction (P := fun t => s.now ≤ t.now) (fun t a h => Nat.le_trans h (now_le_act t a))
    (Nat.le_refl _) actions

end Session

end ManagedAgent
