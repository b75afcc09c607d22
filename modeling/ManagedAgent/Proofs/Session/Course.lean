import ManagedAgent.Engine
import ManagedAgent.Http.Secured

/-!
# The course of a session

An `Action` is what can happen next in a session: an actor goes on with some input, the time goes
on, the agent or the one who stops the session calls, or the transport is used. Nothing is said about
the order or about what comes in, so that a statement about `Session.after` for all lists of actions
is about every interleaving and everything that a server, a network or an agent may do.
-/

set_option autoImplicit false

namespace ManagedAgent

/-- What is done with a transport beside its set-up. Exchanges and streams happen outside of a
session, which gets their results as inputs; `after` is what they make of the transport. -/
class Carrier (τ : Type) where
  Use : Type
  after : τ → Use → τ

/-- An exchange leaves the sender as it is. -/
instance : Carrier Http.Sender where
  Use := Bool × Report × Http.Delivery
  after s _ := s

instance (lib : Http.TlsLibrary) : Carrier (Http.SecuredSender lib) where
  Use := Bool × Report × Http.Delivery
  after s _ := s

/-- A connection that opens takes the place of the link; one that does not changes nothing. -/
instance : Carrier Network.Client where
  Use := Bool × Network
  after c use :=
    match c.connect use.1 use.2 with
    | .ok (c, _) => c
    | .error _ => c

inductive Session.Action (τ : Type) [Carrier τ] where
  /-- An actor goes on. -/
  | run (actor : Actor) (input : Input)
  | use (u : Carrier.Use τ)
  | setTime (now : Nat)
  | setInterval (d : Duration)
  | setDescription (d : Description)
  | setHealth (h : Health)
  /-- The agent wants its configuration to be read again. -/
  | refresh
  /-- The agent reports about the packages of an offer. -/
  | reportSync (hash : Bytes) (report : Session.SyncReport)
  /-- Stop is called. -/
  | stop
  /-- The call to stop finds the session drained. -/
  | endStop
  /-- The patience of a caller of stop runs out; `isFirst` says that it is the one who drains the
  session, and not one who waits for that. -/
  | cancelStop ( isFirst : Bool)

namespace Session
variable {τ : Type} [Transport τ] [Carrier τ]

/-- The session after an action. Only a running session can be stopped, and only a stopping one
becomes stopped. -/
def act (s : Session τ) : Action τ → Session τ
  | .run actor input => s.run actor input
  | .use u => { s with transport := Carrier.after s.transport u }
  | .setTime now => s.setTime now
  | .setInterval d => { s with transport := Transport.setInterval s.transport d }
  | .setDescription d => s.setDescription d
  | .setHealth h => s.setHealth h
  | .refresh => s.beginRefresh.2
  | .reportSync hash report => s.reportSync hash report
  | .stop => if s.isRunning then s.requestStop else s
  | .endStop => if s.phase = .stopping ∧ s.isDrained then s.markStopped else s
  | .cancelStop isFirst =>
    if s.phase = .stopping then (if isFirst then s.abort.markStopped else s.abort) else s

def after (s : Session τ) (actions : List (Action τ)) : Session τ := actions.foldl act s

@[simp] theorem after_nil (s : Session τ) : s.after [] = s := rfl

@[simp] theorem after_cons (s : Session τ) (a : Action τ) (actions : List (Action τ)) :
    s.after (a :: actions) = (s.act a).after actions := rfl

theorem after_append (s : Session τ) (earlier later : List (Action τ)) :
    s.after (earlier ++ later) = (s.after earlier).after later := List.foldl_append

/-- What every action keeps holds after all of them. -/
theorem after_induction {P : Session τ → Prop} (h : ∀ s a, P s → P (s.act a)) {s : Session τ}
    (hs : P s) (actions : List (Action τ)) : P (s.after actions) := by
  induction actions generalizing s with
  | nil => exact hs
  | cons a actions ih => exact ih (h s a hs)

end Session

end ManagedAgent
