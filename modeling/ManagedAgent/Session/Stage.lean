import ManagedAgent.Message.Report
import ManagedAgent.Session.Handler

/-!
# Who takes part in a session, and how far each has come

A session has one exchange loop and any number of tasks. Each goes on until it has to wait for
something; its stage says for what. `Event` is what a session does that concerns others.
-/

set_option autoImplicit false

namespace ManagedAgent

inductive Actor where
  | loop
  | task (id : Nat)
  deriving DecidableEq, Inhabited

inductive Phase where
  /-- Not started. -/
  | idle
  /-- Started; no exchange has succeeded yet, or the connection was lost. -/
  | connecting
  | connected
  /-- Stop was requested; what is under way comes to its end. -/
  | stopping
  | stopped
  deriving DecidableEq, Inhabited

/-! ## The exchange loop -/

/-- Where the loop goes on after it has dealt with an instruction. -/
inductive Resume where
  /-- After an exchange of the schedule, with a new wait. -/
  | scheduled
  /-- After an exchange that proved new settings, with the wait up to `deadline`. -/
  | verified (deadline : Nat)
  /-- On the stream; `retry` is the wait before it is opened again once it is lost. -/
  | stream (retry : Duration)
  deriving DecidableEq, Inhabited

inductive Loop where
  | fresh
  /-- Waits for its turn to ask the agent for its configuration. -/
  | queueing
  /-- The agent is asked for its configuration. -/
  | reading
  /-- Polling, up to the next exchange of the schedule. -/
  | waiting (deadline : Nat)
  | exchanging (number : UInt64)
  /-- An exchange proves new settings, for `task`. -/
  | verifying (task : Nat) (previous : ConnectionSettings) (number : UInt64) (deadline : Nat)
  /-- The stream was lost. -/
  | retrying (deadline : Nat)
  | connecting (retry : Duration)
  | sending (number : UInt64) (retry : Duration)
  | receiving (retry : Duration)
  /-- The server is there but busy. -/
  | pausing (deadline : Nat) (retry : Duration)
  /-- A stream is opened with new settings, for `task`. -/
  | switching (task : Nat) (previous : ConnectionSettings) (retry : Duration)
  /-- The agent is asked to take a new identity. -/
  | identifying (uid : String) (rest : Instruction) (resume : Resume)
  | ended
  deriving DecidableEq, Inhabited

namespace Loop

/-- When the loop goes on by itself. -/
def deadline? : Loop → Option Nat
  | .waiting d | .retrying d | .pausing d _ => some d
  | _ => none

/-- The loop goes on when stop is requested. -/
def heedsStop : Loop → Bool
  | .queueing | .reading | .waiting _ | .retrying _ | .connecting _ | .receiving _
  | .pausing _ _ => true
  | _ => false

/-- The loop goes on when it is asked to reconnect. -/
def heedsRequests : Loop → Bool
  | .waiting _ | .receiving _ => true
  | _ => false

end Loop

/-- A task asks the loop to reconnect with other settings. -/
structure ReconnectRequest where
  task : Nat
  settings : ConnectionSettings
  deriving DecidableEq, Inhabited

/-! ## Tasks -/

inductive CallStage where
  | fresh
  | calling
  deriving DecidableEq, Inhabited

inductive ReadStage where
  | fresh
  | queueing
  | reading
  deriving DecidableEq, Inhabited

inductive ConfigStage where
  | fresh
  | applying
  /-- Waits for its turn to ask the agent for its configuration. -/
  | queueing
  | reading
  | saving (status : RemoteConfigStatus)
  deriving DecidableEq, Inhabited

inductive OfferStage where
  | fresh
  | asking
  /-- Waits for the loop to reconnect. -/
  | requesting
  | replied (result : Except TransportError Unit)
  deriving Inhabited

inductive Task where
  | remoteConfig (config : RemoteConfig) (stage : ConfigStage)
  | connection (kind : ConnectionKind) (settings : ConnectionSettings) (stage : OfferStage)
  | packages (packages : PackagesAvailable) (stage : CallStage)
  | command (command : Command) (stage : CallStage)
  /-- The agent wants its configuration to be read again. -/
  | refresh (stage : ReadStage)
  deriving Inhabited

/-- A session that stops waits for the task. -/
def Task.isTracked : Task → Bool
  | .command .. | .refresh _ => false
  | _ => true

/-! ## Inputs and events -/

/-- What an actor goes on with. -/
inductive Input where
  /-- Nothing but what is in the session. -/
  | look
  | answered (answer : Answer)
  | exchanged (result : Except TransportError (Option Instruction))
  | connected (result : Except TransportError Unit)
  | sent (result : Except TransportError Unit)
  | received (result : Except TransportError (Option Instruction))
  deriving Inhabited

inductive Event where
  /-- The agent is told something. -/
  | told (notice : Notice)
  /-- A call of the agent begins. -/
  | called (actor : Actor) (call : Call)
  /-- An exchange begins. -/
  | exchanging (report : Report)
  /-- A stream is being opened. -/
  | connecting
  | sending (report : Report)
  | receiving
  /-- Settings are tried on the transport. -/
  | applied (settings : ConnectionSettings)
  /-- The parts of an instruction go to their tasks. -/
  | routing (instruction : Instruction)
  /-- An actor is new, or what it waits for is there. -/
  | ready (actor : Actor)
  /-- The agent's request to read its configuration again has ended. -/
  | refreshed (task : Nat) (result : Except ClientError Unit)
  | finished (task : Nat)
  | loopEnded
  deriving Inhabited

end ManagedAgent
