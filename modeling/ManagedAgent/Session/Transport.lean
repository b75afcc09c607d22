import ManagedAgent.Http.Sender
import ManagedAgent.Network.Client

/-!
# What a session needs of its transport

A transport either polls, with one exchange of a report for an instruction at a time, or keeps a
stream of both open. Its set-up is part of the session; exchanges and streams happen outside, and
their results come in as inputs.
-/

set_option autoImplicit false

namespace ManagedAgent

inductive TransportMode where
  | polling
  | streaming
  deriving DecidableEq, Inhabited

/-- The set-up of a transport. -/
class Transport (τ : Type) where
  mode : τ → TransportMode
  /-- Take the settings of a session over. -/
  configure : τ → StartSettings → Except TransportError Unit × τ
  /-- Use other settings from now on; the answer is the settings before. -/
  apply : τ → ConnectionSettings → Except TransportError ConnectionSettings × τ
  /-- The wait between exchanges, or before a lost stream is opened again. -/
  interval : τ → Duration
  setInterval : τ → Duration → τ

/-- The result of a change, with what is left as it was if the change failed. -/
def orUnchanged {ε α τ : Type} (t : τ) : Except ε (α × τ) → Except ε α × τ
  | .error e => (.error e, t)
  | .ok (a, t) => (.ok a, t)

instance : Transport Http.Sender where
  mode _ := .polling
  configure s settings := orUnchanged s ((s.configure settings).map ((), ·))
  apply s settings := orUnchanged s (s.apply settings)
  interval s := s.interval
  setInterval := Http.Sender.setInterval

instance : Transport Network.Client where
  mode _ := .streaming
  configure c settings := orUnchanged c ((c.configure settings).map ((), ·))
  apply c settings := (.ok (c.apply settings).1, (c.apply settings).2)
  interval c := c.retryInterval
  setInterval c _ := c

end ManagedAgent
