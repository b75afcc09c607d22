import ManagedAgent.Engine
import ManagedAgent.Settings.Display

/-!
# Engines as text

The text of an engine shows how it exchanges messages and its phase, and leaves the rest out.
-/

set_option autoImplicit false

namespace ManagedAgent.Display

def mode : TransportMode → String
  | .polling => "Transport::Polling"
  | .streaming => "Transport::Streaming"

def phase : Phase → String
  | .idle => "Idle"
  | .connecting => "Connecting"
  | .connected => "Connected"
  | .stopping => "Stopping"
  | .stopped => "Stopped"

def engine {τ : Type} [Transport τ] (e : Engine τ) : String :=
  record "SessionEngine" [("transport", mode (Transport.mode e.transport)), ("phase", phase e.phase)] true

end ManagedAgent.Display
