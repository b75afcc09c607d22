import ManagedAgent.Duration
import ManagedAgent.Wire.Reader

/-!
# What can go wrong

One type per boundary: the transport, the agent's handlers, the client as a whole, and the
environment that settings are read from. `message` gives the text shown for each.
-/

set_option autoImplicit false

namespace ManagedAgent

/-- An exchange, or the set-up of a transport, failed. -/
inductive TransportError where
  | connect (reason : String)
  | httpStatus (status : UInt16)
  /-- The server is there but busy; it may have asked for a wait. -/
  | unavailable (retryAfter : Option Duration)
  | decode (failure : Wire.Failure)
  | compression (reason : String)
  | invalidEndpoint (reason : String)
  | invalidHeader (reason : String)
  | invalidTls (reason : String)
  | closed
  | cancelled
  deriving DecidableEq, Inhabited

namespace TransportError

/-- The wait that the server asked for. -/
def retryAfter : TransportError → Option Duration
  | .unavailable d => d
  | _ => none

def decodeReason : Wire.Failure → String
  | .truncated => "the text ended too early"
  | .malformed => "the text is not well formed"
  | .mismatch => "the text is of another type"

def waitText : Option Duration → String
  | none => "None"
  | some d => "Some(" ++ d.text ++ ")"

def message : TransportError → String
  | .connect reason => "Connection failed: " ++ reason
  | .httpStatus status => "Server responded with HTTP status " ++ toString status.toNat
  | .unavailable d => "Server unavailable (retry after " ++ waitText d ++ ")"
  | .decode f => "Failed to decode instruction: " ++ decodeReason f
  | .compression reason => "Compression error: " ++ reason
  | .invalidEndpoint reason => "Invalid endpoint: " ++ reason
  | .invalidHeader reason => "Invalid header: " ++ reason
  | .invalidTls reason => "Invalid TLS settings: " ++ reason
  | .closed => "Transport closed"
  | .cancelled => "Transport operation cancelled"

end TransportError

/-- A handler of the agent failed. -/
inductive CallbackError where
  | rejected (reason : String)
  | unsupported (reason : String)
  | cancelled
  deriving DecidableEq, Inhabited

def CallbackError.message : CallbackError → String
  | .rejected reason => "Rejected: " ++ reason
  | .unsupported reason => "Unsupported: " ++ reason
  | .cancelled => "Callback cancelled"

/-- A call of the client failed. -/
inductive ClientError where
  | alreadyStarted
  | notStarted
  | missingServerAddress
  | missingCallbacks
  | transport (e : TransportError)
  | callback (e : CallbackError)
  | cancelled
  | invalidArgument (reason : String)
  deriving DecidableEq, Inhabited

def ClientError.message : ClientError → String
  | .alreadyStarted => "Client already started"
  | .notStarted => "Client not started"
  | .missingServerAddress => "Server address is not set"
  | .missingCallbacks => "Callbacks are not set"
  | .transport e => "Transport error: " ++ e.message
  | .callback e => "Callback error: " ++ e.message
  | .cancelled => "Operation cancelled"
  | .invalidArgument reason => "Invalid argument: " ++ reason

/-- Settings could not be read from the environment. -/
inductive ConfigError where
  | missingVariable (name : String)
  | invalidValue (name value : String)
  deriving DecidableEq, Inhabited

def ConfigError.message : ConfigError → String
  | .missingVariable name => "Missing environment variable: " ++ name
  | .invalidValue name value => "Invalid value for " ++ name ++ ": " ++ value

end ManagedAgent
