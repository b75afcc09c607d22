import ManagedAgent.Message.Config
import ManagedAgent.Message.Connection
import ManagedAgent.Message.Package

/-!
# The server's instruction
-/

set_option autoImplicit false

namespace ManagedAgent

inductive ErrorKind where
  | unknown
  | badRequest
  | unavailable
  deriving DecidableEq, Inhabited

/-- The server could not use a report. -/
structure ServerError where
  kind : ErrorKind := .unknown
  message : String := ""
  /-- The wait that the server asks for, in nanoseconds. -/
  retryAfter : Option UInt64 := none
  deriving DecidableEq, Inhabited

/-- A new identity for the agent. -/
structure Identification where
  instanceUid : String
  deriving DecidableEq, Inhabited

inductive Command where
  | restart
  deriving DecidableEq, Inhabited

/-- What the server tells the agent. -/
structure Instruction where
  instanceUid : String := ""
  error : Option ServerError := none
  remoteConfig : Option RemoteConfig := none
  connections : Option ConnectionOffers := none
  packages : Option PackagesAvailable := none
  /-- Asks for everything in the next report. -/
  fullState : Bool := false
  identification : Option Identification := none
  command : Option Command := none
  deriving DecidableEq, Inhabited

/-- The error that says the server is there but could not take the report. -/
def Instruction.unavailable? (i : Instruction) : Option ServerError :=
  i.error.filter (·.kind == .unavailable)

end ManagedAgent
