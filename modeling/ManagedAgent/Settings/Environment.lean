import ManagedAgent.Settings
import ManagedAgent.Text.Ascii

/-!
# Settings from environment variables

`StartSettings.ofEnvironment` reads five variables through a lookup. Only the server's address is
required; the polling interval has to be a number of milliseconds.
-/

set_option autoImplicit false

namespace ManagedAgent

namespace StartSettings

/-- A variable that is set to "true", in any case. -/
def isTrue (value : Option String) : Bool := value.any (Text.equalsIgnoringCase · "true")

def ofEnvironment (lookup : String → Option String) : Except ConfigError StartSettings := do
  let some serverUrl := lookup "OPAMP_SERVER_URL"
    | .error (.missingVariable "OPAMP_SERVER_URL")
  let pollingInterval ← match lookup "OPAMP_POLLING_INTERVAL_MS" with
    | none => pure none
    | some raw => match Text.decimalUInt64? raw with
      | some ms => pure (some (Duration.ofMillis ms.toNat))
      | none => .error (.invalidValue "OPAMP_POLLING_INTERVAL_MS" raw)
  return {
    serverUrl
    enableCompression := isTrue (lookup "OPAMP_ENABLE_COMPRESSION")
    instanceUid := lookup "OPAMP_INSTANCE_UID"
    pollingInterval
    tls := { insecureSkipVerify := isTrue (lookup "OPAMP_INSECURE_TLS") } }

end StartSettings

end ManagedAgent
