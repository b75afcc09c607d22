import ManagedAgent.Http.Headers
import ManagedAgent.Settings
import ManagedAgent.Text.Base64
import ManagedAgent.Url
import ManagedAgent.Wire.Body

/-!
# Reports over HTTP

A `Sender` posts each report as one request and takes the body of the response as the instruction.
Settings are checked as a whole before any of them is taken over, so that a failure leaves the
sender as it was.

* `configure_eq_ok_iff`, `apply_eq_ok_iff` : what a successful change makes of the sender.
-/

set_option autoImplicit false

namespace ManagedAgent.Http

/-- Where and how requests are sent. -/
structure Endpoint where
  url : Url
  headers : Headers
  settings : ConnectionSettings
  deriving DecidableEq, Inhabited

/-- A client's certificate needs both of its keys. -/
def checkKeys (c : Certificate) : Except TransportError Unit :=
  if c.publicKey.isEmpty = c.privateKey.isEmpty then .ok ()
  else .error (.invalidTls "client certificate needs both a public and a private key")

namespace Endpoint

def parseUrl (endpoint : String) : Except TransportError Url :=
  (Url.parse endpoint).mapError fun e => .invalidEndpoint (endpoint ++ ": " ++ e.message)

/-- Check the address, then the headers, then the certificate. -/
def ofSettings (s : ConnectionSettings) : Except TransportError Endpoint := do
  let url ← parseUrl s.endpoint
  let headers ← Headers.ofSettings s.headers
  s.certificate.forM checkKeys
  return ⟨url, headers, s⟩

end Endpoint

/-! ## Requests -/

/-- A request to post a body. -/
structure Request where
  url : Url
  headers : Headers
  body : Bytes
  deriving DecidableEq, Inhabited

/-- A percent-encoded text of UTF-8. -/
def decodedText? (s : String) : Option String := Wire.ofUtf8 (Url.Percent.decode (Wire.utf8 s))

/-- The header that stands for the user and the password in an address. -/
def authorization? (u : Url) : Option String := do
  let user ← decodedText? u.user
  let password := u.password.bind decodedText?
  if user = "" && password.isNone then none
  else
    let credentials := user ++ ":" ++ password.getD ""
    some ("Basic " ++ String.ofList (Text.base64 (Wire.utf8 credentials)))

namespace Endpoint

def request (e : Endpoint) (compress : Bool) (r : Report) : Request :=
  let authorization := authorization? e.url
  let headers := match authorization with
    | some a => e.headers.insert "authorization" a
    | none => e.headers
  let headers := headers.insert "content-type" Wire.Body.contentType
  { url := if authorization.isSome then { e.url with user := "", password := none } else e.url
    headers :=
      if compress then headers.insert "content-encoding" Wire.Body.compressedEncoding else headers
    body := Wire.Body.encode Wire.Codec.report compress r }

end Endpoint

/-! ## Responses -/

/-- The body of a response, as far as it arrives. -/
inductive Arrival where
  | arrives (body : Bytes)
  | fails (reason : String)
  /-- It neither arrives nor fails. -/
  | stalls
  deriving DecidableEq, Inhabited

structure Response where
  status : UInt16
  headers : List (String × String)
  body : Arrival
  deriving DecidableEq, Inhabited

namespace Response

/-- The first header of a name, if all its characters can be seen. -/
def header? (r : Response) (name : String) : Option String := do
  let (_, value) ← r.headers.find? fun h => Text.lower h.1 == name
  if value.toList.all fun c => c == '\t' || (' ' ≤ c && c ≤ '~') then some value else none

/-- The wait that the server asks for, in seconds. -/
def retryAfter? (r : Response) : Option Duration := do
  let seconds ← Text.decimalUInt64? (Text.trim (← r.header? "retry-after"))
  return Duration.ofSecs seconds

def isCompressed (r : Response) : Bool :=
  (r.header? "content-encoding").any (Text.equalsIgnoringCase · Wire.Body.compressedEncoding)

/-- Why a status alone says that there is no instruction. -/
def refusal? (r : Response) : Option TransportError :=
  if r.status = 503 ∨ r.status = 429 then some (.unavailable r.retryAfter?)
  else if 200 ≤ r.status ∧ r.status < 300 then none
  else some (.httpStatus r.status)

/-- The instruction, unless the body never arrives. -/
def instruction (r : Response) : Option (Except TransportError (Option Instruction)) :=
  match r.refusal? with
  | some e => some (.error e)
  | none =>
    match r.body with
    | .arrives body => some (Wire.Body.decodeInstruction r.isCompressed body)
    | .fails reason => some (.error (.connect reason))
    | .stalls => none

end Response

/-- What becomes of a request. -/
inductive Delivery where
  | answered (r : Response)
  | fails (reason : String)
  | stalls
  deriving DecidableEq, Inhabited

/-- The result of an exchange, unless it goes on until it is cancelled. -/
def Delivery.result : Delivery → Option (Except TransportError (Option Instruction))
  | .answered r => r.instruction
  | .fails reason => some (.error (.connect reason))
  | .stalls => none

/-! ## The sender -/

structure Sender where
  endpoint : Option Endpoint := none
  tls : TlsSettings := {}
  compress : Bool := false
  interval : Duration := StartSettings.defaultInterval
  deriving DecidableEq, Inhabited

namespace Sender

def notConfigured : TransportError := .invalidEndpoint "sender is not configured"

def configure (s : Sender) (settings : StartSettings) : Except TransportError Sender := do
  let endpoint ← Endpoint.ofSettings settings.connection
  return {
    endpoint := some endpoint
    tls := settings.tls
    compress := settings.enableCompression
    interval := settings.pollingInterval.getD s.interval }

/-- The settings that requests are sent with. -/
def current (s : Sender) : Option ConnectionSettings := s.endpoint.map (·.settings)

/-- Use other settings; without an endpoint the endpoint stays. The answer is the settings
before. -/
def apply (s : Sender) (settings : ConnectionSettings) :
    Except TransportError (ConnectionSettings × Sender) := do
  let some current := s.current | .error notConfigured
  let endpoint := if settings.endpoint = "" then current.endpoint else settings.endpoint
  let next ← Endpoint.ofSettings { settings with endpoint }
  return (current, { s with endpoint := some next })

def setInterval (s : Sender) (interval : Duration) : Sender := { s with interval }

def request (s : Sender) (r : Report) : Except TransportError Request :=
  match s.endpoint with
  | some e => .ok (e.request s.compress r)
  | none => .error notConfigured

/-- An exchange on a wire that deals with requests in this way: the request, if one is sent, and the
result, unless the exchange goes on until it is cancelled. -/
def exchange (s : Sender) (cancelled : Bool) (r : Report) (delivery : Delivery) :
    Option Request × Option (Except TransportError (Option Instruction)) :=
  match s.request r with
  | .error e => (none, some (.error e))
  | .ok request =>
    if cancelled then (none, some (.error .cancelled)) else (some request, delivery.result)

theorem configure_eq_ok_iff {s t : Sender} {settings : StartSettings} :
    s.configure settings = .ok t ↔
      ∃ e, Endpoint.ofSettings settings.connection = .ok e ∧
        t = ⟨some e, settings.tls, settings.enableCompression,
          settings.pollingInterval.getD s.interval⟩ := by
  unfold configure
  cases Endpoint.ofSettings settings.connection with
  | error e => simp [bind, Except.bind]
  | ok e => simp [bind, Except.bind, pure, Except.pure, eq_comm]

theorem apply_eq_ok_iff {s t : Sender} {settings old : ConnectionSettings} :
    s.apply settings = .ok (old, t) ↔
      s.current = some old ∧ ∃ e,
        Endpoint.ofSettings
          { settings with
            endpoint := if settings.endpoint = "" then old.endpoint else settings.endpoint } = .ok e ∧
        t = { s with endpoint := some e } := by
  unfold apply
  cases s.current with
  | none => simp
  | some c =>
    simp only [Option.some.injEq, bind, Except.bind, pure, Except.pure]
    split
    · rename_i h
      constructor
      · intro h'; cases h'
      · rintro ⟨rfl, e, he, -⟩; rw [h] at he; cases he
    · rename_i e h
      constructor
      · intro h'; cases h'; exact ⟨rfl, e, h, rfl⟩
      · rintro ⟨rfl, e', he, rfl⟩; rw [h] at he; cases he; rfl

end Sender

end ManagedAgent.Http
