import ManagedAgent.Http.Sender
import ManagedAgent.Session.Transport

/-!
# Senders with a TLS library

Whether a certificate or a key can be used is for a TLS library to say, which is not part of this
project: a `TlsLibrary` is what it says. A change of a sender asks the library before it writes one
field after the other, and what it has written stays if it fails later on.

A `Sender` by itself goes with the library that takes everything (`Sender.configureWith_lenient`,
`Sender.applyWith_lenient`).

* `Sender.configureWith_on`, `Sender.applyWith_on` : what a change comes to.
-/

set_option autoImplicit false

namespace ManagedAgent.Http

/-- What a TLS library says to certificates and keys. -/
structure TlsLibrary where
  /-- A root certificate. -/
  root : Bytes → Except String Unit
  /-- A client's private key, and its certificate on the lines after that. -/
  identity : Bytes → Except String Unit
  /-- A client that has all of them. -/
  client : TlsSettings → ConnectionSettings → Except String Unit

namespace TlsLibrary

/-- The library that takes everything. -/
def lenient : TlsLibrary := ⟨fun _ => .ok (), fun _ => .ok (), fun _ _ => .ok ()⟩

/-- A library that takes no root certificate. -/
def distrusting : TlsLibrary := { lenient with root := fun _ => .error "expired" }

def checkRoot (lib : TlsLibrary) (pem : Bytes) : Except TransportError Unit :=
  (lib.root pem).mapError .invalidTls

/-- A client's certificate and its key, unless there is neither. -/
def checkIdentity (lib : TlsLibrary) (c : Certificate) : Except TransportError Unit := do
  checkKeys c
  if c.publicKey.isEmpty then return
  (lib.identity (c.privateKey ++ 10 :: c.publicKey)).mapError fun e =>
    .invalidTls ("client certificate: " ++ e)

def checkCertificate (lib : TlsLibrary) (c : Certificate) : Except TransportError Unit := do
  if !c.caPublicKey.isEmpty then lib.checkRoot c.caPublicKey
  lib.checkIdentity c

/-- Check the certificate to trust, then the one of the settings, then all together. -/
def check (lib : TlsLibrary) (tls : TlsSettings) (s : ConnectionSettings) :
    Except TransportError Unit := do
  tls.caPem.forM fun pem => lib.checkRoot (Wire.utf8 pem)
  s.certificate.forM lib.checkCertificate
  (lib.client tls s).mapError fun e => .invalidTls ("Failed to create HTTP client: " ++ e)

end TlsLibrary

/-- Check the address, then the headers, then what the TLS library has to check. -/
def Endpoint.build (lib : TlsLibrary) (tls : TlsSettings) (s : ConnectionSettings) :
    Except TransportError Endpoint := do
  let url ← parseUrl s.endpoint
  let headers ← Headers.ofSettings s.headers
  lib.check tls s
  return ⟨url, headers, s⟩

/-- The address and the headers are those that the settings ask for. -/
def Endpoint.Built (e : Endpoint) : Prop :=
  Endpoint.parseUrl e.settings.endpoint = .ok e.url ∧
    Headers.ofSettings e.settings.headers = .ok e.headers

theorem Endpoint.build_eq_ok_iff {lib : TlsLibrary} {tls : TlsSettings} {s : ConnectionSettings}
    {e : Endpoint} :
    build lib tls s = .ok e ↔ e.Built ∧ lib.check tls s = .ok () ∧ e.settings = s := by
  obtain ⟨url, headers, settings⟩ := e
  unfold build Built
  simp only [bind, Except.bind, pure, Except.pure]
  constructor
  · intro h
    split at h
    · cases h
    · next hurl =>
      split at h
      · cases h
      · next hheaders =>
        split at h
        · cases h
        · next hcheck =>
          cases h
          exact ⟨⟨hurl, hheaders⟩, hcheck, rfl⟩
  · rintro ⟨⟨hurl, hheaders⟩, hcheck, rfl⟩
    rw [hurl, hheaders, hcheck]

namespace Sender

/-- A change of a sender. What it has written before it fails stays. -/
abbrev Change (α : Type) : Type := ExceptT TransportError (StateM Sender) α

/-- The result of a change, and the sender after it. -/
def Change.on {α : Type} (c : Change α) (s : Sender) : Except TransportError α × Sender :=
  c.run.run s

namespace Change
variable {α β : Type}

/-- A check, which writes nothing. -/
def check (r : Except TransportError α) : Change α := ExceptT.mk (pure r)

@[simp] theorem bind_on (c : Change α) (f : α → Change β) (s : Sender) :
    (c >>= f).on s =
      match c.on s with
      | (.ok a, t) => (f a).on t
      | (.error e, t) => (.error e, t) := by
  unfold Change.on
  rw [ExceptT.run_bind, StateT.run_bind]
  rcases c.run.run s with ⟨_ | _, t⟩ <;> rfl

@[simp] theorem check_on (r : Except TransportError α) (s : Sender) : (check r).on s = (r, s) := rfl

@[simp] theorem get_on (s : Sender) : (get : Change Sender).on s = (.ok s, s) := rfl

@[simp] theorem modify_on (f : Sender → Sender) (s : Sender) :
    (modify f : Change PUnit).on s = (.ok ⟨⟩, f s) := rfl

@[simp] theorem throw_on (e : TransportError) (s : Sender) :
    (throw e : Change α).on s = (.error e, s) := rfl

@[simp] theorem pure_on (a : α) (s : Sender) : (pure a : Change α).on s = (.ok a, s) := rfl

end Change

/-- Take the settings of a session over. -/
def configureWith (lib : TlsLibrary) (settings : StartSettings) : Change Unit := do
  let endpoint ← Change.check (Endpoint.build lib settings.tls settings.connection)
  modify fun s => { s with endpoint := some endpoint }
  modify fun s => { s with tls := settings.tls }
  modify fun s => { s with compress := settings.enableCompression }
  if let some interval := settings.pollingInterval then modify (·.setInterval interval)

/-- Use other settings; without an endpoint the endpoint stays. The answer is the settings that are
replaced. -/
def applyWith (lib : TlsLibrary) (settings : ConnectionSettings) : Change ConnectionSettings := do
  let some current := (← get).current | throw notConfigured
  let endpoint := if settings.endpoint = "" then current.endpoint else settings.endpoint
  let next ← Change.check (Endpoint.build lib (← get).tls { settings with endpoint })
  let replaced := (← get).current
  modify fun s => { s with endpoint := some next }
  return replaced.getD current

theorem configureWith_on (lib : TlsLibrary) (settings : StartSettings) (s : Sender) :
    (configureWith lib settings).on s =
      match Endpoint.build lib settings.tls settings.connection with
      | .error e => (.error e, s)
      | .ok e => (.ok (), ⟨some e, settings.tls, settings.enableCompression,
          settings.pollingInterval.getD s.interval⟩) := by
  unfold configureWith
  cases Endpoint.build lib settings.tls settings.connection with
  | error e => simp
  | ok e => cases settings.pollingInterval <;> simp [setInterval]

theorem applyWith_on (lib : TlsLibrary) (settings : ConnectionSettings) (s : Sender) :
    (applyWith lib settings).on s =
      match s.current with
      | none => (.error notConfigured, s)
      | some old =>
        match Endpoint.build lib s.tls
          { settings with
            endpoint := if settings.endpoint = "" then old.endpoint else settings.endpoint } with
        | .error e => (.error e, s)
        | .ok e => (.ok old, { s with endpoint := some e }) := by
  unfold applyWith
  cases hc : s.current with
  | none => simp [hc]
  | some old =>
    simp only [Change.bind_on, Change.get_on, hc, Change.check_on]
    cases Endpoint.build lib s.tls
      { settings with
        endpoint := if settings.endpoint = "" then old.endpoint else settings.endpoint } with
    | error e => rfl
    | ok e => simp [hc]

section Results
variable {s t : Sender} {lib : TlsLibrary} {settings old : ConnectionSettings}

/-- A sender that refuses settings is as before. -/
theorem configureWith_of_error {settings : StartSettings} {e : TransportError}
    (h : ((configureWith lib settings).on s).1 = .error e) :
    ((configureWith lib settings).on s).2 = s := by
  rw [configureWith_on] at h ⊢
  split at h
  · rfl
  · cases h

theorem applyWith_of_error {e : TransportError} (h : ((applyWith lib settings).on s).1 = .error e) :
    ((applyWith lib settings).on s).2 = s := by
  rw [applyWith_on] at h ⊢
  split at h
  · rfl
  · split at h
    · rfl
    · cases h

/-- What a successful change makes of a sender. -/
theorem applyWith_eq_ok_iff :
    (applyWith lib settings).on s = (.ok old, t) ↔
      s.current = some old ∧ ∃ e,
        Endpoint.build lib s.tls
          { settings with
            endpoint := if settings.endpoint = "" then old.endpoint else settings.endpoint } = .ok e ∧
        t = { s with endpoint := some e } := by
  rw [applyWith_on]
  cases s.current with
  | none => simp
  | some current =>
    dsimp only
    constructor
    · intro h
      split at h
      · cases h
      · next e he =>
        cases h
        exact ⟨rfl, e, he, rfl⟩
    · rintro ⟨hcurrent, e, he, rfl⟩
      cases hcurrent
      rw [he]

theorem configureWith_eq_ok_iff {settings : StartSettings} :
    (configureWith lib settings).on s = (.ok (), t) ↔
      ∃ e, Endpoint.build lib settings.tls settings.connection = .ok e ∧
        t = ⟨some e, settings.tls, settings.enableCompression,
          settings.pollingInterval.getD s.interval⟩ := by
  rw [configureWith_on]
  cases Endpoint.build lib settings.tls settings.connection with
  | error e => simp
  | ok e => simp [eq_comm]

/-- Only a start decides about the certificate to trust. -/
theorem tls_applyWith (lib : TlsLibrary) (settings : ConnectionSettings) (s : Sender) :
    ((applyWith lib settings).on s).2.tls = s.tls := by
  rw [applyWith_on]
  split
  · rfl
  · split <;> rfl

end Results

end Sender

/-! ## The library that takes everything -/

theorem TlsLibrary.checkCertificate_lenient (c : Certificate) :
    lenient.checkCertificate c = checkKeys c := by
  have hidentity : lenient.checkIdentity c = checkKeys c := by
    unfold checkIdentity
    cases checkKeys c with
    | error e => rfl
    | ok _ => cases c.publicKey.isEmpty <;> rfl
  unfold checkCertificate
  rw [hidentity]
  cases c.caPublicKey.isEmpty <;> rfl

theorem Endpoint.build_lenient (tls : TlsSettings) (s : ConnectionSettings) :
    build .lenient tls s = ofSettings s := by
  have hcheck : TlsLibrary.lenient.check tls s = s.certificate.forM checkKeys := by
    unfold TlsLibrary.check
    rw [funext TlsLibrary.checkCertificate_lenient]
    cases tls.caPem <;> cases s.certificate.forM checkKeys <;> rfl
  unfold build ofSettings
  rw [hcheck]

namespace Sender

theorem configureWith_lenient (settings : StartSettings) (s : Sender) :
    (configureWith .lenient settings).on s = Transport.configure s settings := by
  show _ = orUnchanged s ((s.configure settings).map ((), ·))
  rw [configureWith_on, Endpoint.build_lenient]
  unfold configure
  cases Endpoint.ofSettings settings.connection <;> rfl

theorem applyWith_lenient (settings : ConnectionSettings) (s : Sender) :
    (applyWith .lenient settings).on s = Transport.apply s settings := by
  show _ = orUnchanged s (s.apply settings)
  rw [applyWith_on]
  unfold apply
  cases s.current with
  | none => rfl
  | some old =>
    dsimp only
    rw [Endpoint.build_lenient]
    cases Endpoint.ofSettings { settings with
      endpoint := if settings.endpoint = "" then old.endpoint else settings.endpoint } <;> rfl

end Sender

/-! ## As a transport -/

/-- A sender that goes with a TLS library. -/
structure SecuredSender (lib : TlsLibrary) where
  sender : Sender := {}
  deriving DecidableEq, Inhabited

instance (lib : TlsLibrary) : Transport (SecuredSender lib) where
  mode _ := .polling
  configure s settings :=
    let (result, sender) := (Sender.configureWith lib settings).on s.sender
    (result, ⟨sender⟩)
  apply s settings :=
    let (result, sender) := (Sender.applyWith lib settings).on s.sender
    (result, ⟨sender⟩)
  interval s := s.sender.interval
  setInterval s interval := ⟨s.sender.setInterval interval⟩

namespace SecuredSender
variable {lib : TlsLibrary}

theorem transport_configure (s : SecuredSender lib) (settings : StartSettings) :
    Transport.configure s settings =
      (((Sender.configureWith lib settings).on s.sender).1,
        ⟨((Sender.configureWith lib settings).on s.sender).2⟩) := rfl

theorem transport_apply (s : SecuredSender lib) (settings : ConnectionSettings) :
    Transport.apply s settings =
      (((Sender.applyWith lib settings).on s.sender).1,
        ⟨((Sender.applyWith lib settings).on s.sender).2⟩) := rfl

end SecuredSender

end ManagedAgent.Http
