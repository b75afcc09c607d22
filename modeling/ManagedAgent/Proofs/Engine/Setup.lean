import ManagedAgent.Http.Secured
import ManagedAgent.Proofs.Engine.Life
import ManagedAgent.Proofs.Http.Requests

/-!
# Failed set-ups

A call to start that fails leaves nothing but its result, so that whatever follows is the same as
without the call. A sender that refuses settings is as before in all its fields, and settings that
took the place of others are followed by these again, with the sender as it was.

* `Http.Sender.applyWith_back` : back to the settings that were replaced;
* `Engine.start_isOk_iff`, `Engine.start_of_error` : which starts succeed, and what the others leave;
* `Life.after_of_starts` : what starts have come to is only written down;
* `failed_setups_leave_no_trace` : both, for every life of an engine and every sender.
-/

set_option autoImplicit false

namespace ManagedAgent

/-! ## Senders -/

namespace Http

theorem Endpoint.Built.endpoint_ne {e : Endpoint} (h : e.Built) : e.settings.endpoint ≠ "" := by
  intro he
  have hurl := h.1
  rw [he] at hurl
  unfold parseUrl at hurl
  cases hp : Url.parse "" with
  | error e =>
    rw [hp] at hurl
    cases hurl
  | ok url =>
    have hempty : (Url.parse "").isOk = false := by cbv
    rw [hp] at hempty
    cases hempty

namespace Sender
variable {s t : Sender} {lib lib' : TlsLibrary} {settings old : ConnectionSettings}

/-- With the settings that were replaced a sender is what it was, if the TLS library takes again what
they have. The endpoint that they name is never empty, so that it is not filled in. -/
theorem applyWith_back (h : s.Reached) (ha : (applyWith lib settings).on s = (.ok old, t))
    (hagain : lib'.check s.tls old = .ok ()) :
    ∃ used, t.current = some used ∧ (applyWith lib' old).on t = (.ok used, s) := by
  obtain ⟨hcurrent, next, -, rfl⟩ := applyWith_eq_ok_iff.1 ha
  obtain ⟨e, he, rfl⟩ := Option.map_eq_some_iff.1 hcurrent
  have hbuilt := h.built e he
  refine ⟨next.settings, rfl, applyWith_eq_ok_iff.2 ⟨rfl, e, ?_, ?_⟩⟩
  · rw [if_neg hbuilt.endpoint_ne]
    exact Endpoint.build_eq_ok_iff.2 ⟨hbuilt, hagain, rfl⟩
  · rw [← he]

end Sender

end Http

/-! ## Engines -/

/-- A transport that refuses the settings of a session is as before. -/
def KeepsOnRefusal (τ : Type) [Transport τ] : Prop :=
  ∀ (t : τ) (settings : StartSettings) (e : TransportError),
    (Transport.configure t settings).1 = .error e → (Transport.configure t settings).2 = t

theorem Http.keepsOnRefusal_securedSender (lib : TlsLibrary) :
    KeepsOnRefusal (SecuredSender lib) := by
  intro t settings e h
  exact congrArg SecuredSender.mk (Sender.configureWith_of_error h)

theorem Http.keepsOnRefusal_sender : KeepsOnRefusal Sender := by
  intro t settings e h
  rw [← Sender.configureWith_lenient] at h ⊢
  exact Sender.configureWith_of_error h

theorem Network.keepsOnRefusal_client : KeepsOnRefusal Client := by
  intro t settings e h
  have hr : Transport.configure t settings =
    orUnchanged t ((t.configure settings).map ((), ·)) := rfl
  rw [hr] at h ⊢
  cases hc : t.configure settings with
  | error e => rfl
  | ok u =>
    rw [hc] at h
    cases h

namespace Engine
variable {τ : Type} [Transport τ]

def reports (e : Engine τ) : List Report := e.session?.elim [] Session.reports

/-- Which starts succeed. -/
theorem start_isOk_iff (e : Engine τ) (settings : StartSettings) (fresh : String)
    (hasHandlers canSpawn : Bool) :
    (e.start settings fresh hasHandlers canSpawn).1.isOk = true ↔
      e.session? = none ∧ Text.isBlank settings.serverUrl = false ∧ hasHandlers = true ∧
        canSpawn = true ∧ (Transport.configure e.transport settings).1.isOk = true := by
  cases e with
  | started s => simp [start, session?, Except.isOk, Except.toBool]
  | idle transport =>
    show _ ↔ none = none ∧ _ ∧ _ ∧ _ ∧ (Transport.configure transport settings).1.isOk = true
    unfold start StartSettings.validate
    dsimp only
    generalize Transport.configure transport settings = r
    obtain ⟨_ | _, t⟩ := r
    all_goals
      cases Text.isBlank settings.serverUrl <;> cases hasHandlers <;> cases canSpawn <;>
        simp [Except.isOk, Except.toBool]

/-- A start that fails leaves the engine as it was. -/
theorem start_of_error (hτ : KeepsOnRefusal τ) {e : Engine τ} {settings : StartSettings}
    {fresh : String} {hasHandlers canSpawn : Bool} {err : ClientError}
    (h : (e.start settings fresh hasHandlers canSpawn).1 = .error err) :
    (e.start settings fresh hasHandlers canSpawn).2 = e ∧
      (err ≠ .alreadyStarted → ∃ transport, e = .idle transport) := by
  cases e with
  | started s =>
    cases h
    exact ⟨rfl, absurd rfl⟩
  | idle transport =>
    refine ⟨?_, fun _ => ⟨transport, rfl⟩⟩
    unfold start at h ⊢
    dsimp only at h ⊢
    split
    · rfl
    · split
      · rfl
      · next hv hs =>
        rw [hv] at h
        dsimp only at h
        rw [if_neg hs] at h
        have hkeep := hτ transport settings
        generalize Transport.configure transport settings = r at h hkeep ⊢
        obtain ⟨e | _, t⟩ := r
        · exact congrArg Engine.idle (hkeep e rfl)
        · cases h

end Engine

/-! ## Lives of engines -/

namespace Life
variable {τ : Type} [Transport τ] [Carrier τ]

/-- What starts have come to is only written down. -/
theorem after_of_starts (l : Life τ) (starts : List (Except ClientError Unit))
    (later : List (Step τ)) :
    ∃ results, (l.after later).starts = l.starts ++ results ∧
      { l with starts }.after later = { l.after later with starts := starts ++ results } := by
  induction later generalizing l starts with
  | nil => exact ⟨[], (List.append_nil _).symm, by rw [List.append_nil]; rfl⟩
  | cons x rest ih =>
    have hstep : ∃ more, (l.step x).starts = l.starts ++ more ∧
        { l with starts }.step x = { l.step x with starts := starts ++ more } := by
      cases x with
      | start settings fresh hasHandlers canSpawn => exact ⟨[_], rfl, rfl⟩
      | continueStop n =>
        refine ⟨[], ?_, ?_⟩
        · unfold step
          dsimp only
          split <;> exact (List.append_nil _).symm
        · unfold step
          dsimp only
          rw [List.append_nil]
          split <;> rfl
      | _ => exact ⟨[], (List.append_nil _).symm, by rw [List.append_nil]; rfl⟩
    obtain ⟨more, hstarts, hstep⟩ := hstep
    obtain ⟨results, hresults, hafter⟩ := ih (l.step x) (starts ++ more)
    refine ⟨more ++ results, ?_, ?_⟩
    · show ((l.step x).after rest).starts = _
      rw [hresults, hstarts, List.append_assoc]
    · show ({ l with starts }.step x).after rest = _
      rw [hstep, hafter, List.append_assoc]
      rfl

/-- A call to start succeeds exactly if the engine was not started before, there are an address,
handlers and a place for tasks, and the transport takes the settings. Any other one leaves nothing
but its result: the engine and its transport are as before, and idle unless the engine was started
earlier; whatever comes later is the same as without the call, and as long as no start succeeds no
report is sent. -/
def FailsCleanly (τ : Type) [Transport τ] [Carrier τ] : Prop :=
  ∀ (transport : τ) (before : List (Step τ)) (settings : StartSettings) (fresh : String)
    (hasHandlers canSpawn : Bool),
    let l := (new transport).after before
    let result := (l.engine.start settings fresh hasHandlers canSpawn).1
    let failed := l.step (.start settings fresh hasHandlers canSpawn)
    (result.isOk = true ↔ l.engine.session? = none ∧ Text.isBlank settings.serverUrl = false ∧
      hasHandlers = true ∧ canSpawn = true ∧
      (Transport.configure l.engine.transport settings).1.isOk = true) ∧
    ∀ err, result = .error err →
      failed = { l with starts := l.starts ++ [.error err] } ∧
      (err ≠ .alreadyStarted → failed.engine.phase = .idle) ∧
      ∀ later : List (Step τ), ∃ results, (l.after later).starts = l.starts ++ results ∧
        failed.after later = { l.after later with starts := l.starts ++ .error err :: results } ∧
        (err ≠ .alreadyStarted → (∀ r ∈ results, r.isOk = false) →
          (failed.after later).engine.reports = [])

theorem failsCleanly (hτ : KeepsOnRefusal τ) : FailsCleanly τ := by
  intro transport before settings fresh hasHandlers canSpawn l result failed
  refine ⟨l.engine.start_isOk_iff settings fresh hasHandlers canSpawn, fun err herr => ?_⟩
  obtain ⟨hsame, hidle⟩ := Engine.start_of_error hτ herr
  have hfailed : failed = { l with starts := l.starts ++ [.error err] } := by
    show { l with
      engine := (l.engine.start settings fresh hasHandlers canSpawn).2
      starts := l.starts ++ [(l.engine.start settings fresh hasHandlers canSpawn).1] } = _
    rw [hsame, show (l.engine.start settings fresh hasHandlers canSpawn).1 = _ from herr]
  refine ⟨hfailed, fun hne => ?_, fun later => ?_⟩
  · obtain ⟨t, ht⟩ := hidle hne
    rw [hfailed]
    show l.engine.phase = .idle
    rw [ht]
    rfl
  · obtain ⟨results, hresults, hafter⟩ := l.after_of_starts (l.starts ++ [.error err]) later
    rw [List.append_assoc, List.singleton_append, ← hfailed] at hafter
    refine ⟨results, hresults, hafter, fun hne hall => ?_⟩
    -- Before the call no start had succeeded, so that afterwards there is no session either.
    have hnone : l.starts.countP Except.isOk = 0 := by
      obtain ⟨t, ht⟩ := hidle hne
      rw [((sound_new transport).after before).starts, ht]
      rfl
    have hsound : (failed.after later).Sound :=
      (((sound_new transport).after before).step _).after later
    have hcount := hsound.starts
    rw [hafter, List.countP_append, hnone, List.countP_cons, List.countP_eq_zero.2 fun r hr => by
      rw [hall r hr]; nofun] at hcount
    have hsession : (failed.after later).engine.session? = none := by
      rw [hafter]
      cases hs : (l.after later).engine.session? with
      | none => rfl
      | some s =>
        rw [hs] at hcount
        cases hcount
    unfold Engine.reports
    rw [hsession]
    rfl

end Life

open Http.Sender (applyWith configureWith Reached)
open Http.TlsLibrary (distrusting)

/-- **A failed set-up leaves no trace.** A start that fails leaves nothing but its result, over HTTP
with any TLS library and in process. A sender that refuses settings is as it was; one that takes them
answers with the settings that they replace, and with these it becomes what it was, if the TLS library
takes again what they have. -/
theorem failed_setups_leave_no_trace :
    (∀ lib, Life.FailsCleanly (Http.SecuredSender lib)) ∧ Life.FailsCleanly Http.Sender ∧
    Life.FailsCleanly Network.Client ∧
    (∀ lib s settings e, ((configureWith lib settings).on s).1 = .error e →
      ((configureWith lib settings).on s).2 = s) ∧
    (∀ lib s settings e, ((applyWith lib settings).on s).1 = .error e →
      ((applyWith lib settings).on s).2 = s) ∧
    ∀ lib lib' s settings old t, Reached s → (applyWith lib settings).on s = (.ok old, t) →
      s.current = some old ∧
        (lib'.check s.tls old = .ok () →
          ∃ used, t.current = some used ∧ (applyWith lib' old).on t = (.ok used, s)) := by
  refine ⟨fun lib => Life.failsCleanly (Http.keepsOnRefusal_securedSender lib),
    Life.failsCleanly Http.keepsOnRefusal_sender, Life.failsCleanly Network.keepsOnRefusal_client,
    fun _ _ _ _ => Http.Sender.configureWith_of_error,
    fun _ _ _ _ => Http.Sender.applyWith_of_error, ?_⟩
  intro lib lib' s settings old t hs ha
  exact ⟨(Http.Sender.applyWith_eq_ok_iff.1 ha).1, Http.Sender.applyWith_back hs ha⟩

/-! ## An expired certificate -/

def certified : StartSettings :=
  { serverUrl := "http://[::1]/", tls := { caPem := some "root" } }

theorem start_distrusting :
    ((Engine.idle ({} : Http.SecuredSender distrusting)).start certified "agent" true true).1 =
      .error (.transport (.invalidTls "expired")) := by
  obtain ⟨url, hurl⟩ := Http.exists_parseUrl_loopback
  have hbuild : Http.Endpoint.build distrusting certified.tls certified.connection =
      .error (.invalidTls "expired") := by
    unfold Http.Endpoint.build
    rw [show certified.connection.endpoint = "http://[::1]/" from rfl, hurl]
    rfl
  have hon : (configureWith distrusting certified).on {} = (.error (.invalidTls "expired"), {}) := by
    rw [Http.Sender.configureWith_on, hbuild]
  have hconfigure : Transport.configure ({} : Http.SecuredSender distrusting) certified =
      (.error (.invalidTls "expired"), {}) := by
    show (((configureWith distrusting certified).on {}).1,
      Http.SecuredSender.mk ((configureWith distrusting certified).on {}).2) = _
    rw [hon]
  have hvalidate : certified.validate true = .ok () := by decide +kernel
  unfold Engine.start
  dsimp only
  rw [hvalidate, hconfigure]
  rfl

def renewed : ConnectionSettings := { certificate := some { caPublicKey := [1] } }

theorem exists_applyWith_renewed : ∃ s t old, Reached s ∧
    (applyWith .lenient renewed).on s = (.ok old, t) ∧ t.current ≠ s.current ∧
      Http.TlsLibrary.lenient.check s.tls old = .ok () := by
  obtain ⟨url, hurl⟩ := Http.exists_parseUrl_loopback
  have hbuild (c : Option Certificate) (hc : Http.TlsLibrary.lenient.check certified.tls
      { endpoint := certified.serverUrl, certificate := c } = .ok ()) :
      Http.Endpoint.build .lenient certified.tls
        { endpoint := certified.serverUrl, certificate := c } =
      .ok ⟨url, .empty, { endpoint := certified.serverUrl, certificate := c }⟩ :=
    Http.Endpoint.build_eq_ok_iff.2 ⟨⟨hurl, rfl⟩, hc, rfl⟩
  have hconfigure := Http.Sender.configureWith_on .lenient certified {}
  rw [show Http.Endpoint.build .lenient certified.tls certified.connection = _ from
    hbuild none rfl] at hconfigure
  have hs := Reached.new.configure .lenient certified
  rw [hconfigure] at hs
  refine ⟨_, _, _, hs, Http.Sender.applyWith_eq_ok_iff.2 ⟨rfl, _, hbuild renewed.certificate rfl, rfl⟩,
    ?_, rfl⟩
  exact fun h => absurd (congrArg ConnectionSettings.certificate (Option.some.inj h)) nofun

/-- A start is refused for an expired certificate. A sender takes another certificate, and goes
back. -/
theorem failed_setups_leave_no_trace_expired :
    let l := Life.new ({} : Http.SecuredSender distrusting)
    let failed := l.step (.start certified "agent" true true)
    (l.engine.start certified "agent" true true).1 = .error (.transport (.invalidTls "expired")) ∧
      failed.engine.phase = .idle ∧
      (∀ later : List (Life.Step (Http.SecuredSender distrusting)), ∃ results,
        (l.after later).starts = results ∧ failed.after later = { l.after later with
          starts := .error (.transport (.invalidTls "expired")) :: results }) ∧
      ∃ s t old, Reached s ∧ (applyWith .lenient renewed).on s = (.ok old, t) ∧
        t.current ≠ s.current ∧ Http.TlsLibrary.lenient.check s.tls old = .ok () ∧
        ∃ used, t.current = some used ∧ (applyWith .lenient old).on t = (.ok used, s) := by
  intro l failed
  obtain ⟨hsecured, -, -, -, -, hback⟩ := failed_setups_leave_no_trace
  obtain ⟨-, hfails⟩ := hsecured distrusting {} [] certified "agent" true true
  obtain ⟨-, hphase, hlater⟩ := hfails _ start_distrusting
  refine ⟨start_distrusting, hphase nofun, fun later => ?_, ?_⟩
  · obtain ⟨results, hresults, hafter, -⟩ := hlater later
    exact ⟨results, hresults, hafter⟩
  · obtain ⟨s, t, old, hs, ha, hne, hcheck⟩ := exists_applyWith_renewed
    exact ⟨s, t, old, hs, ha, hne, hcheck, (hback _ _ s renewed old t hs ha).2 hcheck⟩

end ManagedAgent
