import ManagedAgent.Proofs.Session.Course

/-!
# Transports whose settings can be switched and switched back

What a session relies on when it tries settings on its transport: a transport that refuses settings
is as before, one that takes them uses them, and settings that were in use once since the start are
taken again. A sender with a TLS library and the client of a network are such.
-/

set_option autoImplicit false

namespace ManagedAgent

/-- A transport with its settings in use. `Sound` says that these have passed all checks. -/
class Switchable (τ : Type) [Transport τ] [Carrier τ] where
  current : τ → Option ConnectionSettings
  Sound : τ → Prop
  /-- What the start has set up for good. Which settings are taken depends on it. -/
  Setup : Type
  setup : τ → Setup
  /-- Settings that name an endpoint are used as they are. -/
  current_apply {t : τ} {settings old : ConnectionSettings} (hs : Sound t)
    (he : settings.endpoint ≠ "") (h : (Transport.apply t settings).1 = .ok old) :
    current t = some old ∧ current (Transport.apply t settings).2 = some settings ∧
      Sound (Transport.apply t settings).2
  apply_refused {t : τ} {settings : ConnectionSettings} {e : TransportError}
    (h : (Transport.apply t settings).1 = .error e) : (Transport.apply t settings).2 = t
  /-- What was in use once, with the same setup, is taken again. -/
  apply_again {t u : τ} {settings : ConnectionSettings} (hc : (current t).isSome) (hu : Sound u)
    (h : current u = some settings) (he : settings.endpoint ≠ "") (hsame : setup t = setup u) :
    ∃ old, (Transport.apply t settings).1 = .ok old
  setup_apply (t : τ) (settings : ConnectionSettings) :
    setup (Transport.apply t settings).2 = setup t
  configured {t : τ} {settings : StartSettings} (h : (Transport.configure t settings).1 = .ok ()) :
    current (Transport.configure t settings).2 = some settings.connection ∧
      Sound (Transport.configure t settings).2
  current_setInterval (t : τ) (d : Duration) : current (Transport.setInterval t d) = current t
  sound_setInterval {t : τ} (d : Duration) (h : Sound t) : Sound (Transport.setInterval t d)
  setup_setInterval (t : τ) (d : Duration) : setup (Transport.setInterval t d) = setup t
  current_after (t : τ) (u : Carrier.Use τ) : current (Carrier.after t u) = current t
  sound_after {t : τ} (u : Carrier.Use τ) (h : Sound t) : Sound (Carrier.after t u)
  setup_after (t : τ) (u : Carrier.Use τ) : setup (Carrier.after t u) = setup t

/-! ## Reports over HTTP -/

namespace Http.SecuredSender
variable {lib : TlsLibrary}

/-- The TLS library takes what the sender has. -/
def Sound (s : SecuredSender lib) : Prop :=
  ∀ e, s.sender.endpoint = some e → Endpoint.build lib s.sender.tls e.settings = .ok e

theorem sound_of_endpoint {s : SecuredSender lib} {settings : ConnectionSettings} {e : Endpoint}
    (h : Endpoint.build lib s.sender.tls settings = .ok e) (hs : s.sender.endpoint = some e) :
    s.sender.current = some settings ∧ s.Sound := by
  obtain ⟨-, -, rfl⟩ := Endpoint.build_eq_ok_iff.1 h
  constructor
  · rw [Sender.current, hs]
    rfl
  · intro e' he'
    rw [hs, Option.some_inj] at he'
    rwa [← he']

/-- What was in use is built again. -/
theorem Sound.exists_build {s : SecuredSender lib} (h : s.Sound) {settings : ConnectionSettings}
    (hc : s.sender.current = some settings) :
    ∃ e, Endpoint.build lib s.sender.tls settings = .ok e := by
  obtain ⟨e, he, rfl⟩ := Option.map_eq_some_iff.1 hc
  exact ⟨e, h e he⟩

instance : Switchable (SecuredSender lib) where
  current s := s.sender.current
  Sound := Sound
  Setup := TlsSettings
  setup s := s.sender.tls
  current_apply {s settings old} _ he h := by
    rw [transport_apply] at h ⊢
    generalize ha : (Sender.applyWith lib settings).on s.sender = r at h ⊢
    obtain ⟨_, t⟩ := r
    cases h
    obtain ⟨hc, e, hbuild, rfl⟩ := Sender.applyWith_eq_ok_iff.1 ha
    rw [if_neg he] at hbuild
    exact ⟨hc, sound_of_endpoint (s := ⟨{ s.sender with endpoint := some e }⟩) hbuild rfl⟩
  apply_refused h := congrArg mk (Sender.applyWith_of_error h)
  apply_again {s u settings} hc hu h he hsame := by
    obtain ⟨old, hold⟩ := Option.isSome_iff_exists.1 hc
    obtain ⟨e, hbuild⟩ := hu.exists_build h
    rw [← hsame] at hbuild
    have ha := Sender.applyWith_eq_ok_iff.2
      ⟨hold, e, by rw [if_neg he]; exact hbuild, rfl⟩
    exact ⟨old, congrArg Prod.fst ha⟩
  setup_apply s settings := Sender.tls_applyWith lib settings s.sender
  configured {s settings} h := by
    rw [transport_configure] at h ⊢
    generalize hc : (Sender.configureWith lib settings).on s.sender = r at h ⊢
    obtain ⟨_, t⟩ := r
    cases h
    obtain ⟨e, hbuild, rfl⟩ := Sender.configureWith_eq_ok_iff.1 hc
    exact sound_of_endpoint (s := ⟨⟨some e, settings.tls, _, _⟩⟩) hbuild rfl
  current_setInterval _ _ := rfl
  sound_setInterval _ h := h
  setup_setInterval _ _ := rfl
  current_after _ _ := rfl
  sound_after _ h := h
  setup_after _ _ := rfl

end Http.SecuredSender

/-! ## The in-process network -/

namespace Network

theorem Client.settings_after (c : Client) (u : Carrier.Use Client) :
    (Carrier.after c u).settings = c.settings := by
  obtain ⟨cancelled, n⟩ := u
  dsimp only [Carrier.after]
  unfold connect
  split
  · next h =>
    split at h
    · cases h
    · split at h
      · cases h
      · cases h
        rfl
  · rfl

instance : Switchable Client where
  current c := some c.settings
  Sound _ := True
  Setup := Unit
  setup _ := ()
  current_apply {c settings old} _ he h := by
    refine ⟨congrArg some (Except.ok.inj h), ?_, trivial⟩
    show some (c.apply settings).2.settings = _
    unfold Client.apply
    dsimp only
    rw [if_neg he]
  apply_refused h := by cases h
  apply_again {c _ _} _ _ _ _ _ := ⟨c.settings, rfl⟩
  setup_apply _ _ := rfl
  configured {c settings} h := by
    have hr : Transport.configure c settings =
      orUnchanged c ((c.configure settings).map ((), ·)) := rfl
    rw [hr] at h ⊢
    unfold Client.configure at h ⊢
    split at h
    · cases h
    · next hne => exact ⟨by rw [if_neg hne]; rfl, trivial⟩
  current_setInterval _ _ := rfl
  sound_setInterval _ _ := trivial
  setup_setInterval _ _ := rfl
  current_after c u := congrArg some (c.settings_after u)
  sound_after _ _ := trivial
  setup_after _ _ := rfl

end Network

end ManagedAgent
