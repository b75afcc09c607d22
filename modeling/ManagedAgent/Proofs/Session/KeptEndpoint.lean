import ManagedAgent.Proofs.Session.NewestOffer
import Mathlib.Data.List.Induction
import Mathlib.Data.List.Infix

/-!
# Offered connection settings without an endpoint

An offer without an endpoint means the endpoint in use, and is completed when it arrives. What it
means then is under way until a run accepts it, and other settings can be accepted before.

* `pursued_act` : a step pursues nothing new, but what an offer means that arrives with it;
* `exists_takenUp` : what is pursued has arrived before, and is under way since;
* `connection_between` : the settings in use, from those in use at some earlier moment;
* `endpoint_is_kept_iff` : an acceptance comes back to the endpoint of the arrival, so that it keeps
  the endpoint in use unless others have been accepted in between.
-/

set_option autoImplicit false

namespace ManagedAgent

/-! ## What is pursued -/

/-- A slot is handed on to nothing but what waits. -/
theorem Slot.Release.waiting_of_pursued {α : Type} {settled : α → Prop} {slot slot' : Slot α}
    {next : Option α} {a : α} (h : slot.Release settled slot' next)
    (ha : slot'.current? = some a ∨ slot'.waiting? = some a) : slot.waiting? = some a := by
  cases h with
  | empty => exact ha.elim nofun nofun
  | drop => exact ha.elim nofun nofun
  | take b hw =>
    obtain rfl : b = a := Option.some.inj (ha.resolve_right nofun)
    exact hw

namespace Standing
variable {k : Standing} {c d : ConnectionSettings}

instance (k : Standing) (c : ConnectionSettings) : Decidable (k.IsPursued c) :=
  inferInstanceAs (Decidable (_ ∨ _))

/-- An offer adds nothing to what is pursued but itself. -/
theorem IsPursued.of_offer (h : (k.offer c).IsPursued d) : k.IsPursued d ∨ d = c := by
  obtain ⟨slot, used, resolved⟩ := k
  unfold offer at h
  split at h
  · exact .inl h
  · exact (Slot.eq_or_current?_of_offer h).symm.imp_left .inl

end Standing

namespace Session
variable {τ : Type} {s t : Session τ} {id : Nat} {kind : ConnectionKind}
  {c offered : ConnectionSettings}

theorem isPursued_of_offerSlot (h : t.offerSlot kind = s.offerSlot kind) :
    (t.standing kind).IsPursued c ↔ (s.standing kind).IsPursued c := by
  show (t.offerSlot kind).current? = some c ∨ (t.offerSlot kind).waiting? = some c ↔ _
  rw [h]
  exact Iff.rfl

theorem pursued_nextOffer (h : ((s.nextOffer id kind).standing kind).IsPursued c) :
    (s.standing kind).IsPursued c := by
  rcases s.nextOffer_cases id kind with ⟨-, heq⟩ | ⟨-, slot, next, hr, heq⟩
  · rw [heq] at h
    exact h
  · have hslot : (s.nextOffer id kind).offerSlot kind = slot := by
      rw [heq]
      cases next with
      | none => exact offerSlot_setOfferSlot_self s kind slot
      | some c => exact offerSlot_setOfferSlot_self s kind slot
    unfold Standing.IsPursued at h
    rw [show ((s.nextOffer id kind).standing kind).slot = slot from hslot] at h
    exact .inr (hr.waiting_of_pursued h)

theorem pursued_runOffer {settings : ConnectionSettings} {stage : OfferStage} (input : Input)
    (h : ((s.runOffer id kind settings stage input).standing kind).IsPursued c) :
    (s.standing kind).IsPursued c := by
  have hrun := runOffer_cases s id kind settings stage input
  generalize s.runOffer id kind settings stage input = t at hrun h
  cases hrun with
  | stay => exact h
  | skip => exact pursued_nextOffer h
  | ask => exact h
  | request =>
    refine (isPursued_of_offerSlot ?_).1 h
    rcases request_eq (s.setTask id (.connection kind settings .requesting)) ⟨id, settings⟩ with
      heq | heq
    all_goals
      rw [heq]
      rfl
  | conclude e =>
    refine (isPursued_of_offerSlot ?_).1 (pursued_nextOffer h)
    exact (frame_conclude s kind settings e).offerSlot_of (by simp [Scope.concluding])

theorem pursued_runTask (input : Input)
    (h : ((s.runTask id input).standing kind).IsPursued c) : (s.standing kind).IsPursued c := by
  cases hx : s.tasks.get? id with
  | none => rwa [runTask_of_none hx] at h
  | some x =>
    have apart (hnone : x.offerRun? kind = none) : (s.standing kind).IsPursued c := by
      rwa [(frame_runTask hx input).standing (Scope.sparesOffer_of hnone)] at h
    cases x with
    | connection k settings stage =>
      by_cases hk : k = kind
      · subst hk
        rw [runTask_of_offer hx] at h
        exact pursued_runOffer input h
      · exact apart (if_neg hk)
    | _ => exact apart rfl

/-! ## The endpoint -/

/-- The endpoint in use; it is empty if nothing is. -/
def endpointInUse (s : Session τ) (kind : ConnectionKind) : String :=
  (s.state.connection kind).elim "" (·.endpoint)

/-- What an offer without an endpoint means has the endpoint in use. -/
theorem endpoint_complete (s : Session τ) (kind : ConnectionKind) (h : offered.endpoint = "") :
    (s.state.connections.complete kind offered).endpoint = s.endpointInUse kind := by
  unfold endpointInUse State.connection Connections.complete
  cases s.state.connections.current.get? kind with
  | none => exact h
  | some used =>
    dsimp only
    rw [if_pos h]
    rfl

section Course
variable [Carrier τ]

/-- The settings that a run is about are what runs in the slot. -/
theorem Orderly.pursued_of_offerRun? (hs : s.Orderly) {a : Action τ} {r : OfferRun}
    (hr : a.offerRun? s = some r) : (s.standing r.kind).IsPursued r.settings := by
  cases a with
  | run actor input =>
    cases actor with
    | loop => cases hr
    | task id =>
      obtain ⟨x, hx, hr⟩ := Option.bind_eq_some_iff.1 hr
      cases x with
      | connection k settings stage =>
        obtain ⟨e, -, rfl⟩ := Option.map_eq_some_iff.1 hr
        exact .inl (hs.current? hx)
      | _ => cases hr
  | _ => cases hr

variable [Transport τ]

/-- A step pursues nothing new, but what an offer means that arrives with it. -/
theorem pursued_act (a : Action τ) (h : ((s.act a).standing kind).IsPursued c) :
    (s.standing kind).IsPursued c ∨ ∃ offered,
      (s.act a).offeredFor kind = s.offeredFor kind ++ [offered] ∧
        s.state.connections.complete kind offered = c := by
  by_cases hc : a.isCall = true
  · refine .inl ?_
    rwa [(frame_act s a hc).standing_of (by simp [Scope.calls]) (by simp [Scope.calls])
      (by simp [Scope.calls])] at h
  · cases a with
    | run actor input =>
      cases actor with
      | loop =>
        rcases runLoop_offers s input kind with hr | ⟨offered, ho⟩
        · refine .inl ?_
          rwa [← hr.standing_eq]
        · have h : ((s.runLoop input).standing kind).IsPursued c := h
          rw [ho.standing] at h
          exact h.of_offer.imp_right fun hc => ⟨offered, ho.offered, hc.symm⟩
      | task id => exact .inl (pursued_runTask input h)
    | use u => exact .inl h
    | setInterval d => exact .inl h
    | stop =>
      refine .inl ?_
      rwa [(frame_stop s).standing_of (by simp [Scope.stop]) (by simp [Scope.stop])
        (by simp [Scope.stop])] at h
    | _ => exact absurd rfl hc

/-- With the action `a` an offer for the kind arrives that means `c`, and `c` is under way from then
on, through all of `later`. -/
structure TakenUp (s : Session τ) (kind : ConnectionKind) (offered c : ConnectionSettings)
    (a : Action τ) (later : List (Action τ)) : Prop where
  arrives : (s.act a).offeredFor kind = s.offeredFor kind ++ [offered]
  means : s.state.connections.complete kind offered = c
  pursued : ∀ soon, soon <+: later → (((s.act a).after soon).standing kind).IsPursued c

theorem TakenUp.concat {a b : Action τ} {later : List (Action τ)}
    (h : s.TakenUp kind offered c a later)
    (hb : (((s.act a).after (later ++ [b])).standing kind).IsPursued c) :
    s.TakenUp kind offered c a (later ++ [b]) := by
  refine ⟨h.arrives, h.means, fun soon hsoon => ?_⟩
  rcases List.prefix_concat_iff.1 hsoon with rfl | hsoon
  · exact hb
  · exact h.pursued soon hsoon

/-- Of a given course each moment can be looked at. -/
theorem TakenUp.of_inits {a : Action τ} {later : List (Action τ)}
    (ha : (s.act a).offeredFor kind = s.offeredFor kind ++ [offered])
    (hm : s.state.connections.complete kind offered = c)
    (hp : ∀ soon ∈ later.inits, (((s.act a).after soon).standing kind).IsPursued c) :
    s.TakenUp kind offered c a later :=
  ⟨ha, hm, fun soon hsoon => hp soon ((List.mem_inits soon later).2 hsoon)⟩

/-- What is pursued has arrived with some action, and is under way since. -/
theorem exists_takenUp (hs : ¬ (s.standing kind).IsPursued c) (actions : List (Action τ))
    (h : ((s.after actions).standing kind).IsPursued c) :
    ∃ before a later offered, actions = before ++ a :: later ∧
      (s.after before).TakenUp kind offered c a later := by
  -- From the end: either the last action brings it in, or it was pursued before.
  induction actions using List.reverseRecOn with
  | nil => exact absurd h hs
  | append_singleton actions b ih =>
    have hlast : s.after (actions ++ [b]) = (s.after actions).act b := after_append s actions [b]
    rw [hlast] at h
    rcases pursued_act b h with hp | ⟨offered, ho, hm⟩
    · obtain ⟨before, a, later, offered, rfl, hup⟩ := ih hp
      have hsplit : ((s.after before).act a).after (later ++ [b]) =
          (s.after (before ++ a :: later)).act b := by
        rw [after_append, after_append]
        rfl
      exact ⟨before, a, later ++ [b], offered, List.append_assoc .., hup.concat (hsplit ▸ h)⟩
    · refine ⟨actions, b, [], offered, rfl, ho, hm, fun soon hsoon => ?_⟩
      rw [List.prefix_nil.1 hsoon]
      exact h

/-! ## The settings in use -/

/-- The settings in use are those that were accepted last since some moment, or those in use
then. -/
theorem connection_between (transport : τ) (settings : StartSettings) (fresh : String)
    (before later : List (Action τ)) (kind : ConnectionKind) :
    let s := (start transport settings fresh).after before
    (s.after later).state.connection kind =
      (lastAccepted? kind (s.offerRuns later)).or (s.state.connection kind) := by
  intro s
  obtain ⟨_, hb, -⟩ := (accounted_start transport settings fresh).after before
  obtain ⟨_, hl, -⟩ := (accounted_start transport settings fresh).after (before ++ later)
  have hb := hb.current kind
  have hl := hl.current kind
  rw [after_append, offerRuns_append] at hl
  rw [List.nil_append] at hb hl
  rw [hl, hb, lastAccepted?_append, Option.or_assoc]

/-- A run that accepts settings brings them into use. -/
theorem connection_of_accepted (transport : τ) (settings : StartSettings) (fresh : String)
    (earlier : List (Action τ)) (a : Action τ) (r : OfferRun)
    (hr : a.offerRun? ((start transport settings fresh).after earlier) = some r)
    (haccepted : r.result = .accepted) :
    (((start transport settings fresh).after earlier).act a).state.connection r.kind =
      some r.settings := by
  refine (connection_between transport settings fresh earlier [a] r.kind).trans ?_
  have hruns : ((start transport settings fresh).after earlier).offerRuns [a] = [] ++ [r] := by
    rw [offerRuns, hr]
    rfl
  rw [hruns, lastAccepted?_concat, OfferRun.accepted?, if_pos haccepted]
  dsimp only
  rw [if_pos rfl, Option.some_or]

/-- **When an offer without an endpoint keeps the endpoint.** A run that accepts settings brings them
into use, and they were under way since the arrival of an offer that meant them. If such an offer
came without an endpoint, the endpoint in use is from now on the one that was in use when the offer
arrived; so it is kept exactly if the last acceptance since then, if any, was of settings with that
endpoint. -/
theorem endpoint_is_kept_iff (transport : τ) (settings : StartSettings) (fresh : String)
    (earlier : List (Action τ)) (a : Action τ) (r : OfferRun)
    (hr : a.offerRun? ((start transport settings fresh).after earlier) = some r)
    (haccepted : r.result = .accepted) :
    let origin := start transport settings fresh
    let s := origin.after earlier
    (s.act a).state.connection r.kind = some r.settings ∧
      (∃ before b later offered, earlier = before ++ b :: later ∧
        (origin.after before).TakenUp r.kind offered r.settings b later) ∧
      ∀ before b later offered, earlier = before ++ b :: later →
        (origin.after before).TakenUp r.kind offered r.settings b later →
        offered.endpoint = "" →
        (s.act a).endpointInUse r.kind = (origin.after before).endpointInUse r.kind ∧
          ((s.act a).endpointInUse r.kind = s.endpointInUse r.kind ↔
            ∀ c, lastAccepted? r.kind ((origin.after before).offerRuns (b :: later)) = some c →
              c.endpoint = (origin.after before).endpointInUse r.kind) := by
  intro origin s
  have hused : (s.act a).state.connection r.kind = some r.settings :=
    connection_of_accepted transport settings fresh earlier a r hr haccepted
  refine ⟨hused, ?_, ?_⟩
  · have hs : s.Orderly := (orderly_start transport settings fresh).after earlier
    have hidle : ¬ (origin.standing r.kind).IsPursued r.settings := by
      rintro (h | h)
      all_goals cases h
    exact exists_takenUp hidle earlier (hs.pursued_of_offerRun? hr)
  · rintro before b later offered hsplit hup hempty
    have hafter : (s.act a).endpointInUse r.kind = (origin.after before).endpointInUse r.kind := by
      rw [← endpoint_complete (origin.after before) r.kind hempty, hup.means, endpointInUse, hused]
      rfl
    have hbefore : s.state.connection r.kind =
        (lastAccepted? r.kind ((origin.after before).offerRuns (b :: later))).or
          ((origin.after before).state.connection r.kind) := by
      rw [← connection_between transport settings fresh before (b :: later) r.kind, ← after_append,
        ← hsplit]
    refine ⟨hafter, ?_⟩
    rw [hafter, endpointInUse, endpointInUse, hbefore]
    cases lastAccepted? r.kind ((origin.after before).offerRuns (b :: later)) with
    | none => exact iff_of_true rfl fun c hc => absurd hc.symm (Option.some_ne_none c)
    | some c => exact ⟨fun h d hd => Option.some.inj hd ▸ h.symm, fun h => (h c rfl).symm⟩

/-! ## An endpoint that comes back -/

/-- Another authority is offered for the agent's metrics, wherever they go. -/
def authority : ConnectionSettings where
  certificate := some { caPublicKey := [1] }

def offerAuthority : Action Http.Sender :=
  .run .loop (.exchanged (.ok (some { connections := some { metrics := some authority } })))

/-- The settings of `a` are accepted, and the loop asks for more. -/
def metricsAccepted : List (Action Http.Sender) :=
  [.run .loop .look, .run .loop (.answered (.effective (.error .cancelled))),
    .run .loop (.exchanged (.ok (some (metricsOffer "http://a")))),
    .run (.task 0) .look, .run (.task 0) (.answered (.done (.ok ()))), .run .loop .look]

/-- The settings of `b` are offered, the agent tries them, and the loop asks for more. -/
def metricsTried : List (Action Http.Sender) :=
  [.run .loop (.exchanged (.ok (some (metricsOffer "http://b")))), .run (.task 1) .look,
    .setTime 30000, .run .loop .look]

def acceptTried : Action Http.Sender := .run (.task 1) (.answered (.done (.ok ())))

def authorityAccepted : OfferRun where
  task := 1
  kind := .telemetry .metrics
  settings := { authority with endpoint := "http://a" }
  result := .accepted

/-- Nothing else is tried when the authority is offered, and the endpoint is kept. -/
theorem endpoint_is_kept_iff_authority :
    let s := (start ({} : Http.Sender) metricsAgent "agent").after
      (metricsAccepted ++ [offerAuthority, .run (.task 1) .look])
    acceptTried.offerRun? s = some authorityAccepted ∧ authorityAccepted.result = .accepted ∧
      (s.act acceptTried).endpointInUse (.telemetry .metrics) =
        s.endpointInUse (.telemetry .metrics) := by
  have hrun : acceptTried.offerRun? ((start ({} : Http.Sender) metricsAgent "agent").after
      (metricsAccepted ++ [offerAuthority, .run (.task 1) .look])) = some authorityAccepted := by
    decide
  have htaken : ((start ({} : Http.Sender) metricsAgent "agent").after metricsAccepted).TakenUp
      (.telemetry .metrics) authority authorityAccepted.settings offerAuthority
        [.run (.task 1) .look] :=
    .of_inits (by decide) (by decide) (by decide)
  have hnone : lastAccepted? (.telemetry .metrics)
      (((start ({} : Http.Sender) metricsAgent "agent").after metricsAccepted).offerRuns
        [offerAuthority, .run (.task 1) .look]) = none := by decide
  obtain ⟨-, -, hkept⟩ := endpoint_is_kept_iff ({} : Http.Sender) metricsAgent "agent"
    (metricsAccepted ++ [offerAuthority, .run (.task 1) .look]) acceptTried authorityAccepted hrun
    rfl
  refine ⟨hrun, rfl, (hkept metricsAccepted offerAuthority _ authority rfl htaken rfl).2.2 ?_⟩
  intro c hc
  exact absurd (hnone.symm.trans hc) nofun

/-- The authority is offered while the settings of `b` are tried. It is accepted after them, and the
endpoint of `a` is in use again. -/
theorem stale_endpoint_comes_back :
    let origin := start ({} : Http.Sender) metricsAgent "agent"
    let arrival := origin.after (metricsAccepted ++ metricsTried)
    let s := origin.after (metricsAccepted ++ metricsTried ++ [offerAuthority, acceptTried])
    arrival.TakenUp (.telemetry .metrics) authority authorityAccepted.settings offerAuthority
        [acceptTried] ∧
      authority.endpoint = "" ∧ acceptTried.offerRun? s = some authorityAccepted ∧
      s.state.connection (.telemetry .metrics) = some { endpoint := "http://b" } ∧
      (s.act acceptTried).state.connection (.telemetry .metrics) =
        some { authority with endpoint := "http://a" } :=
  ⟨.of_inits (by decide) (by decide) (by decide), rfl, by decide, by decide, by decide⟩

end Course

end Session

end ManagedAgent
