import ManagedAgent.Proofs.Session.Repetition

/-!
# Which of the offered connection settings wins

For one kind of connection, three things decide: the slot, the settings in use, and the last offer
that was answered. They make a `Standing`, which only an offer and the end of a run change.

* `Standing.Sound.finish`, `Standing.Sound.offer` : what is under way is neither settled nor offered
  twice, so that no run is skipped;
* `Tended.act` : a step of the session is an offer, the end of a run, or nothing to the standing;
* `newest_offer_wins_iff` : once no run is active, the last offer is settled, unless it was dropped
  as settled while a run was active and is not in use any more.
-/

set_option autoImplicit false

namespace ManagedAgent

/-! ## Where a kind of connection stands -/

/-- The payload that the slot comes to in the end. -/
def Slot.newest? {α : Type} (s : Slot α) : Option α := s.waiting?.or s.current?

/-- An offer replaces what waits, so that nothing is left but itself and what runs. -/
theorem Slot.eq_or_current?_of_offer {α : Type} [DecidableEq α] {s : Slot α} {a b : α}
    (h : (s.offer a).1.current? = some b ∨ (s.offer a).1.waiting? = some b) :
    b = a ∨ s.current? = some b := by
  cases s with
  | _ => grind [Slot.offer, Slot.current?, Slot.waiting?]

structure Standing where
  slot : Slot ConnectionSettings
  /-- The settings in use. -/
  used : Option ConnectionSettings
  /-- The last offer that was accepted or rejected. -/
  resolved : Option ConnectionSettings
  deriving DecidableEq

namespace Standing
variable {k k' : Standing} {c : ConnectionSettings} {r : OfferRun} {runs : List OfferRun}

def IsSettled (k : Standing) (c : ConnectionSettings) : Prop := k.used = some c ∨ k.resolved = some c

instance (k : Standing) (c : ConnectionSettings) : Decidable (k.IsSettled c) :=
  inferInstanceAs (Decidable (_ ∨ _))

def IsPursued (k : Standing) (c : ConnectionSettings) : Prop :=
  k.slot.current? = some c ∨ k.slot.waiting? = some c

def offer (k : Standing) (c : ConnectionSettings) : Standing :=
  if k.IsSettled c then k else { k with slot := (k.slot.offer c).1 }

def finish (k : Standing) (r : OfferRun) : Standing where
  slot := k.slot.finish.1
  used := if r.result = .accepted then some r.settings else k.used
  resolved := some r.settings

/-- What is under way is not settled, and what waits is not what runs. -/
structure Sound (k : Standing) : Prop where
  fresh : ∀ c, k.IsPursued c → ¬ k.IsSettled c
  apart : ∀ c, k.slot.current? = some c → k.slot.waiting? ≠ some c

theorem sound_idle (h : k.slot = .idle) : k.Sound where
  fresh c hp := by
    unfold IsPursued at hp
    rw [h] at hp
    exact absurd hp (by simp [Slot.current?, Slot.waiting?])
  apart c hc := by
    rw [h] at hc
    contradiction

theorem Sound.offer (hk : k.Sound) (c : ConnectionSettings) : (k.offer c).Sound := by
  obtain ⟨slot, used, resolved⟩ := k
  unfold Standing.offer
  split
  · exact hk
  · next hs =>
    refine ⟨fun d hd => ?_, fun d hd => ?_⟩
    · rcases Slot.eq_or_current?_of_offer hd with rfl | hcur
      · exact hs
      · exact hk.fresh d (.inl hcur)
    · show (slot.offer c).1.waiting? ≠ some d
      have hd : (slot.offer c).1.current? = some d := hd
      cases slot with
      | _ => grind [Slot.offer, Slot.current?, Slot.waiting?]

/-- What waits runs next, and what has ended has made it neither used nor answered. -/
theorem Sound.finish (hk : k.Sound) (hr : k.slot.current? = some r.settings) :
    (k.finish r).Sound := by
  have hwait (w : ConnectionSettings) (hw : k.slot.waiting? = some w) :
      ¬ (k.finish r).IsSettled w := by
    have hne : some r.settings ≠ some w := fun he => hk.apart _ hr (hw.trans he.symm)
    rintro (hu | hres)
    · have hu : (if r.result = .accepted then some r.settings else k.used) = some w := hu
      split at hu
      · exact hne hu
      · exact hk.fresh w (.inr hw) (.inl hu)
    · exact hne hres
  have hslot : (k.finish r).slot = k.slot.finish.1 := rfl
  cases hw : k.slot.waiting? with
  | none =>
    refine sound_idle (hslot.trans ?_)
    rw [Slot.finish, hw]
  | some w =>
    have hrun : (k.finish r).slot = .running w := by
      rw [hslot, Slot.finish, hw]
    refine ⟨fun d hd => ?_, fun d hd => ?_⟩
    · unfold IsPursued at hd
      rw [hrun] at hd
      obtain rfl : w = d := Option.some.inj (hd.resolve_right nofun)
      exact hwait w hw
    · rw [hrun]
      exact nofun

/-- The runs that end one after the other are those of what runs in the slot. -/
inductive Reaches : Standing → List OfferRun → Standing → Prop
  | refl (k : Standing) : Reaches k [] k
  | run {k k' : Standing} {r : OfferRun} {runs : List OfferRun}
      (hr : k.slot.current? = some r.settings) (h : Reaches (k.finish r) runs k') :
    Reaches k (r :: runs) k'

theorem Reaches.trans {k'' : Standing} {later : List OfferRun} (h : Reaches k runs k')
    (h' : Reaches k' later k'') : Reaches k (runs ++ later) k'' := by
  induction h with
  | refl => exact h'
  | run hr _ ih => exact .run hr (ih h')

theorem Sound.reaches (hk : k.Sound) (h : Reaches k runs k') : k'.Sound := by
  induction h with
  | refl => exact hk
  | run hr _ ih => exact ih (hk.finish hr)

/-- When all runs have ended, the last answer is about what was newest. -/
theorem Reaches.resolved (h : Reaches k runs k') (hidle : k'.slot = .idle)
    (hn : k.slot.newest? = some c) : k'.resolved = some c := by
  induction h generalizing c with
  | refl =>
    rw [hidle] at hn
    contradiction
  | @run k k' r runs hr h ih =>
    have hslot : (k.finish r).slot = k.slot.finish.1 := rfl
    cases hw : k.slot.waiting? with
    | some w =>
      obtain rfl : w = c := by
        rw [Slot.newest?, hw] at hn
        exact Option.some.inj hn
      refine ih hidle ?_
      rw [hslot, Slot.finish, hw]
      rfl
    | none =>
      have hend : (k.finish r).slot = .idle := by
        rw [hslot, Slot.finish, hw]
      obtain rfl : r.settings = c := by
        rw [Slot.newest?, hw, hr] at hn
        exact Option.some.inj hn
      cases h with
      | refl => rfl
      | run hr' =>
        rw [hend] at hr'
        contradiction

/-- Settings that are not under way are in use after some runs if they were before, and no run has
ended with the acceptance of others. -/
theorem Reaches.used_iff (h : Reaches k runs k') (hc : ¬ k.IsPursued c) :
    k'.used = some c ↔ k.used = some c ∧ ∀ r ∈ runs, r.result ≠ .accepted := by
  induction h with
  | refl => exact ⟨fun h => ⟨h, List.forall_mem_nil _⟩, fun h => h.1⟩
  | @run k k' r runs hr h ih =>
    have hne : r.settings ≠ c := fun he => hc (.inl (he ▸ hr))
    have hnext : ¬ (k.finish r).IsPursued c := fun hp => hc (.inr (by
      unfold IsPursued at hp
      rw [show (k.finish r).slot = k.slot.finish.1 from rfl, Slot.finish] at hp
      cases hw : k.slot.waiting? with
      | none =>
        rw [hw] at hp
        exact absurd hp (by simp [Slot.current?, Slot.waiting?])
      | some w =>
        rw [hw] at hp
        exact hp.resolve_right (fun h => by cases h)))
    rw [ih hnext, List.forall_mem_cons]
    show (if r.result = .accepted then some r.settings else k.used) = some c ∧ _ ↔ _
    split
    · next ha =>
      exact iff_of_false (fun h => hne (Option.some.inj h.1)) fun h => h.2.1 ha
    · next ha => exact ⟨fun h => ⟨h.1, ha, h.2⟩, fun h => ⟨h.1, h.2.2⟩⟩

/-- What an offer comes to when all runs have ended: it is settled, unless it was dropped while
others were under way and is not in use any more. -/
theorem Reaches.offer_isSettled_iff (hk : k.Sound) (h : Reaches (k.offer c) runs k')
    (hidle : k'.slot = .idle) :
    k'.IsSettled c ↔ ¬ (k.IsSettled c ∧ k.slot ≠ .idle ∧
      (k.used ≠ some c ∨ ∃ r ∈ runs, r.result = .accepted)) := by
  by_cases hs : k.IsSettled c
  · have hsame : k.offer c = k := if_pos hs
    rw [hsame] at h
    by_cases hslot : k.slot = .idle
    · cases h with
      | refl => exact iff_of_true hs fun hn => hn.2.1 hslot
      | run hr =>
        rw [hslot] at hr
        contradiction
    · have hc : ¬ k.IsPursued c := fun hp => hk.fresh c hp hs
      obtain ⟨d, hd⟩ : ∃ d, k.slot.newest? = some d := by
        cases hk : k.slot with
        | idle => exact absurd hk hslot
        | running d => exact ⟨d, rfl⟩
        | runningThen _ d => exact ⟨d, rfl⟩
      have hres : k'.resolved ≠ some c := by
        rw [h.resolved hidle hd]
        refine fun he => hc ?_
        obtain rfl := Option.some.inj he
        exact (Option.or_eq_some_iff.1 hd).elim .inr fun h => .inl h.2
      have hused : k'.IsSettled c ↔ k'.used = some c := or_iff_left hres
      rw [hused, h.used_iff hc]
      grind
  · refine iff_of_true (.inr (h.resolved hidle ?_)) fun hn => hs hn.1
    rw [show k.offer c = { k with slot := (k.slot.offer c).1 } from if_neg hs]
    show (k.slot.offer c).1.newest? = some c
    cases k.slot with
    | _ => grind [Slot.offer, Slot.current?, Slot.waiting?, Slot.newest?]

end Standing

/-! ## The offers of an instruction -/

theorem ConnectionOffers.nodup_toList (o : ConnectionOffers) : (o.toList.map (·.1)).Nodup := by
  have others : (o.others.entries.map fun e => ConnectionKind.other e.1).Nodup := by
    refine List.pairwise_map.2 (o.others.sorted.imp fun {a b} hlt he => ?_)
    exact String.lt_irrefl _ ((ConnectionKind.other.inj he) ▸ hlt)
  have hlist : o.toList.map (·.1) = o.management.toList.map (fun _ => .management)
      ++ o.metrics.toList.map (fun _ => .telemetry .metrics)
      ++ o.traces.toList.map (fun _ => .telemetry .traces)
      ++ o.logs.toList.map (fun _ => .telemetry .logs)
      ++ o.others.entries.map fun e => .other e.1 := by
    simp [toList, Function.comp_def]
  rw [hlist]
  cases o.management <;> cases o.metrics <;> cases o.traces <;> cases o.logs <;> simp [others]

namespace Session
variable {τ : Type} {s t u : Session τ} {id : Nat} {kind : ConnectionKind}

def offeredFor (s : Session τ) (kind : ConnectionKind) : List ConnectionSettings :=
  s.routed.filterMap (·.offer? kind)

def standing (s : Session τ) (kind : ConnectionKind) : Standing :=
  ⟨s.offerSlot kind, s.state.connection kind, s.state.connections.resolved.get? kind⟩

def DealsWith (s : Session τ) (kind : ConnectionKind) : Prop :=
  ∃ id settings stage, s.tasks.get? id = some (.connection kind settings stage)

theorem isSettled_standing {c : ConnectionSettings} :
    (s.standing kind).IsSettled c ↔ s.state.isSettled kind c = true := by
  unfold State.isSettled Connections.isSettled
  rw [Bool.or_eq_true, beq_iff_eq, beq_iff_eq]
  exact Iff.rfl

theorem Frame.standing_of {S : Scope} (h : Frame S s t) (hslot : ¬ S.may (.offers kind))
    (hcur : ¬ S.may (.state (.current kind))) (hres : ¬ S.may (.state (.resolved kind))) :
    t.standing kind = s.standing kind := by
  have hcur : t.state.connection kind = s.state.connection kind :=
    h.same (.state (.current kind)) hcur
  have hres : t.state.connections.resolved.get? kind = s.state.connections.resolved.get? kind :=
    h.same (.state (.resolved kind)) hres
  unfold standing
  rw [h.offerSlot_of hslot, hcur, hres]

theorem Frame.standing {S : Scope} (h : Frame S s t) (hS : S.SparesOffer kind) :
    t.standing kind = s.standing kind := h.standing_of hS.slot hS.current hS.resolved

theorem offeredFor_of_routed (h : t.routed = s.routed) :
    t.offeredFor kind = s.offeredFor kind := congrArg (List.filterMap _) h

theorem offeredFor_dispatch (s : Session τ) (i : Instruction) (kind : ConnectionKind) :
    (s.dispatch i).offeredFor kind = s.offeredFor kind ++ (i.offer? kind).toList := by
  unfold offeredFor
  rw [routed_dispatch, List.filterMap_append]
  refine congrArg (_ ++ ·) ?_
  rw [List.filterMap_cons]
  cases i.offer? kind with
  | none => rfl
  | some c => rfl

/-- What a task deals with is what runs in the slot. -/
theorem Orderly.current? (hs : s.Orderly) {settings : ConnectionSettings} {stage : OfferStage}
    (h : s.tasks.get? id = some (.connection kind settings stage)) :
    (s.offerSlot kind).current? = some settings :=
  ((hs.offers kind).only (view_offerRun h)).1

/-- Unless the session is stopping, something runs in the slot exactly when a task deals with it. -/
theorem Orderly.dealsWith_iff (hs : s.Orderly) (hgoing : s.isStopping = false) :
    s.DealsWith kind ↔ s.offerSlot kind ≠ .idle := by
  constructor
  · rintro ⟨id, settings, stage, h⟩ hidle
    have hc := hs.current? h
    rw [hidle] at hc
    contradiction
  · intro hslot
    cases hs.offers kind with
    | vacant hv => exact absurd (hv.resolve_right (by simp [hgoing])) hslot
    | busy id x _ ho =>
      have hview := ho id
      rw [if_pos rfl] at hview
      obtain ⟨stage, -, h⟩ := view_offerRun_eq_some.1 hview
      exact ⟨id, x.1, stage, h⟩

/-! ## The standing after a step -/

theorem standing_setOfferSlot (s : Session τ) (kind : ConnectionKind)
    (slot : Slot ConnectionSettings) :
    (s.setOfferSlot kind slot).standing kind = { s.standing kind with slot } := by
  unfold standing
  rw [offerSlot_setOfferSlot_self]
  rfl

theorem standing_dispatchOffer (s : Session τ) (kind : ConnectionKind)
    (offered : ConnectionSettings) :
    (s.dispatchOffer kind offered).standing kind =
      (s.standing kind).offer (s.state.connections.complete kind offered) := by
  unfold dispatchOffer Standing.offer
  dsimp only
  generalize s.state.connections.complete kind offered = c
  split
  · next hs => rw [if_pos (isSettled_standing.2 hs)]
  · next hs =>
    rw [if_neg (mt isSettled_standing.1 hs)]
    show _ = { s.standing kind with slot := ((s.offerSlot kind).offer c).1 }
    split
    · next slot heq =>
      rw [standing_setOfferSlot, heq]
    · next slot _ heq =>
      refine Eq.trans ?_ (standing_setOfferSlot s kind _)
      rw [heq]
      rfl

/-- Of the offers of an instruction one at most is for the kind. -/
theorem standing_foldl (kind : ConnectionKind) (l : List (ConnectionKind × ConnectionSettings))
    (hl : (l.map (·.1)).Nodup) (s : Session τ) :
    ((∀ c, (kind, c) ∉ l) → (l.foldl (fun s o => s.dispatchOffer o.1 o.2) s).standing kind =
      s.standing kind) ∧
    ∀ c, (kind, c) ∈ l → (l.foldl (fun s o => s.dispatchOffer o.1 o.2) s).standing kind =
      (s.standing kind).offer (s.state.connections.complete kind c) := by
  induction l generalizing s with
  | nil => exact ⟨fun _ => rfl, nofun⟩
  | cons o rest ih =>
    obtain ⟨k, d⟩ := o
    obtain ⟨hk, hrest⟩ := List.nodup_cons.1 hl
    obtain ⟨hnone, hsome⟩ := ih hrest (s.dispatchOffer k d)
    have hframe : Frame (.offer k) s (s.dispatchOffer k d) := frame_dispatchOffer s d
    have apart (hne : k ≠ kind) : (Scope.of (.connection k d .fresh)).SparesOffer kind :=
      Scope.sparesOffer_of (if_neg hne)
    refine ⟨fun hc => ?_, fun c hc => ?_⟩
    · have hne : k ≠ kind := fun he => hc d (List.mem_cons.2 (.inl (by rw [he])))
      refine (hnone fun c h => hc c (List.mem_cons_of_mem _ h)).trans ?_
      exact hframe.standing (apart hne)
    · rcases List.mem_cons.1 hc with he | hc
      · obtain ⟨rfl, rfl⟩ := Prod.mk.inj he
        refine (hnone fun c h => hk (List.mem_map.2 ⟨_, h, rfl⟩)).trans ?_
        exact standing_dispatchOffer s kind c
      · have hne : k ≠ kind := fun he => hk (List.mem_map.2 ⟨_, hc, he.symm⟩)
        rw [List.foldl_cons, hsome c hc, hframe.standing (apart hne)]
        rw [meaning_of_frame hframe (apart hne).current]

/-- The session goes on, one task deals with what is under way for the kind, and nothing of this is
settled. -/
structure Trying (s : Session τ) (kind : ConnectionKind) : Prop where
  orderly : s.Orderly
  going : s.isStopping = false
  sound : (s.standing kind).Sound

/-- The task hands the slot on, and runs what waits. -/
theorem standing_nextOffer (hgoing : s.isStopping = false)
    (hw : ∀ w, (s.offerSlot kind).waiting? = some w → s.state.isSettled kind w = false) :
    (s.nextOffer id kind).standing kind =
      { s.standing kind with slot := (s.offerSlot kind).finish.1 } := by
  rcases s.nextOffer_cases id kind with ⟨hstop, -⟩ | ⟨-, slot, next, hr, heq⟩
  · rw [hgoing] at hstop
    contradiction
  · rw [heq]
    have hslot : slot = (s.offerSlot kind).finish.1 := by
      unfold Slot.finish
      cases hr with
      | empty h => rw [h]
      | drop w h hs => exact absurd hs (by simp [hw w h])
      | take w h => rw [h]
    rw [← hslot, ← standing_setOfferSlot]
    cases next with
    | none => rfl
    | some c => rfl

theorem standing_conclude (s : Session τ) (id : Nat) (kind : ConnectionKind)
    (settings : ConnectionSettings) {e : OfferEnd} (he : e ≠ .cancelled) :
    { (s.conclude kind settings e).standing kind with slot := (s.offerSlot kind).finish.1 } =
      (s.standing kind).finish ⟨id, kind, settings, e⟩ := by
  have resolved (state : State) :
      (state.resolveOffer kind settings).connections.resolved.get? kind = some settings :=
    (Table.get?_insert ..).trans (if_pos rfl)
  cases e with
  | accepted =>
    have hstate : (s.conclude kind settings .accepted).state.connections =
        ((s.state.setConnection kind settings).resolveOffer kind settings).connections := by
      refine (congrArg State.connections (state_update _ _)).trans ?_
      show (s.update _).state.connections = _
      rw [state_update]
    unfold standing State.connection
    rw [hstate, resolved]
    refine congrArg (Standing.mk _ · _) ?_
    exact (Table.get?_insert ..).trans (if_pos rfl)
  | rejected error =>
    have hstate : (s.conclude kind settings (.rejected error)).state.connections =
        (s.state.resolveOffer kind settings).connections :=
      (congrArg State.connections (state_update s _)).trans rfl
    unfold standing State.connection
    rw [hstate, resolved]
    rfl
  | cancelled => exact absurd rfl he

/-- A task for the kind goes on. -/
theorem Trying.runOffer (hs : s.Trying kind) {settings : ConnectionSettings} {stage : OfferStage}
    (h : s.tasks.get? id = some (.connection kind settings stage)) (input : Input)
    (hkept : ∀ e, stage.end? kind s.loop input = some e → e ≠ .cancelled) :
    (s.standing kind).Reaches
      ((stage.end? kind s.loop input).map (⟨id, kind, settings, ·⟩ : _ → OfferRun)).toList
      ((s.runOffer id kind settings stage input).standing kind) := by
  have hcur := hs.orderly.current? h
  have hrun := runOffer_cases s id kind settings stage input
  generalize s.runOffer id kind settings stage input = t at hrun
  cases hrun with
  | stay he =>
    rw [he]
    exact .refl _
  | skip _ hset => exact absurd (isSettled_standing.2 hset) (hs.sound.fresh _ (.inl hcur))
  | ask hf =>
    subst hf
    exact .refl _
  | request _ he =>
    rw [he]
    have hsame : ((s.setTask id (.connection kind settings .requesting)).request
        ⟨id, settings⟩).standing kind = s.standing kind := by
      rcases request_eq (s.setTask id (.connection kind settings .requesting)) ⟨id, settings⟩ with
        heq | heq
      all_goals
        rw [heq]
        rfl
    rw [hsame]
    exact .refl _
  | conclude e he =>
    rw [he]
    have hframe := frame_conclude s kind settings e
    have hslot : (s.conclude kind settings e).offerSlot kind = s.offerSlot kind :=
      hframe.offerSlot_of (by simp [Scope.concluding])
    have hstop : (s.conclude kind settings e).isStopping = s.isStopping :=
      hframe.same .stopping (by simp [Scope.concluding])
    have hend := standing_conclude s id kind settings (hkept e he)
    have hsound := hs.sound.finish (r := ⟨id, kind, settings, e⟩) hcur
    refine .run hcur ?_
    rw [← hend, standing_nextOffer, hslot]
    · exact .refl _
    · exact hstop.trans hs.going
    · intro w hw
      rw [hslot] at hw
      refine Bool.eq_false_iff.2 fun hset => ?_
      refine hsound.fresh w (.inl ?_) ?_
      · show (s.offerSlot kind).finish.1.current? = some w
        rw [Slot.finish, hw]
        rfl
      · rw [← hend]
        exact isSettled_standing.2 hset

/-! ## A step of the session -/

/-- From `s` to `t` nothing is offered for the kind, and the runs end one after the other. -/
structure RunsFor (s t : Session τ) (kind : ConnectionKind) (runs : List OfferRun) : Prop where
  offered : t.offeredFor kind = s.offeredFor kind
  reaches : (s.standing kind).Reaches runs (t.standing kind)

structure OffersFor (s t : Session τ) (kind : ConnectionKind) (settings : ConnectionSettings) :
    Prop where
  offered : t.offeredFor kind = s.offeredFor kind ++ [settings]
  standing : t.standing kind =
    (s.standing kind).offer (s.state.connections.complete kind settings)

theorem RunsFor.refl (s : Session τ) (kind : ConnectionKind) : RunsFor s s kind [] :=
  ⟨rfl, .refl _⟩

theorem RunsFor.of_same (hr : t.routed = s.routed) (hs : t.standing kind = s.standing kind) :
    RunsFor s t kind [] := ⟨offeredFor_of_routed hr, hs ▸ .refl _⟩

theorem RunsFor.trans {runs later : List OfferRun} (h : RunsFor s t kind runs)
    (h' : RunsFor t u kind later) : RunsFor s u kind (runs ++ later) :=
  ⟨h'.offered.trans h.offered, h.reaches.trans h'.reaches⟩

theorem RunsFor.standing_eq (h : RunsFor s t kind []) : t.standing kind = s.standing kind := by
  have hr := h.reaches
  generalize t.standing kind = k at hr
  cases hr with
  | refl => rfl

theorem OffersFor.trans {settings : ConnectionSettings} (h : OffersFor s t kind settings)
    (h' : RunsFor t u kind []) : OffersFor s u kind settings :=
  ⟨h'.offered.trans h.offered, h'.standing_eq.trans h.standing⟩

theorem OffersFor.of_runs {settings : ConnectionSettings} (h : RunsFor s t kind [])
    (h' : OffersFor t u kind settings) : OffersFor s u kind settings := by
  have hcur : t.state.connection kind = s.state.connection kind :=
    congrArg Standing.used h.standing_eq
  refine ⟨h'.offered.trans (congrArg (· ++ _) h.offered), ?_⟩
  rw [h'.standing, h.standing_eq, complete_of_connection (.inl hcur)]

/-- Before something is offered for the kind, or nothing is, nothing is. -/
theorem RunsFor.then_offers (h : RunsFor s t kind [])
    (ht : RunsFor t u kind [] ∨ ∃ c, OffersFor t u kind c) :
    RunsFor s u kind [] ∨ ∃ c, OffersFor s u kind c :=
  ht.imp h.trans fun ⟨c, hc⟩ => ⟨c, hc.of_runs h⟩

/-- Of the parts of an instruction only its offers concern the kind. -/
theorem standing_dispatch (s : Session τ) (i : Instruction) (kind : ConnectionKind) :
    (s.dispatch i).standing kind = match i.offer? kind with
      | none => s.standing kind
      | some c => (s.standing kind).offer (s.state.connections.complete kind c) := by
  have part {α : Type} (p : Option α) (f : Session τ → α → Session τ)
      (hf : ∀ t a, (f t a).standing kind = t.standing kind) (t : Session τ) :
      (t.withPart p f).standing kind = t.standing kind := by
    cases p with
    | none => rfl
    | some a => exact hf t a
  have config (t : Session τ) (c : RemoteConfig) :
      (t.dispatchRemoteConfig c).standing kind = t.standing kind :=
    (frame_dispatchRemoteConfig t c).standing
      (Scope.sparesOffer_of (x := .remoteConfig c .fresh) rfl)
  have packages (t : Session τ) (p : PackagesAvailable) :
      (t.dispatchPackages p).standing kind = t.standing kind :=
    (frame_dispatchPackages t p).standing (Scope.sparesOffer_of (x := .packages p .fresh) rfl)
  have command (t : Session τ) (c : Command) :
      (t.dispatchCommand c).standing kind = t.standing kind :=
    (frame_dispatchCommand t c).standing (Scope.sparesOffer_of (x := .command c .fresh) rfl)
  unfold dispatch
  dsimp only
  rw [part _ _ command, part _ _ packages]
  have hfirst := part i.remoteConfig dispatchRemoteConfig config (s.emit (.routing i))
  generalize (s.emit (.routing i)).withPart i.remoteConfig dispatchRemoteConfig = t at hfirst ⊢
  have hfirst : t.standing kind = s.standing kind := hfirst
  have hcur : t.state.connection kind = s.state.connection kind := congrArg Standing.used hfirst
  unfold withPart
  split
  · next offers hi =>
    have hoffer (c : ConnectionSettings) :
        i.offer? kind = some c ↔ (kind, c) ∈ offers.toList := by
      unfold Instruction.offer?
      rw [hi, ConnectionOffers.mem_toList]
      rfl
    obtain ⟨hnone, hsome⟩ := standing_foldl kind offers.toList offers.nodup_toList t
    cases ho : i.offer? kind with
    | none =>
      refine (hnone fun c hc => ?_).trans hfirst
      rw [(hoffer c).2 hc] at ho
      contradiction
    | some c =>
      refine (hsome c ((hoffer c).1 ho)).trans ?_
      rw [hfirst, complete_of_connection (.inl hcur)]
  · next hi =>
    have ho : i.offer? kind = none := by
      unfold Instruction.offer?
      rw [hi]
      rfl
    rw [ho]
    exact hfirst

theorem dispatch_cases (s : Session τ) (i : Instruction) (kind : ConnectionKind) :
    RunsFor s (s.dispatch i) kind [] ∨ ∃ c, OffersFor s (s.dispatch i) kind c := by
  have hoffered := offeredFor_dispatch s i kind
  have hstanding := standing_dispatch s i kind
  cases ho : i.offer? kind with
  | none =>
    rw [ho] at hoffered hstanding
    refine .inl ⟨hoffered.trans (List.append_nil _), ?_⟩
    rw [show (s.dispatch i).standing kind = s.standing kind from hstanding]
    exact .refl _
  | some c =>
    rw [ho] at hoffered hstanding
    exact .inr ⟨c, hoffered, hstanding⟩

/-- The run of a task is one of the kind, or the task does not concern the kind. -/
theorem Trying.runTask (hs : s.Trying kind) (id : Nat) (input : Input)
    (hkept : ∀ r, (s.tasks.get? id).bind (Task.endedRun? id s.loop input) = some r →
      r.kind = kind → r.result ≠ .cancelled) :
    RunsFor s (s.runTask id input) kind
      (runsOf kind ((s.tasks.get? id).bind (Task.endedRun? id s.loop input)).toList) := by
  cases hx : s.tasks.get? id with
  | none =>
    rw [runTask_of_none hx]
    exact .refl s kind
  | some x =>
    rw [hx] at hkept
    have hframe := frame_runTask hx input
    have hrouted : ∀ i, ¬ (Scope.of x).logs (.routing i) := fun i hi => by
      cases x with
      | _ => exact hi
    have apart (hnone : x.offerRun? kind = none)
        (hend : runsOf kind (x.endedRun? id s.loop input).toList = []) :
        RunsFor s (s.runTask id input) kind
          (runsOf kind (x.endedRun? id s.loop input).toList) := by
      rw [hend]
      exact .of_same (hframe.routed hrouted) (hframe.standing (Scope.sparesOffer_of hnone))
    cases x with
    | connection k settings stage =>
      by_cases hk : k = kind
      · subst hk
        refine ⟨offeredFor_of_routed (hframe.routed hrouted), ?_⟩
        have hrun := hs.runOffer hx input fun e he => hkept ⟨id, k, settings, e⟩
          (congrArg (Option.map _) he) rfl
        rw [runTask_of_offer hx]
        refine cast (congrArg (Standing.Reaches _ · _) ?_) hrun
        show _ = runsOf k ((stage.end? k s.loop input).map _).toList
        cases stage.end? k s.loop input with
        | none => rfl
        | some e => exact (runsOf_self ⟨id, k, settings, e⟩).symm
      · refine apart (if_neg hk) ?_
        show runsOf kind ((stage.end? k s.loop input).map _).toList = []
        cases stage.end? k s.loop input with
        | none => rfl
        | some e => exact runsOf_of_ne hk
    | _ => exact apart rfl rfl

section Course
variable [Transport τ]

theorem Settles.runsFor {input : Input} (h : Settles s input t) (kind : ConnectionKind) :
    RunsFor s t kind [] := by
  refine .of_same (h.frame.routed fun _ h => h) (h.frame.standing_of ?_ ?_ ?_)
  all_goals simp [Scope.settling]

theorem Works.runsFor (h : Works s t) (kind : ConnectionKind) : RunsFor s t kind [] := by
  refine .of_same (h.frame.routed fun _ h => h) (h.frame.standing_of ?_ ?_ ?_)
  all_goals simp [Scope.work]

theorem Rests.runsFor (h : Rests s t) (kind : ConnectionKind) : RunsFor s t kind [] := by
  refine .of_same (h.frame.routed fun _ h => h) (h.frame.standing_of ?_ ?_ ?_)
  all_goals simp [Scope.rest]

/-- A go of the loop offers nothing for the kind, or routes an instruction that does. -/
theorem Goes.offers {i? : Option Instruction} (h : Goes i? s t) (kind : ConnectionKind) :
    (RunsFor s t kind [] ∨ ∃ c, OffersFor s t kind c) ∧ (i? = none → RunsFor s t kind []) := by
  induction h with
  | rest h =>
    have hruns := h.runsFor kind
    exact ⟨.inl hruns, fun _ => hruns⟩
  | work h _ ih =>
    have hruns := h.runsFor kind
    exact ⟨hruns.then_offers ih.1, fun hi => hruns.trans (ih.2 hi)⟩
  | @route s t i _ ih =>
    have hrest := ih.2 rfl
    refine ⟨?_, nofun⟩
    exact (dispatch_cases s i kind).imp (·.trans hrest) fun ⟨c, hc⟩ => ⟨c, hc.trans hrest⟩

theorem runLoop_offers (s : Session τ) (input : Input) (kind : ConnectionKind) :
    RunsFor s (s.runLoop input) kind [] ∨ ∃ c, OffersFor s (s.runLoop input) kind c := by
  rcases s.runLoop_cases input with ⟨-, heq⟩ | ⟨u, routed, hset, hgo⟩
  · rw [heq]
    exact .inl (.refl s kind)
  · exact (hset.runsFor kind).then_offers (hgo.offers kind).1

variable [Carrier τ]

/-- A step offers something for the kind, or ends the run that it says, if any. -/
inductive OfferMove (s : Session τ) (a : Action τ) (kind : ConnectionKind) : Prop
  | runs (h : RunsFor s (s.act a) kind (runsOf kind (a.offerRun? s).toList))
  | offers (c : ConnectionSettings) (hr : a.offerRun? s = none) (h : OffersFor s (s.act a) kind c)

theorem Trying.offerMove (hs : s.Trying kind) {a : Action τ} (hstop : a ≠ .stop)
    (hkept : ∀ r, a.offerRun? s = some r → r.kind = kind → r.result ≠ .cancelled) :
    OfferMove s a kind := by
  by_cases hc : a.isCall = true
  · have hframe := frame_act s a hc
    have hruns : RunsFor s (s.act a) kind [] := by
      refine .of_same (hframe.routed fun _ h => h) (hframe.standing_of ?_ ?_ ?_)
      all_goals simp [Scope.calls]
    refine .runs ?_
    cases a with
    | run => cases hc
    | _ => exact hruns
  · cases a with
    | run actor input =>
      cases actor with
      | loop =>
        rcases runLoop_offers s input kind with h | ⟨c, h⟩
        · exact .runs h
        · exact .offers c rfl h
      | task id => exact .runs (hs.runTask id input hkept)
    | use u => exact .runs (.of_same rfl rfl)
    | setInterval d => exact .runs (.of_same rfl rfl)
    | stop => exact absurd rfl hstop
    | _ => exact absurd rfl hc

theorem Trying.act (hs : s.Trying kind) {a : Action τ} (hstop : a ≠ .stop)
    (h : OfferMove s a kind) : (s.act a).Trying kind := by
  refine ⟨hs.orderly.act a, (isStopping_act s hstop).trans hs.going, ?_⟩
  cases h with
  | runs h => exact hs.sound.reaches h.reaches
  | offers c _ h =>
    rw [h.standing]
    exact hs.sound.offer _

/-- After the last offer for the kind, the runs end one after the other. -/
theorem Trying.after (hs : s.Trying kind) {actions : List (Action τ)}
    (hstop : Action.stop ∉ actions)
    (hkept : ∀ r ∈ s.offerRuns actions, r.kind = kind → r.result ≠ .cancelled) :
    (s.after actions).Trying kind ∧
      (RunsFor s (s.after actions) kind (runsOf kind (s.offerRuns actions)) ∨
        ∃ before a later c, actions = before ++ a :: later ∧ (s.after before).Trying kind ∧
          OffersFor (s.after before) ((s.after before).act a) kind c ∧
          RunsFor ((s.after before).act a) (s.after actions) kind
            (runsOf kind (((s.after before).act a).offerRuns later))) := by
  induction actions generalizing s with
  | nil => exact ⟨hs, .inl (.refl s kind)⟩
  | cons a rest ih =>
    have hmem (r : OfferRun) : r ∈ s.offerRuns (a :: rest) ↔
        a.offerRun? s = some r ∨ r ∈ (s.act a).offerRuns rest := by
      rw [offerRuns, List.mem_append, Option.mem_toList]
    have ha : a ≠ .stop := fun h => hstop (h ▸ List.mem_cons_self)
    have hmove := hs.offerMove ha fun r hr => hkept r ((hmem r).2 (.inl hr))
    have ht := hs.act ha hmove
    obtain ⟨hu, hlast⟩ := ih ht (fun h => hstop (List.mem_cons_of_mem _ h))
      fun r hr => hkept r ((hmem r).2 (.inr hr))
    refine ⟨hu, ?_⟩
    rcases hlast with hstill | ⟨before, b, later, c, rfl, hb, ho, hl⟩
    · cases hmove with
      | runs h =>
        refine .inl ?_
        rw [offerRuns, runsOf, List.filter_append]
        exact h.trans hstill
      | offers c _ h => exact .inr ⟨[], a, rest, c, rfl, hs, h, hstill⟩
    · exact .inr ⟨a :: before, b, later, c, rfl, hb, ho, hl⟩

/-- **Which of the offered connection settings wins.** Once no task tries settings of the kind, the
settings that were offered last for the kind are in use or were answered last, unless the offer came
in while others were being tried, was dropped because of what was in use or answered then, and was
not in use or was replaced in the end. -/
theorem newest_offer_wins_iff (transport : τ) (settings : StartSettings) (fresh : String)
    (actions : List (Action τ)) (kind : ConnectionKind) (hstop : Action.stop ∉ actions)
    (hkept : ∀ r ∈ (start transport settings fresh).offerRuns actions, r.kind = kind →
      r.result ≠ .cancelled)
    (hidle : ¬ ((start transport settings fresh).after actions).DealsWith kind)
    (offered : ConnectionSettings)
    (hlast : (((start transport settings fresh).after actions).offeredFor kind).getLast? =
      some offered) :
    ∃ before a later, actions = before ++ a :: later ∧
      let s := (start transport settings fresh).after before
      let t := (start transport settings fresh).after actions
      let newest := s.state.connections.complete kind offered
      (s.act a).offeredFor kind = s.offeredFor kind ++ [offered] ∧
        t.offeredFor kind = (s.act a).offeredFor kind ∧
        (t.state.isSettled kind newest = true ↔
          ¬ (s.state.isSettled kind newest = true ∧ s.DealsWith kind ∧
            (s.state.connection kind ≠ some newest ∨
              ∃ r ∈ (s.act a).offerRuns later, r.kind = kind ∧ r.result = .accepted))) := by
  have hs : (start transport settings fresh).Trying kind :=
    ⟨orderly_start transport settings fresh, rfl, Standing.sound_idle rfl⟩
  obtain ⟨ht, hmoved⟩ := hs.after hstop hkept
  rcases hmoved with hstill | ⟨before, a, later, c, rfl, hb, ho, hl⟩
  · rw [hstill.offered] at hlast
    exact absurd hlast nofun
  · have hc : c = offered := by
      rw [hl.offered, ho.offered, List.getLast?_concat] at hlast
      exact Option.some.inj hlast
    subst hc
    refine ⟨before, a, later, rfl, ho.offered, hl.offered, ?_⟩
    have hend := hl.reaches
    rw [ho.standing] at hend
    have hslot := Classical.not_not.1 (mt (ht.orderly.dealsWith_iff ht.going).2 hidle)
    have haccepted : (∃ r ∈ runsOf kind
        ((((start transport settings fresh).after before).act a).offerRuns later),
          r.result = .accepted) ↔
        ∃ r ∈ (((start transport settings fresh).after before).act a).offerRuns later,
          r.kind = kind ∧ r.result = .accepted := by
      simp [runsOf, List.mem_filter, and_assoc]
    rw [← isSettled_standing, hend.offer_isSettled_iff hb.sound hslot, isSettled_standing, haccepted,
      hb.orderly.dealsWith_iff hb.going]
    exact Iff.rfl

/-! ## An offer that is dropped -/

def metricsOffer (endpoint : String) : Instruction where
  connections := some { metrics := some { endpoint } }

/-- The settings of `a` are accepted, those of `b` are offered, and those of `a` again while the
agent tries them. -/
def backAndForth : List (Action Http.Sender) :=
  [.run .loop .look, .run .loop (.answered (.effective (.error .cancelled))),
    .run .loop (.exchanged (.ok (some (metricsOffer "http://a")))),
    .run (.task 0) .look, .run (.task 0) (.answered (.done (.ok ()))),
    .run .loop .look, .run .loop (.exchanged (.ok (some (metricsOffer "http://b")))),
    .run (.task 1) .look, .setTime 30000, .run .loop .look,
    .run .loop (.exchanged (.ok (some (metricsOffer "http://a")))),
    .run (.task 1) (.answered (.done (.ok ())))]

def metricsAgent : StartSettings := { serverUrl := "http://a" }

theorem stop_not_mem_backAndForth : Action.stop ∉ backAndForth := by simp [backAndForth]

theorem kept_backAndForth :
    ∀ r ∈ (start ({} : Http.Sender) metricsAgent "agent").offerRuns backAndForth,
      r.kind = .telemetry .metrics → r.result ≠ .cancelled := by decide

theorem over_backAndForth :
    ¬ ((start ({} : Http.Sender) metricsAgent "agent").after backAndForth).DealsWith
      (.telemetry .metrics) := fun ⟨_, _, _, h⟩ => nomatch h

theorem newest_offer_wins_iff_backAndForth :
    Action.stop ∉ backAndForth ∧ ∃ before a later, backAndForth = before ++ a :: later ∧
      let s := (start ({} : Http.Sender) metricsAgent "agent").after before
      let t := (start ({} : Http.Sender) metricsAgent "agent").after backAndForth
      let newest := s.state.connections.complete (.telemetry .metrics) { endpoint := "http://a" }
      (s.act a).offeredFor (.telemetry .metrics) =
          s.offeredFor (.telemetry .metrics) ++ [{ endpoint := "http://a" }] ∧
        t.offeredFor (.telemetry .metrics) = (s.act a).offeredFor (.telemetry .metrics) ∧
        (t.state.isSettled (.telemetry .metrics) newest = true ↔
          ¬ (s.state.isSettled (.telemetry .metrics) newest = true ∧
            s.DealsWith (.telemetry .metrics) ∧
            (s.state.connection (.telemetry .metrics) ≠ some newest ∨
              ∃ r ∈ (s.act a).offerRuns later,
                r.kind = .telemetry .metrics ∧ r.result = .accepted))) :=
  ⟨stop_not_mem_backAndForth,
    newest_offer_wins_iff ({} : Http.Sender) metricsAgent "agent" backAndForth (.telemetry .metrics)
      stop_not_mem_backAndForth kept_backAndForth over_backAndForth { endpoint := "http://a" }
      (by decide)⟩

/-- The settings of `a` are the last ones offered, and those of `b` are in use and answered last. -/
theorem dropped_offer_loses :
    let t := (start ({} : Http.Sender) metricsAgent "agent").after backAndForth
    Action.stop ∉ backAndForth ∧
      (∀ r ∈ (start ({} : Http.Sender) metricsAgent "agent").offerRuns backAndForth,
        r.kind = .telemetry .metrics → r.result ≠ .cancelled) ∧
      ¬ t.DealsWith (.telemetry .metrics) ∧
      (t.offeredFor (.telemetry .metrics)).getLast? = some { endpoint := "http://a" } ∧
      t.state.connection (.telemetry .metrics) = some { endpoint := "http://b" } ∧
      t.state.connections.resolved.get? (.telemetry .metrics) = some { endpoint := "http://b" } :=
  ⟨stop_not_mem_backAndForth, kept_backAndForth, over_backAndForth, by decide, by decide,
    by decide⟩

end Course

end Session

end ManagedAgent
