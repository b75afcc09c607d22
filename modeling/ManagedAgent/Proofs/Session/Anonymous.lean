import ManagedAgent.Proofs.Session.Repetition

/-!
# A session without the identities that instructions name

`anonymous` takes out of a session's history every trace of an identification: it leaves the calls
about identities out, and the identities out of the instructions that were routed. Neither routing
nor what the loop does after it looks at the history or at where the loop was, so that both can be
followed in the anonymous session.

* `dispatch_seen`, `resume_seen` : routing and going on, in the anonymous session;
* `uid_resume` : the loop goes on with the identity that it has;
* `process_anonymous`, `runLoop_anonymous` : an instruction that names an identity for which the loop
  does not ask is dealt with as if it named none;
* `reject_anonymous` : so is one whose identity the agent rejects.
-/

set_option autoImplicit false

namespace ManagedAgent

def Instruction.anonymous (i : Instruction) : Instruction := { i with identification := none }

@[simp] theorem Instruction.unavailable?_anonymous (i : Instruction) :
    i.anonymous.unavailable? = i.unavailable? := rfl

def Event.anonymous? : Event → Option Event
  | .called _ (.identify _) => none
  | .routing i => some (.routing i.anonymous)
  | e => some e

def Input.instruction? : Input → Option Instruction
  | .exchanged (.ok i) | .received (.ok i) => i
  | _ => none

def Input.anonymous : Input → Input
  | .exchanged r => .exchanged (r.map (Option.map Instruction.anonymous))
  | .received r => .received (r.map (Option.map Instruction.anonymous))
  | input => input

theorem Input.anonymous_of_none {input : Input} (h : input.instruction? = none) :
    input.anonymous = input := by
  cases input with
  | exchanged r | received r =>
    cases r with
    | ok i? =>
      obtain rfl : i? = none := h
      rfl
    | error e => rfl
  | _ => rfl

namespace Session
variable {τ : Type} {s t : Session τ} {l : Loop}

/-- The session without a trace of identifications, seen with the loop at `l`. -/
def seen (s : Session τ) (l : Loop) : Session τ :=
  { s with loop := l, history := s.history.filterMap Event.anonymous? }

section
variable (s : Session τ) (l : Loop)

@[simp] theorem seen_state : (s.seen l).state = s.state := rfl

@[simp] theorem seen_tasks : (s.seen l).tasks = s.tasks := rfl

@[simp] theorem seen_remoteConfig : (s.seen l).remoteConfig = s.remoteConfig := rfl

@[simp] theorem seen_offerSlot (kind : ConnectionKind) :
    (s.seen l).offerSlot kind = s.offerSlot kind := rfl

@[simp] theorem seen_requests : (s.seen l).requests = s.requests := rfl

@[simp] theorem seen_now : (s.seen l).now = s.now := rfl

@[simp] theorem seen_isStopping : (s.seen l).isStopping = s.isStopping := rfl

end

def anonymous (s : Session τ) : Session τ := s.seen s.loop

theorem anonymous_of_loop (h : s.loop = l) : s.anonymous = s.seen l := by
  unfold anonymous
  rw [h]

/-! ## Single steps -/

theorem emit_seen (s : Session τ) (l : Loop) {e : Event} (he : e.anonymous? = some e) :
    (s.seen l).emit e = (s.emit e).seen l := by
  unfold seen emit
  dsimp only
  rw [List.filterMap_append, List.filterMap_cons, he]
  rfl

theorem emit_routing_seen (s : Session τ) (l : Loop) (i : Instruction) :
    (s.seen l).emit (.routing i.anonymous) = (s.emit (.routing i)).seen l := by
  unfold seen emit
  dsimp only
  rw [List.filterMap_append]
  rfl

/-- A call about an identity leaves no trace. -/
theorem call_identify_seen (s : Session τ) (l : Loop) (a : Actor) (uid : String) :
    (s.call a (.identify uid)).seen l = s.seen l := by
  unfold seen call emit
  dsimp only
  rw [List.filterMap_append]
  exact congrArg (fun h => { s with loop := l, history := h }) (List.append_nil _)

theorem spawn_seen (s : Session τ) (l : Loop) (x : Task) :
    (s.seen l).spawn x = (s.spawn x).seen l :=
  emit_seen { s with tasks := s.tasks.insert s.nextTask x, nextTask := s.nextTask + 1 } l rfl

theorem reply_seen (s : Session τ) (l : Loop) (task : Nat) (r : Except TransportError Unit) :
    (s.seen l).reply task r = (s.reply task r).seen l := by
  unfold reply
  rw [seen_tasks]
  split
  · next kind settings _ =>
    exact emit_seen (e := .ready (.task task))
      (s.setTask task (.connection kind settings (.replied r))) l rfl
  · rfl

theorem withPart_seen {α : Type} {f : Session τ → α → Session τ}
    (h : ∀ s a, f (s.seen l) a = (f s a).seen l) (s : Session τ) (part : Option α) :
    (s.seen l).withPart part f = (s.withPart part f).seen l := by
  cases part with
  | none => rfl
  | some a => exact h s a

/-! ## Routing -/

theorem dispatchRemoteConfig_seen (s : Session τ) (l : Loop) (config : RemoteConfig) :
    (s.seen l).dispatchRemoteConfig config = (s.dispatchRemoteConfig config).seen l := by
  unfold dispatchRemoteConfig
  rw [seen_state, seen_remoteConfig]
  dsimp only
  split
  · rfl
  · generalize s.remoteConfig.offer config.withHash = offer
    obtain ⟨slot, start⟩ := offer
    cases start with
    | none => rfl
    | some c => exact spawn_seen { s with remoteConfig := slot } l (.remoteConfig c .fresh)

theorem dispatchOffer_seen (s : Session τ) (l : Loop) (kind : ConnectionKind)
    (settings : ConnectionSettings) :
    (s.seen l).dispatchOffer kind settings = (s.dispatchOffer kind settings).seen l := by
  unfold dispatchOffer
  rw [seen_state, seen_offerSlot]
  dsimp only
  split
  · rfl
  · generalize (s.offerSlot kind).offer (s.state.connections.complete kind settings) = offer
    obtain ⟨slot, start⟩ := offer
    cases start with
    | none => rfl
    | some c => exact spawn_seen (s.setOfferSlot kind slot) l (.connection kind c .fresh)

theorem dispatchPackages_seen (s : Session τ) (l : Loop) (packages : PackagesAvailable) :
    (s.seen l).dispatchPackages packages = (s.dispatchPackages packages).seen l := by
  unfold dispatchPackages
  rw [seen_state]
  generalize s.state.beginSync packages.allHash = claim
  obtain ⟨isNew, state⟩ := claim
  cases isNew with
  | false => rfl
  | true => exact spawn_seen { s with state } l (.packages packages .fresh)

theorem foldl_dispatchOffer_seen (s : Session τ) (l : Loop)
    (offers : List (ConnectionKind × ConnectionSettings)) :
    offers.foldl (fun s o => s.dispatchOffer o.1 o.2) (s.seen l) =
      (offers.foldl (fun s o => s.dispatchOffer o.1 o.2) s).seen l := by
  induction offers generalizing s with
  | nil => rfl
  | cons o rest ih => rw [List.foldl_cons, List.foldl_cons, dispatchOffer_seen, ih]

/-- An instruction is routed as it is without its identification. -/
theorem dispatch_seen (s : Session τ) (l : Loop) (i : Instruction) :
    (s.seen l).dispatch i.anonymous = (s.dispatch i).seen l := by
  unfold dispatch
  dsimp only
  rw [emit_routing_seen]
  show (((((s.emit (.routing i)).seen l).withPart i.remoteConfig _).withPart
    i.connections _).withPart i.packages _).withPart i.command _ = _
  rw [withPart_seen fun s c => dispatchRemoteConfig_seen s l c,
    withPart_seen fun s (offers : ConnectionOffers) => foldl_dispatchOffer_seen s l offers.toList,
    withPart_seen fun s p => dispatchPackages_seen s l p,
    withPart_seen fun s c => spawn_seen s l (.command c .fresh)]

/-! ## The loop goes on -/

theorem endLoop_seen (s : Session τ) (l : Loop) : (s.seen l).endLoop = s.endLoop.anonymous := by
  have replies (rs : List ReconnectRequest) (t : Session τ) :
      rs.foldl (fun s r => s.reply r.task (.error .closed)) (t.seen .ended) =
        (rs.foldl (fun s r => s.reply r.task (.error .closed)) t).seen .ended := by
    induction rs generalizing t with
    | nil => rfl
    | cons r rest ih => rw [List.foldl_cons, List.foldl_cons, reply_seen, ih]
  rw [anonymous_of_loop (loop_endLoop s)]
  unfold endLoop
  rw [← emit_seen _ _ rfl, ← replies]
  rfl

/-- A report is sent. -/
theorem report_seen (s : Session τ) (l l' : Loop) {e : Event} (he : e.anonymous? = some e) :
    { (s.seen l).nextReport.2 with loop := l' }.emit e =
      ({ s.nextReport.2 with loop := l' }.emit e).anonymous :=
  emit_seen { s.nextReport.2 with loop := l' } l' he

theorem receive_seen (s : Session τ) (l : Loop) (retry : Duration) :
    (s.seen l).receive retry = (s.receive retry).anonymous :=
  emit_seen (setWakeup { s with loop := .receiving retry } Wakeup.wait) (.receiving retry)
    (e := .receiving) rfl

variable [Transport τ]

theorem applySettings_seen (s : Session τ) (l : Loop) (settings : ConnectionSettings) :
    (s.seen l).applySettings settings =
      ((s.applySettings settings).1, (s.applySettings settings).2.seen l) :=
  Prod.ext rfl (emit_seen (e := .applied settings)
    { s with transport := (Transport.apply s.transport settings).2 } l rfl)

/-- The settings of the next request are applied. -/
theorem applySettings_next_seen (s : Session τ) (l : Loop) (r : ReconnectRequest)
    (rest : List ReconnectRequest) :
    (setWakeup { s.seen l with requests := rest } Wakeup.leave).applySettings r.settings =
      (((setWakeup { s with requests := rest } Wakeup.leave).applySettings r.settings).1,
        ((setWakeup { s with requests := rest } Wakeup.leave).applySettings r.settings).2.seen l) :=
  applySettings_seen (setWakeup { s with requests := rest } Wakeup.leave) l r.settings

omit [Transport τ] in
theorem awaitPoll_seen (s : Session τ) (l : Loop) (deadline : Nat) :
    (s.seen l).awaitPoll deadline = (s.awaitPoll deadline).anonymous := by
  unfold awaitPoll
  rw [seen_state, seen_now]
  split
  · exact report_seen (s.setWakeup Wakeup.take) l _ rfl
  · split
    · exact report_seen (s.setWakeup Wakeup.leave) l _ rfl
    · rfl

theorem serveRequests_seen (l : Loop) (deadline : Nat) (rs : List ReconnectRequest)
    (s : Session τ) :
    serveRequests deadline rs (s.seen l) = (serveRequests deadline rs s).anonymous := by
  induction rs generalizing s with
  | nil => exact awaitPoll_seen s l deadline
  | cons r rest ih =>
    unfold serveRequests
    dsimp only
    rw [applySettings_next_seen]
    generalize (setWakeup { s with requests := rest } Wakeup.leave).applySettings r.settings = x
    obtain ⟨result, t⟩ := x
    cases result with
    | error e =>
      dsimp only
      rw [reply_seen]
      exact ih _
    | ok previous => exact report_seen t l (.verifying r.task previous _ deadline) rfl

theorem wait_seen (s : Session τ) (l : Loop) (deadline : Nat) :
    (s.seen l).wait deadline = (s.wait deadline).anonymous := by
  unfold wait
  rw [seen_isStopping]
  split
  · exact endLoop_seen s l
  · exact serveRequests_seen l deadline s.requests s

theorem attend_seen (l : Loop) (retry : Duration) (turns : Nat) (mayReport : Bool)
    (s : Session τ) :
    attend retry turns mayReport (s.seen l) = (attend retry turns mayReport s).anonymous := by
  induction turns generalizing s mayReport with
  | zero =>
    unfold attend
    rw [seen_state, seen_isStopping]
    split
    · exact report_seen s l (.sending _ retry) rfl
    · split
      · exact endLoop_seen s l
      · exact receive_seen s l retry
  | succ turns ih =>
    unfold attend
    rw [congrArg State.hasPendingChanges (seen_state s l), seen_isStopping, seen_requests]
    split
    · exact report_seen s l (.sending _ retry) rfl
    · split
      · exact endLoop_seen s l
      · cases s.requests with
        | nil =>
          dsimp only
          rw [congrArg State.wakeup (seen_state s l)]
          split
          · exact ih true (s.setWakeup Wakeup.take)
          · exact receive_seen s l retry
        | cons r rest =>
          dsimp only
          rw [applySettings_next_seen]
          generalize
            (setWakeup { s with requests := rest } Wakeup.leave).applySettings r.settings = x
          obtain ⟨result, t⟩ := x
          cases result with
          | error e =>
            dsimp only
            rw [reply_seen]
            exact ih true _
          | ok previous =>
            exact emit_seen (e := .connecting)
              { t with loop := .switching r.task previous retry }
              (.switching r.task previous retry) rfl

/-- The loop goes on in the same way, wherever it was and whatever was identified before. -/
theorem resume_seen (s : Session τ) (l : Loop) (r : Resume) :
    (s.seen l).resume r = (s.resume r).anonymous := by
  cases r with
  | scheduled => exact wait_seen s l _
  | verified deadline => exact wait_seen s l deadline
  | stream retry => exact attend_seen l retry s.turns true s

/-- The loop goes on with the identity that it has. -/
theorem uid_resume (s : Session τ) (r : Resume) : (s.resume r).state.uid = s.state.uid := by
  have hseen : ((s.seen .fresh).resume r).state.uid = (s.resume r).state.uid :=
    congrArg (fun u => u.state.uid) (resume_seen s .fresh r)
  -- Seen from the start, the loop has asked for no identity that it could take.
  rcases (goes_resume (s.seen .fresh) r).renames.2 with h | ⟨i, h⟩
  · exact hseen.symm.trans h
  · contradiction

/-- An instruction is routed, and the loop goes on. -/
theorem resume_dispatch_anonymous (s : Session τ) (i : Instruction) (r : Resume) :
    ((s.dispatch i).resume r).anonymous = ((s.dispatch i.anonymous).resume r).anonymous := by
  rw [← resume_seen _ s.loop, ← resume_seen _ s.loop, ← dispatch_seen, ← dispatch_seen]
  rfl

/-! ## Instructions -/

/-- What the agent is told and what is asked for come first. -/
theorem process_eq (s : Session τ) (i : Instruction) (r : Resume) :
    s.process i r = match i.identification with
      | some ⟨uid⟩ =>
        if uid = "" ∨ uid = s.state.uid then ((s.heed i).dispatch i).resume r
        else ({ s.heed i with loop := .identifying uid i r } : Session τ).call .loop (.identify uid)
      | none => ((s.heed i).dispatch i).resume r := by
  have huid : (s.heed i).state.uid = s.state.uid := by
    rw [state_heed]
    split <;> rfl
  have hheed : s.heed i =
      if i.fullState then
        (s.withPart i.error fun s e => s.tell (.serverError e)).update State.requestFullState
      else s.withPart i.error fun s e => s.tell (.serverError e) := by
    rw [update_requestFullState]
    rfl
  unfold process
  dsimp only
  rewrite [← hheed, ← huid]
  rfl

theorem process_of_known {i : Instruction}
    (h : ∀ uid, i.identification = some ⟨uid⟩ → uid = "" ∨ uid = s.state.uid) (r : Resume) :
    s.process i r = ((s.heed i).dispatch i).resume r := by
  rw [process_eq]
  split
  · next uid hi => rw [if_pos (h uid hi)]
  · rfl

theorem process_of_new {i : Instruction} {uid : String} (hi : i.identification = some ⟨uid⟩)
    (hu : uid ≠ "") (hn : uid ≠ s.state.uid) (r : Resume) :
    s.process i r =
      ({ s.heed i with loop := .identifying uid i r } : Session τ).call .loop (.identify uid) := by
  rw [process_eq, hi]
  exact if_neg (not_or.2 ⟨hu, hn⟩)

/-- An instruction that asks for no other identity is dealt with as without an identification. -/
theorem process_anonymous {i : Instruction}
    (h : ∀ uid, i.identification = some ⟨uid⟩ → uid = "" ∨ uid = s.state.uid) (r : Resume) :
    (s.process i r).anonymous = (s.process i.anonymous r).anonymous := by
  rw [process_of_known h, process_of_known (i := i.anonymous) (fun _ h => nomatch h)]
  exact resume_dispatch_anonymous (s.heed i) i r

/-- So is one whose identity the agent rejects. -/
theorem reject_anonymous {i : Instruction} {uid : String} (hi : i.identification = some ⟨uid⟩)
    (hu : uid ≠ "") (hn : uid ≠ s.state.uid) (r : Resume) (e : CallbackError) :
    ((s.process i r).runLoop (.answered (.done (.error e)))).anonymous =
      (s.process i.anonymous r).anonymous := by
  rw [process_of_new hi hu hn, process_of_known (i := i.anonymous) (fun _ h => nomatch h)]
  generalize ht : ({ s.heed i with loop := .identifying uid i r } : Session τ) = t
  have hseen : (t.call .loop (.identify uid)).seen s.loop = (s.heed i).seen s.loop := by
    rw [call_identify_seen, ← ht]
    rfl
  have hrun : (t.call .loop (.identify uid)).runLoop (.answered (.done (.error e))) =
      ((t.call .loop (.identify uid)).dispatch i).resume r := by
    rw [← ht]
    rfl
  rw [hrun, ← resume_seen _ s.loop, ← dispatch_seen, hseen, dispatch_seen, resume_seen]
  exact resume_dispatch_anonymous (s.heed i) i r

/-- `t` and `t'` come from `s` with the same instruction, named and anonymous: they are the same,
unless the instruction is processed on the way. -/
def Processes (s : Session τ) (i : Instruction) (t t' : Session τ) : Prop :=
  t' = t ∨ ∃ (u : Session τ) (r : Resume),
    u.state.uid = s.state.uid ∧ t = u.process i r ∧ t' = u.process i.anonymous r

omit [Transport τ] in
theorem uid_markConnected (s : Session τ) : s.markConnected.state.uid = s.state.uid := by
  unfold markConnected
  split <;> rfl

omit [Transport τ] in
theorem uid_delivered (s : Session τ) (number : UInt64) :
    (s.delivered number).state.uid = s.state.uid := by
  have hframe : Frame .nameless s (s.update (·.delivered number)) :=
    .update s _ (.delivered _ number nofun) trivial
  exact (uid_markConnected _).trans (hframe.same (.state .uid) fun h => h rfl)

theorem processes_exchanged (s : Session τ) (number : UInt64) (i : Instruction) :
    s.Processes i (s.exchanged number (.ok (some i)))
      (s.exchanged number (.ok (some i.anonymous))) := by
  unfold exchanged
  dsimp only [Option.bind_some]
  rw [Instruction.unavailable?_anonymous]
  cases i.unavailable? with
  | none => exact .inr ⟨s.delivered number, .scheduled, uid_delivered s number, rfl, rfl⟩
  | some e => exact .inl rfl

theorem processes_verified (s : Session τ) (task : Nat) (previous : ConnectionSettings)
    (number : UInt64) (deadline : Nat) (i : Instruction) :
    s.Processes i (s.verified task previous number deadline (.ok (some i)))
      (s.verified task previous number deadline (.ok (some i.anonymous))) := by
  unfold verified
  dsimp only [Option.bind_some]
  rw [Instruction.unavailable?_anonymous]
  cases i.unavailable? with
  | none =>
    refine .inr ⟨(s.reply task (.ok ())).delivered number, .verified deadline, ?_, rfl, rfl⟩
    rw [uid_delivered, reply_state]
  | some e => exact .inl rfl

theorem processes_received (s : Session τ) (retry : Duration) (i : Instruction) :
    s.Processes i (s.received retry (.ok (some i)))
      (s.received retry (.ok (some i.anonymous))) := by
  unfold received
  dsimp only
  rw [Instruction.unavailable?_anonymous]
  cases i.unavailable? with
  | none => exact .inr ⟨s.markConnected, .stream retry, uid_markConnected s, rfl, rfl⟩
  | some e => exact .inl rfl

/-- The loop does not look at the identification before it deals with the instruction. -/
theorem processes_runLoop (s : Session τ) {input : Input} {i : Instruction}
    (h : input.instruction? = some i) :
    s.Processes i (s.runLoop input) (s.runLoop input.anonymous) := by
  unfold Input.instruction? at h
  split at h
  · obtain rfl : _ = some i := h
    unfold runLoop
    cases s.loop with
    | exchanging number => exact processes_exchanged s number i
    | verifying task previous number deadline =>
      exact processes_verified s task previous number deadline i
    | _ => exact .inl rfl
  · obtain rfl : _ = some i := h
    unfold runLoop
    cases s.loop with
    | receiving retry =>
      dsimp only [Input.anonymous, Except.map, Option.map]
      split
      · exact .inl rfl
      · exact processes_received (s.setWakeup Wakeup.leave) retry i
    | _ => exact .inl rfl
  · contradiction

/-- The loop deals with an instruction that asks for no other identity as without an
identification. -/
theorem runLoop_anonymous {input : Input}
    (h : ∀ i uid, input.instruction? = some i → i.identification = some ⟨uid⟩ →
      uid = "" ∨ uid = s.state.uid) :
    (s.runLoop input).anonymous = (s.runLoop input.anonymous).anonymous := by
  cases hi : input.instruction? with
  | none => rw [Input.anonymous_of_none hi]
  | some i =>
    rcases processes_runLoop s hi with heq | ⟨u, r, hu, heq, heq'⟩
    · rw [heq]
    · rw [heq, heq']
      exact process_anonymous (fun uid hid => hu ▸ h i uid hi hid) r

end Session

end ManagedAgent
