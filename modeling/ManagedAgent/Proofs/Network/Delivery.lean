import ManagedAgent.Proofs.Network.Traffic
import Mathlib.Data.List.Perm.Subperm

/-!
# What is sent on a connection comes out of it, once and in order

The network has queues of three sorts (`Lane`): the reports of a connection, its instructions, and
the connections that wait at a listener. A change of the network puts one thing into one queue,
takes the first thing out of one, or does nothing to a queue but close it (`Lane.Moves`).

* `Fifo` : the history of one queue; what came out is the front of what went in, and nothing is lost
  while the queue is open;
* `Faithful` : this of all queues, and which connections and listeners the events speak of;
* `faithful_after` : so it is after any operations;
* `network_is_faithful` : the theorem, with what becomes of a connect and of other settings.
-/

set_option autoImplicit false

namespace ManagedAgent.Network

variable {α : Type}

/-! ## The history of one queue -/

/-- What went into a queue has come out or waits, in order. The last of it may be lost, once the
queue is closed. -/
def Fifo (sent got waiting : List α) (isOpen : Bool) : Prop :=
  ∃ lost, sent = got ++ waiting ++ lost ∧ (isOpen = true → lost = [])

namespace Fifo

variable {sent got waiting : List α} {isOpen : Bool}

theorem nil : Fifo ([] : List α) [] [] true := ⟨[], rfl, fun _ => rfl⟩

theorem eq_append (h : Fifo sent got waiting true) : sent = got ++ waiting := by
  obtain ⟨lost, hs, hl⟩ := h
  rwa [hl rfl, List.append_nil] at hs

theorem isPrefix (h : Fifo sent got waiting isOpen) : got <+: sent := by
  obtain ⟨lost, hs, -⟩ := h
  exact ⟨waiting ++ lost, by rw [hs, List.append_assoc]⟩

theorem put (h : Fifo sent got waiting true) (a : α) :
    Fifo (sent ++ [a]) got (waiting ++ [a]) true :=
  ⟨[], by rw [h.eq_append, List.append_nil, List.append_assoc], fun _ => rfl⟩

theorem get {a : α} (h : Fifo sent got (a :: waiting) isOpen) :
    Fifo sent (got ++ [a]) waiting isOpen := by
  obtain ⟨lost, hs, hl⟩ := h
  exact ⟨lost, by rw [hs, List.append_assoc got [a], List.singleton_append], hl⟩

theorem close (h : Fifo sent got waiting isOpen) : Fifo sent got [] false := by
  obtain ⟨lost, hs, -⟩ := h
  exact ⟨waiting ++ lost, by rw [hs, List.append_nil, List.append_assoc], nofun⟩

end Fifo

/-! ## What events say -/

def collect {κ : Type} [DecidableEq κ] (f : Event → Option (κ × α)) (key : κ)
    (events : List Event) : List α :=
  events.filterMap fun e => (f e).bind fun found => if found.1 = key then some found.2 else none

theorem filterMap_toList (f : Event → Option α) (e? : Option Event) :
    e?.toList.filterMap f = (e?.bind f).toList := by
  cases e? with
  | none => rfl
  | some e => cases h : f e <;> simp [h]

section
variable {κ : Type} [DecidableEq κ] {f : Event → Option (κ × α)} {events : List Event}
  {e? : Option Event}

theorem collect_append (f : Event → Option (κ × α)) (key : κ) (first others : List Event) :
    collect f key (first ++ others) = collect f key first ++ collect f key others :=
  List.filterMap_append

theorem collect_of_none (h : e?.bind f = none) (key : κ) :
    collect f key (events ++ e?.toList) = collect f key events := by
  have hnone : collect f key e?.toList = [] := by
    unfold collect
    rw [filterMap_toList]
    cases e? with
    | none => rfl
    | some e => rw [Option.bind_some, show f e = none from h]; rfl
  rw [collect_append, hnone, List.append_nil]

theorem collect_of_some {key : κ} {a : α} (h : e?.bind f = some (key, a)) (other : κ) :
    collect f other (events ++ e?.toList) =
      if other = key then collect f key events ++ [a] else collect f other events := by
  have hsome : collect f other e?.toList = if key = other then [a] else [] := by
    unfold collect
    rw [filterMap_toList]
    cases e? with
    | none => contradiction
    | some e =>
      rw [Option.bind_some, show f e = some (key, a) from h, Option.bind_some]
      split <;> rfl
  rw [collect_append, hsome]
  by_cases hkey : other = key
  · rw [if_pos hkey, if_pos hkey.symm, hkey]
  · rw [if_neg hkey, if_neg (Ne.symm hkey), List.append_nil]

end

/-- What is collected for one key is what is found with that key. -/
theorem count_collect [DecidableEq α] {κ : Type} [DecidableEq κ] (f : Event → Option (κ × α))
    (key : κ) (a : α) (events : List Event) :
    (events.filterMap f).count (key, a) = (collect f key events).count a := by
  induction events with
  | nil => rfl
  | cons e rest ih =>
    unfold collect at ih ⊢
    rw [List.filterMap_cons, List.filterMap_cons]
    cases f e with
    | none => exact ih
    | some found =>
      obtain ⟨k, b⟩ := found
      dsimp only [Option.bind_some]
      rw [List.count_cons, ih]
      by_cases hk : k = key
      · rw [if_pos hk, hk]
        dsimp only
        rw [List.count_cons]
        simp
      · rw [if_neg hk]
        simp [hk]

/-! ## Lanes -/

/-- Queues of one sort, each with a number. -/
structure Lane (α : Type) where
  put? : Event → Option (Nat × α)
  got? : Event → Option (Nat × α)
  waiting : Network → Nat → List α
  isOpen : Network → Nat → Bool

namespace Lane

variable {w : Lane α} {n m : Network} {events : List Event} {e? : Option Event}

def sent (w : Lane α) (id : Nat) (events : List Event) : List α := collect w.put? id events

def got (w : Lane α) (id : Nat) (events : List Event) : List α := collect w.got? id events

def Faithful (w : Lane α) (events : List Event) (n : Network) : Prop :=
  ∀ id, Fifo (w.sent id events) (w.got id events) (w.waiting n id) (w.isOpen n id)

/-- What one event can mean for the queues of a lane. -/
inductive Moves (w : Lane α) (n : Network) (e? : Option Event) (m : Network) : Prop
  | rests (hput : e?.bind w.put? = none) (hgot : e?.bind w.got? = none)
      (hm : ∀ id, w.waiting m id = w.waiting n id ∧ w.isOpen m id = w.isOpen n id ∨
        w.waiting m id = [] ∧ w.isOpen m id = false)
  | puts (id : Nat) (a : α) (hput : e?.bind w.put? = some (id, a)) (hgot : e?.bind w.got? = none)
      (hn : w.isOpen n id = true) (hopen : ∀ j, w.isOpen m j = w.isOpen n j)
      (hm : ∀ j, w.waiting m j = if j = id then w.waiting n id ++ [a] else w.waiting n j)
  | gets (id : Nat) (a : α) (rest : List α) (hput : e?.bind w.put? = none)
      (hgot : e?.bind w.got? = some (id, a)) (hn : w.waiting n id = a :: rest)
      (hopen : ∀ j, w.isOpen m j = w.isOpen n j)
      (hm : ∀ j, w.waiting m j = if j = id then rest else w.waiting n j)

theorem Faithful.moves (h : w.Faithful events n) (hm : w.Moves n e? m) :
    w.Faithful (events ++ e?.toList) m := by
  intro id
  unfold sent got
  cases hm with
  | rests hput hgot hm =>
    rw [collect_of_none hput, collect_of_none hgot]
    rcases hm id with ⟨hwaiting, hopen⟩ | ⟨hwaiting, hopen⟩
    · rw [hwaiting, hopen]
      exact h id
    · rw [hwaiting, hopen]
      exact (h id).close
  | puts key a hput hgot hn hopen hm =>
    rw [collect_of_some hput, collect_of_none hgot, hopen, hm]
    split
    · next hid =>
      have hkey := h key
      rw [hn] at hkey
      rw [hid, hn]
      exact hkey.put a
    · exact h id
  | gets key a rest hput hgot hn hopen hm =>
    rw [collect_of_none hput, collect_of_some hgot, hopen, hm]
    split
    · next hid =>
      have hkey := h key
      rw [hn] at hkey
      rw [hid]
      exact hkey.get
    · exact h id

/-- All that came out went in, each thing as often as it came out. -/
theorem Faithful.subperm [DecidableEq α] (h : w.Faithful events n) :
    (events.filterMap w.got?).Subperm (events.filterMap w.put?) := by
  refine List.subperm_ext_iff.2 fun ⟨id, a⟩ _ => ?_
  rw [count_collect, count_collect]
  exact (h id).isPrefix.sublist.count_le a

end Lane

/-! ## Connections and listeners by their number -/

variable {n m : Network}

/-- The connection of a number; before it is opened it is as it will be then, but for its
settings. -/
def connectionAt (n : Network) (id : Nat) : Connection :=
  n.connections[id]?.getD { settings := {} }

def listenerAt (n : Network) (k : Nat) : Listener := n.listeners[k]?.getD {}

theorem connectionAt_of_some {id : Nat} {c : Connection} (hc : n.connections[id]? = some c) :
    n.connectionAt id = c := by
  rw [connectionAt, hc, Option.getD_some]

theorem listenerAt_of_some {k : Nat} {x : Listener} (hx : n.listeners[k]? = some x) :
    n.listenerAt k = x := by
  rw [listenerAt, hx, Option.getD_some]

theorem settingsOf_eq (n : Network) (id : Nat) :
    n.settingsOf id = (n.connectionAt id).settings := by
  unfold settingsOf connectionAt
  cases n.connections[id]? <;> rfl

theorem connectionAt_modify {id : Nat} {c : Connection} (hc : n.connections[id]? = some c)
    (f : Connection → Connection) (j : Nat) :
    (n.modify id f).connectionAt j = if j = id then f c else n.connectionAt j := by
  unfold connectionAt modify
  dsimp only
  by_cases hj : j = id
  · rw [if_pos hj, hj, List.getElem?_modify_eq, hc]
    rfl
  · rw [if_neg hj, List.getElem?_modify_ne _ _ (Ne.symm hj)]

/-- A connection that is changed, or is not there at all. -/
theorem connectionAt_modify_or (n : Network) (id : Nat) (f : Connection → Connection) (j : Nat) :
    (n.modify id f).connectionAt j = n.connectionAt j ∨
      (n.modify id f).connectionAt j = f (n.connectionAt j) := by
  cases hc : n.connections[id]? with
  | some c =>
    rw [connectionAt_modify hc]
    by_cases hj : j = id
    · rw [if_pos hj, hj, connectionAt_of_some hc]
      exact .inr rfl
    · rw [if_neg hj]
      exact .inl rfl
  | none =>
    unfold connectionAt modify
    dsimp only
    rw [List.modify_eq_self (List.getElem?_eq_none_iff.1 hc)]
    exact .inl rfl

theorem connectionAt_concat (n : Network) (listeners : List Listener)
    (settings : ConnectionSettings) (j : Nat) :
    ({ n with
      connections := n.connections ++ [{ settings }], listeners } : Network).connectionAt j =
      if j = n.connections.length then { settings } else n.connectionAt j := by
  unfold connectionAt
  by_cases hj : j = n.connections.length
  · rw [if_pos hj, hj, List.getElem?_concat_length, Option.getD_some]
  · rw [if_neg hj, List.getElem?_append]
    split
    · rfl
    · next hlt =>
      have hlt' : n.connections.length < j := by omega
      rw [List.getElem?_eq_none (by simp; omega), List.getElem?_eq_none (by omega)]

theorem listenerAt_set {k : Nat} {x y : Listener} (hx : n.listeners[k]? = some x)
    (hm : m.listeners = n.listeners.set k y) (j : Nat) :
    m.listenerAt j = if j = k then y else n.listenerAt j := by
  rw [listenerAt, hm, List.getElem?_set]
  by_cases hj : j = k
  · rw [if_pos hj, if_pos hj.symm, if_pos (List.getElem?_eq_some_iff.1 hx).1, Option.getD_some]
  · rw [if_neg hj, if_neg (Ne.symm hj)]
    rfl

theorem listenerAt_register (n : Network) (name : String) (j : Nat) :
    (n.register name).listenerAt j = n.listenerAt j := by
  unfold listenerAt register
  rw [List.getElem?_append]
  split
  · rfl
  · next hlt =>
    rw [List.getElem?_eq_none (Nat.le_of_not_lt hlt)]
    rcases Nat.eq_zero_or_pos (j - n.listeners.length) with hj | hj
    · rw [hj]
      rfl
    · rw [List.getElem?_eq_none (by rw [List.length_singleton]; exact hj)]

/-- A listener that is replaced, or is not there at all. -/
theorem listenerAt_set_or {k : Nat} {y : Listener} (hm : m.listeners = n.listeners.set k y)
    (j : Nat) : m.listenerAt j = n.listenerAt j ∨ m.listenerAt j = y := by
  cases hx : n.listeners[k]? with
  | some x =>
    rw [listenerAt_set hx hm]
    split
    · exact .inr rfl
    · exact .inl rfl
  | none =>
    rw [List.set_eq_of_length_le (List.getElem?_eq_none_iff.1 hx)] at hm
    rw [listenerAt, hm]
    exact .inl rfl

/-! ## The lanes of connections -/

variable {e? : Option Event}

def Lane.ofConnections (put? got? : Event → Option (Nat × α)) (waiting : Connection → List α)
    (isOpen : Connection → Bool) : Lane α where
  put? := put?
  got? := got?
  waiting n id := waiting (n.connectionAt id)
  isOpen n id := isOpen (n.connectionAt id)

namespace Lane.ofConnections

variable {put? got? : Event → Option (Nat × α)} {waiting : Connection → List α}
  {isOpen : Connection → Bool}

theorem rests_of_eq (hput : e?.bind put? = none) (hgot : e?.bind got? = none)
    (hm : m.connections = n.connections) :
    (Lane.ofConnections put? got? waiting isOpen).Moves n e? m := by
  refine .rests hput hgot fun id => .inl ?_
  dsimp only [Lane.ofConnections, connectionAt]
  rw [hm]
  exact ⟨rfl, rfl⟩

theorem rests_modify {id : Nat} {f : Connection → Connection} (hput : e?.bind put? = none)
    (hgot : e?.bind got? = none)
    (hf : ∀ c, waiting (f c) = waiting c ∧ isOpen (f c) = isOpen c ∨
      waiting (f c) = [] ∧ isOpen (f c) = false) :
    (Lane.ofConnections put? got? waiting isOpen).Moves n e? (n.modify id f) := by
  refine .rests hput hgot fun j => ?_
  dsimp only [Lane.ofConnections]
  rcases connectionAt_modify_or n id f j with h | h
  · rw [h]
    exact .inl ⟨rfl, rfl⟩
  · rw [h]
    exact hf _

/-- A connection that was opened now has nothing in its queues. -/
theorem rests_open {listeners : List Listener} {settings : ConnectionSettings}
    (hput : e?.bind put? = none) (hgot : e?.bind got? = none)
    (hwaiting : waiting { settings } = waiting { settings := {} })
    (hopen : isOpen { settings } = isOpen { settings := {} }) :
    (Lane.ofConnections put? got? waiting isOpen).Moves n e?
      { n with connections := n.connections ++ [{ settings }], listeners } := by
  refine .rests hput hgot fun id => .inl ?_
  dsimp only [Lane.ofConnections]
  rw [connectionAt_concat]
  split
  · next hid =>
    have hnew : n.connectionAt id = { settings := {} } := by
      rw [connectionAt, List.getElem?_eq_none (Nat.le_of_eq hid.symm),
        Option.getD_none]
    rw [hnew]
    exact ⟨hwaiting, hopen⟩
  · exact ⟨rfl, rfl⟩

theorem puts_modify {id : Nat} {c : Connection} {f : Connection → Connection} {a : α}
    (hput : e?.bind put? = some (id, a)) (hgot : e?.bind got? = none)
    (hc : n.connections[id]? = some c) (ho : isOpen c = true) (hopen : isOpen (f c) = isOpen c)
    (hf : waiting (f c) = waiting c ++ [a]) :
    (Lane.ofConnections put? got? waiting isOpen).Moves n e? (n.modify id f) := by
  have hid := connectionAt_of_some hc
  refine .puts id a hput hgot (by rw [← hid] at ho; exact ho) (fun j => ?_) fun j => ?_
  all_goals
    dsimp only [Lane.ofConnections]
    rw [connectionAt_modify hc]
    split
  · next hj => rw [hj, hid, hopen]
  · rfl
  · rw [hid, hf]
  · rfl

theorem gets_modify {id : Nat} {c : Connection} {f : Connection → Connection} {a : α}
    {rest : List α} (hput : e?.bind put? = none) (hgot : e?.bind got? = some (id, a))
    (hc : n.connections[id]? = some c) (hopen : isOpen (f c) = isOpen c)
    (hw : waiting c = a :: rest) (hf : waiting (f c) = rest) :
    (Lane.ofConnections put? got? waiting isOpen).Moves n e? (n.modify id f) := by
  have hid := connectionAt_of_some hc
  refine .gets id a rest hput hgot (by rw [← hid] at hw; exact hw) (fun j => ?_) fun j => ?_
  all_goals
    dsimp only [Lane.ofConnections]
    rw [connectionAt_modify hc]
    split
  · next hj => rw [hj, hid, hopen]
  · rfl
  · exact hf
  · rfl

end Lane.ofConnections

open Lane.ofConnections

def reports : Lane Report :=
  .ofConnections
    (fun | .sent id r => some (id, r) | _ => none)
    (fun | .read id r => some (id, r) | _ => none)
    (·.reports) (·.serverOpen)

def instructions : Lane Instruction :=
  .ofConnections
    (fun | .instructed id i => some (id, i) | _ => none)
    (fun | .received id i => some (id, i) | _ => none)
    (·.instructions) (·.agentOpen)

theorem reports_moves (h : Change n e? m) : reports.Moves n e? m := by
  cases h with
  | register | close | deliver => exact rests_of_eq rfl rfl rfl
  | «open» => exact rests_open rfl rfl rfl rfl
  | dropServer => exact rests_modify rfl rfl fun _ => .inr ⟨rfl, rfl⟩
  | dropAgent => exact rests_modify rfl rfl fun _ => .inl ⟨rfl, rfl⟩
  | send id c r hc ho => exact puts_modify rfl rfl hc ho rfl rfl
  | read id c r rest hc hr => exact gets_modify rfl rfl hc rfl hr rfl
  | instruct | receive => exact rests_modify rfl rfl fun _ => .inl ⟨rfl, rfl⟩

theorem instructions_moves (h : Change n e? m) : instructions.Moves n e? m := by
  cases h with
  | register | close | deliver => exact rests_of_eq rfl rfl rfl
  | «open» => exact rests_open rfl rfl rfl rfl
  | dropServer => exact rests_modify rfl rfl fun _ => .inl ⟨rfl, rfl⟩
  | dropAgent => exact rests_modify rfl rfl fun _ => .inr ⟨rfl, rfl⟩
  | send | read => exact rests_modify rfl rfl fun _ => .inl ⟨rfl, rfl⟩
  | instruct id c i hc ho => exact puts_modify rfl rfl hc ho rfl rfl
  | receive id c i rest hc hi => exact gets_modify rfl rfl hc rfl hi rfl

/-! ## The lane of listeners -/

/-- The connections that are opened at each listener, with their settings. -/
def calls : Lane (Nat × ConnectionSettings) where
  put?
    | .opened k id settings => some (k, id, settings)
    | _ => none
  got?
    | .delivered k id settings => some (k, id, settings)
    | _ => none
  waiting n k := (n.listenerAt k).dialed.map fun id => (id, n.settingsOf id)
  isOpen n k := (n.listenerAt k).isOpen

/-- Only connections that were opened wait at a listener. -/
def Known (n : Network) : Prop :=
  ∀ k, ∀ id ∈ (n.listenerAt k).dialed, id < n.connections.length

theorem settingsOf_modify (n : Network) (id : Nat) {f : Connection → Connection}
    (hf : ∀ c, (f c).settings = c.settings) (j : Nat) :
    (n.modify id f).settingsOf j = n.settingsOf j := by
  rw [settingsOf_eq, settingsOf_eq]
  rcases connectionAt_modify_or n id f j with h | h
  · rw [h]
  · rw [h, hf]

theorem calls_rests_modify {id : Nat} {f : Connection → Connection}
    (hput : e?.bind calls.put? = none) (hgot : e?.bind calls.got? = none)
    (hf : ∀ c, (f c).settings = c.settings) : calls.Moves n e? (n.modify id f) := by
  refine .rests hput hgot fun k => .inl ⟨?_, rfl⟩
  dsimp only [calls]
  simp only [settingsOf_modify n id hf]
  rfl

theorem calls_moves_deliver {k id : Nat} {x : Listener} {rest : List Nat}
    (hx : n.listeners[k]? = some x) (hd : x.dialed = id :: rest) :
    calls.Moves n (some (.delivered k id (n.settingsOf id)))
      { n with
        accepted := n.accepted ++ [id]
        listeners := n.listeners.set k { x with dialed := rest } } := by
  have hk := listenerAt_of_some hx
  refine .gets k (id, n.settingsOf id) (rest.map fun id => (id, n.settingsOf id)) rfl rfl ?_
    (fun j => ?_) fun j => ?_
  all_goals dsimp only [calls]
  · rw [hk, hd, List.map_cons]
  all_goals
    rw [listenerAt_set hx rfl]
    split
  · next hj => rw [hj, hk]
  · rfl
  · rfl
  · rfl

theorem calls_moves_open {k : Nat} {x : Listener} {settings : ConnectionSettings} (hn : n.Known)
    (hx : n.listeners[k]? = some x) (ho : x.isOpen = true) :
    calls.Moves n (some (.opened k n.connections.length settings))
      { n with
        connections := n.connections ++ [{ settings }]
        listeners := n.listeners.set k
          { x with dialed := x.dialed ++ [n.connections.length] } } := by
  have hk := listenerAt_of_some hx
  -- what waits already was opened before, and has the settings that it had
  have hold : ∀ listeners j, (n.listenerAt j).dialed.map (fun id => (id, ({ n with
      connections := n.connections ++ [{ settings }], listeners } : Network).settingsOf id)) =
      (n.listenerAt j).dialed.map fun id => (id, n.settingsOf id) := by
    intro listeners j
    refine List.map_congr_left fun id hid => ?_
    rw [settingsOf_eq, settingsOf_eq, connectionAt_concat, if_neg (Nat.ne_of_lt (hn j id hid))]
  refine .puts k (n.connections.length, settings) rfl rfl ?_ (fun j => ?_) fun j => ?_
  all_goals dsimp only [calls]
  · rw [hk, ho]
  all_goals
    rw [listenerAt_set hx rfl]
    split
  · next hj => rw [hj, hk]
  · rfl
  · next hj =>
    have hwaiting := hold (n.listeners.set k
      { x with dialed := x.dialed ++ [n.connections.length] }) k
    rw [hk] at hwaiting
    rw [List.map_append, hwaiting, hk, List.map_singleton, settingsOf_eq, connectionAt_concat,
      if_pos rfl]
  · exact hold _ j

theorem calls_moves (hn : n.Known) (h : Change n e? m) : calls.Moves n e? m := by
  cases h with
  | register name =>
    refine .rests rfl rfl fun k => .inl ?_
    dsimp only [calls]
    rw [listenerAt_register]
    exact ⟨rfl, rfl⟩
  | close k =>
    refine .rests rfl rfl fun j => ?_
    dsimp only [calls]
    rcases listenerAt_set_or (m := { n with listeners := n.listeners.set k { isOpen := false } })
      rfl j with h | h
    · rw [h]
      exact .inl ⟨rfl, rfl⟩
    · rw [h]
      exact .inr ⟨rfl, rfl⟩
  | deliver k x id rest hx hd => exact calls_moves_deliver hx hd
  | «open» k x settings hx ho => exact calls_moves_open hn hx ho
  | dropServer | dropAgent | send | read | instruct | receive =>
    exact calls_rests_modify rfl rfl fun _ => rfl

theorem Known.change (hn : n.Known) (h : Change n e? m) : m.Known := by
  intro j id hid
  cases h with
  | register name =>
    rw [listenerAt_register] at hid
    exact hn j id hid
  | close k =>
    rcases listenerAt_set_or (m := { n with listeners := n.listeners.set k { isOpen := false } })
      rfl j with h | h
    · rw [h] at hid
      exact hn j id hid
    · rw [h] at hid
      contradiction
  | deliver k x i rest hx hd =>
    rw [listenerAt_set hx rfl] at hid
    split at hid
    · refine hn k id ?_
      rw [listenerAt_of_some hx, hd]
      exact List.mem_cons_of_mem i hid
    · exact hn j id hid
  | «open» k x settings hx ho =>
    rw [List.length_append, List.length_singleton]
    rw [listenerAt_set hx rfl] at hid
    split at hid
    · rcases List.mem_append.1 hid with h | h
      · have hlt := hn k id (by rw [listenerAt_of_some hx]; exact h)
        omega
      · rw [List.mem_singleton.1 h]
        omega
    · have hlt := hn j id hid
      omega
  | dropServer | dropAgent | send | read | instruct | receive =>
    unfold modify
    rw [List.length_modify]
    exact hn j id hid

/-! ## The network is faithful to the events -/

def registered? : Event → Option (String × Nat)
  | .registered name k => some (name, k)
  | _ => none

def lastRegistered (name : String) (events : List Event) : Option Nat :=
  (collect registered? name events).getLast?

def listening : List Event → List Nat :=
  List.filterMap fun | .registered _ k => some k | _ => none

def opened : List Event → List Nat :=
  List.filterMap fun | .opened _ id _ => some id | _ => none

def delivered : List Event → List Nat :=
  List.filterMap fun | .delivered _ id _ => some id | _ => none

/-- How the network comes from what happened. -/
structure Faithful (events : List Event) (n : Network) : Prop where
  reports : reports.Faithful events n
  instructions : instructions.Faithful events n
  calls : calls.Faithful events n
  known : n.Known
  registered : ∀ name, n.registered.get? name = lastRegistered name events
  listening : listening events = List.range n.listeners.length
  opened : opened events = List.range n.connections.length
  delivered : delivered events = n.accepted

theorem faithful_empty : Faithful [] {} where
  reports _ := .nil
  instructions _ := .nil
  calls _ := .nil
  known _ _ h := nomatch h
  registered _ := rfl
  listening := rfl
  opened := rfl
  delivered := rfl

variable {events : List Event}

/-- One event adds at most one entry to a list that is read off the events. -/
theorem filterMap_append_toList {f : Event → Option α} {before after : List α}
    (h : events.filterMap f = before) (ha : before ++ (e?.bind f).toList = after) :
    (events ++ e?.toList).filterMap f = after := by
  rw [List.filterMap_append, filterMap_toList, h, ha]

theorem lastRegistered_change (hn : ∀ name, n.registered.get? name = lastRegistered name events)
    (h : Change n e? m) (name : String) :
    m.registered.get? name = lastRegistered name (events ++ e?.toList) := by
  unfold lastRegistered
  cases h with
  | register other =>
    have hone : (some (Event.registered other n.listeners.length)).bind registered? =
      some (other, n.listeners.length) := rfl
    rw [collect_of_some hone]
    refine (Table.get?_insert _ _ _ _).trans ?_
    split
    · rw [List.getLast?_concat]
    · exact hn name
  | _ =>
    rw [collect_of_none rfl]
    exact hn name

theorem Faithful.change (hn : Faithful events n) (h : Change n e? m) :
    Faithful (events ++ e?.toList) m where
  reports := hn.reports.moves (reports_moves h)
  instructions := hn.instructions.moves (instructions_moves h)
  calls := hn.calls.moves (calls_moves hn.known h)
  known := hn.known.change h
  registered := lastRegistered_change hn.registered h
  listening := by
    refine filterMap_append_toList hn.listening ?_
    cases h with
    | register name => exact (List.range_succ.symm.trans (by simp [register]))
    | _ => simp [modify]
  opened := by
    refine filterMap_append_toList hn.opened ?_
    cases h with
    | «open» k x settings => exact List.range_succ.symm.trans (by simp)
    | _ => simp [modify, register]
  delivered := by
    refine filterMap_append_toList hn.delivered ?_
    cases h with
    | deliver => rfl
    | _ => exact List.append_nil _

theorem Faithful.changes {others : List Event} (hn : Faithful events n) (h : Changes n others m) :
    Faithful (events ++ others) m := by
  induction h with
  | refl => rwa [List.append_nil]
  | tail _ h ih =>
    rw [← List.append_assoc]
    exact ih.change h

theorem faithful_after (ops : List Operation) :
    Faithful (({} : Line).events ops) (({} : Line).after ops).network :=
  faithful_empty.changes (changes_after {} ops)

/-- No connection is given to two servers. -/
theorem nodup_accepted (h : Faithful events n) : n.accepted.Nodup := by
  have hopened : opened events = (events.filterMap calls.put?).map (·.2.1) := by
    unfold opened
    rw [List.map_filterMap]
    refine List.filterMap_congr fun e _ => ?_
    cases e <;> rfl
  have hdelivered : delivered events = (events.filterMap calls.got?).map (·.2.1) := by
    unfold delivered
    rw [List.map_filterMap]
    refine List.filterMap_congr fun e _ => ?_
    cases e <;> rfl
  obtain ⟨among, hperm, hsub⟩ := h.calls.subperm
  have hnodup : (opened events).Nodup := by
    rw [h.opened]
    exact List.nodup_range
  rw [← h.delivered, hdelivered]
  rw [hopened] at hnodup
  exact ((hperm.map _).nodup_iff).1 ((hsub.map _).nodup hnodup)

/-! ## What becomes of a connect -/

/-- A connect is refused and changes nothing, or opens a new connection, with the settings of the
agent, at the listener that is registered under their endpoint. -/
theorem event?_connect (l : Line) (cancelled : Bool) :
    (l.event? (.connect cancelled) = none ∧ l.step (.connect cancelled) = l ∧
      (cancelled = true ∨ ∀ k x, l.network.listener? l.client.settings.endpoint = some (k, x) →
        x.isOpen = false)) ∨
    ∃ k x, cancelled = false ∧
      l.network.listener? l.client.settings.endpoint = some (k, x) ∧ x.isOpen = true ∧
      l.event? (.connect cancelled) =
        some (.opened k l.network.connections.length l.client.settings) ∧
      (l.step (.connect cancelled)).client.link = some l.network.connections.length := by
  rcases connect_cases l cancelled with ⟨⟨e, h⟩, hwhy⟩ | ⟨k, x, hc, hx, ho, h⟩
  · refine .inl ⟨?_, ?_, hwhy⟩
    · simp only [Line.event?, h]
    · simp only [Line.step, h]
  · refine .inr ⟨k, x, hc, hx, ho, ?_, ?_⟩
    · simp only [Line.event?, h, hx, Option.map_some]
    · simp only [Line.step, h]

/-! ## Other settings -/

/-- The same, but for the next connection. -/
def Line.withSettings (l : Line) (settings : ConnectionSettings) (retryInterval : Duration) :
    Line :=
  { l with client := { l.client with settings, retryInterval } }

theorem step_withSettings (l : Line) (settings : ConnectionSettings) (interval : Duration)
    (op : Operation) (hop : ∀ cancelled, op ≠ .connect cancelled) :
    (l.withSettings settings interval).event? op = l.event? op ∧
      ∃ others later, (l.withSettings settings interval).step op =
        (l.step op).withSettings others later := by
  cases op with
  | connect cancelled => exact absurd rfl (hop cancelled)
  | configure s =>
    refine ⟨rfl, ?_⟩
    by_cases hs : s.serverUrl = ""
    · exact ⟨settings, interval, by simp only [Line.step, Client.configure, if_pos hs]⟩
    · refine ⟨s.connection, s.pollingInterval.getD interval, ?_⟩
      simp only [Line.step, Client.configure, if_neg hs]
      rfl
  | apply s => exact ⟨rfl, _, interval, rfl⟩
  | send cancelled r =>
    refine ⟨rfl, settings, interval, ?_⟩
    have hsend : (l.withSettings settings interval).client.send cancelled r
        (l.withSettings settings interval).network = l.client.send cancelled r l.network := rfl
    unfold Line.step
    dsimp only
    rw [hsend]
    rcases l.client.send cancelled r l.network with _ | _ | _ <;> rfl
  | receive =>
    refine ⟨rfl, settings, interval, ?_⟩
    have hreceive : (l.withSettings settings interval).client.receive
        (l.withSettings settings interval).network = l.client.receive l.network := rfl
    unfold Line.step
    dsimp only
    rw [hreceive]
    rcases l.client.receive l.network with _ | _ | _ <;> rfl
  | _ => exact ⟨rfl, settings, interval, rfl⟩

/-- Until the next connect, other settings make no difference. -/
theorem events_withSettings (l : Line) (settings : ConnectionSettings) (interval : Duration)
    (ops : List Operation) (h : ∀ cancelled, Operation.connect cancelled ∉ ops) :
    (l.withSettings settings interval).events ops = l.events ops ∧
      ((l.withSettings settings interval).after ops).network = (l.after ops).network := by
  induction ops generalizing l settings interval with
  | nil => exact ⟨rfl, rfl⟩
  | cons op rest ih =>
    have hop : ∀ cancelled, op ≠ .connect cancelled := fun cancelled hc =>
      h cancelled (hc ▸ List.mem_cons_self)
    have hrest : ∀ cancelled, Operation.connect cancelled ∉ rest := fun cancelled hc =>
      h cancelled (List.mem_cons_of_mem op hc)
    obtain ⟨hevent, others, later, hstep⟩ := step_withSettings l settings interval op hop
    obtain ⟨hevents, hafter⟩ := ih (l.step op) others later hrest
    rw [Line.after_cons, Line.after_cons, Line.events, Line.events, hstep, hevent, hevents]
    exact ⟨rfl, hafter⟩

/-- How a connect ends: it fails, for want of an open listener or because it is cancelled, or it opens
a new connection. -/
structure Connects (l : Line) (events : List Event) (cancelled : Bool) : Prop where
  fails_iff : l.event? (.connect cancelled) = none ↔ cancelled = true ∨
    ∀ k x, l.network.listener? l.client.settings.endpoint = some (k, x) → x.isOpen = false
  failed : l.event? (.connect cancelled) = none → l.step (.connect cancelled) = l
  opened : ∀ e, l.event? (.connect cancelled) = some e → ∃ k id,
    e = .opened k id l.client.settings ∧ id ∉ Network.opened events ∧
      lastRegistered l.client.settings.endpoint events = some k ∧
      (l.step (.connect cancelled)).client.link = some id

/-- What the events on a line are to each other. -/
structure IsFaithful (events : List Event) (l : Line) : Prop where
  /-- What is read of a connection is a front of what was sent on it. -/
  read (id : Nat) : reports.got id events <+: reports.sent id events ∧
    instructions.got id events <+: instructions.sent id events
  /-- An end that is held has all of it but what waits. -/
  waiting (id : Nat) (c : Connection) (hc : l.network.connections[id]? = some c) :
    (c.serverOpen = true → reports.sent id events = reports.got id events ++ c.reports) ∧
      (c.agentOpen = true →
        instructions.sent id events = instructions.got id events ++ c.instructions)
  /-- A listener gives its connections out in the order in which they came. -/
  accepted (k : Nat) : calls.got k events <+: calls.sent k events
  listening : (Network.listening events).Nodup
  opened : (Network.opened events).Nodup
  delivered : Network.delivered events = l.network.accepted
  acceptedOnce : l.network.accepted.Nodup
  connects (cancelled : Bool) : Connects l events cancelled
  /-- Other settings leave the link as it is, and all that happens on it. -/
  settings (settings : ConnectionSettings) (later : List Operation)
    (hlater : ∀ cancelled, Operation.connect cancelled ∉ later) :
    (l.step (.apply settings)).client.link = l.client.link ∧
      (l.step (.apply settings)).events later = l.events later ∧
      ((l.step (.apply settings)).after later).network = (l.after later).network

theorem connects_after {events : List Event} {l : Line} (h : Faithful events l.network)
    (cancelled : Bool) : Connects l events cancelled := by
  rcases event?_connect l cancelled with ⟨hnone, hstep, hwhy⟩ | ⟨k, x, hc, hx, ho, hsome, hlink⟩
  · refine ⟨⟨fun _ => hwhy, fun _ => hnone⟩, fun _ => hstep, fun e he => ?_⟩
    rw [hnone] at he
    contradiction
  · have hne : l.event? (.connect cancelled) ≠ none := by
      rw [hsome]
      exact Option.some_ne_none _
    refine ⟨⟨fun hnone => absurd hnone hne, ?_⟩, fun hnone => absurd hnone hne, fun e he => ?_⟩
    · rintro (htrue | hclosed)
      · rw [hc] at htrue
        contradiction
      · rw [hclosed k x hx] at ho
        contradiction
    · rw [hsome] at he
      refine ⟨k, l.network.connections.length, (Option.some.inj he).symm, ?_, ?_, hlink⟩
      · rw [h.opened]
        exact List.not_mem_range_self
      · rw [← h.registered]
        exact (listener?_eq_some.1 hx).1

/-- **Whatever the two sides do, the network neither loses, duplicates, reorders nor misroutes.**
The reports that a server reads of a connection are, in order and each once, a front of those that
were sent while it was the link, and all of them but those that wait, while the server holds its
end; so for the instructions. A connection is given to one server only, by the listener at which it
was opened, with its settings: those of the agent at the connect, at the listener that was
registered last under their endpoint. A connect that fails, for want of an open listener or because
it was cancelled, changes nothing, and other settings make no difference until the next connect. -/
theorem network_is_faithful (ops : List Operation) :
    IsFaithful (({} : Line).events ops) (({} : Line).after ops) := by
  generalize hl : ({} : Line).after ops = l
  generalize hevents : ({} : Line).events ops = events
  have h : Faithful events l.network := by
    rw [← hl, ← hevents]
    exact faithful_after ops
  refine ⟨fun id => ⟨(h.reports id).isPrefix, (h.instructions id).isPrefix⟩, fun id c hc => ?_,
    fun k => (h.calls k).isPrefix, ?_, ?_, h.delivered, nodup_accepted h, connects_after h,
    fun settings later hlater => ⟨rfl, events_withSettings l _ _ later hlater⟩⟩
  · have hreports := h.reports id
    have hinstructions := h.instructions id
    dsimp only [reports, instructions, Lane.ofConnections] at hreports hinstructions
    rw [connectionAt_of_some hc] at hreports hinstructions
    constructor
    · intro ho
      rw [ho] at hreports
      exact hreports.eq_append
    · intro ho
      rw [ho] at hinstructions
      exact hinstructions.eq_append
  · rw [h.listening]
    exact List.nodup_range
  · rw [h.opened]
    exact List.nodup_range

/-- A listener is replaced while a connection waits there with two reports; the server accepts that
connection afterwards, and the one that took its place as the link. -/
def replaced : List Operation :=
  [.register "a", .configure { serverUrl := "a" }, .connect false,
    .send false { instanceUid := "u", sequenceNumber := 0 },
    .send false { instanceUid := "u", sequenceNumber := 1 },
    .register "a", .connect false, .accept 0, .read 0, .accept 1,
    .serverSend 1 { fullState := true }]

theorem network_is_faithful_replaced :
    let l := ({} : Line).after replaced
    let events := ({} : Line).events replaced
    reports.sent 0 events =
      reports.got 0 events ++ [{ instanceUid := "u", sequenceNumber := 1 }] ∧
    instructions.sent 1 events = instructions.got 1 events ++ [{ fullState := true }] ∧
    l.step (.connect true) = l ∧
    (∃ k id, Event.opened 1 2 { endpoint := "a" } = .opened k id l.client.settings ∧
      id ∉ opened events ∧ lastRegistered l.client.settings.endpoint events = some k ∧
      (l.step (.connect false)).client.link = some id) ∧
    (l.step (.apply { endpoint := "b" })).events [.receive] =
      [.received 1 { fullState := true }] := by
  have h := network_is_faithful replaced
  refine ⟨(h.waiting 0 _ rfl).1 rfl, (h.waiting 1 _ rfl).2 rfl, (h.connects true).failed rfl,
    (h.connects false).opened _ rfl, ?_⟩
  exact (h.settings { endpoint := "b" } [.receive] (by simp)).2.1.trans rfl

end ManagedAgent.Network
