import ManagedAgent.Network.Client

/-!
# What happens on a network with one agent

A `Line` is a network and an agent on it; an `Operation` is what either side can do, in any order.
An `Event` is what an operation got through: a connection was opened or delivered to a server, a
message was sent, or came out at the other end. Whatever an operation does to the network is made of
a few changes (`Change`), each to one connection or one listener.

* `changes_step`, `changes_after` : operations come to such changes, with their events;
* `exists_ops_listen`, `exists_ops_closeListener`, `exists_ops_accept`, `exists_ops_read` : what is
  done by the name of a listener, and reading all that waits, are made of operations.
-/

set_option autoImplicit false

namespace ManagedAgent.Network

/-- A network, and an agent on it. -/
structure Line where
  network : Network := {}
  client : Client := {}

inductive Operation where
  /-- A server listens under a name, in place of who listened there. -/
  | register (name : String)
  /-- A server drops a listener that it holds. -/
  | dropListener (k : Nat)
  /-- A server accepts a connection at a listener that it holds. -/
  | accept (k : Nat)
  | configure (settings : StartSettings)
  | connect (cancelled : Bool)
  | send (cancelled : Bool) (r : Report)
  | receive
  | apply (settings : ConnectionSettings)
  /-- The agent leaves. -/
  | disconnect
  /-- A server reads a report. -/
  | read (number : Nat)
  | serverSend (number : Nat) (i : Instruction)
  /-- A server drops a connection. -/
  | dropConnection (number : Nat)

inductive Event where
  /-- A listener is registered under a name. -/
  | registered (name : String) (k : Nat)
  /-- The agent has opened a connection at a listener. -/
  | opened (k id : Nat) (settings : ConnectionSettings)
  /-- A listener has given a connection to its server. -/
  | delivered (k id : Nat) (settings : ConnectionSettings)
  /-- The agent has sent a report on its link. -/
  | sent (id : Nat) (r : Report)
  | read (id : Nat) (r : Report)
  /-- A server has sent an instruction. -/
  | instructed (id : Nat) (i : Instruction)
  | received (id : Nat) (i : Instruction)

namespace Line

def step (l : Line) : Operation → Line
  | .register name => { l with network := l.network.register name }
  | .dropListener k => { l with network := l.network.dropListener k }
  | .accept k => { l with network := (l.network.acceptAt k).2 }
  | .configure settings =>
    match l.client.configure settings with
    | .ok client => { l with client }
    | .error _ => l
  | .connect cancelled =>
    match l.client.connect cancelled l.network with
    | .ok (client, network) => { network, client }
    | .error _ => l
  | .send cancelled r =>
    match l.client.send cancelled r l.network with
    | some (.ok network) => { l with network }
    | _ => l
  | .receive =>
    match l.client.receive l.network with
    | some (.ok (_, network)) => { l with network }
    | _ => l
  | .apply settings => { l with client := (l.client.apply settings).2 }
  | .disconnect =>
    { network := (l.client.disconnect l.network).2, client := (l.client.disconnect l.network).1 }
  | .read number => { l with network := (l.network.readNext number).2 }
  | .serverSend number i => { l with network := (l.network.serverSend number i).2 }
  | .dropConnection number => { l with network := (l.network.dropConnection number).2 }

/-- What an operation gets through. -/
def event? (l : Line) : Operation → Option Event
  | .register name => some (.registered name l.network.listeners.length)
  | .accept k =>
    match l.network.acceptAt k with
    | (.accepted number settings, n) => n.accepted[number]?.map (.delivered k · settings)
    | _ => none
  | .connect cancelled =>
    match l.client.connect cancelled l.network, l.network.listener? l.client.settings.endpoint with
    | .ok (client, _), some (k, _) => client.link.map (.opened k · l.client.settings)
    | _, _ => none
  | .send cancelled r =>
    match l.client.send cancelled r l.network with
    | some (.ok _) => l.client.link.map (.sent · r)
    | _ => none
  | .receive =>
    match l.client.receive l.network with
    | some (.ok (some i, _)) => l.client.link.map (.received · i)
    | _ => none
  | .read number =>
    match (l.network.readNext number).1 with
    | some r => l.network.accepted[number]?.map (.read · r)
    | none => none
  | .serverSend number i =>
    match (l.network.serverSend number i).1 with
    | .sent => l.network.accepted[number]?.map (.instructed · i)
    | _ => none
  | _ => none

def after (l : Line) (ops : List Operation) : Line := ops.foldl step l

def events (l : Line) : List Operation → List Event
  | [] => []
  | op :: rest => (l.event? op).toList ++ (l.step op).events rest

@[simp] theorem after_nil (l : Line) : l.after [] = l := rfl

@[simp] theorem after_cons (l : Line) (op : Operation) (rest : List Operation) :
    l.after (op :: rest) = (l.step op).after rest := rfl

end Line

/-! ## Changes of the network -/

/-- A change to one listener or one connection, and its event. -/
inductive Change : Network → Option Event → Network → Prop
  | register (n : Network) (name : String) :
    Change n (some (.registered name n.listeners.length)) (n.register name)
  /-- A listener is gone, with all that waits there. -/
  | close (n : Network) (k : Nat) :
    Change n none { n with listeners := n.listeners.set k { isOpen := false } }
  | deliver (n : Network) (k : Nat) (x : Listener) (id : Nat) (rest : List Nat)
      (hx : n.listeners[k]? = some x) (hd : x.dialed = id :: rest) :
    Change n (some (.delivered k id (n.settingsOf id)))
      { n with
        accepted := n.accepted ++ [id]
        listeners := n.listeners.set k { x with dialed := rest } }
  | open (n : Network) (k : Nat) (x : Listener) (settings : ConnectionSettings)
      (hx : n.listeners[k]? = some x) (ho : x.isOpen = true) :
    Change n (some (.opened k n.connections.length settings))
      { n with
        connections := n.connections ++ [{ settings }]
        listeners := n.listeners.set k { x with dialed := x.dialed ++ [n.connections.length] } }
  | dropServer (n : Network) (id : Nat) : Change n none (n.modify id Connection.dropServer)
  | dropAgent (n : Network) (id : Nat) : Change n none (n.modify id Connection.dropAgent)
  | send (n : Network) (id : Nat) (c : Connection) (r : Report)
      (hc : n.connections[id]? = some c) (ho : c.serverOpen = true) :
    Change n (some (.sent id r)) (n.modify id fun c => { c with reports := c.reports ++ [r] })
  | read (n : Network) (id : Nat) (c : Connection) (r : Report) (rest : List Report)
      (hc : n.connections[id]? = some c) (hr : c.reports = r :: rest) :
    Change n (some (.read id r)) (n.modify id fun c => { c with reports := rest })
  | instruct (n : Network) (id : Nat) (c : Connection) (i : Instruction)
      (hc : n.connections[id]? = some c) (ho : c.agentOpen = true) :
    Change n (some (.instructed id i))
      (n.modify id fun c => { c with instructions := c.instructions ++ [i] })
  | receive (n : Network) (id : Nat) (c : Connection) (i : Instruction) (rest : List Instruction)
      (hc : n.connections[id]? = some c) (hi : c.instructions = i :: rest) :
    Change n (some (.received id i)) (n.modify id fun c => { c with instructions := rest })

inductive Changes : Network → List Event → Network → Prop
  | refl (n : Network) : Changes n [] n
  | tail {n m o : Network} {events : List Event} {e? : Option Event} :
    Changes n events m → Change m e? o → Changes n (events ++ e?.toList) o

variable {n m o : Network}

theorem Change.changes {e? : Option Event} (h : Change n e? m) : Changes n e?.toList m :=
  .tail (.refl n) h

theorem Changes.trans {first others : List Event} (h₁ : Changes n first m)
    (h₂ : Changes m others o) : Changes n (first ++ others) o := by
  induction h₂ with
  | refl => rwa [List.append_nil]
  | tail _ h ih =>
    rw [← List.append_assoc]
    exact .tail ih h

theorem changes_foldl_dropServer (n : Network) (ids : List Nat) :
    Changes n [] (ids.foldl (fun n id => n.modify id Connection.dropServer) n) := by
  induction ids generalizing n with
  | nil => exact .refl n
  | cons id rest ih => exact (Change.dropServer n id).changes.trans (ih _)

theorem changes_dropListener (n : Network) (k : Nat) : Changes n [] (n.dropListener k) := by
  unfold dropListener
  split
  · exact .tail (changes_foldl_dropServer n _) (.close _ k)
  · exact .refl n

theorem changes_hangUp (c : Client) (n : Network) : Changes n [] (c.hangUp n) := by
  unfold Client.hangUp
  split
  · next id _ => exact (Change.dropAgent n id).changes
  · exact .refl n

/-! ## What each operation comes to -/

theorem listener?_eq_some {name : String} {k : Nat} {x : Listener} :
    n.listener? name = some (k, x) ↔
      n.registered.get? name = some k ∧ n.listeners[k]? = some x := by
  unfold listener?
  simp only [Option.bind_eq_bind, Option.bind_eq_some_iff, Option.some.injEq, Prod.mk.injEq]
  constructor
  · rintro ⟨_, hk, _, hx, rfl, rfl⟩
    exact ⟨hk, hx⟩
  · rintro ⟨hk, hx⟩
    exact ⟨k, hk, x, hx, rfl, rfl⟩

theorem served?_eq_some {number id : Nat} {c : Connection} :
    n.served? number = some (id, c) ↔
      n.accepted[number]? = some id ∧ n.connections[id]? = some c ∧ c.serverOpen = true := by
  unfold served?
  simp only [Option.bind_eq_bind, Option.bind_eq_some_iff]
  constructor
  · rintro ⟨i, hi, d, hd, h⟩
    split at h
    · next ho =>
      cases h
      exact ⟨hi, hd, ho⟩
    · contradiction
  · rintro ⟨hi, hc, ho⟩
    exact ⟨id, hi, c, hc, if_pos ho⟩

theorem Client.linked?_eq_some {client : Client} {id : Nat} {c : Connection} :
    client.linked? n = some (id, c) ↔ client.link = some id ∧ n.connections[id]? = some c := by
  unfold linked?
  simp only [Option.bind_eq_bind, Option.bind_eq_some_iff, Option.some.injEq, Prod.mk.injEq]
  constructor
  · rintro ⟨_, hl, _, hc, rfl, rfl⟩
    exact ⟨hl, hc⟩
  · rintro ⟨hl, hc⟩
    exact ⟨id, hl, c, hc, rfl, rfl⟩

/-- How an attempt to connect ends: it is refused, and why, or the listener that is registered under
the endpoint has one more connection waiting, which is the link now. -/
theorem connect_cases (l : Line) (cancelled : Bool) :
    ((∃ e, l.client.connect cancelled l.network = .error e) ∧
      (cancelled = true ∨ ∀ k x, l.network.listener? l.client.settings.endpoint = some (k, x) →
        x.isOpen = false)) ∨
    ∃ k x, cancelled = false ∧
      l.network.listener? l.client.settings.endpoint = some (k, x) ∧ x.isOpen = true ∧
      l.client.connect cancelled l.network =
        .ok ({ l.client with link := some l.network.connections.length },
          l.client.hangUp { l.network with
            connections := l.network.connections ++ [{ settings := l.client.settings }]
            listeners := l.network.listeners.set k
              { x with dialed := x.dialed ++ [l.network.connections.length] } }) := by
  unfold Client.connect dial
  cases cancelled with
  | true => exact .inl ⟨⟨_, rfl⟩, .inl rfl⟩
  | false =>
    dsimp only
    rw [if_neg nofun]
    cases h : l.network.listener? l.client.settings.endpoint with
    | none => exact .inl ⟨⟨_, rfl⟩, .inr nofun⟩
    | some found =>
      obtain ⟨k, x⟩ := found
      dsimp only
      by_cases ho : x.isOpen = true
      · rw [if_pos ho]
        exact .inr ⟨k, x, rfl, rfl, ho, rfl⟩
      · rw [if_neg ho]
        refine .inl ⟨⟨_, rfl⟩, .inr ?_⟩
        rintro _ _ ⟨⟩
        exact Bool.eq_false_iff.2 ho

theorem changes_connect (l : Line) (cancelled : Bool) :
    Changes l.network (l.event? (.connect cancelled)).toList
      (l.step (.connect cancelled)).network := by
  unfold Line.event? Line.step
  dsimp only
  rcases connect_cases l cancelled with ⟨⟨e, h⟩, -⟩ | ⟨k, x, -, hx, ho, h⟩
  · rw [h]
    exact .refl _
  · rw [h, hx]
    have hopen := Change.open l.network k x l.client.settings (listener?_eq_some.1 hx).2 ho
    exact hopen.changes.trans (changes_hangUp l.client _)

theorem changes_accept (l : Line) (k : Nat) :
    Changes l.network (l.event? (.accept k)).toList (l.step (.accept k)).network := by
  unfold Line.event? Line.step acceptAt
  dsimp only
  cases hx : l.network.listeners[k]? with
  | none => exact .refl _
  | some x =>
    dsimp only
    by_cases ho : x.isOpen = true
    · have hopen : ¬(!x.isOpen) = true := by simp [ho]
      rw [if_neg hopen]
      cases hd : x.dialed with
      | nil => exact .refl _
      | cons id rest =>
        dsimp only
        rw [List.getElem?_concat_length]
        exact (Change.deliver l.network k x id rest hx hd).changes
    · rw [Bool.eq_false_iff.2 ho, Bool.not_false, if_pos rfl]
      exact .refl _

/-- A report is not sent, or it waits on the link. -/
theorem send_cases (client : Client) (cancelled : Bool) (r : Report) (n : Network) :
    (∀ m, client.send cancelled r n ≠ some (.ok m)) ∨
      ∃ id c, client.link = some id ∧ n.connections[id]? = some c ∧ c.serverOpen = true ∧
        client.send cancelled r n =
          some (.ok (n.modify id fun c => { c with reports := c.reports ++ [r] })) := by
  unfold Client.send
  cases h : client.linked? n with
  | none => exact .inl nofun
  | some linked =>
    obtain ⟨id, c⟩ := linked
    obtain ⟨hl, hc⟩ := Client.linked?_eq_some.1 h
    dsimp only
    split
    · exact .inl nofun
    · split
      · exact .inl nofun
      · next ho =>
        split
        · exact .inl nofun
        · exact .inr ⟨id, c, hl, hc, by simpa using ho, rfl⟩

theorem changes_send (l : Line) (cancelled : Bool) (r : Report) :
    Changes l.network (l.event? (.send cancelled r)).toList
      (l.step (.send cancelled r)).network := by
  unfold Line.event? Line.step
  dsimp only
  rcases send_cases l.client cancelled r l.network with h | ⟨id, c, hl, hc, ho, h⟩
  · split
    · next m hm => exact absurd hm (h m)
    · exact .refl _
  · rw [h, hl]
    exact (Change.send l.network id c r hc ho).changes

/-- Nothing is received, or the instruction that waits first on the link. -/
theorem receive_cases (client : Client) (n : Network) :
    (client.receive n = none ∨ client.receive n = some (.error .closed) ∨
      client.receive n = some (.ok (none, n))) ∨
    ∃ id c i rest, client.link = some id ∧ n.connections[id]? = some c ∧
      c.instructions = i :: rest ∧
      client.receive n =
        some (.ok (some i, n.modify id fun c => { c with instructions := rest })) := by
  unfold Client.receive
  cases h : client.linked? n with
  | none => exact .inl (.inr (.inl rfl))
  | some linked =>
    obtain ⟨id, c⟩ := linked
    obtain ⟨hl, hc⟩ := Client.linked?_eq_some.1 h
    dsimp only
    cases hi : c.instructions with
    | nil =>
      dsimp only
      split
      · exact .inl (.inl rfl)
      · exact .inl (.inr (.inr rfl))
    | cons i rest => exact .inr ⟨id, c, i, rest, hl, hc, hi, rfl⟩

theorem changes_receive (l : Line) :
    Changes l.network (l.event? .receive).toList (l.step .receive).network := by
  unfold Line.event? Line.step
  dsimp only
  rcases receive_cases l.client l.network with (h | h | h) | ⟨id, c, i, rest, hl, hc, hi, h⟩
  · rw [h]
    exact .refl _
  · rw [h]
    exact .refl _
  · rw [h]
    exact .refl _
  · rw [h, hl]
    exact (Change.receive l.network id c i rest hc hi).changes

theorem changes_read (l : Line) (number : Nat) :
    Changes l.network (l.event? (.read number)).toList (l.step (.read number)).network := by
  unfold Line.event? Line.step readNext
  dsimp only
  cases h : l.network.served? number with
  | none => exact .refl _
  | some served =>
    obtain ⟨id, c⟩ := served
    obtain ⟨ha, hc, -⟩ := served?_eq_some.1 h
    dsimp only
    cases hr : c.reports with
    | nil => exact .refl _
    | cons r rest =>
      rw [ha]
      exact (Change.read l.network id c r rest hc hr).changes

/-- An instruction is not sent, or it waits on the connection. -/
theorem serverSend_cases (n : Network) (number : Nat) (i : Instruction) :
    ((n.serverSend number i).1 ≠ .sent ∧ (n.serverSend number i).2 = n) ∨
      ∃ id c, n.accepted[number]? = some id ∧ n.connections[id]? = some c ∧ c.agentOpen = true ∧
        n.serverSend number i =
          (.sent, n.modify id fun c => { c with instructions := c.instructions ++ [i] }) := by
  unfold serverSend
  cases h : n.served? number with
  | none => exact .inl ⟨nofun, rfl⟩
  | some served =>
    obtain ⟨id, c⟩ := served
    obtain ⟨ha, hc, -⟩ := served?_eq_some.1 h
    dsimp only
    split
    · exact .inl ⟨nofun, rfl⟩
    · next ho =>
      split
      · exact .inl ⟨nofun, rfl⟩
      · exact .inr ⟨id, c, ha, hc, by simpa using ho, rfl⟩

theorem changes_serverSend (l : Line) (number : Nat) (i : Instruction) :
    Changes l.network (l.event? (.serverSend number i)).toList
      (l.step (.serverSend number i)).network := by
  unfold Line.event? Line.step
  dsimp only
  rcases serverSend_cases l.network number i with ⟨h, hn⟩ | ⟨id, c, ha, hc, ho, h⟩
  · rw [hn]
    split
    · next hsent => exact absurd hsent h
    · exact .refl _
  · rw [h, ha]
    exact (Change.instruct l.network id c i hc ho).changes

theorem changes_dropConnection (l : Line) (number : Nat) :
    Changes l.network [] (l.step (.dropConnection number)).network := by
  unfold Line.step dropConnection
  dsimp only
  cases l.network.served? number with
  | none => exact .refl _
  | some served => exact (Change.dropServer l.network served.1).changes

/-- Every operation comes to a few changes, with its event. -/
theorem changes_step (l : Line) (op : Operation) :
    Changes l.network (l.event? op).toList (l.step op).network := by
  cases op with
  | register name => exact (Change.register l.network name).changes
  | dropListener k => exact changes_dropListener l.network k
  | accept k => exact changes_accept l k
  | configure settings =>
    show Changes l.network [] _
    unfold Line.step
    dsimp only
    split <;> exact .refl _
  | connect cancelled => exact changes_connect l cancelled
  | send cancelled r => exact changes_send l cancelled r
  | receive => exact changes_receive l
  | apply settings => exact .refl _
  | disconnect => exact changes_hangUp l.client l.network
  | read number => exact changes_read l number
  | serverSend number i => exact changes_serverSend l number i
  | dropConnection number => exact changes_dropConnection l number

/-- Operations come to changes, with their events. -/
theorem changes_after (l : Line) (ops : List Operation) :
    Changes l.network (l.events ops) (l.after ops).network := by
  induction ops generalizing l with
  | nil => exact .refl _
  | cons op rest ih => exact (changes_step l op).trans (ih (l.step op))

/-! ## Calls that are made of several operations -/

/-- Listening anew drops the listener that was registered, and registers another one. -/
theorem exists_ops_listen (l : Line) (name : String) :
    ∃ ops, l.after ops = { l with network := l.network.listen name } := by
  unfold listen
  cases l.network.listener? name with
  | none => exact ⟨[.register name], rfl⟩
  | some found => exact ⟨[.dropListener found.1, .register name], rfl⟩

theorem exists_ops_closeListener (l : Line) (name : String) :
    ∃ ops, l.after ops = { l with network := (l.network.closeListener name).2 } := by
  unfold closeListener
  cases l.network.listener? name with
  | none => exact ⟨[], rfl⟩
  | some found =>
    dsimp only
    split
    · exact ⟨[.dropListener found.1], rfl⟩
    · exact ⟨[], rfl⟩

theorem exists_ops_accept (l : Line) (name : String) :
    ∃ ops, l.after ops = { l with network := (l.network.accept name).2 } := by
  unfold Network.accept
  cases l.network.listener? name with
  | none => exact ⟨[], rfl⟩
  | some found => exact ⟨[.accept found.1], rfl⟩

theorem served?_modify {number id : Nat} {c : Connection} {f : Connection → Connection}
    (h : n.served? number = some (id, c)) (hf : (f c).serverOpen = true) :
    (n.modify id f).served? number = some (id, f c) := by
  obtain ⟨ha, hc, -⟩ := served?_eq_some.1 h
  refine served?_eq_some.2 ⟨ha, ?_, hf⟩
  show (n.connections.modify id f)[id]? = some (f c)
  rw [List.getElem?_modify_eq, hc]
  rfl

/-- Reading all that waits is reading one report after the other. -/
theorem after_read (l : Line) (number id : Nat) (c : Connection)
    (h : l.network.served? number = some (id, c)) :
    l.after (List.replicate c.reports.length (.read number)) =
      { l with network := l.network.modify id fun c => { c with reports := [] } } := by
  obtain ⟨reports, hr⟩ : ∃ reports, c.reports = reports := ⟨_, rfl⟩
  induction reports generalizing l c with
  | nil =>
    obtain ⟨-, hc, -⟩ := served?_eq_some.1 h
    have hsame : l.network.modify id (fun c => { c with reports := [] }) = l.network := by
      have hconnections : l.network.connections.modify id (fun c => { c with reports := [] }) =
          l.network.connections := by
        refine List.ext_getElem? fun j => ?_
        rw [List.getElem?_modify]
        split
        · next hj =>
          rw [← hj, hc, ← hr]
          rfl
        · exact id_map _
      unfold modify
      rw [hconnections]
    rw [hr, hsame]
    rfl
  | cons r rest ih =>
    have hstep : l.step (.read number) =
        { l with network := l.network.modify id fun c => { c with reports := rest } } := by
      simp only [Line.step, readNext, h, hr]
    have hserved := served?_modify (f := fun c => { c with reports := rest }) h
      (served?_eq_some.1 h).2.2
    rw [hr, List.length_cons, List.replicate_succ, Line.after_cons, hstep]
    refine (ih { l with network := _ } { c with reports := rest } hserved rfl).trans ?_
    dsimp only [modify]
    rw [List.modify_modify_eq]
    rfl

theorem exists_ops_read (l : Line) (number : Nat) :
    ∃ ops, l.after ops = { l with network := (l.network.read number).2 } := by
  cases h : l.network.served? number with
  | none => exact ⟨[], by simp only [read, h, Line.after_nil]⟩
  | some served => exact ⟨_, by rw [after_read l number served.1 served.2 h]; simp only [read, h]⟩

end ManagedAgent.Network
