/-
# `SocketIo.Server.Machine` — the server as a state machine over interleaved tasks

`Server::recv_event` runs one task that takes the engine's events in turn and awaits
each handler: `OnOpen(esid)` runs `create_client`, which either rebinds the session to
the sid `polling_transport_info` finds or, through `handle_connect`, generates a sid,
waits for the first CONNECT packet and calls `insert_clients`; `OnClose(esid)` runs
`drop_client`.  Around it run the user's callbacks: `insert_clients` builds the
`Client` and awaits its connect callback, spawns the poll task whose inbound events run
further callbacks, sends the handshake, and only then writes the client table.  Every
callback holds a `Client` and may call `join`, `leave`, `emit`, `ack`, `disconnect` and
`emit_to` through it at any time, and `emit_to` spawns one task per recipient.

## The model

`Server w` is the server's state: its tables, its `SidGenerator`, where the event loop
is (`Loop`), every `Client` built so far, the spawned emit tasks that have not run, and
the packets written to each connection.  `step` takes one `Action`, the atomic step of
one task, and is `none` where that task cannot move.  Await points of the source are
the boundaries between steps: `insert_clients` takes three steps after it builds the
client, `drop_client` two, each table write one.  A callback may act through any client
ever built, which covers what the code's callbacks can do and more, so invariants proved
here hold of the code.

What the engine contributes is its events and packets: `OnOpen(esid)` with whether
`engine_server.socket(esid)` still has the socket, the packets (or the end of the
stream) `handle_connect` polls, and whether a write reaches the transport.  A write
fails once the session's transport is gone: `insert_clients` discards the handshake's
`Result` and registers the client all the same (`handshakeFailed`), and a spawned emit
logs its error and ends (`emitFailed`).  All of these are arbitrary.

## What is proved

* `Reachable.inv`: in every reachable state, every key of the client table and every
  member of every room is a sid `generate` produced; hence `polling_transport_info` and
  `drop_client` never panic, and the event loop never dies.
* `join_before_register`: a room member need not be a key of the client table.  The
  connect callback runs, and may join a room, before the client is registered;
  `SocketIo.Server.Members` proves that this client is the only exception.
* `emit_before_handshake`: the connect callback's `emit` reaches the wire before the
  handshake of the same connection.
* `rebind_after_close`: after a session is closed, its next `OnOpen` rebinds it to the
  sid of the closed session, without a CONNECT.
-/
import SocketIo.Server.Tables

namespace SocketIo

namespace Server

/-- `PacketType`: the packet types of the protocol (`packet.rs` is not in the source). -/
inductive PacketType where
  | connect | disconnect | event | ack | connectError | binaryEvent | binaryAck
deriving DecidableEq

/-- An inbound Socket.IO packet as `handle_connect` reads it: its type and namespace. -/
structure Packet where
  ptype : PacketType
  nsp : NameSpace
deriving DecidableEq

/-- `Payload`: a string or bytes. -/
inductive Payload where
  | string (s : RString)
  | binary (bytes : List UInt8)
deriving DecidableEq

/-- `Event`: the name an event is dispatched on. -/
abbrev Event := RString

/-- A packet the server writes to a `RawSocket`: the CONNECT packet
`handshake(json!({ "sid": sid }))` answering a new connection; an event from `emit`, or
from `emit_with_ack` with its timeout in milliseconds; an `ack`; a `disconnect`. -/
inductive Sent where
  | handshake (nsp : NameSpace) (sid : Sid)
  | event (nsp : NameSpace) (event : Event) (data : Payload) (ackTimeout : Option Nat)
  | ack (nsp : NameSpace) (id : Nat) (data : Payload)
  | disconnect (nsp : NameSpace)
deriving DecidableEq

/-- A task `emit_to` or `emit_to_with_ack` spawned that has not yet written its packet. -/
structure Spawned where
  client : Client
  event : Event
  data : Payload
  ackTimeout : Option Nat
deriving DecidableEq

/-- Where `insert_clients` is after building the client: awaiting the connect callback,
about to send the handshake (the poll task is spawned), or about to write the table. -/
inductive Stage where
  | callback | handshake | register
deriving DecidableEq

/-- Where the engine-event loop of `recv_event` is: waiting for an event; in
`handle_connect`, which has generated `sid` and polls connection `conn` for a CONNECT;
in `insert_clients` after it built `client`; in `drop_client`, which has written the
client table and not yet the rooms; or gone, after a `decode` in
`polling_transport_info` or `drop_client` panicked. -/
inductive Loop where
  | idle
  | connecting (esid : EngineSid) (conn : Nat) (sid : Sid)
  | inserting (client : Client) (handshake : Bool) (stage : Stage)
  | dropping (esid : EngineSid)
  | panicked
deriving DecidableEq

end Server

/-- The server's state.  `namespaces` are the keys of `Server::on`, the namespaces with
an event table; `conns` counts the `RawSocket`s built, each client writing to the one
it was built with. -/
structure Server (w : Nat) where
  namespaces : List NameSpace
  rooms : Rooms
  clients : Clients
  sidGenerator : SidGenerator w
  loop : Server.Loop
  sockets : List Server.Client
  conns : Nat
  spawned : List Server.Spawned
  sent : List (Nat × Server.Sent)

namespace Server

/-- What a callback can do through the `Client` it holds: `join`, `leave`, `emit`, `ack`,
`disconnect`, and `emit_to`, or `emit_to_with_ack` with a timeout. -/
inductive Call where
  | join (rooms : List Room)
  | leave (rooms : List Room)
  | emit (event : Event) (data : Payload)
  | ack (id : Nat) (data : Payload)
  | disconnect
  | emitTo (rooms : List Room) (event : Event) (data : Payload) (ackTimeout : Option Nat)

/-- The atomic step of one task.  The event loop's steps: `EngineEvent::OnOpen(esid)`,
with whether the engine still has its socket; a packet, or the `None` or error that ends
`handle_connect`'s loop, from the connection it polls; the stages of `insert_clients`,
whose handshake write succeeds (`handshake`) or fails (`handshakeFailed`);
`EngineEvent::OnClose(esid)`, at which `drop_client` writes the client table, and its
write of the rooms.  The other tasks' steps: a callback holding the `i`-th client built
makes a call through it; the `j`-th pending spawned task writes its packet, or its emit
fails and it only logs the error (`emitFailed`). -/
inductive Action where
  | onOpen (esid : EngineSid) (present : Bool)
  | packet (p : Packet)
  | streamEnd
  | callbackDone
  | handshake
  | handshakeFailed
  | register
  | onClose (esid : EngineSid)
  | retainRooms
  | call (i : Nat) (call : Call)
  | runSpawned (j : Nat)
  | emitFailed (j : Nat)

variable {w : Nat}

/-- A packet written to a client's connection. -/
def send (srv : Server w) (c : Client) (p : Sent) : Server w :=
  { srv with sent := srv.sent ++ [(c.conn, p)] }

/-- `insert_clients` up to its first await: with an event table for the namespace, build
the client, whose connect callback runs from here on; without one, do nothing. -/
def insertClients (srv : Server w) (conn : Nat) (nsp : NameSpace) (sid : Sid) (handshake : Bool) :
    Server w :=
  if nsp ∈ srv.namespaces then
    { srv with sockets := srv.sockets ++ [⟨sid, nsp, conn⟩],
               loop := .inserting ⟨sid, nsp, conn⟩ handshake .callback }
  else { srv with loop := .idle }

/-- `create_client`: rebind the session to the sid `polling_transport_info` finds, or
generate a sid and wait for a CONNECT (`handle_connect`). -/
def createClient (srv : Server w) (esid : EngineSid) (present : Bool) : Server w :=
  if present then
    let srv' := { srv with conns := srv.conns + 1 }
    match pollingTransportInfo srv.clients esid with
    | some (some (sid, nsp)) => srv'.insertClients srv.conns nsp sid false
    | some none =>
      { srv' with sidGenerator := (srv.sidGenerator.generate esid).2,
                  loop := .connecting esid srv.conns (srv.sidGenerator.generate esid).1 }
    | none => { srv' with loop := .panicked }
  else srv

/-- One packet of `handle_connect`'s loop: a CONNECT starts `insert_clients` with the
generated sid, anything else is skipped. -/
def handleConnect (srv : Server w) (conn : Nat) (sid : Sid) (p : Packet) : Server w :=
  if p.ptype = .connect then srv.insertClients conn p.nsp sid true else srv

/-- The last step of `insert_clients`: the client table gets `{nsp: client}` under the sid. -/
def registerClient (srv : Server w) (c : Client) : Server w :=
  { srv with clients := srv.clients.insert c.sid (.singleton c.nsp c), loop := .idle }

/-- A call through client `c`. -/
def call (srv : Server w) (c : Client) : Call → Server w
  | .join names => { srv with rooms := join srv.rooms c.nsp names c.sid }
  | .leave names => { srv with rooms := leave srv.rooms c.nsp names c.sid }
  | .emit ev data => srv.send c (.event c.nsp ev data none)
  | .ack id data => srv.send c (.ack c.nsp id data)
  | .disconnect => srv.send c (.disconnect c.nsp)
  | .emitTo names ev data timeout =>
    { srv with spawned := srv.spawned ++
        (recipients srv.rooms srv.clients c.nsp names).map fun r => ⟨r.2, ev, data, timeout⟩ }

/-- One step. -/
def step (srv : Server w) : Action → Option (Server w)
  | .onOpen esid present =>
    match srv.loop with
    | .idle => some (srv.createClient esid present)
    | _ => none
  | .packet p =>
    match srv.loop with
    | .connecting _ conn sid => some (srv.handleConnect conn sid p)
    | _ => none
  | .streamEnd =>
    match srv.loop with
    | .connecting .. => some { srv with loop := .idle }
    | _ => none
  | .callbackDone =>
    match srv.loop with
    | .inserting c hs .callback => some { srv with loop := .inserting c hs .handshake }
    | _ => none
  | .handshake =>
    match srv.loop with
    | .inserting c hs .handshake =>
      some { srv with sent := srv.sent ++ (if hs then [(c.conn, .handshake c.nsp c.sid)] else []),
                      loop := .inserting c hs .register }
    | _ => none
  | .handshakeFailed =>
    match srv.loop with
    | .inserting c true .handshake => some { srv with loop := .inserting c true .register }
    | _ => none
  | .register =>
    match srv.loop with
    | .inserting c _ .register => some (srv.registerClient c)
    | _ => none
  | .onClose esid =>
    match srv.loop with
    | .idle => some { srv with clients := srv.clients.remove esid, loop := .dropping esid }
    | _ => none
  | .retainRooms =>
    match srv.loop with
    | .dropping esid =>
      match Server.retainRooms srv.rooms esid with
      | some rooms => some { srv with rooms, loop := .idle }
      | none => some { srv with loop := .panicked }
    | _ => none
  | .call i k => srv.sockets[i]?.map (srv.call · k)
  | .runSpawned j =>
    srv.spawned[j]?.map fun t =>
      { srv.send t.client (.event t.client.nsp t.event t.data t.ackTimeout) with
        spawned := srv.spawned.eraseIdx j }
  | .emitFailed j => srv.spawned[j]?.map fun _ => { srv with spawned := srv.spawned.eraseIdx j }

/-- A fresh server with event tables for `namespaces`. -/
def init (namespaces : List NameSpace) : Server w :=
  ⟨namespaces, .empty, .empty, ⟨0⟩, .idle, [], 0, [], []⟩

/-- Steps in order, `none` if one cannot be taken. -/
def run (srv : Server w) (acts : List Action) : Option (Server w) :=
  acts.foldlM step srv

/-- The states some interleaving reaches from a fresh server. -/
inductive Reachable : Server w → Prop
  | init (namespaces : List NameSpace) : Reachable (init namespaces)
  | step {srv srv' : Server w} {a : Action} : Reachable srv → srv.step a = some srv' → Reachable srv'

theorem run_cons_eq_some {srv srv' : Server w} {a : Action} {acts : List Action} :
    run srv (a :: acts) = some srv' ↔ ∃ s, srv.step a = some s ∧ run s acts = some srv' := by
  simp only [run, List.foldlM_cons, Option.bind_eq_bind, Option.bind_eq_some]

theorem reachable_run {srv srv' : Server w} (h : Reachable srv) :
    ∀ {acts : List Action}, run srv acts = some srv' → Reachable srv'
  | [], hr => by cases hr; exact h
  | _ :: _, hr =>
    let ⟨_, hs, hr⟩ := run_cons_eq_some.mp hr
    reachable_run (h.step hs) hr

/-- Session `e` connects on `/`, its connect callback joins room `r`, and
`insert_clients` sends the handshake and registers the client. -/
def joinRegistered : List Action :=
  [.onOpen (.lit "e" (by decide)) true, .packet ⟨.connect, .lit "/" (by decide)⟩,
    .call 0 (.join [.lit "r" (by decide)]), .callbackDone, .handshake, .register]

/-- The state `joinRegistered` leaves a server with an event table for `/` in. -/
def registered : Server 64 := (run (init [.lit "/" (by decide)]) joinRegistered).getD (init [])

theorem run_joinRegistered : run (init [.lit "/" (by decide)]) joinRegistered = some registered := rfl

theorem reachable_registered : Reachable registered := reachable_run (.init _) run_joinRegistered

/-! ## What each step does

One lemma per step says which state it produces and under which guard; the field
lemmas after it say which fields a helper leaves alone.  The invariant proofs below
cite these and never unfold `step`. -/

theorem step_onOpen {srv srv' : Server w} {esid : EngineSid} {present : Bool}
    (h : srv.step (.onOpen esid present) = some srv') :
    srv.loop = .idle ∧ srv' = srv.createClient esid present := by
  simp only [step] at h
  split at h <;> first | exact ⟨‹_›, (Option.some.inj h).symm⟩ | cases h

theorem step_packet {srv srv' : Server w} {p : Packet} (h : srv.step (.packet p) = some srv') :
    ∃ esid conn sid, srv.loop = .connecting esid conn sid ∧ srv' = srv.handleConnect conn sid p := by
  simp only [step] at h
  split at h <;> first | exact ⟨_, _, _, ‹_›, (Option.some.inj h).symm⟩ | cases h

theorem step_streamEnd {srv srv' : Server w} (h : srv.step .streamEnd = some srv') :
    srv' = { srv with loop := .idle } := by
  simp only [step] at h
  split at h <;> first | exact (Option.some.inj h).symm | cases h

theorem step_callbackDone {srv srv' : Server w} (h : srv.step .callbackDone = some srv') :
    ∃ c hs, srv.loop = .inserting c hs .callback ∧ srv' = { srv with loop := .inserting c hs .handshake } := by
  simp only [step] at h
  split at h <;> first | exact ⟨_, _, ‹_›, (Option.some.inj h).symm⟩ | cases h

theorem step_handshake {srv srv' : Server w} (h : srv.step .handshake = some srv') :
    ∃ c hs, srv.loop = .inserting c hs .handshake ∧
      srv' = { srv with sent := srv.sent ++ (if hs then [(c.conn, .handshake c.nsp c.sid)] else []),
                        loop := .inserting c hs .register } := by
  simp only [step] at h
  split at h <;> first | exact ⟨_, _, ‹_›, (Option.some.inj h).symm⟩ | cases h

theorem step_handshakeFailed {srv srv' : Server w} (h : srv.step .handshakeFailed = some srv') :
    ∃ c, srv.loop = .inserting c true .handshake ∧ srv' = { srv with loop := .inserting c true .register } := by
  simp only [step] at h
  split at h <;> first | exact ⟨_, ‹_›, (Option.some.inj h).symm⟩ | cases h

theorem step_register {srv srv' : Server w} (h : srv.step .register = some srv') :
    ∃ c hs, srv.loop = .inserting c hs .register ∧ srv' = srv.registerClient c := by
  simp only [step] at h
  split at h <;> first | exact ⟨_, _, ‹_›, (Option.some.inj h).symm⟩ | cases h

theorem step_onClose {srv srv' : Server w} {esid : EngineSid} (h : srv.step (.onClose esid) = some srv') :
    srv.loop = .idle ∧ srv' = { srv with clients := srv.clients.remove esid, loop := .dropping esid } := by
  simp only [step] at h
  split at h <;> first | exact ⟨‹_›, (Option.some.inj h).symm⟩ | cases h

theorem step_retainRooms {srv srv' : Server w} (h : srv.step .retainRooms = some srv') :
    ∃ esid, srv.loop = .dropping esid ∧
      ((∃ rooms, retainRooms srv.rooms esid = some rooms ∧ srv' = { srv with rooms, loop := .idle }) ∨
       (retainRooms srv.rooms esid = none ∧ srv' = { srv with loop := .panicked })) := by
  simp only [step] at h
  split at h
  · next esid hl =>
    split at h
    · next rooms hr => exact ⟨esid, hl, .inl ⟨rooms, hr, (Option.some.inj h).symm⟩⟩
    · next hr => exact ⟨esid, hl, .inr ⟨hr, (Option.some.inj h).symm⟩⟩
  · cases h

theorem step_call {srv srv' : Server w} {i : Nat} {k : Call} (h : srv.step (.call i k) = some srv') :
    ∃ c ∈ srv.sockets, srv' = srv.call c k := by
  obtain ⟨c, hc, rfl⟩ := Option.map_eq_some'.mp h
  exact ⟨c, List.getElem?_mem hc, rfl⟩

theorem step_runSpawned {srv srv' : Server w} {j : Nat} (h : srv.step (.runSpawned j) = some srv') :
    ∃ t, srv.spawned[j]? = some t ∧
      srv' = { srv.send t.client (.event t.client.nsp t.event t.data t.ackTimeout) with
                spawned := srv.spawned.eraseIdx j } := by
  obtain ⟨t, ht, rfl⟩ := Option.map_eq_some'.mp h
  exact ⟨t, ht, rfl⟩

theorem step_emitFailed {srv srv' : Server w} {j : Nat} (h : srv.step (.emitFailed j) = some srv') :
    ∃ t, srv.spawned[j]? = some t ∧ srv' = { srv with spawned := srv.spawned.eraseIdx j } := by
  obtain ⟨t, ht, rfl⟩ := Option.map_eq_some'.mp h
  exact ⟨t, ht, rfl⟩

section Fields

variable (srv : Server w) (c : Client) (k : Call)

@[simp] theorem call_clients : (srv.call c k).clients = srv.clients := by cases k <;> rfl
@[simp] theorem call_sockets : (srv.call c k).sockets = srv.sockets := by cases k <;> rfl
@[simp] theorem call_loop : (srv.call c k).loop = srv.loop := by cases k <;> rfl
@[simp] theorem call_namespaces : (srv.call c k).namespaces = srv.namespaces := by cases k <;> rfl

/-- A call adds no membership but the calling client's own. -/
theorem call_memberships :
    (srv.call c k).rooms.memberships ⊆ srv.rooms.memberships ∪ {m | m.1 = c.nsp ∧ m.2.2 = c.sid} := by
  intro m hm
  cases k with
  | join names =>
    have hm' : m ∈ (join srv.rooms c.nsp names c.sid).memberships := hm
    rw [join_memberships] at hm'
    rcases hm' with hm' | ⟨h₁, -, h₃⟩
    · exact .inl hm'
    · exact .inr ⟨h₁, h₃⟩
  | leave names =>
    have hm' : m ∈ (leave srv.rooms c.nsp names c.sid).memberships := hm
    rw [leave_memberships] at hm'
    exact .inl hm'.1
  | _ => exact .inl hm

variable (conn : Nat) (nsp : NameSpace) (sid : Sid) (hs : Bool)

@[simp] theorem insertClients_rooms : (srv.insertClients conn nsp sid hs).rooms = srv.rooms := by
  unfold insertClients; split <;> rfl

@[simp] theorem insertClients_clients : (srv.insertClients conn nsp sid hs).clients = srv.clients := by
  unfold insertClients; split <;> rfl

@[simp] theorem insertClients_sent : (srv.insertClients conn nsp sid hs).sent = srv.sent := by
  unfold insertClients; split <;> rfl

@[simp] theorem handleConnect_sent (p : Packet) : (srv.handleConnect conn sid p).sent = srv.sent := by
  unfold handleConnect; split <;> simp

@[simp] theorem insertClients_namespaces :
    (srv.insertClients conn nsp sid hs).namespaces = srv.namespaces := by
  unfold insertClients; split <;> rfl

@[simp] theorem createClient_clients (esid : EngineSid) (present : Bool) :
    (srv.createClient esid present).clients = srv.clients := by
  unfold createClient; split
  · split <;> simp
  · rfl

@[simp] theorem handleConnect_clients (p : Packet) : (srv.handleConnect conn sid p).clients = srv.clients := by
  unfold handleConnect; split <;> simp

theorem insertClients_built :
    ((srv.insertClients conn nsp sid hs).sockets = srv.sockets ∧
      (srv.insertClients conn nsp sid hs).loop = .idle) ∨
    (nsp ∈ srv.namespaces ∧ (srv.insertClients conn nsp sid hs).sockets = srv.sockets ++ [⟨sid, nsp, conn⟩] ∧
      (srv.insertClients conn nsp sid hs).loop = .inserting ⟨sid, nsp, conn⟩ hs .callback) := by
  unfold insertClients; split
  · exact .inr ⟨‹_›, rfl, rfl⟩
  · exact .inl ⟨rfl, rfl⟩

end Fields

/-! ## Every table entry was generated -/

/-- A sid `SidGenerator::generate` returned. -/
def Generated (w : Nat) (sid : Sid) : Prop := ∃ (g : SidGenerator w) (e : EngineSid), sid = (g.generate e).1

theorem decode_generated {sid : Sid} (h : Generated w sid) : (SidGenerator.decode sid).isSome := by
  obtain ⟨g, e, rfl⟩ := h
  exact decode_sidOf_isSome e _

/-- The invariant of every reachable state: every client built, key of the client table
and sid the event loop holds was generated; every membership belongs to a client built;
the event loop has not panicked. -/
structure Inv (srv : Server w) : Prop where
  sockets : ∀ c ∈ srv.sockets, Generated w c.sid
  keys : ∀ k ∈ srv.clients.keys, Generated w k
  rooms : ∀ m ∈ srv.rooms.memberships, ∃ c ∈ srv.sockets, c.sid = m.2.2 ∧ c.nsp = m.1
  connecting : ∀ esid conn sid, srv.loop = .connecting esid conn sid → Generated w sid
  inserting : ∀ c hs st, srv.loop = .inserting c hs st → c ∈ srv.sockets
  live : srv.loop ≠ .panicked

namespace Inv

variable {srv : Server w}

/-- The invariant reads four fields; it survives a change that keeps three of them and
whose rooms hold only memberships of clients built. -/
theorem of_rooms {srv' : Server w} (hi : Inv srv) (h₁ : srv'.sockets = srv.sockets)
    (h₂ : srv'.clients = srv.clients) (h₄ : srv'.loop = srv.loop)
    (h₃ : ∀ m ∈ srv'.rooms.memberships, ∃ c ∈ srv.sockets, c.sid = m.2.2 ∧ c.nsp = m.1) : Inv srv' :=
  ⟨h₁ ▸ hi.sockets, h₂ ▸ hi.keys, h₁ ▸ h₃, h₄ ▸ hi.connecting, h₁ ▸ h₄ ▸ hi.inserting, h₄ ▸ hi.live⟩

theorem of_eq {srv' : Server w} (hi : Inv srv) (h₁ : srv'.sockets = srv.sockets)
    (h₂ : srv'.clients = srv.clients) (h₃ : srv'.rooms = srv.rooms) (h₄ : srv'.loop = srv.loop) :
    Inv srv' :=
  hi.of_rooms h₁ h₂ h₄ (h₃ ▸ hi.rooms)

theorem members {srv : Server w} (hi : Inv srv) : ∀ sid ∈ srv.rooms.members, Generated w sid := by
  intro sid hs
  obtain ⟨nsp, room, hm⟩ := Rooms.mem_members.mp hs
  obtain ⟨c, hc, rfl, -⟩ := hi.rooms _ hm
  exact hi.sockets c hc

theorem call (hi : Inv srv) {c : Client} (hc : c ∈ srv.sockets) (k : Call) : Inv (srv.call c k) :=
  hi.of_rooms (call_sockets ..) (call_clients ..) (call_loop ..) fun m hm =>
    (call_memberships srv c k hm).elim (hi.rooms m) fun ⟨h₁, h₂⟩ => ⟨c, hc, h₂.symm, h₁.symm⟩

/-- Building a client for a generated sid keeps the invariant, from any loop state. -/
theorem insertClients (hi : Inv srv) {conn : Nat} {nsp : NameSpace} {sid : Sid} (hs : Bool)
    (hg : Generated w sid) : Inv (srv.insertClients conn nsp sid hs) := by
  unfold Server.insertClients
  split
  · refine ⟨fun c hc => ?_, hi.keys, fun m hm => ?_, nofun, ?_, nofun⟩
    · rcases List.mem_append.mp hc with hc | hc
      · exact hi.sockets c hc
      · exact List.mem_singleton.mp hc ▸ hg
    · obtain ⟨c, hc, h⟩ := hi.rooms m hm
      exact ⟨c, List.mem_append_left _ hc, h⟩
    · rintro c hs' st ⟨⟩; exact List.mem_append_right _ (List.mem_singleton_self _)
  · exact ⟨hi.sockets, hi.keys, hi.rooms, nofun, nofun, nofun⟩

theorem createClient (hi : Inv srv) (esid : EngineSid) (present : Bool) :
    Inv (srv.createClient esid present) := by
  unfold Server.createClient
  split
  · have hsome := pollingTransportInfo_go_isSome srv.clients esid fun k hk => decode_generated (hi.keys k hk)
    split
    · next sid nsp hp =>
      have hi' : Inv ({ srv with conns := srv.conns + 1 } : Server w) := hi.of_eq rfl rfl rfl rfl
      exact hi'.insertClients false
        (hi.keys sid (pollingTransportInfo_go_found srv.clients esid hp).1)
    · exact ⟨hi.sockets, hi.keys, hi.rooms, by rintro _ _ _ ⟨⟩; exact ⟨_, _, rfl⟩, nofun, nofun⟩
    · next hp => exact absurd hsome (by simp only [pollingTransportInfo] at hp; simp [hp])
  · exact hi

theorem registerClient (hi : Inv srv) {c : Client} (hc : c ∈ srv.sockets) : Inv (srv.registerClient c) := by
  refine ⟨hi.sockets, ?_, hi.rooms, nofun, nofun, nofun⟩
  intro k hk
  rcases HashMap.mem_keys_insert.mp hk with rfl | hk
  · exact hi.sockets c hc
  · exact hi.keys k hk

/-- One step keeps the invariant. -/
theorem step (hi : Inv srv) {a : Action} {srv' : Server w} (h : srv.step a = some srv') : Inv srv' := by
  cases a with
  | onOpen esid present => obtain ⟨-, rfl⟩ := step_onOpen h; exact hi.createClient esid present
  | packet p =>
    obtain ⟨esid, conn, sid, hl, rfl⟩ := step_packet h
    unfold handleConnect; split
    · exact hi.insertClients true (hi.connecting _ _ _ hl)
    · exact hi
  | streamEnd =>
    obtain rfl := step_streamEnd h
    exact ⟨hi.sockets, hi.keys, hi.rooms, nofun, nofun, nofun⟩
  | callbackDone =>
    obtain ⟨c, hs, hl, rfl⟩ := step_callbackDone h
    exact ⟨hi.sockets, hi.keys, hi.rooms, nofun, by rintro _ _ _ ⟨⟩; exact hi.inserting _ _ _ hl, nofun⟩
  | handshake =>
    obtain ⟨c, hs, hl, rfl⟩ := step_handshake h
    exact ⟨hi.sockets, hi.keys, hi.rooms, nofun, by rintro _ _ _ ⟨⟩; exact hi.inserting _ _ _ hl, nofun⟩
  | handshakeFailed =>
    obtain ⟨c, hl, rfl⟩ := step_handshakeFailed h
    exact ⟨hi.sockets, hi.keys, hi.rooms, nofun, by rintro _ _ _ ⟨⟩; exact hi.inserting _ _ _ hl, nofun⟩
  | register =>
    obtain ⟨c, hs, hl, rfl⟩ := step_register h
    exact hi.registerClient (hi.inserting _ _ _ hl)
  | onClose esid =>
    obtain ⟨-, rfl⟩ := step_onClose h
    exact ⟨hi.sockets, fun k hk => hi.keys k (HashMap.mem_keys_remove.mp hk).2, hi.rooms, nofun,
      nofun, nofun⟩
  | retainRooms =>
    obtain ⟨esid, -, ⟨rooms, hr, rfl⟩ | ⟨hr, -⟩⟩ := step_retainRooms h
    · have hm := (retainRooms_memberships hr).1
      refine ⟨hi.sockets, hi.keys, fun m hm' => hi.rooms m ?_, nofun, nofun, nofun⟩
      rw [hm] at hm'; exact hm'.1
    · rw [retainRooms_isSome esid fun sid hs => decode_generated (hi.members sid hs)] at hr; cases hr
  | call i k => obtain ⟨c, hc, rfl⟩ := step_call h; exact hi.call hc k
  | runSpawned j => obtain ⟨t, -, rfl⟩ := step_runSpawned h; exact hi.of_eq rfl rfl rfl rfl
  | emitFailed j => obtain ⟨t, -, rfl⟩ := step_emitFailed h; exact hi.of_eq rfl rfl rfl rfl

end Inv

theorem inv_init (namespaces : List NameSpace) : Inv (init namespaces : Server w) :=
  ⟨nofun, nofun, by simp [init, Rooms.memberships, Rooms.sids?], nofun, nofun, nofun⟩

theorem Reachable.inv {srv : Server w} (h : Reachable srv) : Inv srv := by
  induction h with
  | init namespaces => exact inv_init namespaces
  | step _ hs ih => exact ih.step hs

/-- The sids of the tables are generated ones: every key of the client table and
every member of a room is a sid `generate` returned, `decode` succeeds on every sid
`generate` returns, neither `polling_transport_info` nor `drop_client` panics on any
engine sid, and the event loop is alive. -/
def GeneratedTables (srv : Server w) : Prop :=
  (∀ k ∈ srv.clients.keys, Generated w k) ∧ (∀ sid ∈ srv.rooms.members, Generated w sid) ∧
  (∀ (g : SidGenerator w) (e : EngineSid), (SidGenerator.decode (g.generate e).1).isSome) ∧
  (∀ esid, (pollingTransportInfo srv.clients esid).isSome ∧
    (dropClient srv.clients srv.rooms esid).isSome) ∧
  srv.loop ≠ .panicked

theorem reachable_generated {srv : Server w} (h : Reachable srv) : GeneratedTables srv := by
  have hi := h.inv
  refine ⟨hi.keys, hi.members, fun g e => decode_sidOf_isSome e _, fun esid => ⟨?_, ?_⟩, hi.live⟩
  · exact pollingTransportInfo_go_isSome srv.clients esid fun k hk => decode_generated (hi.keys k hk)
  · simp [dropClient, retainRooms_isSome esid fun sid hs => decode_generated (hi.members sid hs)]

/-- The sid `registered` holds is in its client table and in a room, both generated. -/
theorem generatedTables_registered :
    Reachable registered ∧ GeneratedTables registered ∧
      sidOf (.lit "e" (by decide)) 0 ∈ registered.clients.keys ∧
      sidOf (.lit "e" (by decide)) 0 ∈ registered.rooms.members :=
  ⟨reachable_registered, reachable_generated reachable_registered, by decide, by decide⟩

/-! ## Runs the code can take -/

/-- A property of the state a run from a fresh server ends in, read off by evaluating
the run, holds of a reachable state. -/
theorem exists_reachable_of_run (namespaces : List NameSpace) (acts : List Action)
    (p : Server w → Bool) (h : (run (init namespaces) acts).map p = some true) :
    ∃ srv : Server w, Reachable srv ∧ p srv = true := by
  obtain ⟨srv, hs, hp⟩ := Option.map_eq_some'.mp h
  exact ⟨srv, reachable_run (.init namespaces) hs, hp⟩

/-- The connect callback joins a room before `insert_clients` writes the client table:
a reachable state has a room member with no client in the namespace. -/
theorem join_before_register :
    ∃ srv : Server 64, Reachable srv ∧
      ∃ m ∈ srv.rooms.memberships, client srv.clients m.2.2 m.1 = none := by
  obtain ⟨srv, hr, hp⟩ := exists_reachable_of_run [.lit "/" (by decide)]
    [.onOpen (.lit "e" (by decide)) true, .packet ⟨.connect, .lit "/" (by decide)⟩,
      .call 0 (.join [.lit "r" (by decide)])]
    (fun srv : Server 64 => decide (((.lit "/" (by decide) : NameSpace), (.lit "r" (by decide) : Room),
        sidOf (.lit "e" (by decide)) 0) ∈
        srv.rooms.memberships) && (client srv.clients (sidOf (.lit "e" (by decide)) 0) (.lit "/" (by decide))).isNone)
    (by decide)
  simp only [Bool.and_eq_true, decide_eq_true_eq, Option.isNone_iff_eq_none] at hp
  exact ⟨srv, hr, _, hp.1, hp.2⟩

/-- A new connection on `/` whose connect callback emits at once: the event is written to
the connection before the CONNECT handshake. -/
theorem emit_before_handshake :
    let e : EngineSid := .lit "e" (by decide)
    let nsp : NameSpace := .lit "/" (by decide)
    let ev : Event := .lit "test" (by decide)
    ((run (init [nsp] : Server 64) [.onOpen e true, .packet ⟨.connect, nsp⟩,
        .call 0 (.emit ev (.string ev)), .callbackDone, .handshake, .register]).map (·.sent)) =
      some [(0, .event nsp ev (.string ev) none), (0, .handshake nsp (sidOf e 0))] := by
  decide

/-- Session `e` connects on `/`, closes, and opens again: the second `OnOpen` rebinds
it, without a handshake, to the sid generated for the closed session. -/
theorem rebind_after_close :
    let e : EngineSid := .lit "e" (by decide)
    let nsp : NameSpace := .lit "/" (by decide)
    ((run (init [nsp] : Server 64) [.onOpen e true, .packet ⟨.connect, nsp⟩, .callbackDone,
        .handshake, .register, .onClose e, .retainRooms, .onOpen e true]).map (·.loop)) =
      some (.inserting ⟨sidOf e 0, nsp, 1⟩ false .callback) := by
  decide

end Server

end SocketIo
