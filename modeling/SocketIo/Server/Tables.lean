/-
# `SocketIo.Server.Tables` — the server's rooms index and client table

`Server` keeps two tables behind `RwLock`s:

    rooms   : HashMap<NameSpace, HashMap<Room, HashSet<Sid>>>
    clients : HashMap<Sid, HashMap<NameSpace, Client>>

This file models the functions that read and write them, each as the source computes
it: `Server::join` and `Server::leave`, `sids_to_emit` and `client` (the two halves of
`emit_to`), `polling_transport_info`, and the two writes of `drop_client`.  How these
calls interleave with each other and with the engine's events is
`SocketIo.Server.Machine`.

## What is proved

* **join and leave refine set operations.**  Read the rooms index as its set of
  memberships `(nsp, room, sid)` and its set of existing rooms `(nsp, room)`.  Then
  `join` adds the memberships and rooms it names and `leave` removes the memberships and
  no room (`join_memberships`, `join_existing`, `leave_memberships`, `leave_existing`),
  for every index, every list of names with repeats, and each of the three branches of
  `join`.
* **Whom `emit_to` reaches.**  When the namespace has an entry in the rooms index, the
  recipients are each sid of a named room, and each name that is not a room taken as a
  sid, that has a client in the namespace, once each (`recipients_of_get?`).  When it
  has no entry, nobody is reached, not even a sid named directly
  (`recipients_no_rooms`): the guard `if let Some(room_clients) = clients.get(nsp)`
  encloses the direct-send branch too.
* **What `drop_client` removes.**  Its rooms pass removes exactly the memberships whose
  sid decodes to the engine sid (`retainRooms_memberships`); its clients pass removes
  the entry keyed by the engine sid itself, and clients are keyed by socket.io sids, so
  the client generated for a session survives its close (`dropClient_keeps_client`).
-/
import SocketIo.Server.Sid
import SocketIo.Collections
import Mathlib.Data.Set.Basic

namespace SocketIo

/-- A namespace, such as `/admin`. -/
abbrev NameSpace := RString

/-- A room name. -/
abbrev Room := RString

/-- `server::Client`: the sid and namespace it serves, and the `RawSocket` it writes to,
named by the number of the connection. -/
structure Server.Client where
  sid : Sid
  nsp : NameSpace
  conn : Nat
deriving DecidableEq

/-- `Rooms`: namespace, then room, then the sids in it. -/
abbrev Rooms := HashMap NameSpace (HashMap Room (HashSet Sid))

/-- The client table: sid, then namespace, then the client. -/
abbrev Clients := HashMap Sid (HashMap NameSpace Server.Client)

namespace Rooms

/-- The sids of a room, if the namespace has it. -/
def sids? (rooms : Rooms) (nsp : NameSpace) (room : Room) : Option (HashSet Sid) :=
  (rooms.get? nsp).bind (·.get? room)

/-- The rooms index read as its memberships. -/
def memberships (rooms : Rooms) : Set (NameSpace × Room × Sid) :=
  {m | ∃ ss, rooms.sids? m.1 m.2.1 = some ss ∧ m.2.2 ∈ ss}

/-- The rooms index read as the rooms it holds. -/
def existing (rooms : Rooms) : Set (NameSpace × Room) :=
  {r | (rooms.sids? r.1 r.2).isSome}

instance (rooms : Rooms) (m : NameSpace × Room × Sid) : Decidable (m ∈ rooms.memberships) :=
  match h : rooms.sids? m.1 m.2.1 with
  | some ss =>
    if hs : m.2.2 ∈ ss then isTrue ⟨ss, h, hs⟩
    else isFalse fun ⟨ss', h', hs'⟩ => hs (by rw [h] at h'; cases h'; exact hs')
  | none => isFalse fun ⟨_, h', _⟩ => by rw [h] at h'; cases h'

/-- Every sid the index holds, with repeats. -/
def members (rooms : Rooms) : List Sid :=
  rooms.values.flatMap fun nspRooms => nspRooms.values.flatMap (·.elems)

theorem mem_members {rooms : Rooms} {sid : Sid} :
    sid ∈ rooms.members ↔ ∃ nsp room, (nsp, room, sid) ∈ rooms.memberships := by
  simp only [members, List.mem_flatMap, HashMap.mem_values, HashSet.mem_elems, memberships,
    Set.mem_setOf_eq, sids?, Option.bind_eq_some]
  constructor
  · rintro ⟨nr, ⟨nsp, hn⟩, ss, ⟨room, hr⟩, hs⟩; exact ⟨nsp, room, ss, ⟨nr, hn, hr⟩, hs⟩
  · rintro ⟨nsp, room, ss, ⟨nr, hn, hr⟩, hs⟩; exact ⟨nr, ⟨nsp, hn⟩, ss, ⟨room, hr⟩, hs⟩

end Rooms

/-! ## `Server::join` and `Server::leave` -/

namespace Server

/-- One room of `join`'s loop: create the namespace, or the room, or add to the room. -/
def joinOne (nsp : NameSpace) (sid : Sid) (rooms : Rooms) (roomName : Room) : Rooms :=
  match rooms.get? nsp with
  | none => rooms.insert nsp (.singleton roomName (.singleton sid))
  | some nspRooms =>
    match nspRooms.get? roomName with
    | some roomSids => rooms.insert nsp (nspRooms.insert roomName (roomSids.insert sid))
    | none => rooms.insert nsp (nspRooms.insert roomName (.singleton sid))

/-- `Server::join`. -/
def join (rooms : Rooms) (nsp : NameSpace) (roomNames : List Room) (sid : Sid) : Rooms :=
  roomNames.foldl (joinOne nsp sid) rooms

/-- One room of `leave`'s loop. -/
def leaveOne (nsp : NameSpace) (sid : Sid) (rooms : Rooms) (roomName : Room) : Rooms :=
  match rooms.get? nsp with
  | some nspRooms =>
    match nspRooms.get? roomName with
    | some roomSids => rooms.insert nsp (nspRooms.insert roomName (roomSids.remove sid))
    | none => rooms
  | none => rooms

/-- `Server::leave`. -/
def leave (rooms : Rooms) (nsp : NameSpace) (roomNames : List Room) (sid : Sid) : Rooms :=
  roomNames.foldl (leaveOne nsp sid) rooms

/-- The three branches of `joinOne` agree: the named room gains the sid, nothing else
changes. -/
theorem sids?_joinOne (nsp : NameSpace) (sid : Sid) (rooms : Rooms) (r n : NameSpace) (r' : Room) :
    (joinOne nsp sid rooms r).sids? n r' =
      if n = nsp ∧ r' = r then some (((rooms.sids? nsp r).getD .empty).insert sid)
      else rooms.sids? n r' := by
  unfold joinOne
  split
  · next h =>
    by_cases hn : n = nsp <;> by_cases hr : r' = r <;>
      simp [Rooms.sids?, h, hn, hr, HashSet.singleton]
  · next nspRooms h =>
    split <;> next h' =>
      by_cases hn : n = nsp <;> by_cases hr : r' = r <;>
        simp [Rooms.sids?, h, h', hn, hr, HashSet.singleton]

theorem sids?_leaveOne (nsp : NameSpace) (sid : Sid) (rooms : Rooms) (r n : NameSpace) (r' : Room) :
    (leaveOne nsp sid rooms r).sids? n r' =
      if n = nsp ∧ r' = r then (rooms.sids? nsp r).map (·.remove sid) else rooms.sids? n r' := by
  unfold leaveOne
  split
  · next nspRooms h =>
    split <;> next h' =>
      by_cases hn : n = nsp <;> by_cases hr : r' = r <;> simp_all [Rooms.sids?]
  · next h => by_cases hn : n = nsp <;> simp_all [Rooms.sids?]

theorem memberships_joinOne (nsp : NameSpace) (sid : Sid) (rooms : Rooms) (r : Room) :
    (joinOne nsp sid rooms r).memberships = rooms.memberships ∪ {(nsp, r, sid)} := by
  ext ⟨n, r', t⟩
  simp only [Rooms.memberships, Set.mem_setOf_eq, Set.mem_union, Set.mem_singleton_iff,
    Prod.mk.injEq, sids?_joinOne]
  by_cases h : n = nsp ∧ r' = r
  · obtain ⟨rfl, rfl⟩ := h
    cases hs : rooms.sids? n r' <;> simp [hs, or_comm]
  · simp only [h, if_false]
    constructor
    · exact .inl
    · rintro (h' | ⟨rfl, rfl, -⟩)
      · exact h'
      · exact absurd ⟨rfl, rfl⟩ h

theorem existing_joinOne (nsp : NameSpace) (sid : Sid) (rooms : Rooms) (r : Room) :
    (joinOne nsp sid rooms r).existing = rooms.existing ∪ {(nsp, r)} := by
  ext ⟨n, r'⟩
  simp only [Rooms.existing, Set.mem_setOf_eq, Set.mem_union, Set.mem_singleton_iff,
    Prod.mk.injEq, sids?_joinOne]
  by_cases h : n = nsp ∧ r' = r
  · simp [h]
  · simp [h]

theorem memberships_leaveOne (nsp : NameSpace) (sid : Sid) (rooms : Rooms) (r : Room) :
    (leaveOne nsp sid rooms r).memberships = rooms.memberships \ {(nsp, r, sid)} := by
  ext ⟨n, r', t⟩
  simp only [Rooms.memberships, Set.mem_setOf_eq, Set.mem_diff, Set.mem_singleton_iff,
    Prod.mk.injEq, sids?_leaveOne]
  by_cases h : n = nsp ∧ r' = r
  · obtain ⟨rfl, rfl⟩ := h
    cases hs : rooms.sids? n r' <;> simp [hs, and_comm]
  · simp only [h, if_false]
    exact ⟨fun h' => ⟨h', fun ⟨h₁, h₂, _⟩ => h ⟨h₁, h₂⟩⟩, And.left⟩

theorem existing_leaveOne (nsp : NameSpace) (sid : Sid) (rooms : Rooms) (r : Room) :
    (leaveOne nsp sid rooms r).existing = rooms.existing := by
  ext ⟨n, r'⟩
  simp only [Rooms.existing, Set.mem_setOf_eq, sids?_leaveOne]
  split
  · next h => obtain ⟨rfl, rfl⟩ := h; simp
  · rfl

/-- What `join` adds: the memberships it names. -/
def joined (nsp : NameSpace) (roomNames : List Room) (sid : Sid) : Set (NameSpace × Room × Sid) :=
  {m | m.1 = nsp ∧ m.2.1 ∈ roomNames ∧ m.2.2 = sid}

theorem join_memberships (rooms : Rooms) (nsp : NameSpace) (roomNames : List Room) (sid : Sid) :
    (join rooms nsp roomNames sid).memberships = rooms.memberships ∪ joined nsp roomNames sid := by
  induction roomNames generalizing rooms with
  | nil => ext; simp [join, joined]
  | cons r rs ih =>
    simp only [join, List.foldl_cons] at ih ⊢
    rw [ih, memberships_joinOne]
    ext ⟨n, r', t⟩
    simp only [joined, Set.mem_union, Set.mem_singleton_iff, Set.mem_setOf_eq, Prod.mk.injEq,
      List.mem_cons]
    tauto

theorem join_existing (rooms : Rooms) (nsp : NameSpace) (roomNames : List Room) (sid : Sid) :
    (join rooms nsp roomNames sid).existing = rooms.existing ∪ {r | r.1 = nsp ∧ r.2 ∈ roomNames} := by
  induction roomNames generalizing rooms with
  | nil => ext; simp [join]
  | cons r rs ih =>
    simp only [join, List.foldl_cons] at ih ⊢
    rw [ih, existing_joinOne]
    ext ⟨n, r'⟩
    simp only [Set.mem_union, Set.mem_singleton_iff, Set.mem_setOf_eq, Prod.mk.injEq,
      List.mem_cons]
    tauto

theorem leave_memberships (rooms : Rooms) (nsp : NameSpace) (roomNames : List Room) (sid : Sid) :
    (leave rooms nsp roomNames sid).memberships = rooms.memberships \ joined nsp roomNames sid := by
  induction roomNames generalizing rooms with
  | nil => ext; simp [leave, joined]
  | cons r rs ih =>
    simp only [leave, List.foldl_cons] at ih ⊢
    rw [ih, memberships_leaveOne]
    ext ⟨n, r', t⟩
    simp only [joined, Set.mem_diff, Set.mem_singleton_iff, Set.mem_setOf_eq, Prod.mk.injEq,
      List.mem_cons]
    tauto

theorem leave_existing (rooms : Rooms) (nsp : NameSpace) (roomNames : List Room) (sid : Sid) :
    (leave rooms nsp roomNames sid).existing = rooms.existing := by
  induction roomNames generalizing rooms with
  | nil => rfl
  | cons r rs ih =>
    simp only [leave, List.foldl_cons] at ih ⊢
    rw [ih, existing_leaveOne]

/-- `join` and `leave` against the set reading of the index: join adds the named
memberships and rooms, leave removes the named memberships and keeps every room. -/
theorem join_leave_refine (rooms : Rooms) (nsp : NameSpace) (roomNames : List Room) (sid : Sid) :
    (join rooms nsp roomNames sid).memberships = rooms.memberships ∪ joined nsp roomNames sid ∧
    (join rooms nsp roomNames sid).existing = rooms.existing ∪ {r | r.1 = nsp ∧ r.2 ∈ roomNames} ∧
    (leave rooms nsp roomNames sid).memberships = rooms.memberships \ joined nsp roomNames sid ∧
    (leave rooms nsp roomNames sid).existing = rooms.existing :=
  ⟨join_memberships .., join_existing .., leave_memberships .., leave_existing ..⟩

/-! ## `emit_to`: `sids_to_emit`, then `client` -/

/-- One name of `sids_to_emit`'s loop: the room's sids, or the name itself as a sid. -/
def collectOne (roomClients : HashMap Room (HashSet Sid)) (acc : HashSet Sid) (roomName : Room) :
    HashSet Sid :=
  match roomClients.get? roomName with
  | some room => room.elems.foldl HashSet.insert acc
  | none => acc.insert roomName

/-- `Server::sids_to_emit`. -/
def sidsToEmit (rooms : Rooms) (nsp : NameSpace) (roomNames : List Room) : HashSet Sid :=
  match rooms.get? nsp with
  | some roomClients => roomNames.foldl (collectOne roomClients) .empty
  | none => .empty

/-- `Server::client`: the client of a sid in a namespace. -/
def client (clients : Clients) (sid : Sid) (nsp : NameSpace) : Option Client :=
  (clients.get? sid).bind (·.get? nsp)

/-- The loop `emit_to` and `emit_to_with_ack` share: every sid of `sids_to_emit` that
has a client in the namespace, with that client, in iteration order.  Each spawns one
task per pair. -/
def recipients (rooms : Rooms) (clients : Clients) (nsp : NameSpace) (roomNames : List Room) :
    List (Sid × Client) :=
  (sidsToEmit rooms nsp roomNames).elems.filterMap fun sid => (client clients sid nsp).map (sid, ·)

/-- The sids a broadcast to `roomNames` is documented to address: the sids of each named
room of the namespace, and each name that is not a room of it, taken as a sid. -/
def addressed (rooms : Rooms) (nsp : NameSpace) (roomNames : List Room) : Set Sid :=
  {s | ∃ r ∈ roomNames,
    (∃ ss, rooms.sids? nsp r = some ss ∧ s ∈ ss) ∨ (rooms.sids? nsp r = none ∧ s = r)}

theorem mem_foldl_insert {acc : HashSet Sid} {a : Sid} :
    ∀ {l : List Sid}, a ∈ l.foldl HashSet.insert acc ↔ a ∈ acc ∨ a ∈ l
  | [] => by simp
  | b :: l => by
    rw [List.foldl_cons, mem_foldl_insert, HashSet.mem_insert, List.mem_cons]
    tauto

theorem mem_foldl_collectOne (rc : HashMap Room (HashSet Sid)) {a : Sid} :
    ∀ {l : List Room} {acc : HashSet Sid}, a ∈ l.foldl (collectOne rc) acc ↔
      a ∈ acc ∨ ∃ r ∈ l, (∃ ss, rc.get? r = some ss ∧ a ∈ ss) ∨ (rc.get? r = none ∧ a = r)
  | [], _ => by simp
  | r :: l, acc => by
    rw [List.foldl_cons, mem_foldl_collectOne, List.exists_mem_cons_iff]
    unfold collectOne
    split
    · next ss h =>
      simp only [mem_foldl_insert, HashSet.mem_elems, h, Option.some.injEq, exists_eq_left', reduceCtorEq,
        false_and, or_false, or_assoc]
    · next h =>
      simp only [HashSet.mem_insert, h, reduceCtorEq, false_and, exists_false, true_and, false_or]
      rw [or_assoc, or_left_comm]

theorem mem_sidsToEmit {rooms : Rooms} {nsp : NameSpace} {roomNames : List Room}
    (h : (rooms.get? nsp).isSome) {a : Sid} :
    a ∈ sidsToEmit rooms nsp roomNames ↔ a ∈ addressed rooms nsp roomNames := by
  obtain ⟨rc, hrc⟩ := Option.isSome_iff_exists.mp h
  simp [sidsToEmit, hrc, mem_foldl_collectOne, addressed, Rooms.sids?]

/-- With the namespace in the rooms index, `emit_to` reaches each addressed sid that has
a client in the namespace, with that client, and no sid twice. -/
theorem recipients_of_get? {rooms : Rooms} {clients : Clients} {nsp : NameSpace}
    {roomNames : List Room} (h : (rooms.get? nsp).isSome) :
    ((recipients rooms clients nsp roomNames).map Prod.fst).Nodup ∧
    ∀ s c, (s, c) ∈ recipients rooms clients nsp roomNames ↔
      s ∈ addressed rooms nsp roomNames ∧ client clients s nsp = some c := by
  refine ⟨?_, fun s c => ?_⟩
  · rw [recipients, List.map_filterMap]
    refine (sidsToEmit rooms nsp roomNames).nodup.filterMap fun a a' b ha ha' => ?_
    simp only [Option.map_map, Option.mem_def, Option.map_eq_some', Function.comp_apply] at ha ha'
    obtain ⟨_, -, rfl⟩ := ha
    obtain ⟨_, -, rfl⟩ := ha'
    rfl
  · simp only [recipients, List.mem_filterMap, Option.map_eq_some', Prod.mk.injEq]
    constructor
    · rintro ⟨s', hs', c', hc', rfl, rfl⟩; exact ⟨(mem_sidsToEmit h).mp hs', hc'⟩
    · rintro ⟨hs, hc⟩; exact ⟨s, (mem_sidsToEmit h).mpr hs, c, hc, rfl, rfl⟩

/-- A room `r` of `/` whose one member has a client: the namespace has an entry in the
index. -/
theorem recipients_of_get?_room :
    let nsp : NameSpace := .lit "/" (by decide)
    let s : Sid := .lit "s" (by decide)
    let rooms := join .empty nsp [.lit "r" (by decide)] s
    let clients : Clients := .singleton s (.singleton nsp ⟨s, nsp, 0⟩)
    (rooms.get? nsp).isSome ∧ ((recipients rooms clients nsp [.lit "r" (by decide)]).map Prod.fst).Nodup ∧
      ∀ s c, (s, c) ∈ recipients rooms clients nsp [.lit "r" (by decide)] ↔
        s ∈ addressed rooms nsp [.lit "r" (by decide)] ∧ client clients s nsp = some c :=
  have h : ((join .empty (.lit "/" (by decide)) [.lit "r" (by decide)] (.lit "s" (by decide))).get?
      (.lit "/" (by decide))).isSome := by decide
  ⟨h, recipients_of_get? h⟩

/-- With no entry for the namespace in the rooms index, `emit_to` reaches nobody. -/
theorem recipients_no_rooms {rooms : Rooms} {clients : Clients} {nsp : NameSpace}
    {roomNames : List Room} (h : rooms.get? nsp = none) : recipients rooms clients nsp roomNames = [] := by
  simp [recipients, sidsToEmit, h, HashSet.empty]

/-- A direct send to a connected client's sid, in a namespace where nobody has joined a
room: the sid is addressed and has a client, and nobody is reached. -/
theorem recipients_direct_send_dropped (s : Sid) (nsp : NameSpace) (c : Client) :
    s ∈ addressed .empty nsp [s] ∧ client (.singleton s (.singleton nsp c)) s nsp = some c ∧
      recipients .empty (.singleton s (.singleton nsp c)) nsp [s] = [] :=
  ⟨⟨_, List.mem_singleton_self _, .inr ⟨rfl, rfl⟩⟩, by simp [client], recipients_no_rooms rfl⟩

/-! ## `polling_transport_info` -/

/-- `Server::polling_transport_info`: the first key of the client table that decodes to
the engine sid, with the first namespace of its entry.  The outer `none` is a panic in
`decode`, which the loop reaches on the first key it cannot decode. -/
def pollingTransportInfo (clients : Clients) (esid : EngineSid) : Option (Option (Sid × NameSpace)) :=
  go clients.keys
where
  /-- The loop over the keys. -/
  go : List Sid → Option (Option (Sid × NameSpace))
  | [] => some none
  | sid :: rest => do
    let e ← SidGenerator.decode sid
    if e = esid then
      match clients.get? sid with
      | some nspClients =>
        match nspClients.keys.head? with
        | some nsp => some (some (sid, nsp))
        | none => go rest
      | none => go rest
    else go rest

theorem pollingTransportInfo_go_isSome (clients : Clients) (esid : EngineSid) :
    ∀ {l : List Sid}, (∀ sid ∈ l, (SidGenerator.decode sid).isSome) →
      (pollingTransportInfo.go clients esid l).isSome
  | [], _ => rfl
  | sid :: rest, h => by
    obtain ⟨e, he⟩ := Option.isSome_iff_exists.mp (h sid (List.mem_cons_self _ _))
    have ih := pollingTransportInfo_go_isSome clients esid fun s hs => h s (List.mem_cons_of_mem _ hs)
    simp only [pollingTransportInfo.go, he, Option.bind_eq_bind, Option.some_bind]
    split
    · split
      · split
        · rfl
        · exact ih
      · exact ih
    · exact ih

theorem pollingTransportInfo_go_found (clients : Clients) (esid : EngineSid) {sid : Sid}
    {nsp : NameSpace} : ∀ {l : List Sid}, pollingTransportInfo.go clients esid l = some (some (sid, nsp)) →
      sid ∈ l ∧ SidGenerator.decode sid = some esid ∧ ∃ nc, clients.get? sid = some nc ∧ nsp ∈ nc.keys
  | [], h => by simp [pollingTransportInfo.go] at h
  | s :: rest, h => by
    simp only [pollingTransportInfo.go, Option.bind_eq_bind] at h
    obtain ⟨e, he, h⟩ := Option.bind_eq_some.mp h
    have later : pollingTransportInfo.go clients esid rest = some (some (sid, nsp)) →
        sid ∈ s :: rest ∧ _ := fun h =>
      let ⟨h₁, h₂⟩ := pollingTransportInfo_go_found clients esid h
      ⟨List.mem_cons_of_mem _ h₁, h₂⟩
    split at h
    · next hes =>
      split at h
      · next nc hnc =>
        split at h
        · next n hn =>
          cases h
          exact ⟨List.mem_cons_self _ _, hes ▸ he, nc, hnc, List.mem_of_mem_head? hn⟩
        · exact later h
      · exact later h
    · exact later h

/-- A rebinding `polling_transport_info` finds is a key of the table, decoding to the
engine sid, with a client in the namespace it names. -/
theorem pollingTransportInfo_found {clients : Clients} {esid : EngineSid} {sid : Sid}
    {nsp : NameSpace} (h : pollingTransportInfo clients esid = some (some (sid, nsp))) :
    SidGenerator.decode sid = some esid ∧ ∃ c, client clients sid nsp = some c := by
  obtain ⟨-, hd, nc, hnc, hn⟩ := pollingTransportInfo_go_found clients esid h
  obtain ⟨c, hc⟩ := HashMap.mem_keys.mp hn
  exact ⟨hd, c, by simp [client, hnc, hc]⟩

/-! ## `drop_client` -/

/-- Every room keeps the sids satisfying `p` (`room_clients.retain(p)` over all rooms). -/
def retainAll (rooms : Rooms) (p : Sid → Bool) : Rooms :=
  rooms.mapValues (·.mapValues (·.retain p))

@[simp] theorem sids?_retainAll (rooms : Rooms) (p : Sid → Bool) (nsp : NameSpace) (room : Room) :
    Rooms.sids? (retainAll rooms p) nsp room = (rooms.sids? nsp room).map (·.retain p) := by
  simp only [retainAll, Rooms.sids?, HashMap.get?_mapValues]
  cases rooms.get? nsp <;> simp

/-- The rooms pass of `drop_client`: every room keeps the sids that do not decode to the
engine sid.  `none` when `decode` panics on some member. -/
def retainRooms (rooms : Rooms) (esid : EngineSid) : Option Rooms :=
  if rooms.members.all fun sid => (SidGenerator.decode sid).isSome then
    some (retainAll rooms fun sid => SidGenerator.decode sid != some esid)
  else none

/-- `Server::drop_client` on the two tables: `clients.remove(esid)`, then the rooms pass. -/
def dropClient (clients : Clients) (rooms : Rooms) (esid : EngineSid) : Option (Clients × Rooms) :=
  (retainRooms rooms esid).map (clients.remove esid, ·)

theorem retainRooms_isSome {rooms : Rooms} (esid : EngineSid)
    (h : ∀ sid ∈ rooms.members, (SidGenerator.decode sid).isSome) :
    retainRooms rooms esid = some (retainAll rooms fun sid => SidGenerator.decode sid != some esid) :=
  if_pos (List.all_eq_true.mpr h)

theorem memberships_retainAll (rooms : Rooms) (p : Sid → Bool) :
    (retainAll rooms p).memberships = {m ∈ rooms.memberships | p m.2.2} := by
  ext ⟨n, r, t⟩
  simp only [Rooms.memberships, Set.mem_setOf_eq, sids?_retainAll, Option.map_eq_some']
  constructor
  · rintro ⟨_, ⟨ss, hs, rfl⟩, ht⟩
    exact ⟨⟨ss, hs, (HashSet.mem_retain.mp ht).1⟩, (HashSet.mem_retain.mp ht).2⟩
  · rintro ⟨⟨ss, hs, ht⟩, hp⟩
    exact ⟨_, ⟨ss, hs, rfl⟩, HashSet.mem_retain.mpr ⟨ht, hp⟩⟩

theorem existing_retainAll (rooms : Rooms) (p : Sid → Bool) :
    (retainAll rooms p).existing = rooms.existing := by
  ext x
  simp [Rooms.existing]

/-- Session `e` connected on `/` with the sid generated from `e`; `drop_client(e)` leaves
that client in the table. -/
theorem dropClient_keeps_client :
    let e : EngineSid := .lit "e" (by decide)
    let s := sidOf e 0
    let nsp : NameSpace := .lit "/" (by decide)
    let c : Client := ⟨s, nsp, 0⟩
    let clients : Clients := .singleton s (.singleton nsp c)
    (dropClient clients .empty e).map (fun t => client t.1 s nsp) = some (some c) := by
  decide

/-- The rooms pass removes exactly the memberships of sids that decode to the engine
sid, and no room. -/
theorem retainRooms_memberships {rooms rooms' : Rooms} {esid : EngineSid}
    (h : retainRooms rooms esid = some rooms') :
    rooms'.memberships = {m ∈ rooms.memberships | SidGenerator.decode m.2.2 ≠ some esid} ∧
    rooms'.existing = rooms.existing := by
  unfold retainRooms at h
  split at h
  · cases h
    rw [memberships_retainAll, existing_retainAll]
    simp
  · cases h

/-- What `drop_client` leaves: the client table without the key equal to the engine sid,
and the rooms without the memberships of sids that decode to it. -/
theorem dropClient_eq {clients clients' : Clients} {rooms rooms' : Rooms} {esid : EngineSid}
    (h : dropClient clients rooms esid = some (clients', rooms')) :
    clients' = clients.remove esid ∧
    rooms'.memberships = {m ∈ rooms.memberships | SidGenerator.decode m.2.2 ≠ some esid} ∧
    rooms'.existing = rooms.existing := by
  obtain ⟨r, hr, he⟩ := Option.map_eq_some'.mp h
  cases he
  exact ⟨rfl, retainRooms_memberships hr⟩

end Server

end SocketIo
