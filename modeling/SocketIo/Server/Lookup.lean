/-
# `SocketIo.Server.Lookup` — what the client table returns

`insert_clients` writes `{nsp: client}` under the client's sid, and a rebinding writes it
under the sid and namespace `polling_transport_info` read from the table; `drop_client`
removes an entry by engine sid.  So every entry of the table has one namespace, and holds
a client built under its sid and namespace.

## What is proved

* `Reachable.tableInv`: the invariant `TableInv` holds in every reachable state.  From
  it, the client table returns, for a sid and a namespace, only a client
  `insert_clients` built under that sid and namespace, in a namespace with an event
  table (`reachable_client`).
* `reachable_pollingTransportInfo`: in a reachable state, `polling_transport_info(esid)`
  rebinds to the first key of the client table, in its iteration order, that decodes to
  `esid`, and to nothing when no key does.
-/
import SocketIo.Server.Machine

namespace SocketIo

namespace Server

variable {w : Nat}

/-! ## Lookups after each write of the table -/

theorem client_insert (clients : Clients) (sid : Sid) (m : HashMap NameSpace Client) (s : Sid)
    (n : NameSpace) : client (clients.insert sid m) s n = if s = sid then m.get? n else client clients s n := by
  by_cases h : s = sid <;> simp [client, h]

theorem client_remove (clients : Clients) (e s : Sid) (n : NameSpace) :
    client (clients.remove e) s n = if s = e then none else client clients s n := by
  by_cases h : s = e <;> simp [client, h]

/-- After `register`, the table returns the new client under its sid and namespace, and
otherwise what it returned before. -/
theorem client_registerClient {srv : Server w} {c c' : Client} {s : Sid} {n : NameSpace}
    (h : client (srv.registerClient c).clients s n = some c') :
    (s = c.sid ∧ n = c.nsp ∧ c' = c) ∨ (s ≠ c.sid ∧ client srv.clients s n = some c') := by
  simp only [registerClient, client_insert, HashMap.get?_singleton] at h
  split at h
  · split at h
    · cases h; exact .inl ⟨‹_›, ‹_›, rfl⟩
    · cases h
  · exact .inr ⟨‹_›, h⟩

/-! ## The invariant -/

/-- The invariant of every reachable state about the client table: every client built
is in a namespace with an event table; the table returns a client built under the sid
and namespace it is asked for; and each entry has exactly one namespace. -/
structure TableInv (srv : Server w) : Prop where
  namespaces : ∀ c ∈ srv.sockets, c.nsp ∈ srv.namespaces
  table : ∀ s n c, client srv.clients s n = some c → c ∈ srv.sockets ∧ c.sid = s ∧ c.nsp = n
  entries : ∀ s nc, srv.clients.get? s = some nc → nc.keys ≠ []
  single : ∀ s n n' c c', client srv.clients s n = some c → client srv.clients s n' = some c' → n = n'

namespace TableInv

variable {srv srv' : Server w}

/-- A step that keeps the table and builds no client keeps the invariant. -/
theorem of_eq (ht : TableInv srv) (h₁ : srv'.sockets = srv.sockets) (h₂ : srv'.clients = srv.clients)
    (h₃ : srv'.namespaces = srv.namespaces) : TableInv srv' :=
  ⟨h₁ ▸ h₃ ▸ ht.namespaces, h₁ ▸ h₂ ▸ ht.table, h₂ ▸ ht.entries, h₂ ▸ ht.single⟩

theorem insertClients (ht : TableInv srv) (conn : Nat) (nsp : NameSpace) (sid : Sid) (hs : Bool) :
    TableInv (srv.insertClients conn nsp sid hs) := by
  rcases insertClients_built srv conn nsp sid hs with ⟨h₁, -⟩ | ⟨hn, h₁, -⟩
  · exact ht.of_eq h₁ (insertClients_clients ..) (insertClients_namespaces ..)
  · refine ⟨fun c hc => ?_, fun s n c h => ?_, ?_, ?_⟩ <;>
      simp only [insertClients_clients, insertClients_namespaces, h₁] at *
    · rcases List.mem_append.mp hc with hc | hc
      exacts [ht.namespaces c hc, List.mem_singleton.mp hc ▸ hn]
    · obtain ⟨hc, h'⟩ := ht.table s n c h
      exact ⟨List.mem_append_left _ hc, h'⟩
    · exact ht.entries
    · exact ht.single

theorem createClient (ht : TableInv srv) (esid : EngineSid) (present : Bool) :
    TableInv (srv.createClient esid present) := by
  have bump : TableInv ({ srv with conns := srv.conns + 1 } : Server w) := ht.of_eq rfl rfl rfl
  unfold Server.createClient
  split
  · split
    · exact bump.insertClients ..
    · exact bump.of_eq rfl rfl rfl
    · exact bump.of_eq rfl rfl rfl
  · exact ht

theorem registerClient (ht : TableInv srv) {c : Client} (hc : c ∈ srv.sockets) :
    TableInv (srv.registerClient c) := by
  refine ⟨ht.namespaces, fun s n c' h => ?_, fun s nc h => ?_, fun s n n' c₁ c₂ h h' => ?_⟩
  · rcases client_registerClient h with ⟨rfl, rfl, rfl⟩ | ⟨-, h⟩
    exacts [⟨hc, rfl, rfl⟩, ht.table s n c' h]
  · change (srv.clients.insert c.sid (.singleton c.nsp c)).get? s = some nc at h
    rw [HashMap.get?_insert] at h
    split at h
    · cases h
      exact List.ne_nil_of_mem ((HashMap.mem_keys (k := c.nsp)).mpr ⟨c, by simp⟩)
    · exact ht.entries s nc h
  · rcases client_registerClient h with ⟨hs, rfl, -⟩ | ⟨hs, h⟩ <;>
      rcases client_registerClient h' with ⟨hs', rfl, -⟩ | ⟨hs', h'⟩
    · rfl
    · exact absurd hs hs'
    · exact absurd hs' hs
    · exact ht.single s n n' c₁ c₂ h h'

theorem onClose (ht : TableInv srv) (esid : EngineSid) :
    TableInv { srv with clients := srv.clients.remove esid, loop := .dropping esid } := by
  refine ⟨ht.namespaces, fun s n c h => ?_, fun s nc h => ?_, fun s n n' c c' h h' => ?_⟩
  · change client (srv.clients.remove esid) s n = some c at h
    rw [client_remove] at h
    split at h
    · cases h
    · exact ht.table s n c h
  · change (srv.clients.remove esid).get? s = some nc at h
    rw [HashMap.get?_remove] at h
    split at h
    · cases h
    · exact ht.entries s nc h
  · change client (srv.clients.remove esid) s n = some c at h
    change client (srv.clients.remove esid) s n' = some c' at h'
    rw [client_remove] at h h'
    split at h
    · cases h
    · rw [if_neg ‹_›] at h'; exact ht.single s n n' c c' h h'

/-- One step keeps the invariant. -/
theorem step (ht : TableInv srv) (hi : Inv srv) {a : Action} (h : srv.step a = some srv') : TableInv srv' := by
  cases a with
  | onOpen esid present => obtain ⟨-, rfl⟩ := step_onOpen h; exact ht.createClient esid present
  | packet p =>
    obtain ⟨e, k, s, -, rfl⟩ := step_packet h
    unfold handleConnect
    split
    · exact ht.insertClients ..
    · exact ht
  | streamEnd => obtain rfl := step_streamEnd h; exact ht.of_eq rfl rfl rfl
  | callbackDone => obtain ⟨c, hs, -, rfl⟩ := step_callbackDone h; exact ht.of_eq rfl rfl rfl
  | handshake => obtain ⟨c, hs, -, rfl⟩ := step_handshake h; exact ht.of_eq rfl rfl rfl
  | handshakeFailed => obtain ⟨c, -, rfl⟩ := step_handshakeFailed h; exact ht.of_eq rfl rfl rfl
  | register => obtain ⟨c, hs, hl, rfl⟩ := step_register h; exact ht.registerClient (hi.inserting c hs _ hl)
  | onClose esid => obtain ⟨-, rfl⟩ := step_onClose h; exact ht.onClose esid
  | retainRooms =>
    obtain ⟨esid, -, ⟨rooms, -, rfl⟩ | ⟨-, rfl⟩⟩ := step_retainRooms h <;> exact ht.of_eq rfl rfl rfl
  | call i k => obtain ⟨c, -, rfl⟩ := step_call h; exact ht.of_eq (call_sockets ..) (call_clients ..) (call_namespaces ..)
  | runSpawned j => obtain ⟨t, -, rfl⟩ := step_runSpawned h; exact ht.of_eq rfl rfl rfl
  | emitFailed j => obtain ⟨t, -, rfl⟩ := step_emitFailed h; exact ht.of_eq rfl rfl rfl

end TableInv

theorem tableInv_init (namespaces : List NameSpace) : TableInv (init namespaces : Server w) :=
  ⟨nofun, fun _ _ _ h => by simp [init, client] at h, fun _ _ h => by simp [init] at h,
    fun _ _ _ _ _ h => by simp [init, client] at h⟩

theorem Reachable.tableInv {srv : Server w} (h : Reachable srv) : TableInv srv := by
  induction h with
  | init namespaces => exact tableInv_init namespaces
  | step hr hs ih => exact ih.step hr.inv hs

/-! ## What the table returns -/

/-- The client table returns, for a sid and a namespace, only a client `insert_clients`
built under that sid and namespace, in a namespace with an event table. -/
theorem reachable_client {srv : Server w} (h : Reachable srv) :
    ∀ s n c, client srv.clients s n = some c →
      c ∈ srv.sockets ∧ c.sid = s ∧ c.nsp = n ∧ n ∈ srv.namespaces := by
  intro s n c hc
  obtain ⟨hm, hs, hn⟩ := h.tableInv.table s n c hc
  exact ⟨hm, hs, hn, hn ▸ h.tableInv.namespaces c hm⟩

/-- `registered` returns, for its sid on `/`, the client built on connection 0. -/
theorem reachable_client_registered :
    Reachable registered ∧
      client registered.clients (sidOf (.lit "e" (by decide)) 0) (.lit "/" (by decide)) =
        some ⟨sidOf (.lit "e" (by decide)) 0, .lit "/" (by decide), 0⟩ ∧
      ∀ s n c, client registered.clients s n = some c →
        c ∈ registered.sockets ∧ c.sid = s ∧ c.nsp = n ∧ n ∈ registered.namespaces :=
  ⟨reachable_registered, by decide, reachable_client reachable_registered⟩

/-! ## `polling_transport_info` in a reachable state -/

theorem pollingTransportInfo_go_first (clients : Clients) (esid : EngineSid) :
    ∀ {l : List Sid}, (∀ k ∈ l, (SidGenerator.decode k).isSome) →
      (∀ k ∈ l, ∃ nc, clients.get? k = some nc ∧ nc.keys ≠ []) →
      (pollingTransportInfo.go clients esid l).map (·.map Prod.fst) =
        some (l.find? fun k => decide (SidGenerator.decode k = some esid))
  | [], _, _ => rfl
  | k :: l, hd, he => by
    obtain ⟨e, hk⟩ := Option.isSome_iff_exists.mp (hd k (List.mem_cons_self k l))
    obtain ⟨nc, hnc, hne⟩ := he k (List.mem_cons_self k l)
    obtain ⟨n, ns, hns⟩ := List.exists_cons_of_ne_nil hne
    have ih := pollingTransportInfo_go_first clients esid (fun k' h' => hd k' (List.mem_cons_of_mem k h'))
      (fun k' h' => he k' (List.mem_cons_of_mem k h'))
    by_cases hek : e = esid
    · simp [pollingTransportInfo.go, hk, hnc, hns, hek]
    · simp [pollingTransportInfo.go, hk, hnc, hek, ih]

/-- In a reachable state, `polling_transport_info(esid)` never panics and rebinds to the
first key of the client table, in its iteration order, that decodes to `esid`; to
nothing when no key does. -/
theorem reachable_pollingTransportInfo {srv : Server w} (h : Reachable srv) (esid : EngineSid) :
    (pollingTransportInfo srv.clients esid).map (·.map Prod.fst) =
      some (srv.clients.keys.find? fun k => decide (SidGenerator.decode k = some esid)) :=
  pollingTransportInfo_go_first srv.clients esid (fun k hk => decode_generated (h.inv.keys k hk))
    fun k hk => let ⟨nc, hnc⟩ := HashMap.mem_keys.mp hk; ⟨nc, hnc, h.tableInv.entries k nc hnc⟩

/-- A second `OnOpen` of session `e` after `registered` rebinds it to the sid its first
connection was given. -/
theorem reachable_pollingTransportInfo_registered :
    Reachable registered ∧
      (pollingTransportInfo registered.clients (.lit "e" (by decide))).map (·.map Prod.fst) =
        some (registered.clients.keys.find? fun k =>
          decide (SidGenerator.decode k = some (.lit "e" (by decide)))) ∧
      registered.clients.keys.find? (fun k => decide (SidGenerator.decode k = some (.lit "e" (by decide)))) =
        some (sidOf (.lit "e" (by decide)) 0) :=
  ⟨reachable_registered, reachable_pollingTransportInfo reachable_registered _, by decide⟩

end Server

end SocketIo
