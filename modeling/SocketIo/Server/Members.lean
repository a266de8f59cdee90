/-
# `SocketIo.Server.Members` — every room member is registered, but the client being inserted

`Client::join` adds the client's sid to rooms of its namespace, and a callback may call
it as soon as `insert_clients` has built the client: the connect callback runs before
`insert_clients` writes the client table (`join_before_register`).  This file proves
that this is the only gap: every other member of a room has a client in the table
under its sid for that namespace.

Two things that are not traffic could open more gaps.  `drop_client(esid)` removes the
table entry keyed `esid`, so an engine sid equal to a sid `generate` returns would drop
a registered client.  And a counter that wraps lets `generate` repeat a sid, whose
registration in another namespace replaces the entry of the first.  The result assumes
neither: no `OnClose` names a sid `generate` returns, and fewer than `2^w` `OnOpen`
events arrive.

## What is proved

`run_room_members_registered`: along any run from a fresh server under those two
assumptions, every membership `(nsp, room, sid)` of the rooms index has a client in the
table under `sid` for `nsp`, or is the sid and namespace of the client `insert_clients`
is building.  The invariant `Registered` says that every client built is in the table
or being inserted, and carries what keeps that true at `register`: the clients built
have sids generated from counter values below the generator's, so the sid
`handle_connect` generates is none of theirs and a new connection's client is the only
one with its sid; and a rebinding's sid and namespace are in the table, whose entry has
that one namespace (`TableInv.single`).

`run_emitTo_reaches_members`: so along the same runs `emit_to(nsp, names)` reaches every
member of every room of `nsp` it names, with the client the table holds for it, but the
client being inserted.
-/
import SocketIo.Server.Lookup
import SocketIo.Server.Fresh

namespace SocketIo

namespace Server

variable {w : Nat}

/-- The client the event loop is inserting, when it is in `insert_clients`. -/
def Loop.inserted : Loop → Option Client
  | .inserting c _ _ => some c
  | _ => none

/-- Every client built is in the table under its sid and namespace, or is the one being
inserted; the clients built have sids generated below the counter; the sid
`handle_connect` holds belongs to none of them; a new connection's client is the only
one with its sid; a rebinding's sid and namespace are in the table. -/
structure Registered (srv : Server w) : Prop where
  registered : ∀ c ∈ srv.sockets,
    (∃ c', client srv.clients c.sid c.nsp = some c') ∨ srv.loop.inserted = some c
  below : ∀ c ∈ srv.sockets, ∃ e n, c.sid = sidOf e n ∧ n < srv.sidGenerator.seq.toNat
  connecting : ∀ e k s, srv.loop = .connecting e k s →
    (∃ e' n, s = sidOf e' n ∧ n < srv.sidGenerator.seq.toNat) ∧ ∀ c ∈ srv.sockets, c.sid ≠ s
  fresh : ∀ c st, srv.loop = .inserting c true st → ∀ c' ∈ srv.sockets, c'.sid = c.sid → c' = c
  rebind : ∀ c st, srv.loop = .inserting c false st → ∃ c', client srv.clients c.sid c.nsp = some c'

/-- A sid generated below the counter is not the one `generate` returns next. -/
theorem sidOf_ne_generate {g : SidGenerator w} {e e' : EngineSid} {n : Nat} (hn : n < g.seq.toNat) :
    sidOf e' n ≠ (g.generate e).1 :=
  fun h => absurd (sidOf_inj h).2 (Nat.ne_of_lt hn)

/-- A step moves the counter by one at an `OnOpen`, and otherwise not at all. -/
theorem step_seq_le {srv srv' : Server w} {a : Action} (h : srv.step a = some srv') :
    srv'.sidGenerator.seq.toNat ≤ srv.sidGenerator.seq.toNat + if a.isOnOpen then 1 else 0 := by
  rcases step_issued h with ⟨hg, -⟩ | ⟨e, rfl, hg, -⟩
  · rw [hg]; omega
  · rw [hg, SidGenerator.seq_generate]; exact Nat.mod_le _ _

namespace Registered

variable {srv srv' : Server w}

/-- A step of another task: the clients built, the table, the counter and the loop are
kept. -/
theorem of_eq (hR : Registered srv) (h₁ : srv'.sockets = srv.sockets) (h₂ : srv'.clients = srv.clients)
    (h₃ : srv'.sidGenerator = srv.sidGenerator) (h₄ : srv'.loop = srv.loop) : Registered srv' :=
  ⟨h₁ ▸ h₂ ▸ h₄ ▸ hR.registered, h₁ ▸ h₃ ▸ hR.below, h₁ ▸ h₃ ▸ h₄ ▸ hR.connecting, h₁ ▸ h₄ ▸ hR.fresh,
    h₂ ▸ h₄ ▸ hR.rebind⟩

/-- A step of `insert_clients` from one stage to the next. -/
theorem stage (hR : Registered srv) {c : Client} {hs : Bool} {st st' : Stage}
    (hl : srv.loop = .inserting c hs st) (h₁ : srv'.sockets = srv.sockets) (h₂ : srv'.clients = srv.clients)
    (h₃ : srv'.sidGenerator = srv.sidGenerator) (hl' : srv'.loop = .inserting c hs st') : Registered srv' where
  registered c' hc := by
    rw [h₁] at hc; rw [h₂, hl']; simpa only [hl, Loop.inserted] using hR.registered c' hc
  below := h₁ ▸ h₃ ▸ hR.below
  connecting _ _ _ h := by rw [hl'] at h; cases h
  fresh _ _ h := by rw [hl'] at h; cases h; exact h₁ ▸ hR.fresh c st hl
  rebind _ _ h := by rw [hl'] at h; cases h; exact h₂ ▸ hR.rebind c st hl

/-- A step from a loop that is inserting nobody to one that holds no sid: every client
built is in the table, and stays there. -/
theorem settle (hR : Registered srv) (hl : srv.loop.inserted = none) (h₁ : srv'.sockets = srv.sockets)
    (h₂ : ∀ c ∈ srv.sockets, (∃ x, client srv.clients c.sid c.nsp = some x) →
      ∃ x, client srv'.clients c.sid c.nsp = some x)
    (h₃ : srv'.sidGenerator = srv.sidGenerator) (hc' : ∀ e k s, srv'.loop ≠ .connecting e k s)
    (hi' : srv'.loop.inserted = none) : Registered srv' where
  registered c hc := by
    rw [h₁] at hc
    exact .inl (h₂ c hc ((hR.registered c hc).resolve_right (by rw [hl]; nofun)))
  below := h₁ ▸ h₃ ▸ hR.below
  connecting e k s h := absurd h (hc' e k s)
  fresh _ _ h := by rw [h] at hi'; cases hi'
  rebind _ _ h := by rw [h] at hi'; cases hi'

/-- `insert_clients` builds a client, from a loop inserting nobody, under a sid generated
below the counter that no client built holds, for a new connection, or that the table
holds in the namespace, for a rebinding. -/
theorem insertClients (hR : Registered srv) (hl : srv.loop.inserted = none) {conn : Nat}
    {nsp : NameSpace} {sid : Sid} {hs : Bool} (hb : ∃ e n, sid = sidOf e n ∧ n < srv.sidGenerator.seq.toNat)
    (hf : hs = true → ∀ c ∈ srv.sockets, c.sid ≠ sid)
    (hr : hs = false → ∃ c', client srv.clients sid nsp = some c') :
    Registered (srv.insertClients conn nsp sid hs) := by
  rcases insertClients_built srv conn nsp sid hs with ⟨h₁, hl'⟩ | ⟨-, h₁, hl'⟩
  · exact hR.settle hl h₁ (fun c _ hx => by simpa using hx) (by simp) (by rw [hl']; nofun) (by rw [hl']; rfl)
  · refine ⟨fun c hc => ?_, fun c hc => ?_, fun _ _ _ h => ?_, fun c st h => ?_, fun c st h => ?_⟩ <;>
      simp only [h₁, hl', insertClients_clients, insertClients_sidGenerator] at *
    · rcases List.mem_append.mp hc with hc | hc
      · exact .inl ((hR.registered c hc).resolve_right (by rw [hl]; nofun))
      · exact .inr (by rw [List.mem_singleton.mp hc]; rfl)
    · rcases List.mem_append.mp hc with hc | hc
      · exact hR.below c hc
      · exact List.mem_singleton.mp hc ▸ hb
    · cases h
    · cases h
      intro c' hc' he
      rcases List.mem_append.mp hc' with hc' | hc'
      · exact absurd he (hf rfl c' hc')
      · exact List.mem_singleton.mp hc'
    · cases h; exact hr rfl

theorem createClient (hR : Registered srv) (ht : TableInv srv) (hl : srv.loop = .idle)
    (hw : srv.sidGenerator.seq.toNat + 1 < 2 ^ w) (esid : EngineSid) (present : Bool) :
    Registered (srv.createClient esid present) := by
  have idle : srv.loop.inserted = none := by rw [hl]; rfl
  unfold Server.createClient
  split
  · split
    · next sid nsp hp =>
      obtain ⟨-, c', hc'⟩ := pollingTransportInfo_found hp
      obtain ⟨hm, hs, -⟩ := ht.table _ _ _ hc'
      have bump : Registered ({ srv with conns := srv.conns + 1 } : Server w) := hR.of_eq rfl rfl rfl rfl
      exact bump.insertClients idle (hs ▸ hR.below c' hm) (by exact nofun) fun _ => ⟨c', hc'⟩
    · have hseq : (srv.sidGenerator.generate esid).2.seq.toNat = srv.sidGenerator.seq.toNat + 1 := by
        rw [SidGenerator.seq_generate, Nat.mod_eq_of_lt hw]
      refine ⟨fun c hc => .inl ((hR.registered c hc).resolve_right (by rw [idle]; nofun)),
        fun c hc => ?_, ?_, nofun, nofun⟩
      · obtain ⟨e, n, he, hn⟩ := hR.below c hc
        exact ⟨e, n, he, by simp only [hseq]; omega⟩
      · rintro _ _ _ ⟨⟩
        refine ⟨⟨esid, _, rfl, by simp only [hseq]; omega⟩, fun c hc he => ?_⟩
        obtain ⟨e, n, hs, hn⟩ := hR.below c hc
        exact sidOf_ne_generate hn (hs ▸ he)
    · exact hR.settle idle rfl (fun _ _ hx => hx) rfl nofun rfl
  · exact hR

theorem handleConnect (hR : Registered srv) {e : EngineSid} {k : Nat} {s : Sid}
    (hl : srv.loop = .connecting e k s) (p : Packet) : Registered (srv.handleConnect k s p) := by
  obtain ⟨hb, hne⟩ := hR.connecting e k s hl
  unfold Server.handleConnect
  split
  · exact hR.insertClients (by rw [hl]; rfl) hb (fun _ => hne) nofun
  · exact hR

/-- `register` writes the client under its sid and namespace.  A client built before
with the same sid is the client itself, for a new connection, or has its namespace, for
a rebinding, so the write keeps it in the table. -/
theorem registerClient (hR : Registered srv) (ht : TableInv srv) {c : Client} {hs : Bool}
    (hl : srv.loop = .inserting c hs .register) : Registered (srv.registerClient c) := by
  have same : ∀ c'' ∈ srv.sockets, c''.sid = c.sid →
      (∃ x, client srv.clients c''.sid c''.nsp = some x) → c''.nsp = c.nsp := by
    intro c'' hc hsid ⟨x, hx⟩
    cases hs
    · obtain ⟨y, hy⟩ := hR.rebind c _ hl
      exact ht.single _ _ _ _ _ hx (hsid ▸ hy)
    · rw [hR.fresh c _ hl c'' hc hsid]
  have lookup : ∀ c'' ∈ srv.sockets, (∃ x, client srv.clients c''.sid c''.nsp = some x) ∨
      c'' = c → ∃ x, client (srv.registerClient c).clients c''.sid c''.nsp = some x := by
    intro c'' hc hr
    simp only [Server.registerClient, client_insert, HashMap.get?_singleton]
    by_cases hsid : c''.sid = c.sid
    · rcases hr with hr | rfl
      · exact ⟨c, by rw [if_pos hsid, if_pos (same c'' hc hsid hr)]⟩
      · exact ⟨c'', by simp⟩
    · rw [if_neg hsid]; exact hr.resolve_right (by rintro rfl; exact hsid rfl)
  refine ⟨fun c'' hc => .inl (lookup c'' hc ?_), hR.below, nofun, nofun, nofun⟩
  rcases hR.registered c'' hc with hr | hr
  · exact .inl hr
  · rw [hl] at hr; exact .inr (Option.some.inj hr).symm

/-- One step keeps the invariant, when an `OnOpen` does not wrap the counter and an
`OnClose` names no generated sid. -/
theorem step (hR : Registered srv) (hi : Inv srv) (ht : TableInv srv) {a : Action}
    (h : srv.step a = some srv') (hw : a.isOnOpen → srv.sidGenerator.seq.toNat + 1 < 2 ^ w)
    (hc : ∀ esid, a = .onClose esid → ¬ Generated w esid) : Registered srv' := by
  cases a with
  | onOpen esid present => obtain ⟨hl, rfl⟩ := step_onOpen h; exact hR.createClient ht hl (hw rfl) esid present
  | packet p => obtain ⟨e, k, s, hl, rfl⟩ := step_packet h; exact hR.handleConnect hl p
  | streamEnd =>
    obtain rfl := step_streamEnd h
    exact hR.settle (by cases hl : srv.loop <;> first | rfl | exact absurd h (by simp [Server.step, hl]))
      rfl (fun _ _ hx => hx) rfl nofun rfl
  | callbackDone =>
    obtain ⟨c, hs, hl, rfl⟩ := step_callbackDone h
    exact hR.stage hl rfl rfl rfl rfl
  | handshake =>
    obtain ⟨c, hs, hl, rfl⟩ := step_handshake h
    exact hR.stage hl rfl rfl rfl rfl
  | handshakeFailed =>
    obtain ⟨c, hl, rfl⟩ := step_handshakeFailed h
    exact hR.stage hl rfl rfl rfl rfl
  | register => obtain ⟨c, hs, hl, rfl⟩ := step_register h; exact hR.registerClient ht hl
  | onClose esid =>
    obtain ⟨hl, rfl⟩ := step_onClose h
    refine hR.settle (by rw [hl]; rfl) rfl (fun c hm ⟨x, hx⟩ => ⟨x, ?_⟩) rfl nofun rfl
    rw [client_remove, if_neg (show c.sid ≠ esid from fun he => hc esid rfl (he ▸ hi.sockets c hm))]
    exact hx
  | retainRooms =>
    obtain ⟨esid, hl, ⟨rooms, -, rfl⟩ | ⟨-, rfl⟩⟩ := step_retainRooms h <;>
      exact hR.settle (by rw [hl]; rfl) rfl (fun _ _ hx => hx) rfl nofun rfl
  | call i k => obtain ⟨c, -, rfl⟩ := step_call h; exact hR.of_eq (call_sockets ..) (call_clients ..) (by cases k <;> rfl) (call_loop ..)
  | runSpawned j => obtain ⟨t, -, rfl⟩ := step_runSpawned h; exact hR.of_eq rfl rfl rfl rfl
  | emitFailed j => obtain ⟨t, -, rfl⟩ := step_emitFailed h; exact hR.of_eq rfl rfl rfl rfl

end Registered

theorem registered_init (namespaces : List NameSpace) : Registered (init namespaces : Server w) :=
  ⟨nofun, nofun, nofun, nofun, nofun⟩

/-- A run whose `OnOpen` events do not wrap the counter and whose `OnClose` events name
no generated sid keeps the invariant. -/
theorem run_registered {srv srv' : Server w} (hr : Reachable srv) (hR : Registered srv) :
    ∀ {acts : List Action}, run srv acts = some srv' →
      srv.sidGenerator.seq.toNat + acts.countP Action.isOnOpen < 2 ^ w →
      (∀ esid, Action.onClose esid ∈ acts → ¬ Generated w esid) → Registered srv'
  | [], h, _, _ => by cases h; exact hR
  | a :: acts, h, hk, hc => by
    obtain ⟨s₁, h₁, hrest⟩ := run_cons_eq_some.mp h
    rw [List.countP_cons] at hk
    have hs := step_seq_le h₁
    refine run_registered (hr.step h₁) (hR.step hr.inv hr.tableInv h₁ (fun ho => ?_) fun e he => ?_) hrest
      (by omega) fun e he => hc e (List.mem_cons_of_mem _ he)
    · simp only [ho, if_true] at hk; omega
    · exact hc e (he ▸ List.mem_cons_self _ _)

/-- With the invariant, every member of a room has a client in the table under its sid for
the room's namespace, or is the client being inserted. -/
theorem Registered.members {srv : Server w} (hR : Registered srv) (hi : Inv srv) :
    ∀ m ∈ srv.rooms.memberships, (∃ c, client srv.clients m.2.2 m.1 = some c) ∨
      ∃ c, srv.loop.inserted = some c ∧ c.sid = m.2.2 ∧ c.nsp = m.1 := by
  intro m hm
  obtain ⟨c, hc, hs, hn⟩ := hi.rooms m hm
  rcases hR.registered c hc with ⟨c', hc'⟩ | hl
  · exact .inl ⟨c', hs ▸ hn ▸ hc'⟩
  · exact .inr ⟨c, hl, hs, hn⟩

/-- The state a run from a fresh server reaches under the two assumptions is reachable and
keeps the invariant. -/
theorem registered_of_run (namespaces : List NameSpace) {acts : List Action} {srv : Server w}
    (h : run (init namespaces) acts = some srv) (hk : acts.countP Action.isOnOpen < 2 ^ w)
    (hc : ∀ esid, Action.onClose esid ∈ acts → ¬ Generated w esid) : Reachable srv ∧ Registered srv :=
  ⟨reachable_run (.init namespaces) h,
    run_registered (.init namespaces) (registered_init namespaces) h (by simpa [init] using hk) hc⟩

/-- Along any run from a fresh server in which fewer than `2^w` `OnOpen` events arrive and
no `OnClose` names a sid `generate` returns, every member of a room has a client in the
table under its sid for the room's namespace, unless it is the client `insert_clients`
is building, whose connect callback may join rooms before the table is written. -/
theorem run_room_members_registered (namespaces : List NameSpace) (acts : List Action) {srv : Server w}
    (h : run (init namespaces) acts = some srv) (hk : acts.countP Action.isOnOpen < 2 ^ w)
    (hc : ∀ esid, Action.onClose esid ∈ acts → ¬ Generated w esid) :
    ∀ m ∈ srv.rooms.memberships, (∃ c, client srv.clients m.2.2 m.1 = some c) ∨
      ∃ c, srv.loop.inserted = some c ∧ c.sid = m.2.2 ∧ c.nsp = m.1 :=
  let ⟨hr, hR⟩ := registered_of_run namespaces h hk hc
  hR.members hr.inv

/-- The member `registered` has in room `r` of `/` has its client in the table. -/
theorem run_room_members_registered_joined :
    run (init [.lit "/" (by decide)]) joinRegistered = some registered ∧
      joinRegistered.countP Action.isOnOpen < 2 ^ 64 ∧
      (∀ esid, Action.onClose esid ∈ joinRegistered → ¬ Generated 64 esid) ∧
      ((.lit "/" (by decide), .lit "r" (by decide), sidOf (.lit "e" (by decide)) 0) ∈ registered.rooms.memberships) ∧
      ∀ m ∈ registered.rooms.memberships, (∃ c, client registered.clients m.2.2 m.1 = some c) ∨
        ∃ c, registered.loop.inserted = some c ∧ c.sid = m.2.2 ∧ c.nsp = m.1 :=
  have hc : ∀ esid, Action.onClose esid ∈ joinRegistered → ¬ Generated 64 esid := fun _ he => by
    simp [joinRegistered] at he
  ⟨run_joinRegistered, by decide, hc, by decide,
    run_room_members_registered _ _ run_joinRegistered (by decide) hc⟩

/-! ## Whom a broadcast reaches -/

/-- Along the same runs, `emit_to(nsp, names)` reaches every member of every room of `nsp`
it names, with the client the table holds for it, unless the member is the client
`insert_clients` is building. -/
theorem run_emitTo_reaches_members (namespaces : List NameSpace) (acts : List Action) {srv : Server w}
    (h : run (init namespaces) acts = some srv) (hk : acts.countP Action.isOnOpen < 2 ^ w)
    (hc : ∀ esid, Action.onClose esid ∈ acts → ¬ Generated w esid) {nsp : NameSpace} {names : List Room}
    {r : Room} (hr : r ∈ names) {ss : HashSet Sid} (hss : srv.rooms.sids? nsp r = some ss) {s : Sid}
    (hs : s ∈ ss) :
    (∃ c, (s, c) ∈ recipients srv.rooms srv.clients nsp names ∧ c.sid = s ∧ c.nsp = nsp) ∨
      ∃ c, srv.loop.inserted = some c ∧ c.sid = s ∧ c.nsp = nsp := by
  obtain ⟨hreach, hR⟩ := registered_of_run namespaces h hk hc
  rcases hR.members hreach.inv (nsp, r, s) ⟨ss, hss, hs⟩ with ⟨c, hcl⟩ | hl
  · have hsome : (srv.rooms.get? nsp).isSome := by
      cases hg : srv.rooms.get? nsp <;> simp_all [Rooms.sids?]
    have hsend : s ∈ sidsToEmit srv.rooms nsp names := (mem_sidsToEmit hsome).mpr ⟨r, hr, .inl ⟨ss, hss, hs⟩⟩
    obtain ⟨-, hcs, hcn⟩ := hreach.tableInv.table s nsp c hcl
    exact .inl ⟨c, List.mem_filterMap.mpr ⟨s, hsend, by simp [hcl]⟩, hcs, hcn⟩
  · exact .inr hl

/-- `emit_to("/", ["r"])` after `registered` reaches the room's one member. -/
theorem run_emitTo_reaches_members_joined :
    run (init [.lit "/" (by decide)]) joinRegistered = some registered ∧
      joinRegistered.countP Action.isOnOpen < 2 ^ 64 ∧
      (∀ esid, Action.onClose esid ∈ joinRegistered → ¬ Generated 64 esid) ∧
      registered.rooms.sids? (.lit "/" (by decide)) (.lit "r" (by decide)) =
        some ((registered.rooms.sids? (.lit "/" (by decide)) (.lit "r" (by decide))).getD .empty) ∧
      sidOf (.lit "e" (by decide)) 0 ∈ (registered.rooms.sids? (.lit "/" (by decide)) (.lit "r" (by decide))).getD .empty ∧
      ((∃ c, (sidOf (.lit "e" (by decide)) 0, c) ∈
          recipients registered.rooms registered.clients (.lit "/" (by decide)) [.lit "r" (by decide)] ∧
          c.sid = sidOf (.lit "e" (by decide)) 0 ∧ c.nsp = .lit "/" (by decide)) ∨
        ∃ c, registered.loop.inserted = some c ∧ c.sid = sidOf (.lit "e" (by decide)) 0 ∧ c.nsp = .lit "/" (by decide)) :=
  have hc : ∀ esid, Action.onClose esid ∈ joinRegistered → ¬ Generated 64 esid := fun _ he => by
    simp [joinRegistered] at he
  have hss : registered.rooms.sids? (.lit "/" (by decide)) (.lit "r" (by decide)) =
      some ((registered.rooms.sids? (.lit "/" (by decide)) (.lit "r" (by decide))).getD .empty) := by decide
  have hs : sidOf (.lit "e" (by decide)) 0 ∈
      (registered.rooms.sids? (.lit "/" (by decide)) (.lit "r" (by decide))).getD .empty := by decide
  ⟨run_joinRegistered, by decide, hc, hss, hs,
    run_emitTo_reaches_members _ _ run_joinRegistered (by decide) hc (List.mem_singleton_self _) hss hs⟩

end Server

end SocketIo
