/-
# `SocketIo.Server.Fresh` — every handshake hands out a new sid

`handle_connect` generates a sid for each new connection and `insert_clients` sends it in
the handshake; a rebinding, where `polling_transport_info` finds a sid, sends none.  So
the handshakes carry sids `generate` returned for distinct counter values, as long as
the counter has not wrapped.

## What is proved

`run_handshake_sids`: along any run from a fresh server in which fewer than `2^w`
`OnOpen` events arrive, no two handshakes the server writes carry the same sid, whatever
the engine sids, the packets and the interleaving.  The invariant `Fresh` says that the
sids handed out, and the one the event loop holds for its next handshake, are distinct
and were generated from counter values below the generator's.  A step either keeps the
generator and hands out nothing new (`step_issued`), or is an `OnOpen` whose `generate`
uses the next counter value, which no sid issued before has, since `sidOf` determines its
counter (`sidOf_inj`).
-/
import SocketIo.Server.Machine

namespace SocketIo

namespace Server

variable {w : Nat}

/-- The sids of the handshakes in a packet log, in order. -/
def handshakeSids (sent : List (Nat × Sent)) : List Sid :=
  sent.filterMap fun x => match x.2 with
    | .handshake _ sid => some sid
    | _ => none

@[simp] theorem handshakeSids_append (l l' : List (Nat × Sent)) :
    handshakeSids (l ++ l') = handshakeSids l ++ handshakeSids l' :=
  List.filterMap_append ..

/-- The sid the event loop holds for a handshake it has not sent yet. -/
def pendingSid : Loop → List Sid
  | .connecting _ _ sid => [sid]
  | .inserting c true .callback | .inserting c true .handshake => [c.sid]
  | _ => []

/-- The sids handed out in handshakes, then the one about to be. -/
def issued (srv : Server w) : List Sid := handshakeSids srv.sent ++ pendingSid srv.loop

/-- The sids issued are distinct, each generated from a counter value below the
generator's. -/
structure Fresh (srv : Server w) : Prop where
  nodup : (issued srv).Nodup
  below : ∀ s ∈ issued srv, ∃ e n, s = sidOf e n ∧ n < srv.sidGenerator.seq.toNat

/-- Whether a step is an engine `OnOpen` event. -/
def Action.isOnOpen : Action → Bool
  | .onOpen .. => true
  | _ => false

/-! ## What a step does to the sids issued -/

section Fields

variable (srv : Server w) (conn : Nat) (nsp : NameSpace) (sid : Sid) (hs : Bool)

@[simp] theorem insertClients_sidGenerator :
    (srv.insertClients conn nsp sid hs).sidGenerator = srv.sidGenerator := by
  unfold insertClients; split <;> rfl

/-- A rebinding holds no sid for a handshake. -/
theorem pendingSid_insertClients_false : pendingSid (srv.insertClients conn nsp sid false).loop = [] := by
  rcases insertClients_built srv conn nsp sid false with ⟨-, h⟩ | ⟨-, -, h⟩ <;> rw [h] <;> rfl

theorem pendingSid_insertClients_true :
    (pendingSid (srv.insertClients conn nsp sid true).loop).Sublist [sid] := by
  rcases insertClients_built srv conn nsp sid true with ⟨-, h⟩ | ⟨-, -, h⟩ <;> rw [h]
  · exact List.nil_sublist _
  · exact List.Sublist.refl _

end Fields

theorem issued_sublist {srv srv' : Server w} (h₁ : handshakeSids srv'.sent = handshakeSids srv.sent)
    (h₂ : (pendingSid srv'.loop).Sublist (pendingSid srv.loop)) : (issued srv').Sublist (issued srv) := by
  unfold issued
  rw [h₁]
  exact h₂.append_left _

/-- A step keeps the generator and issues no new sid, or it is an `OnOpen` that generates
the next one. -/
theorem step_issued {srv srv' : Server w} {a : Action} (h : srv.step a = some srv') :
    (srv'.sidGenerator = srv.sidGenerator ∧ (issued srv').Sublist (issued srv)) ∨
    (∃ e, a = .onOpen e true ∧ srv'.sidGenerator = (srv.sidGenerator.generate e).2 ∧
      issued srv' = issued srv ++ [(srv.sidGenerator.generate e).1]) := by
  have idle : ∀ l : Loop, (pendingSid .idle).Sublist (pendingSid l) := fun l => List.nil_sublist _
  cases a with
  | onOpen esid present =>
    obtain ⟨hl, rfl⟩ := step_onOpen h
    unfold createClient
    split
    · next hp =>
      subst hp
      split
      · exact .inl ⟨by simp, issued_sublist (by simp) (by rw [pendingSid_insertClients_false]; exact List.nil_sublist _)⟩
      · exact .inr ⟨esid, rfl, rfl, by simp [issued, hl, pendingSid]⟩
      · exact .inl ⟨rfl, issued_sublist rfl (by rw [hl]; exact List.Sublist.refl _)⟩
    · exact .inl ⟨rfl, List.Sublist.refl _⟩
  | packet p =>
    obtain ⟨e, k, s, hl, rfl⟩ := step_packet h
    unfold handleConnect
    split
    · exact .inl ⟨by simp, issued_sublist (by simp) (by rw [hl]; exact pendingSid_insertClients_true ..)⟩
    · exact .inl ⟨rfl, List.Sublist.refl _⟩
  | streamEnd => obtain rfl := step_streamEnd h; exact .inl ⟨rfl, issued_sublist rfl (idle _)⟩
  | callbackDone =>
    obtain ⟨c, hs, hl, rfl⟩ := step_callbackDone h
    exact .inl ⟨rfl, issued_sublist rfl (by rw [hl]; cases hs <;> exact List.Sublist.refl _)⟩
  | handshake =>
    obtain ⟨c, hs, hl, rfl⟩ := step_handshake h
    refine .inl ⟨rfl, ?_⟩
    cases hs <;> simp [issued, hl, pendingSid, handshakeSids]
  | handshakeFailed =>
    obtain ⟨c, hl, rfl⟩ := step_handshakeFailed h
    exact .inl ⟨rfl, issued_sublist rfl (by rw [hl]; exact List.nil_sublist _)⟩
  | register =>
    obtain ⟨c, hs, hl, rfl⟩ := step_register h
    exact .inl ⟨rfl, issued_sublist rfl (idle _)⟩
  | onClose esid =>
    obtain ⟨hl, rfl⟩ := step_onClose h
    exact .inl ⟨rfl, issued_sublist rfl (by rw [hl]; exact List.Sublist.refl _)⟩
  | retainRooms =>
    obtain ⟨esid, hl, ⟨rooms, -, rfl⟩ | ⟨-, rfl⟩⟩ := step_retainRooms h <;>
      exact .inl ⟨rfl, issued_sublist rfl (by rw [hl]; exact List.Sublist.refl _)⟩
  | call i k =>
    obtain ⟨c, -, rfl⟩ := step_call h
    refine .inl ⟨by cases k <;> rfl, issued_sublist ?_ (by rw [call_loop])⟩
    cases k <;> simp [Server.call, Server.send, handshakeSids]
  | runSpawned j =>
    obtain ⟨t, -, rfl⟩ := step_runSpawned h
    exact .inl ⟨rfl, issued_sublist (by simp [Server.send, handshakeSids]) (List.Sublist.refl _)⟩
  | emitFailed j => obtain ⟨t, -, rfl⟩ := step_emitFailed h; exact .inl ⟨rfl, List.Sublist.refl _⟩

namespace Fresh

variable {srv srv' : Server w}

theorem of_sublist (hf : Fresh srv) (hg : srv'.sidGenerator = srv.sidGenerator)
    (hs : (issued srv').Sublist (issued srv)) : Fresh srv' :=
  ⟨hf.nodup.sublist hs, fun s hm => hg ▸ hf.below s (hs.subset hm)⟩

/-- Generating with a counter that does not wrap issues a sid no issued sid equals. -/
theorem generate (hf : Fresh srv) {e : EngineSid} (hg : srv'.sidGenerator = (srv.sidGenerator.generate e).2)
    (hs : issued srv' = issued srv ++ [(srv.sidGenerator.generate e).1])
    (hw : srv.sidGenerator.seq.toNat + 1 < 2 ^ w) :
    Fresh srv' ∧ srv'.sidGenerator.seq.toNat = srv.sidGenerator.seq.toNat + 1 := by
  have hseq : srv'.sidGenerator.seq.toNat = srv.sidGenerator.seq.toNat + 1 := by
    rw [hg, SidGenerator.seq_generate, Nat.mod_eq_of_lt hw]
  refine ⟨⟨?_, fun s hm => ?_⟩, hseq⟩ <;> rw [hs] at *
  · refine hf.nodup.append (List.nodup_singleton _) (List.disjoint_singleton.mpr fun hm => ?_)
    obtain ⟨e', n, he, hn⟩ := hf.below _ hm
    have := (sidOf_inj he).2
    omega
  · rcases List.mem_append.mp hm with hm | hm
    · obtain ⟨e', n, rfl, hn⟩ := hf.below s hm
      exact ⟨e', n, rfl, by omega⟩
    · exact ⟨e, _, List.mem_singleton.mp hm, by omega⟩

end Fresh

theorem fresh_init (namespaces : List NameSpace) : Fresh (init namespaces : Server w) :=
  ⟨List.nodup_nil, nofun⟩

/-- A run in which the counter does not wrap keeps the sids issued fresh. -/
theorem run_fresh (srv : Server w) (acts : List Action) {srv' : Server w} (hf : Fresh srv)
    (h : run srv acts = some srv')
    (hk : srv.sidGenerator.seq.toNat + acts.countP Action.isOnOpen < 2 ^ w) : Fresh srv' := by
  induction acts generalizing srv with
  | nil => cases h; exact hf
  | cons a acts ih =>
    obtain ⟨s₁, h₁, hrest⟩ := run_cons_eq_some.mp h
    rw [List.countP_cons] at hk
    rcases step_issued h₁ with ⟨hg, hs⟩ | ⟨e, rfl, hg, hs⟩
    · exact ih s₁ (hf.of_sublist hg hs) hrest (by rw [hg]; omega)
    · simp only [Action.isOnOpen, if_true] at hk
      obtain ⟨hf₁, hseq⟩ := hf.generate hg hs (by omega)
      exact ih s₁ hf₁ hrest (by omega)

/-- Along any run from a fresh server with fewer than `2^w` `OnOpen` events, no two
handshakes carry the same sid. -/
theorem run_handshake_sids (namespaces : List NameSpace) (acts : List Action) {srv : Server w}
    (h : run (init namespaces) acts = some srv) (hk : acts.countP Action.isOnOpen < 2 ^ w) :
    (handshakeSids srv.sent).Nodup :=
  (run_fresh _ acts (fresh_init namespaces) h (by simpa [init] using hk)).nodup.sublist
    (List.sublist_append_left _ _)

/-- Sessions `e` and `f` connect on `/`, and each is answered with a handshake. -/
def twoSessions : List Action :=
  [.onOpen (.lit "e" (by decide)) true, .packet ⟨.connect, .lit "/" (by decide)⟩, .callbackDone,
    .handshake, .register, .onOpen (.lit "f" (by decide)) true, .packet ⟨.connect, .lit "/" (by decide)⟩,
    .callbackDone, .handshake]

/-- The state `twoSessions` leaves a server with an event table for `/` in. -/
def twoSessionsServer : Server 64 := (run (init [.lit "/" (by decide)]) twoSessions).getD (init [])

/-- Two sessions connect on `/`: two handshakes, with different sids. -/
theorem run_handshake_sids_two_sessions :
    run (init [.lit "/" (by decide)]) twoSessions = some twoSessionsServer ∧
      twoSessions.countP Action.isOnOpen < 2 ^ 64 ∧
      (handshakeSids twoSessionsServer.sent).Nodup ∧ (handshakeSids twoSessionsServer.sent).length = 2 :=
  have h : run (init [.lit "/" (by decide)]) twoSessions = some twoSessionsServer := rfl
  ⟨h, by decide, run_handshake_sids _ _ h (by decide), rfl⟩

end Server

end SocketIo
