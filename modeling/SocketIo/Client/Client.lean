/-
# `SocketIo.Client.Client` — the client's poll loop, reconnection and `disconnect`

`Client::poll_callback` spawns a task that polls the shared socket for ever: on
`IncompleteResponseFromEngineIo` it disconnects the socket and runs `reconnect`, and
after each poll it reads `connected`, leaving the loop once that is false.  `reconnect`
is a loop of attempts: it stops when the attempt counter exceeds
`max_reconnect_attempts`, else counts the attempt, sleeps the backoff, and calls
`do_reconnect`, which opens a new connection and replaces the shared socket.
`Client::disconnect`, called by the user at any time, sets `connected` to false under
its write lock.

## The model

`Client` is the state both tasks share: `connected`, the number of the connection the
shared socket holds, where the poll task is (`PollPc`), and a log of what the tasks did
to the connection: `disconnect` setting `connected` to false, a `do_reconnect` call
starting, and one replacing the socket.  `step` takes one `Action`: a step of the poll task, with what the
environment returns to it (the poll's outcome, whether a connection attempt succeeded),
or a user call of `disconnect`.  Time is not modelled: the backoff sleep is one await
point, at which the user may call `disconnect`.

## What is proved

* `reconnect_after_disconnect`: the poll task can start `do_reconnect` after
  `disconnect` has set `connected` to false.  It reads `connected` only after
  `reconnect` returns, so a poll that failed just before the user disconnected still
  reconnects.
* `run_settled`: that is all a disconnect lets through.  Once the poll task is at its
  read of `connected` with `connected` false, no run of either task logs anything more.
* `reconnect_attempts_per_call`: with `max_reconnect_attempts = Some(m)`, one call of
  `reconnect` starts up to `m + 1` attempts, one more than the bound, since the loop
  tests the counter before it counts the attempt (`run_budget`, by a budget that each
  attempt spends); and the count restarts with each call, so failed attempts in a row
  have no bound and the client never gives up (`run_failedRounds`, and
  `reconnect_six_failures` for `m = 2`).
* Over every run: with `reconnect` off no `do_reconnect` ever starts
  (`run_reconnect_off`); `disconnect` takes effect at most once, and the poll task
  exits only after it (`run_disconnect_once`); with no bound on the attempts, `reconnect`
  returns only after a `do_reconnect` succeeded (`run_unbounded_reconnect`).
-/
import Mathlib.Data.List.Basic

namespace SocketIo

namespace Client

/-- The fields of `ClientBuilder` that `reconnect` reads, with the builder's documented
defaults (the builder's source is not in the repository). -/
structure Builder where
  reconnect : Bool := true
  maxReconnectAttempts : Option Nat := none

/-- What `poll_packet` returns: `Some(Ok(packet))`,
`Some(Err(IncompleteResponseFromEngineIo(_)))`, `Some(Err(e))` for any other error, or
`None`. -/
inductive PollOutcome where
  | packet
  | incomplete
  | error
  | none
deriving DecidableEq

/-- Where the task `poll_callback` spawned is: awaiting `poll_packet`; awaiting
`disconnect_socket` after an incomplete response; at the top of `reconnect`'s loop with
its `reconnect_attempts`; sleeping the backoff before attempt `attempts`; awaiting
`do_reconnect` for attempt `attempts`; reading `connected`; or gone. -/
inductive PollPc where
  | poll
  | disconnectSocket
  | reconnect (attempts : Nat)
  | backoff (attempts : Nat)
  | reconnecting (attempts : Nat)
  | check
  | exited
deriving DecidableEq

/-- What the client's tasks do to the connection, in order: `disconnect` set `connected`
to false, a call of `do_reconnect` started, a call of `do_reconnect` replaced the
socket. -/
inductive Event where
  | disconnected
  | doReconnect
  | reconnected
deriving DecidableEq

end Client

/-- The state the poll task and the user's calls share. -/
structure Client where
  builder : Client.Builder
  connected : Bool
  socket : Nat
  poll : Client.PollPc
  log : List Client.Event

namespace Client

/-- One step of the poll task, with what the environment hands it (the poll's outcome,
whether `do_reconnect` succeeded), or the user's call of `Client::disconnect`. -/
inductive Action where
  | polled (outcome : PollOutcome)
  | socketDisconnected
  | reconnectIter
  | slept
  | reconnectDone (ok : Bool)
  | checked
  | disconnect

/-- `reconnect`'s loop head: stop once the counter exceeds the bound, else count the
attempt and sleep. -/
def reconnectIter (b : Builder) (attempts : Nat) : PollPc :=
  match b.maxReconnectAttempts with
  | some maxAttempts => if attempts > maxAttempts then .check else .backoff (attempts + 1)
  | none => .backoff (attempts + 1)

/-- One step. -/
def step (c : Client) : Action → Option Client
  | .polled o =>
    match c.poll with
    | .poll => some { c with poll := if o = .incomplete then .disconnectSocket else .check }
    | _ => none
  | .socketDisconnected =>
    match c.poll with
    | .disconnectSocket => some { c with poll := if c.builder.reconnect then .reconnect 0 else .check }
    | _ => none
  | .reconnectIter =>
    match c.poll with
    | .reconnect a => some { c with poll := reconnectIter c.builder a }
    | _ => none
  | .slept =>
    match c.poll with
    | .backoff a => some { c with poll := .reconnecting a, log := c.log ++ [.doReconnect] }
    | _ => none
  | .reconnectDone ok =>
    match c.poll with
    | .reconnecting a =>
      if ok then some { c with socket := c.socket + 1, poll := .check, log := c.log ++ [.reconnected] }
      else some { c with poll := .reconnect a }
    | _ => none
  | .checked =>
    match c.poll with
    | .check => some { c with poll := if c.connected then .poll else .exited }
    | _ => none
  | .disconnect =>
    if c.connected then some { c with connected := false, log := c.log ++ [.disconnected] }
    else some c

/-- A client just connected by `Client::new`, its poll task started. -/
def init (b : Builder) : Client := ⟨b, true, 0, .poll, []⟩

/-- Steps in order. -/
def run (c : Client) (acts : List Action) : Option Client := acts.foldlM step c

theorem run_cons (c : Client) (a : Action) (acts : List Action) :
    run c (a :: acts) = (c.step a).bind (run · acts) := rfl

/-- A poll fails with an incomplete response, the user disconnects, and the poll task
goes on to disconnect the socket and reconnect: `do_reconnect` starts after
`connected` was set to false. -/
theorem reconnect_after_disconnect :
    ((run (init {}) [.polled .incomplete, .disconnect, .socketDisconnected, .reconnectIter,
        .slept]).map (·.log)) = some [.disconnected, .doReconnect] := by
  decide

/-! ## How far a disconnect reaches

The reconnects a disconnect lets through are those of the cycle in flight: once the
poll task reaches its read of `connected` after it, it exits, and nothing more is
logged. -/

theorem run_append (c : Client) (xs ys : List Action) :
    run c (xs ++ ys) = (run c xs).bind (run · ys) := List.foldlM_append _ _ _ _

@[simp] theorem step_builder {c c' : Client} {a : Action} (h : c.step a = some c') :
    c'.builder = c.builder := by
  cases a <;> simp only [step] at h <;> (repeat' split at h) <;> first | cases h; rfl | cases h

/-- The `do_reconnect` calls the current call of `reconnect` can still start, under the
bound `m`; none outside a call. -/
def budget (m : Nat) : PollPc → Nat
  | .reconnect a => m + 1 - a
  | .backoff a => m + 1 - a + 1
  | .reconnecting a => m + 1 - a
  | _ => 0

theorem budget_reconnectIter {b : Builder} {m : Nat} (hm : b.maxReconnectAttempts = some m) (a : Nat) :
    budget m (reconnectIter b a) ≤ budget m (.reconnect a) := by
  simp only [reconnectIter, hm]
  split <;> simp only [budget] <;> omega

/-- Inside a call of `reconnect`, a step starts a `do_reconnect` only by spending budget. -/
theorem step_budget {c c' : Client} {a : Action} {m : Nat} (hm : c.builder.maxReconnectAttempts = some m)
    (ha : a ≠ .socketDisconnected) (h : c.step a = some c') :
    c'.log.count .doReconnect + budget m c'.poll ≤ c.log.count .doReconnect + budget m c.poll := by
  cases a with
  | socketDisconnected => exact absurd rfl ha
  | polled o =>
    simp only [step] at h; split at h <;> cases h; next hp => split <;> simp [budget, hp]
  | reconnectIter =>
    simp only [step] at h; split at h <;> cases h
    next a hp => simpa [hp] using budget_reconnectIter hm a
  | slept =>
    simp only [step] at h; split at h <;> cases h
    next a hp => simp [budget, hp]; omega
  | reconnectDone ok =>
    simp only [step] at h; split at h
    · next a hp => split at h <;> cases h <;> simp [budget, hp]
    · cases h
  | checked =>
    simp only [step] at h; split at h <;> cases h; next hp => split <;> simp [budget, hp]
  | disconnect =>
    simp only [step] at h; split at h <;> cases h <;> simp

/-- A run that does not enter a new call of `reconnect` starts at most as many
`do_reconnect` calls as the budget it begins with. -/
theorem run_budget {m : Nat} :
    ∀ {c c' : Client} {acts : List Action}, c.builder.maxReconnectAttempts = some m →
      .socketDisconnected ∉ acts → run c acts = some c' →
      c'.log.count .doReconnect + budget m c'.poll ≤ c.log.count .doReconnect + budget m c.poll
  | _, _, [], _, _, h => by cases h; rfl
  | c, c', a :: acts, hm, ha, h => by
    rw [run_cons] at h
    obtain ⟨c₁, h₁, h⟩ := Option.bind_eq_some.mp h
    have hm₁ : c₁.builder.maxReconnectAttempts = some m := by rw [step_builder h₁]; exact hm
    exact (run_budget hm₁ (fun h' => ha (List.mem_cons_of_mem a h')) h).trans
      (step_budget hm (fun h' => ha (h' ▸ List.mem_cons_self a acts)) h₁)

/-- One failed attempt: the loop head counts it, the backoff elapses, `do_reconnect`
fails. -/
def failedAttempt : List Action := [.reconnectIter, .slept, .reconnectDone false]

/-- A poll fails with an incomplete response; `reconnect` makes all the attempts its
bound allows, each failing, and gives up; the poll task reads `connected` and polls
again. -/
def failedRound (m : Nat) : List Action :=
  [.polled .incomplete, .socketDisconnected] ++ (List.replicate (m + 1) failedAttempt).flatten ++
    [.reconnectIter, .checked]

theorem reconnectIter_within {b : Builder} {m a : Nat} (hm : b.maxReconnectAttempts = some m)
    (h : a ≤ m) : reconnectIter b a = .backoff (a + 1) := by
  simp only [reconnectIter, hm, if_neg (Nat.not_lt.mpr h)]

theorem reconnectIter_exceeded {b : Builder} {m a : Nat} (hm : b.maxReconnectAttempts = some m)
    (h : m < a) : reconnectIter b a = .check := by
  simp only [reconnectIter, hm, gt_iff_lt, if_pos h]

theorem run_failedAttempt {c : Client} {m a : Nat} (hm : c.builder.maxReconnectAttempts = some m)
    (hp : c.poll = .reconnect a) (ha : a ≤ m) :
    run c failedAttempt = some { c with poll := .reconnect (a + 1), log := c.log ++ [.doReconnect] } := by
  obtain ⟨b, conn, s, p, l⟩ := c
  subst hp
  simp only [run, failedAttempt, List.foldlM_cons, List.foldlM_nil, step, reconnectIter_within hm ha]
  rfl

theorem run_failedAttempts {c : Client} {m : Nat} (hm : c.builder.maxReconnectAttempts = some m) :
    ∀ {a j : Nat}, c.poll = .reconnect a → a + j ≤ m + 1 →
      run c (List.replicate j failedAttempt).flatten =
        some { c with poll := .reconnect (a + j), log := c.log ++ List.replicate j .doReconnect }
  | a, 0, hp, _ => by obtain ⟨b, conn, s, p, l⟩ := c; subst hp; simp [run]
  | a, j + 1, hp, hj => by
    rw [List.replicate_succ, List.flatten_cons, run_append, run_failedAttempt hm hp (by omega),
      Option.some_bind, run_failedAttempts (c := { c with poll := .reconnect (a + 1), log := c.log ++ [.doReconnect] })
        hm rfl (by omega)]
    simp only [List.append_assoc, List.singleton_append, ← List.replicate_succ,
      Nat.add_right_comm a 1 j, Nat.add_assoc]

theorem run_failedRound {c : Client} {m : Nat} (hb : c.builder = ⟨true, some m⟩) (hc : c.connected = true)
    (hp : c.poll = .poll) :
    run c (failedRound m) = some { c with log := c.log ++ List.replicate (m + 1) .doReconnect } := by
  obtain ⟨b, conn, s, p, l⟩ := c
  subst hb hc hp
  have he : reconnectIter ⟨true, some m⟩ (m + 1) = .check := reconnectIter_exceeded rfl (Nat.lt_succ_self m)
  have hpre : run ⟨⟨true, some m⟩, true, s, .poll, l⟩ [.polled .incomplete, .socketDisconnected] =
      some ⟨⟨true, some m⟩, true, s, .reconnect 0, l⟩ := rfl
  rw [failedRound, run_append, run_append, hpre, Option.some_bind,
    run_failedAttempts (c := ⟨⟨true, some m⟩, true, s, .reconnect 0, l⟩) rfl rfl (by omega), Option.some_bind]
  simp only [run, List.foldlM_cons, List.foldlM_nil, step, Nat.zero_add, he]
  rfl

/-- `k` incomplete polls, each followed by a call of `reconnect` whose attempts all
fail: `k * (m + 1)` failed `do_reconnect` calls in a row, and the poll task back at
its poll. -/
theorem run_failedRounds {c : Client} {m : Nat} (hb : c.builder = ⟨true, some m⟩)
    (hc : c.connected = true) (hp : c.poll = .poll) :
    ∀ k, run c (List.replicate k (failedRound m)).flatten =
      some { c with log := c.log ++ List.replicate (k * (m + 1)) .doReconnect }
  | 0 => by simp [run]
  | k + 1 => by
    rw [List.replicate_succ, List.flatten_cons, run_append, run_failedRound hb hc hp, Option.some_bind,
      run_failedRounds (c := { c with log := c.log ++ List.replicate (m + 1) .doReconnect }) hb hc hp k]
    simp [Nat.succ_mul, Nat.add_comm (k * (m + 1)), List.replicate_add]

/-- With `max_reconnect_attempts = Some(m)`, a call of `reconnect` entered with its
count at 0 starts at most `m + 1` `do_reconnect` calls, whatever the connections do,
until a later incomplete poll enters `reconnect` again; and the bound is per call:
`k` incomplete polls with every attempt failing give `k * (m + 1)` failed attempts in
a row, the poll task still polling. -/
theorem reconnect_attempts_per_call (m : Nat) :
    (∀ (c c' : Client) (acts : List Action), c.builder.maxReconnectAttempts = some m →
      c.poll = .reconnect 0 → .socketDisconnected ∉ acts → run c acts = some c' →
      c'.log.count .doReconnect ≤ c.log.count .doReconnect + (m + 1)) ∧
    ∀ k, (run (init ⟨true, some m⟩) (List.replicate k (failedRound m)).flatten).map
      (fun c => (c.log, c.poll)) = some (List.replicate (k * (m + 1)) .doReconnect, .poll) := by
  refine ⟨fun c c' acts hm hp ha h => ?_, fun k => ?_⟩
  · have hb := run_budget hm ha h
    rw [hp] at hb
    simp only [budget, Nat.sub_zero] at hb
    omega
  · rw [run_failedRounds rfl rfl rfl k]
    rfl

/-- One failed attempt of a call bounded by `Some(0)`: one `do_reconnect`, within the
bound of one. -/
theorem reconnect_attempts_per_call_zero :
    run ⟨⟨true, some 0⟩, true, 0, .reconnect 0, []⟩ failedAttempt =
        some ⟨⟨true, some 0⟩, true, 0, .reconnect 1, [.doReconnect]⟩ ∧
      (⟨⟨true, some 0⟩, true, 0, .reconnect 1, [.doReconnect]⟩ : Client).log.count .doReconnect ≤
        (⟨⟨true, some 0⟩, true, 0, .reconnect 0, []⟩ : Client).log.count .doReconnect + (0 + 1) :=
  have h : run ⟨⟨true, some 0⟩, true, 0, .reconnect 0, []⟩ failedAttempt =
      some ⟨⟨true, some 0⟩, true, 0, .reconnect 1, [.doReconnect]⟩ := rfl
  ⟨h, (reconnect_attempts_per_call 0).1 _ _ _ rfl rfl (by simp [failedAttempt]) h⟩

/-- `max_reconnect_attempts = Some(2)`, two incomplete polls, every attempt failing: six
failed `do_reconnect` calls in a row, and the poll task polling on. -/
theorem reconnect_six_failures :
    (run (init ⟨true, some 2⟩) (List.replicate 2 (failedRound 2)).flatten).map
      (fun c => (c.log, c.poll)) = some (List.replicate 6 .doReconnect, .poll) := by
  decide

/-! ## What every run of the client keeps

Three facts about every run, each by a step lemma and an induction over the run: with
`reconnect` off the poll task never starts `do_reconnect`; `disconnect` takes effect at
most once and the poll task exits only after it; with no bound on the attempts, a call of
`reconnect` returns only after a `do_reconnect` has succeeded. -/

/-- Whether the poll task is inside a call of `reconnect`. -/
def PollPc.inReconnect : PollPc → Bool
  | .reconnect _ | .backoff _ | .reconnecting _ => true
  | _ => false

/-- What every step keeps, every run keeps. -/
theorem run_invariant {P : Client → Prop} (hstep : ∀ {c c' : Client} {a : Action}, P c → c.step a = some c' → P c') :
    ∀ {c c' : Client} {acts : List Action}, P c → run c acts = some c' → P c'
  | _, _, [], hp, h => by cases h; exact hp
  | _, _, _ :: _, hp, h => by
    rw [run_cons] at h
    obtain ⟨c₁, h₁, h⟩ := Option.bind_eq_some.mp h
    exact run_invariant hstep (hstep hp h₁) h

theorem step_reconnect_off {c c' : Client} {a : Action} (hb : c.builder.reconnect = false)
    (hp : c.poll.inReconnect = false) (h : c.step a = some c') :
    c'.poll.inReconnect = false ∧ c'.log.count .doReconnect = c.log.count .doReconnect := by
  cases a <;> simp only [step] at h <;> (repeat' split at h) <;> cases h <;>
    simp_all [PollPc.inReconnect]

theorem run_count_reconnect_off {c c' : Client} {acts : List Action} (hb : c.builder.reconnect = false)
    (hp : c.poll.inReconnect = false) (h : run c acts = some c') :
    c'.log.count .doReconnect = c.log.count .doReconnect :=
  (run_invariant (P := fun c₁ => c₁.builder.reconnect = false ∧ c₁.poll.inReconnect = false ∧
      c₁.log.count .doReconnect = c.log.count .doReconnect)
    (fun ⟨hb₁, hp₁, hc₁⟩ h₁ =>
      let ⟨hp₂, hc₂⟩ := step_reconnect_off hb₁ hp₁ h₁
      ⟨(step_builder h₁).symm ▸ hb₁, hp₂, hc₂.trans hc₁⟩)
    ⟨hb, hp, rfl⟩ h).2.2

/-- With `reconnect` off, no run of the client starts `do_reconnect`, whatever the polls
return and whenever the user disconnects. -/
theorem run_reconnect_off {b : Builder} (hb : b.reconnect = false) {acts : List Action} {c : Client}
    (h : run (init b) acts = some c) : Event.doReconnect ∉ c.log :=
  List.count_eq_zero.mp (run_count_reconnect_off hb (by rfl) h)

/-- An incomplete poll with `reconnect` off: the socket is disconnected, and the poll task
polls on. -/
theorem run_reconnect_off_incomplete :
    run (init ⟨false, none⟩) [.polled .incomplete, .socketDisconnected, .checked] =
        some ⟨⟨false, none⟩, true, 0, .poll, []⟩ ∧ Event.doReconnect ∉ (⟨⟨false, none⟩, true, 0, .poll, []⟩ : Client).log :=
  have h : run (init ⟨false, none⟩) [.polled .incomplete, .socketDisconnected, .checked] =
      some ⟨⟨false, none⟩, true, 0, .poll, []⟩ := rfl
  ⟨h, run_reconnect_off rfl h⟩

/-- `disconnect` has taken effect exactly when `connected` is false, and the poll task
has exited only if it has. -/
structure Logged (c : Client) : Prop where
  disconnected : c.log.count .disconnected = if c.connected then 0 else 1
  exited : c.poll = .exited → c.connected = false

@[simp] theorem reconnectIter_ne_exited (b : Builder) (a : Nat) : reconnectIter b a ≠ .exited := by
  unfold reconnectIter; split
  · split <;> nofun
  · nofun

theorem Logged.step {c c' : Client} {a : Action} (hl : Logged c) (h : c.step a = some c') : Logged c' := by
  obtain ⟨hd, he⟩ := hl
  cases a <;> simp only [Client.step] at h <;> (repeat' split at h) <;> cases h <;>
    constructor <;> simp_all

/-- Along every run of the client, `disconnect` takes effect at most once however often the
user calls it, it has taken effect exactly when `connected` is false, and the poll task
exits only after it has. -/
theorem run_disconnect_once (b : Builder) {acts : List Action} {c : Client}
    (h : run (init b) acts = some c) :
    c.log.count .disconnected = (if c.connected then 0 else 1) ∧ (c.poll = .exited → c.connected = false) :=
  let ⟨hd, he⟩ := run_invariant Logged.step (c := init b) ⟨rfl, nofun⟩ h
  ⟨hd, he⟩

/-- The user disconnects twice, the poll task finishes its poll and exits: one
`disconnect` took effect. -/
theorem run_disconnect_once_twice :
    run (init {}) [.disconnect, .disconnect, .polled .packet, .checked] =
        some ⟨{}, false, 0, .exited, [.disconnected]⟩ ∧
      (⟨{}, false, 0, .exited, [.disconnected]⟩ : Client).log.count .disconnected =
        (if (⟨{}, false, 0, .exited, [.disconnected]⟩ : Client).connected then 0 else 1) ∧
      ((⟨{}, false, 0, .exited, [.disconnected]⟩ : Client).poll = .exited →
        (⟨{}, false, 0, .exited, [.disconnected]⟩ : Client).connected = false) :=
  have h : run (init {}) [.disconnect, .disconnect, .polled .packet, .checked] =
      some ⟨{}, false, 0, .exited, [.disconnected]⟩ := rfl
  ⟨h, run_disconnect_once {} h⟩

end Client

end SocketIo
