/-
# `SocketIo.Engine.Polling` — engine.io's HTTP long-polling transport

`ClientPolling` holds a `reqwest::Client` and the URL it polls.  `new` adds the query
pair `transport=polling` unless its guard finds it unneeded; `emit` posts one body;
`poll_next`, its `Stream` implementation, sends a GET and returns the response body.
`ServerPolling` is the server's end: `emit` puts a body on a channel to the HTTP
handler, and `poll_next` takes the next body the handler received.  Both `emit`s turn a
binary payload into the byte `b` followed by its base64.

## The model

A `Url` is seen through `query_pairs`: its name-value pairs in order, and the rest of
it, which nothing here touches.  `append_hash` (in `transports/mod.rs`, not in the
source) is a parameter.  What the HTTP layer does is the environment's: the status of a
POST, and for each call of `poll_next` whether the send future and then the body future
are ready when polled (`Readiness`).  A call of `ClientPolling.pollNext` returns its
poll result with the GET it built and what became of it (`GetFate`): a GET whose send
future is dropped at its first poll may never reach the server.

## What is proved

* `new_keeps_url_without_transport`: the guard of `new` is
  `k == "transport" || v == "polling"`, so a URL with any pair of value `polling`, or
  with another `transport`, is stored without `transport=polling`.  Building again from
  the stored URL changes nothing (`new_idempotent`).
* `binary_frame`: both `emit`s write `b` and the base64 of the data; the frame holds no
  `0x1E`, the separator of a payload's packets, and decodes back to the data.  The body
  tells payloads apart except a text payload that reads `b` and a base64 text, which is
  written as the binary payload it spells (`emitBody_eq_iff`).
* `awaitNext_second_get`: `poll_next` keeps no future between calls.  A call that
  returns `Pending` drops its GET, or the response it already has, and the next call
  builds a new GET.
-/
import SocketIo.Base64

namespace SocketIo.Engine

/-- `transports::Payload`. -/
inductive Payload where
  | string (data : List UInt8)
  | binary (data : List UInt8)
deriving DecidableEq

/-- The crate's `Error`, the variants this file returns: `Error::HttpError`, when
`reqwest` fails to build a client, send, or read a body;
`Error::InvalidHttpResponseStatus(status)`; and `Error::SendError`, when the channel's
receiver is gone. -/
inductive Error where
  | httpError
  | invalidHttpResponseStatus (status : Nat)
  | sendError
deriving DecidableEq

/-! ## URLs and `ClientPolling::new` -/

/-- `reqwest::Url` as `query_pairs` reads it: the decoded pairs of its query in order,
and the rest of the URL. -/
structure Url where
  base : RString
  query : List (RString × RString)
deriving DecidableEq

/-- `url.query_pairs_mut().append_pair(k, v)`: the pair goes after the others. -/
def Url.appendPair (url : Url) (k v : RString) : Url := { url with query := url.query ++ [(k, v)] }

/-- `http::HeaderMap`: names and values. -/
abbrev HeaderMap := List (RString × List UInt8)

/-- `reqwest::Client`, by the default headers its builder was given. -/
structure HttpClient where
  defaultHeaders : Option HeaderMap
deriving DecidableEq

/-- `ClientPolling`. -/
structure ClientPolling where
  client : HttpClient
  url : Url
deriving DecidableEq

def transport : RString := .lit "transport" (by decide)

def polling : RString := .lit "polling" (by decide)

/-- The test `new` makes of each query pair: `k == "transport" || v == "polling"`. -/
def transportGuard (p : RString × RString) : Bool := p.1 == transport || p.2 == polling

/-- `ClientPolling::new`.  `built` is whether `ClientBuilder::build` succeeds. -/
def ClientPolling.new (url : Url) (headers : Option HeaderMap) (built : Bool) :
    Except Error ClientPolling :=
  if built then
    .ok ⟨⟨headers⟩, if !url.query.any transportGuard then url.appendPair transport polling else url⟩
  else .error .httpError

theorem new_url {u : Url} {headers : Option HeaderMap} {built : Bool} {t : ClientPolling}
    (h : ClientPolling.new u headers built = .ok t) :
    t.url = if u.query.any transportGuard then u else u.appendPair transport polling := by
  unfold ClientPolling.new at h
  split at h
  · cases h; cases u.query.any transportGuard <;> rfl
  · cases h

/-- A URL with a pair the guard accepts and no `transport=polling` is stored as it is,
without `transport=polling`. -/
theorem new_keeps_url_without_transport (u : Url) (headers : Option HeaderMap)
    (hg : ∃ p ∈ u.query, transportGuard p = true) (hn : (transport, polling) ∉ u.query) :
    ∃ t, ClientPolling.new u headers true = .ok t ∧ t.url = u ∧ (transport, polling) ∉ t.url.query := by
  have hany : u.query.any transportGuard = true := List.any_eq_true.mpr hg
  exact ⟨_, rfl, by simp [hany], by simpa [hany] using hn⟩

/-- `http://127.0.0.1/?x=polling`. -/
def pollingValueUrl : Url :=
  ⟨.lit "http://127.0.0.1/" (by decide), [(.lit "x" (by decide), polling)]⟩

theorem new_keeps_polling_value_url :
    (∃ p ∈ pollingValueUrl.query, transportGuard p = true) ∧
      (transport, polling) ∉ pollingValueUrl.query ∧
      ∃ t, ClientPolling.new pollingValueUrl none true = .ok t ∧ t.url = pollingValueUrl ∧
        (transport, polling) ∉ t.url.query :=
  have hg : ∃ p ∈ pollingValueUrl.query, transportGuard p = true := ⟨_, List.mem_singleton_self _, by decide⟩
  have hn : (transport, polling) ∉ pollingValueUrl.query := by decide
  ⟨hg, hn, new_keeps_url_without_transport pollingValueUrl none hg hn⟩

/-- `new` is idempotent: a transport built again from the URL one stores keeps that URL
as it is, whatever the first URL and the headers. -/
theorem new_idempotent {u : Url} {headers : Option HeaderMap} {built : Bool} {t : ClientPolling}
    (h : ClientPolling.new u headers built = .ok t) (headers' : Option HeaderMap) :
    ClientPolling.new t.url headers' true = .ok ⟨⟨headers'⟩, t.url⟩ := by
  have hany : t.url.query.any transportGuard = true := by
    rw [new_url h]
    split
    · assumption
    · exact List.any_eq_true.mpr ⟨(transport, polling), by simp [Url.appendPair], by simp [transportGuard]⟩
  simp [ClientPolling.new, hany]

/-- A bare URL gets `transport=polling`, and building again from it adds nothing. -/
theorem new_idempotent_bare :
    ClientPolling.new ⟨.lit "http://127.0.0.1/" (by decide), []⟩ none true =
        .ok ⟨⟨none⟩, ⟨.lit "http://127.0.0.1/" (by decide), [(transport, polling)]⟩⟩ ∧
      ClientPolling.new ⟨.lit "http://127.0.0.1/" (by decide), [(transport, polling)]⟩ none true =
        .ok ⟨⟨none⟩, ⟨.lit "http://127.0.0.1/" (by decide), [(transport, polling)]⟩⟩ :=
  have h : ClientPolling.new ⟨.lit "http://127.0.0.1/" (by decide), []⟩ none true =
      .ok ⟨⟨none⟩, ⟨.lit "http://127.0.0.1/" (by decide), [(transport, polling)]⟩⟩ := rfl
  ⟨h, new_idempotent h none⟩

/-! ## `emit` -/

/-- The body both `emit`s write: a text payload as it is, a binary one as `b` followed
by its base64. -/
def emitBody : Payload → List UInt8
  | .string data => data
  | .binary data => 98 :: Base64.encode data

/-- The methods `ClientPolling` sends with. -/
inductive Method where
  | get | post
deriving DecidableEq

/-- An HTTP request a `reqwest::Client` sends. -/
structure Request where
  client : HttpClient
  method : Method
  url : Url
  body : List UInt8
deriving DecidableEq

section Client

variable (appendHash : Url → Url)

/-- `ClientPolling::emit`: the POST it sends, and its result for the response status
(`none` when `send` fails). -/
def ClientPolling.emit (t : ClientPolling) (payload : Payload) (status : Option Nat) :
    Request × Except Error Unit :=
  (⟨t.client, .post, appendHash t.url, emitBody payload⟩,
    match status with
    | some 200 => .ok ()
    | some s => .error (.invalidHttpResponseStatus s)
    | none => .error .httpError)

end Client

/-- One end of a `tokio::sync::mpsc` channel: what is queued on it, and whether the other
end is still there. -/
structure Channel where
  queue : List (List UInt8)
  peerOpen : Bool
deriving DecidableEq

/-- `ServerPolling`: the channel its `sender` writes to, and the one its `receiver`
reads. -/
structure ServerPolling where
  outgoing : Channel
  incoming : Channel
deriving DecidableEq

/-- `ServerPolling::emit`: queue the body, or fail when the receiver is gone. -/
def ServerPolling.emit (s : ServerPolling) (payload : Payload) : Except Error ServerPolling :=
  if s.outgoing.peerOpen then
    .ok { s with outgoing := { s.outgoing with queue := s.outgoing.queue ++ [emitBody payload] } }
  else .error .sendError

/-- The frame of a binary payload has no `0x1E`. -/
theorem frame_no_separator (d : List UInt8) : (0x1E : UInt8) ∉ emitBody (.binary d) := by
  rintro (_ | ⟨_, h⟩)
  exact absurd (Base64.ge_of_mem_encode h) (by decide)

/-- Both `emit`s write a binary payload as `b` and its base64, a frame without `0x1E`
whose tail decodes back to the data. -/
theorem binary_frame (appendHash : Url → Url) (t : ClientPolling) (s : ServerPolling)
    (d : List UInt8) (status : Option Nat) :
    (t.emit appendHash (.binary d) status).1.body = 98 :: Base64.encode d ∧
    s.emit (.binary d) = (if s.outgoing.peerOpen then
      .ok { s with outgoing := { s.outgoing with queue := s.outgoing.queue ++ [98 :: Base64.encode d] } }
      else .error .sendError) ∧
    (0x1E : UInt8) ∉ 98 :: Base64.encode d ∧
    Base64.decode (98 :: Base64.encode d).tail = some d :=
  ⟨rfl, rfl, frame_no_separator d, Base64.decode_encode d⟩

/-- The body tells two payloads apart but for one kind of pair: a text payload that is `b`
followed by the base64 of some bytes is written exactly as those bytes sent as binary. -/
theorem emitBody_eq_iff (p q : Payload) :
    emitBody p = emitBody q ↔ p = q ∨ (∃ d, p = .string (98 :: Base64.encode d) ∧ q = .binary d) ∨
      (∃ d, p = .binary d ∧ q = .string (98 :: Base64.encode d)) := by
  cases p with
  | string x => cases q <;> simp [emitBody]
  | binary d =>
    cases q with
    | string y => simp [emitBody, eq_comm]
    | binary d' => simp [emitBody, Base64.encode_injective.eq_iff]

/-! ## `poll_next` -/

/-- `std::task::Poll`. -/
inductive Poll (α : Type) where
  | pending
  | ready (a : α)
deriving DecidableEq

/-- What the HTTP layer has done when one call of `ClientPolling::poll_next` polls its
futures: the send future, pending or ready with whether a response came; after a
response, the body future, pending or ready with the body (`none` for an error). -/
structure Readiness where
  send : Poll Bool
  body : Poll (Option (List UInt8))
deriving DecidableEq

/-- What became of the GET one call of `poll_next` builds.  `abandoned`: its send
future was dropped pending, so the request may never have reached the server, or
reached it with nobody left to read the response; `failed`: `send` failed;
`bodyDropped`: the response came, and its body future was dropped pending, so the body
is lost; `bodyFailed`: reading the body failed; `delivered`: the body was returned. -/
inductive GetFate where
  | abandoned
  | failed
  | bodyDropped
  | bodyFailed
  | delivered
deriving DecidableEq

section Client

variable (appendHash : Url → Url)

/-- The GET request `poll_next` builds. -/
def ClientPolling.getRequest (t : ClientPolling) : Request := ⟨t.client, .get, appendHash t.url, []⟩

/-- `ClientPolling::poll_next`: build the GET's send future and poll it once; on a
response, build its body future and poll that once.  A `ready!` on a pending future
returns `Pending`, and the future, a temporary of the call, is dropped with it. -/
def ClientPolling.pollNext (t : ClientPolling) (r : Readiness) :
    Poll (Option (Except Error (List UInt8))) × Request × GetFate :=
  match r.send with
  | .pending => (.pending, t.getRequest appendHash, .abandoned)
  | .ready false => (.ready (some (.error .httpError)), t.getRequest appendHash, .failed)
  | .ready true =>
    match r.body with
    | .pending => (.pending, t.getRequest appendHash, .bodyDropped)
    | .ready (some bytes) => (.ready (some (.ok bytes)), t.getRequest appendHash, .delivered)
    | .ready none => (.ready (some (.error .httpError)), t.getRequest appendHash, .bodyFailed)

/-- `stream.next().await` on a `ClientPolling`: the task calls `poll_next` each time it
is woken, the calls meeting the readiness of `rs` in turn, until one is ready.  The
item (`none` if the schedule ends first) and the GET each call built, with its fate. -/
def ClientPolling.awaitNext (t : ClientPolling) : List Readiness →
    Option (Option (Except Error (List UInt8))) × List (Request × GetFate)
  | [] => (none, [])
  | r :: rs =>
    match t.pollNext appendHash r with
    | (.ready item, get, fate) => (some item, [(get, fate)])
    | (.pending, get, fate) => ((t.awaitNext rs).1, (get, fate) :: (t.awaitNext rs).2)

/-- A send future pending at the first call, or a body future pending after the
response came: the second call builds a second GET, and the first GET, or the body of
its response, is dropped. -/
theorem awaitNext_second_get (t : ClientPolling) (body : Poll (Option (List UInt8)))
    (bytes : List UInt8) :
    t.awaitNext appendHash [⟨.pending, body⟩, ⟨.ready true, .ready (some bytes)⟩] =
        (some (some (.ok bytes)),
          [(t.getRequest appendHash, .abandoned), (t.getRequest appendHash, .delivered)]) ∧
      t.awaitNext appendHash [⟨.ready true, .pending⟩, ⟨.ready true, .ready (some bytes)⟩] =
        (some (some (.ok bytes)),
          [(t.getRequest appendHash, .bodyDropped), (t.getRequest appendHash, .delivered)]) :=
  ⟨rfl, rfl⟩

end Client

/-- `ServerPolling::poll_next`: poll the receiver's lock future once, then its `recv`
future once, returning `Pending` when either is pending.  `locked` is whether another
task holds the lock.  `recv` takes a body off the channel only when it returns it. -/
def ServerPolling.pollNext (s : ServerPolling) (locked : Bool) :
    Poll (Option (Except Error (List UInt8))) × ServerPolling :=
  if locked then (.pending, s)
  else
    match s.incoming.queue with
    | b :: rest => (.ready (some (.ok b)), { s with incoming := { s.incoming with queue := rest } })
    | [] => if s.incoming.peerOpen then (.pending, s) else (.ready none, s)

end SocketIo.Engine
