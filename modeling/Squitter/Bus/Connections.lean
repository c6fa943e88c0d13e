import Squitter.Bus.Peers

/-!
# Connections

An outgoing connection is looked up, then the addresses are tried one after the other, and the first
that answers provides the stream. A listener is looked up as well and stays at the first address
where it can listen; each connection that it accepts is a stream that nobody waits for. Whatever
fails leads back to a lookup, after a delay.
-/

namespace Squitter.Station

variable {σ : Type} [Host σ]

/-! ## Looking up -/

/-- Start a lookup for a transport and watch it. -/
def startLookup (s : Station σ) (id : Nat) (q : Query) :
    Except IoError (Stream × Nat) × Station σ :=
  match Host.lookup q s.host with
  | (.error e, host) => (.error e, s.withHost host)
  | (.ok lookup, host) =>
    match (s.withHost host).register lookup .readable (.transport id) with
    | (.error e, s) => (.error e, s.discard lookup)
    | (.ok token, s) => (.ok (lookup, token), s)

/-- The answer of a lookup, if it is there; then the lookup is over. -/
def takeAnswer (s : Station σ) (lookup : Stream) (token : Nat) :
    Option (Except IoError (List Address)) × Station σ :=
  match Host.answer lookup s.host with
  | (.pending, host) => (none, s.withHost host)
  | (.answered r, host) => (some r, ((s.withHost host).unregister token).discard lookup)

/-! ## Outgoing connections -/

/-- Replace the phase of an outgoing connection. -/
def setOutgoing (s : Station σ) (id : Nat) (phase : Outgoing) : Station σ :=
  match s.transport? id with
  | some ⟨role, attempt, .outgoing host port _⟩ =>
    s.setTransport id ⟨role, attempt, .outgoing host port phase⟩
  | _ => s

/-- Look up the other host. -/
def resolveOutgoing (s : Station σ) (id : Nat) (host port : String) : Station σ :=
  match s.startLookup id ⟨some host, port, false⟩ with
  | (.error _, s) => s.retryLater id
  | (.ok (lookup, token), s) => s.setOutgoing id (.resolving lookup token)

/-- The connection is there. -/
def outgoingConnected (s : Station σ) (id : Nat) (stream : Stream) : Station σ :=
  match s.transport? id with
  | none => s.discard stream
  | some t =>
    let s := (s.setTransport id { t with attempt := 0 }).setOutgoing id .connected
    match s.attach stream t.role (some id) with
    | (.error _, s) => s.retryLater id
    | (.ok (), s) => s

/-- Try addresses one after the other. -/
def connectTo (s : Station σ) (id : Nat) : List Address → Station σ
  | [] => s.retryLater id
  | address :: others =>
    match Host.connect address s.host with
    | (.error _, host) => connectTo (s.withHost host) id others
    | (.ok (stream, true), host) => (s.withHost host).outgoingConnected id stream
    | (.ok (stream, false), host) =>
      match (s.withHost host).register stream .writable (.transport id) with
      | (.error _, s) => connectTo (s.discard stream) id others
      | (.ok token, s) => s.setOutgoing id (.connecting stream others token)

/-- What is watched for an outgoing connection is ready. -/
def outgoingReady (s : Station σ) (id : Nat) : Outgoing → Station σ
  | .resolving lookup token =>
    match s.takeAnswer lookup token with
    | (none, s) => s
    | (some (.ok addresses), s) => s.connectTo id addresses
    | (some (.error _), s) => s.retryLater id
  | .connecting stream others token =>
    let s := s.unregister token
    match Host.connected stream s.host with
    | (.ok (), host) => (s.withHost host).outgoingConnected id stream
    | (.error _, host) => ((s.withHost host).discard stream).connectTo id others
  | .idle => s
  | .connected => s

/-! ## Listeners -/

/-- Replace the phase of a listener. -/
def setIncoming (s : Station σ) (id : Nat) (phase : Incoming) : Station σ :=
  match s.transport? id with
  | some ⟨role, attempt, .incoming host port _⟩ =>
    s.setTransport id ⟨role, attempt, .incoming host port phase⟩
  | _ => s

/-- Look up where to listen. -/
def resolveIncoming (s : Station σ) (id : Nat) (host : Option String) (port : String) : Station σ :=
  match s.startLookup id ⟨host, port, true⟩ with
  | (.error _, s) => s.retryLater id
  | (.ok (lookup, token), s) => s.setIncoming id (.resolving lookup token)

/-- Listen at the first address where that is possible. -/
def listenAt (s : Station σ) (id : Nat) : List Address → Station σ
  | [] => s.retryLater id
  | address :: others =>
    match Host.listen address s.host with
    | (.error _, host) => listenAt (s.withHost host) id others
    | (.ok listener, host) =>
      match (s.withHost host).register listener .readable (.transport id) with
      | (.error _, s) => listenAt (s.discard listener) id others
      | (.ok token, s) =>
        match s.transport? id with
        | none => s
        | some t =>
          (s.setTransport id { t with attempt := 0 }).setIncoming id (.listening listener token)

/-- What is watched for a listener is ready. -/
def incomingReady (s : Station σ) (id : Nat) (role : Role) : Incoming → Station σ
  | .resolving lookup token =>
    match s.takeAnswer lookup token with
    | (none, s) => s
    | (some (.ok addresses), s) => s.listenAt id addresses
    | (some (.error _), s) => s.retryLater id
  | .listening listener _ =>
    let (streams, host) := Host.accept listener s.host
    streams.foldl (fun s stream => (s.attach stream role none).2) (s.withHost host)
  | .idle => s

end Squitter.Station
