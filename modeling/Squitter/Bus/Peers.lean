import Squitter.Bus.Owners

/-!
# Peers

**Attaching** (`attach`) turns a stream into peers, all or none. What the format requires at the
start of a stream is written before anything else can be. **Closing** (`close`) takes a peer away
and tells whom it is tied to: the transport that provided the stream, or the bridge to the peer that
shares it. A coupled partner is closed as well, so closing goes on, but each time with fewer peers.
-/

namespace Squitter.Station

variable {σ : Type} [Host σ]

/-! ## Attaching -/

/-- Write what a stream of a sending role starts with. -/
def greet (s : Station σ) (stream : Stream) (role : Role) : Except Error Unit × Station σ :=
  match role.sendFormat? with
  | none => (.ok (), s)
  | some format =>
    let (greeting, fanout) := s.state.fanout.greeting format s.state.server (Poller.now s.host)
    let s := s.withBus fun b => { b with fanout }
    match greeting with
    | .error e => (.error e, s)
    | .ok bytes =>
      let (r, host) := writeAll stream bytes s.host
      (r.mapError .io, s.withHost host)

/-- Add a receiver on a stream, which is closed if it cannot be watched. -/
def addReceiver (s : Station σ) (stream : Stream) (tether : Tether Nat) :
    Except Error Nat × Station σ :=
  let (id, s) := s.takeId
  match s.register stream .readable (.receive id) with
  | (.error e, s) => (.error (.io e), s.discard stream)
  | (.ok token, s) =>
    let (source, host) := Host.freshId s.host
    let s := s.withHost host
    (.ok id, s.withBus fun b =>
      { b with receivers := b.receivers.insert id (.fresh source stream token tether) })

/-- Add a sender on a stream. It may be watched, to notice when the other side goes away; a stream
that also has a receiver must not be. -/
def addSender (s : Station σ) (stream : Stream) (format : Format) (tether : Tether Nat)
    (watch : Bool) : Except Error Nat × Station σ :=
  let (id, s) := s.takeId
  let add (token : Option Nat) (s : Station σ) : Station σ :=
    s.withBus fun b =>
      { b with fanout := b.fanout.insert id { Sender.fresh stream format tether with token } }
  if watch then
    match s.reactor.tryRegister stream.handle .readable (.send id) s.host with
    | (.error e, reactor, host) => (.error (.io e), (s.withReactor reactor host).discard stream)
    | (.ok token, reactor, host) => (.ok id, add token (s.withReactor reactor host))
  else (.ok id, add none s)

/-- Add both halves of a stream, joined by a bridge. -/
def addBoth (s : Station σ) (stream : Stream) (format : Format) (owner : Option Nat) :
    Except Error Unit × Station σ :=
  match Streams.duplicate stream s.host with
  | (.error e, host) => (.error (.io e), (s.withHost host).discard stream)
  | (.ok half, host) =>
    let (bridge, bridges) := s.state.bridges.allocate
    let s := (s.withHost host).withBus fun b => { b with bridges }
    match s.addSender half format (.bridge bridge) false with
    | (.error e, s) => (.error e, s.discard stream)
    | (.ok send, s) =>
      match s.addReceiver stream (.bridge bridge) with
      | (.error e, s) =>
        (.error e, (s.withBus fun b => { b with fanout := b.fanout.remove send }).discard half)
      | (.ok receive, s) =>
        (.ok (), s.withBus fun b =>
          { b with bridges := b.bridges.build bridge owner send receive stream.socket })

/-- The transport with a number is the standard output, which is never read. -/
def isStdout (s : Station σ) (owner : Option Nat) : Bool :=
  (owner.bind s.transport?).any (·.mechanism.isStdout)

/-- Turn a stream into peers. If that fails, there are none and the stream is closed. -/
def attach (s : Station σ) (stream : Stream) (role : Role) (owner : Option Nat) :
    Except Error Unit × Station σ :=
  match s.greet stream role with
  | (.error e, s) => (.error e, s.discard stream)
  | (.ok (), s) =>
    match role with
    | .receive =>
      let (r, s) := s.addReceiver stream (.ofOwner owner)
      (r.map fun _ => (), s)
    | .send format =>
      let (r, s) := s.addSender stream format (.ofOwner owner) (¬ s.isStdout owner)
      (r.map fun _ => (), s)
    | .sendReceive format => s.addBoth stream format owner

/-! ## Closing -/

/-- Take a peer away: it is not watched any more and its stream is closed. The result has its
tether. -/
def take (s : Station σ) (half : Half) (id : Nat) (why : Reason) :
    Option (Tether Nat × Station σ) :=
  match half with
  | .receive =>
    match s.state.receivers.get? id with
    | none => none
    | some r =>
      let s := s.withBus fun b => { b with receivers := b.receivers.erase id }
      some (r.tether, ((s.unregister r.token).tell [.closed why]).discard r.stream)
  | .send =>
    match s.state.fanout.senders.get? id with
    | none => none
    | some p =>
      let s := s.withBus fun b => { b with fanout := b.fanout.remove id }
      let s := match p.token with
        | some token => s.unregister token
        | none => s
      some (p.tether, (s.tell [.closed why]).discard p.stream)

/-- Taking a peer away leaves fewer. -/
theorem peerCount_lt_of_take {s s' : Station σ} {half : Half} {id : Nat} {why : Reason}
    {tether : Tether Nat} (h : s.take half id why = some (tether, s')) :
    s'.peerCount < s.peerCount := by
  cases half with
  | receive =>
    simp only [take] at h
    split at h
    · cases h
    · rename_i r hr
      cases h
      have := Table.size_erase_lt hr
      simp only [peerCount, discard, tell, withBus, withHost, withReactor, unregister]
      omega
  | send =>
    simp only [take] at h
    split at h
    · cases h
    · rename_i p hp
      cases h
      have := Table.size_erase_lt hp
      cases p.token <;>
        · simp only [peerCount, discard, tell, withBus, withHost, withReactor, unregister,
            Fanout.remove]
          omega

/-- Close a peer, if it is there, and tell whom it is tied to. -/
def close (s : Station σ) (half : Half) (id : Nat) (why : Reason) : Station σ :=
  match _h : s.take half id why with
  | none => s
  | some (.loose, s) => s
  | some (.owner o, s) => s.ownerClosed o
  | some (.bridge bridge, s') =>
    let (released, bridges) := s'.state.bridges.release bridge half
    let s'' := s'.withBus fun b => { b with bridges }
    match released with
    | some (.remaining (some (other, partner))) => close s'' other partner .partnerClosed
    | some (.finished (some o)) => s''.ownerClosed o
    | _ => s''
termination_by s.peerCount
decreasing_by
  have := peerCount_lt_of_take _h
  exact this

/-- There is a peer with the number. -/
def hasPeer (s : Station σ) : Half → Nat → Bool
  | .receive, id => s.state.receivers.contains id
  | .send, id => s.state.fanout.senders.contains id

/-- The stream of a peer came from a transport. -/
def isOwnedBy (s : Station σ) (tether : Tether Nat) (owner : Nat) : Bool :=
  match tether with
  | .loose => false
  | .owner o => o = owner
  | .bridge b => s.state.bridges.owner? b = some owner

/-- Close all peers on streams of a transport, receivers first; the result tells whether there were
any. -/
def closeOwned (s : Station σ) (owner : Nat) (why : Reason) : Bool × Station σ :=
  let receivers := (s.state.receivers.entries.filter fun e => s.isOwnedBy e.2.tether owner).map
    fun e => (Half.receive, e.1)
  let senders := (s.state.fanout.senders.entries.filter fun e => s.isOwnedBy e.2.tether owner).map
    fun e => (Half.send, e.1)
  (receivers ++ senders).foldl
    (fun (any, s) (half, id) => (any || s.hasPeer half id, s.close half id why)) (false, s)

/-- Close the senders that have failed. -/
def closeFailed (s : Station σ) : Station σ :=
  let (ids, fanout) := s.state.fanout.takeFailures
  ids.foldl (fun s id => s.close .send id .writeFailed) (s.withBus fun b => { b with fanout })

/-! ## Ready streams -/

/-- The stream of a receiver is ready. -/
def receiveReady (s : Station σ) (id : Nat) : Station σ :=
  match s.state.receivers.get? id with
  | none => s
  | some r =>
    let relayed := r.relay s.state.server.id s.state.fanout s.host
    let s := (s.withHost relayed.host).withBus fun b =>
      { b with
        fanout := relayed.fanout
        receivers := b.receivers.insert id relayed.receiver
        notices := b.notices ++ relayed.notices }
    match relayed.closing with
    | some why => s.close .receive id why
    | none => s

/-- All bytes that arrived, and why nothing more will, if so. -/
def gather : List Arrival → Bytes × Option Reason
  | [] => ([], none)
  | .wouldBlock :: _ => ([], none)
  | .interrupted :: rest => gather rest
  | .endOfStream :: _ => ([], some .peerClosed)
  | .failed e :: _ => ([], some (.streamError e))
  | .data bytes :: rest =>
    if bytes.isEmpty then ([], some .peerClosed)
    else
      let (more, ending) := gather rest
      (bytes ++ more, ending)

/-- Read all that arrived. -/
def readAll (s : Station σ) (stream : Stream) : (Bytes × Option Reason) × Station σ :=
  let (bytes, ending) := gather (Streams.arrivals stream s.host)
  ((bytes, ending), s.withHost (Streams.took stream bytes.length s.host))

/-- The stream of a sender is ready: what arrives on it is dropped, and its end closes it. -/
def sendReady (s : Station σ) (id : Nat) : Station σ :=
  match s.state.fanout.senders.get? id with
  | none => s
  | some p =>
    match s.readAll p.stream with
    | ((_, some why), s) => s.close .send id why
    | ((_, none), s) => s

end Squitter.Station
