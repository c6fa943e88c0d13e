import Squitter.Flow
import Squitter.Reactor
import Squitter.Relay
import Squitter.Settings
import Squitter.Transport

/-!
# The bus

The **bus** (`Bus`) holds all transports, and the **peers** that their streams become: receivers,
senders, or one of each joined by a bridge. It runs on a reactor and a computer; all three together
are a **station** (`Station`).
-/

namespace Squitter

/-- What something that is watched is for. -/
inductive Route
  /-- A lookup, a connection that was begun, or a listener. -/
  | transport (id : Nat)
  /-- The messages of a child. -/
  | messages (id : Nat)
  | receive (id : Nat)
  | send (id : Nat)
deriving DecidableEq, Repr

/-- Work for later. -/
inductive Work
  /-- Try again. -/
  | retry (id : Nat)
  /-- See whether a child has ended. -/
  | reap (id : Nat)
deriving DecidableEq, Repr

/-- Transports and peers. Transports and peers have numbers of one kind. -/
structure Bus where
  server : Server
  settings : Settings
  fanout : Fanout
  receivers : Table Receiver
  transports : Table Transport
  bridges : Bridges Nat
  flow : Flow
  nextId : Nat
  notices : List Notice

/-- A bus without endpoints. -/
def Bus.fresh (settings : Settings) (server : Server) : Bus :=
  ⟨server, settings, .fresh settings.maxHops, .empty, .empty, .empty, .empty, 0, []⟩

/-- A bus on its reactor and computer. -/
abbrev Station (σ : Type) := Running Bus Route Work σ

namespace Station

variable {σ : Type}

/-- A station without endpoints. -/
def fresh (settings : Settings) (server : Server) (host : σ) : Station σ :=
  ⟨.fresh settings server, .fresh, host⟩

/-- Change the bus. -/
def withBus (s : Station σ) (f : Bus → Bus) : Station σ := { s with state := f s.state }

/-- Change the computer. -/
def withHost (s : Station σ) (host : σ) : Station σ := { s with host }

/-- Change the reactor and the computer. -/
def withReactor (s : Station σ) (reactor : Reactor Route Work) (host : σ) : Station σ :=
  { s with reactor, host }

/-- Tell the user something. -/
def tell (s : Station σ) (notices : List Notice) : Station σ :=
  s.withBus fun b => { b with notices := b.notices ++ notices }

/-- A number for a transport or peer. -/
def takeId (s : Station σ) : Nat × Station σ :=
  (s.state.nextId, s.withBus fun b => { b with nextId := b.nextId + 1 })

/-- The transport with a number. -/
def transport? (s : Station σ) (id : Nat) : Option Transport := s.state.transports.get? id

/-- Replace a transport. -/
def setTransport (s : Station σ) (id : Nat) (t : Transport) : Station σ :=
  s.withBus fun b => { b with transports := b.transports.insert id t }

/-- Number of peers. -/
def peerCount (s : Station σ) : Nat := s.state.receivers.size + s.state.fanout.senders.size

/-! ## The computer -/

/-- Close a stream. -/
def discard [Streams σ] (s : Station σ) (stream : Stream) : Station σ :=
  s.withHost (Streams.close stream s.host)

/-- Watch a stream. -/
def register [Poller σ] (s : Station σ) (stream : Stream) (interest : Interest) (route : Route) :
    Except IoError Nat × Station σ :=
  let (r, reactor, host) := s.reactor.register stream.handle interest route s.host
  (r, s.withReactor reactor host)

/-- Watch no longer. -/
def unregister [Poller σ] (s : Station σ) (token : Nat) : Station σ :=
  let (reactor, host) := s.reactor.unregister token s.host
  s.withReactor reactor host

/-- Schedule work after a delay. -/
def schedule [Poller σ] (s : Station σ) (delay : Nat) (work : Work) : Station σ :=
  s.withReactor (s.reactor.schedule delay work s.host) s.host

/-- The random delay before an attempt. -/
def delay [Host σ] (s : Station σ) (attempt : UInt32) : Nat × Station σ :=
  let b := s.state.settings.backoff
  if b.spread attempt = 0 then ((b.ceiling attempt).toNat, s)
  else
    let (r, host) := Host.random (b.spread attempt) s.host
    ((b.pick attempt r).toNat, s.withHost host)

/-- Let a transport rest, and try again later. -/
def retryLater [Host σ] (s : Station σ) (id : Nat) : Station σ :=
  match s.transport? id with
  | none => s
  | some t =>
    let s := s.setTransport id
      { t with attempt := Transport.nextAttempt t.attempt, mechanism := t.mechanism.rest }
    let (delay, s) := s.delay t.attempt
    s.schedule delay (.retry id)

end Station

end Squitter
