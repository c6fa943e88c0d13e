import Squitter.Fanout
import Squitter.Receiver

/-!
# Relaying

When the stream of a receiver is ready, all that can be read is decoded and passed on to the
senders, except to one on the same file or connection.
-/

namespace Squitter

/-- The outcome of relaying: the states, what is told, and why the receiver closes, if it does. -/
structure Relayed (σ : Type) where
  receiver : Receiver
  fanout : Fanout
  host : σ
  notices : List Notice
  closing : Option Reason

/-- Pass packets on, one after the other. -/
def Fanout.sendAll {σ : Type} [Streams σ] (f : Fanout) (packets : List Packet)
    (origin : Option Nat) (now : Nat) (host : σ) : Fanout × σ :=
  packets.foldl (fun (f, host) p =>
    let sent := Fanout.send f p origin now host
    (sent.fanout, sent.host)) (f, host)

/-- Read, decode and pass on what is there. -/
def Receiver.relay {σ : Type} [Streams σ] [Poller σ] (own : Uuid) (r : Receiver) (f : Fanout)
    (host : σ) : Relayed σ :=
  let y := r.receive own (Streams.arrivals r.stream host)
  let host := Streams.took r.stream y.taken host
  let (f, host) := f.sendAll y.packets r.stream.identity (Poller.now host) host
  ⟨y.receiver, f, host, y.notices, y.closing⟩

end Squitter
