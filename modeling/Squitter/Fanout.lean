import Squitter.Bridge
import Squitter.Encoder
import Squitter.Host

/-!
# Fan-out

The **fan-out** (`Fanout`) passes packets on to its **senders**, the outputs of the bus. A packet is
written once per format and goes to each sender of that format, but not back to the stream it came
from. Each pass adds a hop, and a packet with too many hops is dropped. A sender that does not take
all of a packet has **failed**: nothing more is written to it, and it waits to be taken away.
-/

namespace Squitter

/-- An output. -/
structure Sender where
  stream : Stream
  format : Format
  /-- Set if the stream is watched for its end. -/
  token : Option Nat
  tether : Tether Nat
  failed : Bool
deriving DecidableEq

/-- A sender to which nothing was written. -/
def Sender.fresh (stream : Stream) (format : Format) (tether : Tether Nat) : Sender :=
  ⟨stream, format, none, tether, false⟩

/-- The outputs, one encoder for each format in use, and the failed senders not yet reported. -/
structure Fanout where
  maxHops : UInt16
  encoders : List Encoder
  senders : Table Sender
  failures : List Nat

namespace Fanout

/-- No outputs. -/
def fresh (maxHops : UInt16) : Fanout := ⟨maxHops, [], .empty, []⟩

/-! ## Encoders -/

/-- The encoder of a format; a format that was not in use gets a fresh one. -/
def encoder (f : Fanout) (format : Format) (now : Nat) : Encoder :=
  (f.encoders.find? (·.format = format)).getD (.fresh format now)

/-- Remember an encoder. -/
def setEncoder (f : Fanout) (e : Encoder) : Fanout :=
  { f with encoders := e :: f.encoders.filter (·.format ≠ e.format) }

/-- What a new stream starts with. -/
def greeting (f : Fanout) (format : Format) (server : Server) (now : Nat) :
    Except Error Bytes × Fanout :=
  let e := f.encoder format now
  (e.greeting server now, f.setEncoder e)

/-! ## Senders -/

/-- Add a sender, in place of one with the same number. -/
def insert (f : Fanout) (id : Nat) (s : Sender) : Fanout :=
  { f with senders := f.senders.insert id s }

/-- Take a sender away. -/
def remove (f : Fanout) (id : Nat) : Fanout :=
  { f with senders := f.senders.erase id }

/-- The senders that have failed since they were last asked for, in the order of failing. -/
def takeFailures (f : Fanout) : List Nat × Fanout :=
  (f.failures, { f with failures := [] })

/-! ## Passing packets on -/

/-- The formats of the senders that have not failed. -/
def formats (f : Fanout) : List Format :=
  Format.all.filter fun format => f.senders.values.any fun s => ¬ s.failed ∧ s.format = format

/-- A sender takes part in writing a packet of the given format and origin. -/
def isFor (s : Sender) (format : Format) (origin : Option Nat) : Bool :=
  ¬ s.failed ∧ s.format = format ∧ ¬ (origin.isSome ∧ s.stream.identity = origin)

/-- The outcome of passing a packet on: to how many senders, and the states. -/
structure Sent (σ : Type) where
  delivered : Nat
  packet : Packet
  fanout : Fanout
  host : σ

variable {σ : Type} [Streams σ]

/-- Offer a packet in one format to one sender. -/
def offer (format : Format) (out : Bytes) (origin : Option Nat) (r : Sent σ) (e : Nat × Sender) :
    Sent σ :=
  let (id, s) := e
  if isFor s format origin then
    match Streams.write s.stream out r.host with
    | (.ok n, host) =>
      if n = out.length then { r with delivered := r.delivered + 1, host }
      else fail id s host
    | (.error _, host) => fail id s host
  else r
where
  /-- The sender did not take all. -/
  fail (id : Nat) (s : Sender) (host : σ) : Sent σ :=
    { r with
      fanout := { r.fanout.insert id { s with failed := true } with
        failures := r.fanout.failures ++ [id] }
      host := Streams.shutdownWrite s.stream host }

/-- Write a packet in one format and offer it to all senders of the format. -/
def sendIn (origin : Option Nat) (now : Nat) (r : Sent σ) (format : Format) : Sent σ :=
  let (out, e) := (r.fanout.encoder format now).encode r.packet now
  let r := { r with fanout := r.fanout.setEncoder e }
  match out with
  | .error _ => r
  | .ok out => if out.isEmpty then r else r.fanout.senders.entries.foldl (offer format out origin) r

/-- Pass a packet on to all senders, except on the stream with the given identity. -/
def send (f : Fanout) (p : Packet) (origin : Option Nat) (now : Nat) (host : σ) : Sent σ :=
  if f.maxHops ≤ p.hops then ⟨0, p, f, host⟩
  else
    f.formats.foldl (sendIn origin now) ⟨0, { p with hops := p.hops + 1 }, f, host⟩

end Fanout

end Squitter
