import Squitter.Wire.Airspy
import Squitter.Wire.Beast
import Squitter.Wire.Json
import Squitter.Wire.Proto
import Squitter.Wire.Raw
import Squitter.Wire.Stats

/-!
# Encoders

An **encoder** (`Encoder`) writes packets in one format. A new stream starts with the format's
**greeting**. Only reports have a state: the tally of packets so far and when the encoder was made.
-/

namespace Squitter

/-- The state of one output format. Times are in milliseconds. -/
structure Encoder where
  format : Format
  started : Nat
  tally : Wire.Stats.Tally
deriving DecidableEq

namespace Encoder

/-- An encoder that has written nothing. -/
def fresh (format : Format) (now : Nat) : Encoder := ⟨format, now, .zero⟩

/-- The whole seconds for which the encoder has been in use. -/
def uptime (e : Encoder) (now : Nat) : Nat := (now - e.started) / 1000

/-- What a new stream starts with. -/
def greeting (e : Encoder) (server : Server) (now : Nat) : Except Error Bytes :=
  match e.format with
  | .json => .ok (Wire.Json.write (.header (.ofServer server)))
  | .proto => Wire.Proto.write (.header (.ofServer server))
  | .stats => .ok (e.tally.report (e.uptime now))
  | .airspy | .beast | .raw => .ok []

/-- Write one packet. Between reports, the output of a stats stream is empty. -/
def encode (e : Encoder) (p : Packet) (now : Nat) : Except Error Bytes × Encoder :=
  match e.format with
  | .airspy => (.ok (Wire.Airspy.write p), e)
  | .beast => (.ok (Wire.Beast.write p), e)
  | .json => (.ok (Wire.Json.write (.packet (.ofPacket p))), e)
  | .proto => (Wire.Proto.write (.packet (.ofPacket p)), e)
  | .raw => (.ok (Wire.Raw.write p), e)
  | .stats =>
    let (out, tally) := e.tally.record (e.uptime now) p.kind
    (.ok out, { e with tally })

end Encoder

end Squitter
