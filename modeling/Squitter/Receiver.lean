import Squitter.Bridge
import Squitter.Decoder
import Squitter.Host

/-!
# Receivers

A **receiver** (`Receiver`) is an input of the bus: a stream with the buffer and decoder of what
arrives on it. When the stream is ready it reads until nothing is left, and after each read it
decodes all that is complete. A regular file is always ready, so it is read once each time.

A receiver **closes** at the end of its stream, when reading fails, when the peer breaks the
protocol, and when the buffer is full and holds no message.
-/

namespace Squitter

/-! ## What is told -/

/-- Why a peer was closed. -/
inductive Reason
  | endOfStream
  | readError (e : IoError)
  | protocolError (e : Error)
  | overrun
  | partnerClosed
  | childEnded
  | peerClosed
  | streamError (e : IoError)
  | writeFailed
deriving DecidableEq

/-- The wording of a reason. -/
def Reason.message : Reason → String
  | endOfStream => "end of stream"
  | readError e => "read error: " ++ e.message
  | protocolError e => "protocol error: " ++ e.message
  | overrun => "input buffer overrun"
  | partnerClosed => "bridge partner closed"
  | childEnded => "child exited"
  | peerClosed => "peer closed"
  | streamError e => e.message
  | writeFailed => "write failed"

/-- What the bus tells its user. -/
inductive Notice
  | detected (format : Format)
  | connected (server : Uuid) (version : String)
  | closed (reason : Reason)
  | childOutput (line : String)
deriving DecidableEq

/-- The wording of a notice. -/
def Notice.message : Notice → String
  | detected format => "Detected input format " ++ format.name
  | connected server version => "Connected to server ID: " ++ server.text ++ " (" ++ version ++ ")"
  | closed reason => "Connection closed: " ++ reason.message
  | childOutput line => "(child output) " ++ line

/-! ## Receivers -/

/-- An input. -/
structure Receiver where
  /-- The source of packets that name none. -/
  source : Uuid
  stream : Stream
  token : Nat
  tether : Tether Nat
  decoder : Decoder
  buffer : Buffer

/-- A receiver of which nothing was read. -/
def Receiver.fresh (source : Uuid) (stream : Stream) (token : Nat) (tether : Tether Nat) :
    Receiver :=
  ⟨source, stream, token, tether, .fresh, .empty Buffer.usualCapacity⟩

/-- What a receiver yields: packets and notices in their order, how many bytes it read, and why it
closes, if it does. -/
structure Receiver.Yield where
  receiver : Receiver
  packets : List Packet
  notices : List Notice
  taken : Nat
  closing : Option Reason

namespace Receiver

/-- Nothing was read. -/
def idle (r : Receiver) : Yield := ⟨r, [], [], 0, none⟩

/-- The receiver closes. -/
def closes (r : Receiver) (why : Reason) : Yield := ⟨r, [], [], 0, some why⟩

/-- What is told about the outcome of one call of the decoder: the format when it becomes known, and
the sender when its first announcement is accepted. -/
def noticesOf (before : Decoder) (s : Decoder.Step) : List Notice :=
  match s.result with
  | .error _ => []
  | .ok _ =>
    (match before.format, s.decoder.format with
    | none, some f => [.detected f]
    | _, _ => []) ++
    (match before.link.header, s.decoder.link.header with
    | none, some h => [.connected h.server h.version]
    | _, _ => [])

/-- Take in the outcome of one call of the decoder. -/
def takeStep (y : Yield) (s : Decoder.Step) : Yield :=
  { y with
    receiver := { y.receiver with decoder := s.decoder, buffer := s.buffer }
    notices := y.notices ++ noticesOf y.receiver.decoder s
    packets := match s.result with
      | .ok (some .frame) => y.packets ++ [s.packet]
      | _ => y.packets
    closing := match s.result with
      | .error e => some (.protocolError e)
      | _ => y.closing }

/-- Decode all that is complete. A buffer that is full afterwards can hold no message. -/
def drain (own : Uuid) (r : Receiver) : Yield :=
  let y := (r.decoder.drain own r.source r.buffer).foldl takeStep r.idle
  if y.closing.isNone ∧ y.receiver.buffer.isFull then { y with closing := some .overrun } else y

/-- One yield after another. -/
def followedBy (y z : Yield) : Yield :=
  ⟨z.receiver, y.packets ++ z.packets, y.notices ++ z.notices, y.taken + z.taken, z.closing⟩

/-- Bytes and attempts that are left. -/
def remaining : List Arrival → Nat
  | [] => 0
  | .data bytes :: rest => bytes.length + 1 + remaining rest
  | _ :: rest => 1 + remaining rest

/-- Read and decode what arrives. Each read takes what fits into the buffer. -/
def receive (own : Uuid) (r : Receiver) (arrivals : List Arrival) : Yield :=
  if r.buffer.isFull then r.closes (.readError (.bufferFull r.buffer.capacity))
  else
    match arrivals with
    | [] => r.idle
    | .wouldBlock :: _ => r.idle
    | .interrupted :: rest => receive own r rest
    | .endOfStream :: _ => r.closes .endOfStream
    | .failed e :: _ => r.closes (.readError e)
    | .data bytes :: rest =>
      let n := min bytes.length r.buffer.room
      if _h : n = 0 then r.closes .endOfStream
      else
        let y := drain own { r with buffer := r.buffer.append (bytes.take n) }
        let y := { y with taken := n }
        if y.closing.isSome ∨ r.stream.regular then y
        else
          followedBy y <|
            receive own y.receiver
              (if bytes.length ≤ n then rest else .data (bytes.drop n) :: rest)
termination_by remaining arrivals
decreasing_by
  · simp [remaining]
  · split <;> simp only [remaining, List.length_drop] <;> omega

end Receiver

end Squitter
