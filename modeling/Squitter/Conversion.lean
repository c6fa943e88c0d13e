import Squitter.Decoder
import Squitter.Encoder

/-!
# Converting a whole stream

`Decoder.readAll` reads a stream from its first byte to its last through one buffer, and
`Encoder.encodeAll` writes a list of packets.
-/

namespace Squitter

/-! ## Reading -/

namespace Decoder

/-- The result of reading a stream: its packets, the number of announcements, the state at the end,
and the error that ended it before its last byte. -/
structure Transcript where
  packets : List Packet
  controls : Nat
  decoder : Decoder
  buffer : Buffer
  ending : Option Error

namespace Transcript

/-- The transcript before anything is read. -/
def start (b : Buffer) : Transcript := ⟨[], 0, fresh, b, none⟩

/-- Add the outcome of one call of the decoder. -/
def add (t : Transcript) (s : Step) : Transcript :=
  let t := { t with decoder := s.decoder, buffer := s.buffer }
  match s.result with
  | .ok (some .frame) => { t with packets := t.packets ++ [s.packet] }
  | .ok (some .control) => { t with controls := t.controls + 1 }
  | .ok none => t
  | .error e => { t with ending := some e }

end Transcript

/-- Read a stream: fill the buffer, read all messages in it, and so on until no bytes are left or an
error ends it. A full buffer in which there is no message is an error. -/
def readFrom (own source : Uuid) (t : Transcript) (data : Bytes) : Transcript :=
  if t.buffer.isFull then { t with ending := some (.io (.bufferFull t.buffer.capacity)) }
  else if _hdata : data = [] then t
  else
    let n := t.buffer.room
    if _hn : n = 0 then t
    else
      let filled := { t with buffer := t.buffer.append (data.take n) }
      let t := (filled.decoder.drain own source filled.buffer).foldl Transcript.add filled
      if t.ending.isSome then t else readFrom own source t (data.drop n)
termination_by data.length
decreasing_by
  have := List.length_pos_iff.2 _hdata
  simp only [List.length_drop]
  omega

/-- Read a stream from its first byte through a buffer of the usual capacity. -/
def readAll (own source : Uuid) (data : Bytes) : Transcript :=
  readFrom own source (.start (.empty Buffer.usualCapacity)) data

end Decoder

/-! ## Writing -/

/-- Write packets one after the other, leaving out what cannot be written. -/
def Encoder.encodeAll (e : Encoder) (now : Nat) : List Packet → Bytes
  | [] => []
  | p :: packets =>
    let (out, e) := e.encode p now
    (match out with
    | .ok bytes => bytes
    | .error _ => []) ++ e.encodeAll now packets

end Squitter
