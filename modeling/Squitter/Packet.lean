import Squitter.Uuid

/-!
# Packets

A **packet** (`Packet`) is one frame received from an aircraft transponder, in the bus's own units:
an MLAT timestamp that ticks at 120 MHz and a signal level on a 32-bit linear scale. Its **kind**
(`Kind`) fixes how many bytes of payload are meaningful.
-/

namespace Squitter

/-! ## Kinds -/

/-- The three kinds of frame, told apart by the length of their payload. -/
inductive Kind
  | modeAC
  | short
  | long
deriving DecidableEq, Repr

namespace Kind

/-- All kinds, by payload length. -/
def all : List Kind := [modeAC, short, long]

/-- Bytes of payload that a frame of this kind carries. -/
def payloadLength : Kind → Nat
  | modeAC => 2
  | short => 7
  | long => 14

/-- The name of a kind, as JSON messages and reports spell it. -/
def name : Kind → String
  | modeAC => "Mode-AC"
  | short => "Mode-S short"
  | long => "Mode-S long"

/-- The kind with the given name. -/
def ofName? (text : String) : Option Kind :=
  all.find? fun k => k.name = text

/-- The kind whose payload has the given length. -/
def ofPayloadLength? (n : Nat) : Option Kind :=
  all.find? fun k => k.payloadLength = n

theorem mem_all (k : Kind) : k ∈ all := by
  cases k <;> decide

theorem payloadLength_le (k : Kind) : k.payloadLength ≤ 14 := by
  cases k <;> decide

end Kind

/-! ## Packets -/

/-- A frame with where it came from, when and how strongly it was received, and how many buses it
has crossed. A timestamp or level of zero is unknown. -/
structure Packet where
  source : Uuid
  kind : Kind
  /-- Only the first `kind.payloadLength` bytes are meaningful. -/
  payload : Vector UInt8 14
  mlat : UInt64
  rssi : UInt32
  hops : UInt16
deriving DecidableEq

namespace Packet

/-- A packet from `source` that has not been filled in. -/
def blank (source : Uuid) : Packet where
  source
  kind := .short
  payload := Vector.replicate 14 0
  mlat := 0
  rssi := 0
  hops := 0

/-- The meaningful bytes of the payload. -/
def content (p : Packet) : Bytes :=
  p.payload.toList.take p.kind.payloadLength

/-- The first `n` bytes of `data`, followed by zeros. -/
def padded (n : Nat) (data : Bytes) : Vector UInt8 14 :=
  Vector.ofFn fun i => if i.val < n then data.getD i.val 0 else 0

/-- Set kind and payload together. Bytes beyond what the kind carries are dropped, and missing ones
are zero. -/
def setPayload (p : Packet) (kind : Kind) (data : Bytes) : Packet :=
  { p with kind, payload := padded kind.payloadLength data }

@[simp] theorem length_content (p : Packet) : p.content.length = p.kind.payloadLength := by
  simp [content, p.kind.payloadLength_le]

theorem content_setPayload (p : Packet) (kind : Kind) (data : Bytes)
    (h : data.length = kind.payloadLength) : (p.setPayload kind data).content = data := by
  have hk := kind.payloadLength_le
  apply List.ext_getElem
  · simp [h, setPayload]
  · intro i h₁ h₂
    have hi : i < kind.payloadLength := by omega
    simp [content, setPayload, padded, hi, h₂]

end Packet

end Squitter
