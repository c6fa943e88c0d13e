import Squitter.Mlat
import Squitter.Packet
import Squitter.Rssi

/-!
# The beast format

A frame is the escape byte `0x1A`, a type byte, and a **body** in which every escape byte is
doubled: a 48-bit reading of a 12 MHz counter, one byte of level, and the payload. The level `0xFF`
stands for one that was not measured.
-/

namespace Squitter.Wire.Beast

/-- The byte that starts a frame, and is doubled in its body. -/
def escape : UInt8 := 0x1A

/-- Frequency of the counter in MHz. -/
def mhz : UInt32 := 12

/-- Ticks until the counter starts over. -/
def width : UInt64 := 0xFFFFFFFFFFFF

/-- The strongest level. -/
def ceiling : UInt32 := 0xFF

/-- The level that was not measured. -/
def unmeasured : UInt8 := 0xFF

/-- The type byte of a kind. -/
def typeByte : Kind → UInt8
  | .modeAC => 0x31
  | .short => 0x32
  | .long => 0x33

/-- The kind that a type byte stands for. -/
def kindOf? (b : UInt8) : Option Kind :=
  Kind.all.find? fun k => typeByte k = b

/-! ## Escaping -/

/-- A body with its escape bytes doubled. -/
def double (body : Bytes) : Bytes :=
  body.flatMap fun b => if b = escape then [escape, escape] else [b]

/-- Undo the doubling for the first `n` bytes of a body: these bytes, and how many bytes they take
up. -/
def undouble? : (n : Nat) → (data : Bytes) → Option (Bytes × Nat)
  | 0, _ => some ([], 0)
  | n + 1, b :: data =>
    if b = escape then
      match data with
      | c :: data =>
        if c = escape then (undouble? n data).map fun (body, used) => (b :: body, used + 2)
        else none
      | [] => none
    else (undouble? n data).map fun (body, used) => (b :: body, used + 1)
  | _ + 1, [] => none

/-! ## Frames -/

/-- The contents of a frame. -/
structure Frame where
  kind : Kind
  reading : UInt64
  level : UInt8
  payload : Bytes
deriving DecidableEq

/-- Read the frame at the front: its contents and its length. -/
def read? (data : Bytes) : Option (Frame × Nat) :=
  match data with
  | start :: type :: rest =>
    if start = escape then do
      let kind ← kindOf? type
      let (body, used) ← undouble? (7 + kind.payloadLength) rest
      let reading := UInt64.ofNat (Bytes.ofBigEndian (body.take 6))
      some (⟨kind, reading, body.getD 6 0, body.drop 7⟩, used + 2)
    else none
  | _ => none

/-- A frame has at least one byte. -/
theorem pos_of_read? {data : Bytes} {f : Frame} {n : Nat} (h : read? data = some (f, n)) :
    0 < n := by
  unfold read? at h
  split at h
  · split at h
    · simp only [Option.bind_eq_bind, Option.bind_eq_some_iff] at h
      obtain ⟨_, _, _, _, h⟩ := h
      obtain ⟨_, rfl⟩ := Prod.mk.inj (Option.some.inj h)
      omega
    · simp at h
  · simp at h

/-- Fill a packet from a frame. -/
def fill (f : Frame) (p : Packet) (clock : Mlat.History) : Packet × Mlat.History :=
  let (mlat, clock) := Mlat.widen f.reading width mhz clock
  let rssi := if f.level = unmeasured then 0 else Rssi.widen f.level.toUInt32 ceiling
  ({ p.setPayload f.kind f.payload with mlat, rssi }, clock)

/-- The level byte for a packet: unknown levels are not measured, and a measured one stays below
the mark for that. -/
def levelByte (rssi : UInt32) : UInt8 :=
  if rssi = 0 then unmeasured
  else (min (Rssi.narrow rssi ceiling) (unmeasured - 1).toUInt32).toUInt8

/-- The frame for a packet. -/
def write (p : Packet) : Bytes :=
  escape :: typeByte p.kind ::
    double (Bytes.bigEndian 6 (Mlat.narrow p.mlat width mhz).toNat ++
      levelByte p.rssi :: p.content)

end Squitter.Wire.Beast
