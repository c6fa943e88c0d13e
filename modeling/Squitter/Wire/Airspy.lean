import Squitter.Mlat
import Squitter.Packet
import Squitter.Rssi
import Squitter.Wire.Line

/-!
# The airspy_adsb format

A line `*` payload `;` reading `;` clock `;` level `;` in hexadecimal. The counter is 32 bits wide;
the clock field holds half its frequency in MHz, so that each line tells its own (`Line`).
-/

namespace Squitter.Wire.Airspy

/-- Frequency, in MHz, of the counter in lines that are written. -/
def sendMHz : UInt32 := 20

/-- Ticks until the counter starts over. -/
def width : UInt64 := 0xFFFFFFFF

/-- The strongest level. -/
def ceiling : UInt32 := 0xFFFF

/-- The fields of a line. -/
structure Line where
  kind : Kind
  payload : Bytes
  reading : UInt64
  mhz : UInt32
  level : UInt32
deriving DecidableEq

/-- Read a line with a payload of the given kind: its fields and its length. -/
def readKind? (kind : Kind) (data : Bytes) : Option (Line × Nat) :=
  match data with
  | c :: rest =>
    if c = asterisk then do
      let (hex, rest) ← field? (2 * kind.payloadLength) rest
      let (ticks, rest) ← field? 8 rest
      let (half, rest) ← field? 2 rest
      let (strength, rest) ← field? 4 rest
      let ending ← lineEnd? rest
      let mhz := 2 * (← Hex.toInt? half).toUInt32
      if Mlat.validMHz mhz then
        let reading ← Hex.toInt? ticks
        let level := (← Hex.toInt? strength).toUInt32
        let payload ← Hex.decode? kind.payloadLength hex
        some (⟨kind, payload, reading, mhz, level⟩, 2 * kind.payloadLength + 19 + ending)
      else none
    else none
  | [] => none

/-- Read a line of any kind: its fields and its length. -/
def read? (data : Bytes) : Option (Line × Nat) :=
  Kind.all.findSome? fun kind => readKind? kind data

theorem pos_of_readKind? {kind : Kind} {data : Bytes} {l : Line} {n : Nat}
    (h : readKind? kind data = some (l, n)) : 0 < n := by
  unfold readKind? at h
  split at h
  · split at h
    · simp only [Option.bind_eq_bind, Option.bind_eq_some_iff] at h
      obtain ⟨_, _, _, _, _, _, _, _, _, _, _, _, h⟩ := h
      split at h
      · simp only [Option.bind_eq_some_iff] at h
        obtain ⟨_, _, _, _, _, _, h⟩ := h
        obtain ⟨_, rfl⟩ := Prod.mk.inj (Option.some.inj h)
        omega
      · simp at h
    · simp at h
  · simp at h

/-- A line has at least one byte. -/
theorem pos_of_read? {data : Bytes} {l : Line} {n : Nat} (h : read? data = some (l, n)) :
    0 < n := by
  obtain ⟨_, _, h⟩ := List.exists_of_findSome?_eq_some h
  exact pos_of_readKind? h

/-- Fill a packet from a line. -/
def fill (l : Line) (p : Packet) (clock : Mlat.History) : Packet × Mlat.History :=
  let (mlat, clock) := Mlat.widen l.reading width l.mhz clock
  ({ p.setPayload l.kind l.payload with mlat, rssi := Rssi.widen l.level ceiling }, clock)

/-- The line for a packet. -/
def write (p : Packet) : Bytes :=
  asterisk :: Hex.encode p.content ++
    semicolon :: Hex.ofInt (Mlat.narrow p.mlat width sendMHz) 8 ++
    semicolon :: Hex.ofInt (sendMHz / 2).toUInt64 2 ++
    semicolon :: Hex.ofInt (Rssi.narrow p.rssi ceiling).toUInt64 4 ++
    [semicolon, 0x0D, 0x0A]

end Squitter.Wire.Airspy
