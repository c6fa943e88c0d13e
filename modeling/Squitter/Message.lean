import Squitter.Mlat
import Squitter.Packet
import Squitter.Rssi
import Squitter.Server

/-!
# Messages between buses

On a JSON or proto stream a bus first **announces** itself and the units of its clock and levels
(`Announcement`); every later **message** (`Message`) is one packet in these units (`Report`), or
another announcement. The parameter `π` is the form in which a reader finds the payload.
-/

namespace Squitter

/-- The mark by which an announcement is known. -/
def magic : String := "aDsB"

/-- Who sends the packets that follow, and in which units. -/
structure Announcement where
  magic : String
  version : String
  server : Uuid
  mhz : UInt32
  width : UInt64
  ceiling : UInt32
deriving DecidableEq

/-- A packet in the units of its sender. -/
structure Report (π : Type) where
  kind : Kind
  source : Uuid
  payload : π
  mlat : UInt64
  rssi : UInt64
  hops : UInt16
deriving DecidableEq

/-- One message of a stream. -/
inductive Message (π : Type)
  | header (a : Announcement)
  | packet (r : Report π)
deriving DecidableEq

namespace Announcement

/-- What a bus announces of itself. -/
def ofServer (s : Server) : Announcement where
  magic := Squitter.magic
  version := s.version
  server := s.id
  mhz := Mlat.clockMHz
  width := Mlat.modulus
  ceiling := Rssi.fullScale

end Announcement

namespace Report

/-- A packet as this bus reports it. -/
def ofPacket (p : Packet) : Report Bytes where
  kind := p.kind
  source := p.source
  payload := p.content
  mlat := p.mlat % Mlat.modulus
  rssi := p.rssi.toUInt64
  hops := p.hops

end Report

end Squitter
