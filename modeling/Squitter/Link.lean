import Squitter.Error
import Squitter.Message

/-!
# The state of a connection

Reading a connection needs to remember two things (`Link`): the history of the sender's counter and
the sender's announcement, once one was accepted. **Accepting** a message checks it against that
state; a refused message changes nothing.
-/

namespace Squitter

/-- The units and identity of the sender, from an announcement that was accepted. -/
structure RemoteHeader where
  server : Uuid
  version : String
  mhz : UInt32
  width : UInt64
  ceiling : UInt32
deriving DecidableEq

/-- What is remembered of a connection. -/
structure Link where
  clock : Mlat.History
  header : Option RemoteHeader
deriving DecidableEq

/-- What one successful reading yields. -/
inductive Event
  /-- A packet was filled in. -/
  | frame
  /-- An announcement was accepted. -/
  | control
deriving DecidableEq

namespace Link

/-- A connection of which nothing was read. -/
def fresh : Link := ⟨.fresh, none⟩

instance : Inhabited Link := ⟨fresh⟩

/-- Check an announcement: its mark, then its units, then that it is not our own. -/
def acceptHeader (own : Uuid) (a : Announcement) (l : Link) : Except Error Link :=
  if a.magic ≠ magic then .error (.codec (.badMagic a.magic))
  else if ¬ Mlat.validMHz a.mhz ∨ a.width = 0 ∨ a.ceiling = 0 then
    .error (.codec (.unusableClock a.mhz a.width a.ceiling))
  else if a.server = own then .error (.selfLoop a.server)
  else .ok { l with header := some ⟨a.server, a.version, a.mhz, a.width, a.ceiling⟩ }

/-- Widen a timestamp of the sender, of which zero is unknown. -/
def stamp (h : RemoteHeader) (mlat : UInt64) (clock : Mlat.History) : UInt64 × Mlat.History :=
  if mlat = 0 then (0, clock) else Mlat.widen mlat h.width h.mhz clock

/-- Check a report: there was an announcement, the payload has the length of its kind, the level is
within the announced scale. Then fill in the packet in the bus's units. -/
def acceptReport (r : Report Bytes) (p : Packet) (l : Link) : Except Error (Packet × Link) :=
  match l.header with
  | none => .error (.codec .packetBeforeHeader)
  | some h =>
    if r.payload.length ≠ r.kind.payloadLength then
      .error (.codec (.payloadLength r.kind r.payload.length))
    else if h.ceiling.toUInt64 < r.rssi then
      .error (.codec (.rssiAboveCeiling r.rssi h.ceiling))
    else
      let (mlat, clock) := stamp h r.mlat l.clock
      let filled := { p.setPayload r.kind r.payload with
        source := r.source, hops := r.hops, mlat, rssi := Rssi.widen r.rssi.toUInt32 h.ceiling }
      .ok (filled, { l with clock })

/-- Accept any message. -/
def accept (own : Uuid) (m : Message Bytes) (p : Packet) (l : Link) :
    Except Error (Event × Packet × Link) :=
  match m with
  | .header a => (l.acceptHeader own a).map fun l => (.control, p, l)
  | .packet r => (l.acceptReport r p).map fun (p, l) => (.frame, p, l)

end Link

end Squitter
