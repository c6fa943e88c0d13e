import Squitter.Proofs.Hop.Reception

/-!
# One hop between buses

A packet crosses from one bus to another in json or proto: the first one writes it, the other one
reads it. What arrives (`Packet.hop`) is the packet with the bytes of its payload that its kind
carries, and with a timestamp that depends on the counter's history at the receiver. `Packet.hopAll`
is the hop of a whole list, one packet after the other.

The greeting and the messages of a stream are a script, and so the whole of it arrives by any
schedule of reads and calls (`Reception.delivers_hopAll`).
-/

namespace Squitter

open Decoder

/-! ## Hops -/

namespace Packet

/-- The packet as another bus receives it, where the counter has the given history, and the history
afterwards. -/
def hop (sender : Server) (p : Packet) (clock : Mlat.History) : Packet × Mlat.History :=
  let (mlat, clock) := Link.stamp (.ofServer sender) (p.mlat % Mlat.modulus) clock
  ({ p.setPayload p.kind p.content with mlat }, clock)

/-- The packets as another bus receives them, one after the other. -/
def hopAll (sender : Server) (clock : Mlat.History) : List Packet → List Packet
  | [] => []
  | p :: packets => (p.hop sender clock).1 :: hopAll sender (p.hop sender clock).2 packets

end Packet

/-- A level on the full scale stays what it is. -/
theorem Rssi.widen_fullScale (level : UInt32) : widen level fullScale = level := by
  have hfactor : factor fullScale = 1 := by decide
  rw [widen, hfactor, UInt32.mul_one]

/-- **A report is received exactly**, but for its timestamp. -/
theorem Link.acceptReport_eq_hop {sender : Server} {l : Link}
    (hl : l.header = some (.ofServer sender)) (p q : Packet) :
    l.acceptReport (.ofPacket p) q =
      .ok ((p.hop sender l.clock).1, { l with clock := (p.hop sender l.clock).2 }) := by
  have hceiling : (RemoteHeader.ofServer sender).ceiling = Rssi.fullScale := rfl
  have hlevel : ¬ Rssi.fullScale.toUInt64 < p.rssi.toUInt64 := Rssi.not_fullScale_lt p.rssi
  have hlen : ¬ p.content.length ≠ p.kind.payloadLength := fun hne => hne p.length_content
  simp only [acceptReport, hl, Report.ofPacket, if_neg hlen, hceiling, if_neg hlevel,
    UInt32.toUInt32_toUInt64, Rssi.widen_fullScale]
  rfl

namespace Format

/-- The message for a packet is read as its hop. -/
theorem read_frameBytes_eq_hop {f : Format} (hf : f = json ∨ f = proto) {sender : Server} {l : Link}
    (hl : l.header = some (.ofServer sender)) (own : Uuid) (p q : Packet) (rest : Bytes) :
    f.read own (Encoder.frameBytes f p ++ rest) q l =
      .ok (some ⟨.frame, (p.hop sender l.clock).1, { l with clock := (p.hop sender l.clock).2 },
        (Encoder.frameBytes f p).length + (f.tail rest).length⟩) := by
  have haccepted (used : Nat) : accepted own (.packet (.ofPacket p)) q l used =
      .ok (some ⟨.frame, (p.hop sender l.clock).1, { l with clock := (p.hop sender l.clock).2 },
        used⟩) := by
    simp only [accepted, Link.accept, Link.acceptReport_eq_hop hl]
    rfl
  rw [read_frameBytes_eq_accepted hf, haccepted]

end Format

/-! ## Streams -/

variable {f : Format} (own source : Uuid) {sender : Server}

theorem Format.mem_readable_of_exact (hf : f = .json ∨ f = .proto) : f ∈ Format.readable := by
  rcases hf with rfl | rfl <;> decide

/-- The messages for packets are a script that tells their hops. -/
theorem Decoder.exists_script_hopAll (hf : f = .json ∨ f = .proto) {l : Link}
    (hl : l.header = some (.ofServer sender)) (packets : List Packet) :
    ∃ l', Script own source f l (packets.map (Encoder.frameBytes f))
      ((Packet.hopAll sender l.clock packets).map .frame) l' := by
  induction packets generalizing l with
  | nil => exact ⟨l, .nil l⟩
  | cons p packets ih =>
    obtain ⟨l', hscript⟩ := ih (l := { l with clock := (p.hop sender l.clock).2 }) hl
    exact ⟨l', .cons (Format.isMessage_frameBytes (Format.mem_readable_of_exact hf) p)
      (Format.read_frameBytes_eq_hop hf hl own p (.blank source)) hscript⟩

/-- **A stream is delivered**: the announcement of the sender, and the hops of its packets. -/
theorem Reception.delivers_hopAll {own : Uuid} (hf : f = .json ∨ f = .proto) (hs : own ≠ sender.id)
    {started now : Nat} {greeting : Bytes}
    (hgreeting : (Encoder.fresh f started).greeting sender now = .ok greeting)
    (hlen : greeting.length ≤ Buffer.usualCapacity) (packets : List Packet) :
    Delivers own source (greeting ++ (Encoder.fresh f started).encodeAll now packets)
      (.control (some (.ofServer sender)) :: (Packet.hopAll sender .fresh packets).map .frame) := by
  have hreadable := Format.mem_readable_of_exact hf
  have hstats : f ≠ .stats := by
    rintro rfl
    exact absurd hreadable (by decide)
  have hne := Format.greeting_ne_nil hf hgreeting
  have hread := Format.read_greeting_append hreadable hgreeting hne hs (.blank source) .fresh
  obtain ⟨l', hscript⟩ := exists_script_hopAll own source hf
    (l := { Link.fresh with header := some (.ofServer sender) }) rfl packets
  have hwhole := Script.cons (Format.isMessage_greeting hgreeting hne) hread hscript
  rw [Encoder.encodeAll_eq hstats]
  refine delivers_of_script hreadable hwhole ?_ ?_
  · intro m hm
    rw [← Option.some.inj hm]
    exact hlen
  · exact fun m hm => Encoder.length_lt_of_mem_messages hm

/-- Another bus of the usual version. -/
def Server.neighbour : Server := ⟨⟨Vector.replicate 16 1⟩, Server.usualVersion⟩

end Squitter
