import Squitter.Proofs.Hop.Exact

/-!
# What a hop carries

Json and proto messages carry a packet exactly, but for its timestamp: its source, kind and level,
the number of buses it has crossed, and the payload if the packet is **clean** (`Packet.Clean`), so
that the bytes that its kind does not carry are zero.

**The result** (`Reception.delivers_exactly`). However the stream of a bus is read, its announcement
comes first, then one frame for each packet, in their order and exact in all other fields; and no
packet fails to be written in any format.
-/

namespace Squitter

/-! ## Clean packets -/

namespace Packet

/-- The packet without its timestamp. -/
def unstamped (p : Packet) : Packet := { p with mlat := 0 }

/-- The bytes of the payload that the kind does not carry are zero. -/
def Clean (p : Packet) : Prop :=
  ∀ (i : Nat) (h : i < 14), p.kind.payloadLength ≤ i → p.payload[i] = 0

instance (p : Packet) : Decidable p.Clean :=
  inferInstanceAs
    (Decidable (∀ (i : Nat) (h : i < 14), p.kind.payloadLength ≤ i → p.payload[i] = 0))

/-- A clean payload is found again from the bytes that its kind carries. -/
theorem Clean.padded_content {p : Packet} (h : p.Clean) :
    padded p.kind.payloadLength p.content = p.payload := by
  ext i hi
  by_cases hlt : i < p.kind.payloadLength
  · simp [padded, hlt, content, getElem?_pos p.payload i hi]
  · simp [padded, hlt, h i hi (Nat.le_of_not_lt hlt)]

variable {sender : Server}

/-- A hop changes nothing but the timestamp. -/
theorem Clean.unstamped_hop {p : Packet} (h : p.Clean) (clock : Mlat.History) :
    (p.hop sender clock).1.unstamped = p.unstamped := by
  simp only [hop, setPayload, unstamped, h.padded_content]

theorem map_unstamped_hopAll {packets : List Packet} (h : ∀ p ∈ packets, p.Clean)
    (clock : Mlat.History) :
    (hopAll sender clock packets).map unstamped = packets.map unstamped := by
  induction packets generalizing clock with
  | nil => rfl
  | cons p packets ih =>
    rw [hopAll, List.map_cons, List.map_cons, (h p List.mem_cons_self).unstamped_hop,
      ih fun q hq => h q (List.mem_cons_of_mem p hq)]

end Packet

/-! ## Exactness -/

namespace Reception

open Decoder

/-- **All but the timestamps is carried exactly.** What a bus writes in json or proto is delivered
to every other bus as its announcement and then one frame for each packet, which agrees with it in
source, kind, payload, level and number of hops. All packets can be written, in all formats. -/
theorem delivers_exactly :
    (∀ f : Format, f = .json ∨ f = .proto →
      ∀ (own source : Uuid) (sender : Server), own ≠ sender.id →
      ∀ (started now : Nat) (greeting : Bytes),
        (Encoder.fresh f started).greeting sender now = .ok greeting →
        greeting.length ≤ Buffer.usualCapacity →
      ∀ packets : List Packet, (∀ p ∈ packets, p.Clean) →
        ∃ frames : List Packet, frames.map Packet.unstamped = packets.map Packet.unstamped ∧
          Delivers own source (greeting ++ (Encoder.fresh f started).encodeAll now packets)
            (.control (some ⟨sender.id, sender.version, 120, 0x7FFFFFFFFFFFFFFF, 0xFFFFFFFF⟩) ::
              frames.map .frame)) ∧
      ∀ (e : Encoder) (p : Packet) (now : Nat), ∃ out, (e.encode p now).1 = .ok out := by
  refine ⟨?_, Encoder.exists_encode_eq_ok⟩
  intro f hf own source sender hs started now greeting hgreeting hlen packets hclean
  exact ⟨Packet.hopAll sender .fresh packets, Packet.map_unstamped_hopAll hclean .fresh,
    delivers_hopAll source hf hs hgreeting hlen packets⟩

/-- A short and a long frame from different buses, read from a neighbour in both formats. -/
theorem delivers_exactly_short_and_long :
    let packets : List Packet :=
      [{ source := ⟨Vector.replicate 16 0x5A⟩, kind := .short
         payload := ⟨#[0x02, 0xE1, 0x97, 0xB0, 0x7A, 0xD2, 0xC3, 0, 0, 0, 0, 0, 0, 0], rfl⟩
         mlat := 720, rssi := 0x40000000, hops := 1 },
       { source := ⟨Vector.replicate 16 0xC3⟩, kind := .long
         payload := ⟨#[0x8D, 0x48, 0x40, 0xD6, 0x20, 0x2C, 0xC3, 0x71, 0xC3, 0x2C, 0xE0, 0x57, 0x60,
           0x98], rfl⟩
         mlat := 960, rssi := 0x12345678, hops := 300 }]
    let announced : RemoteHeader :=
      ⟨Server.neighbour.id, Server.neighbour.version, 120, 0x7FFFFFFFFFFFFFFF, 0xFFFFFFFF⟩
    (∀ p ∈ packets, p.Clean) ∧
      ∀ f ∈ [Format.json, .proto], ∃ greeting, ∃ frames : List Packet,
        (Encoder.fresh f 0).greeting .neighbour 5 = .ok greeting ∧
          frames.map Packet.unstamped = packets.map Packet.unstamped ∧
            Delivers .nil .nil (greeting ++ (Encoder.fresh f 0).encodeAll 5 packets)
              (.control (some announced) :: frames.map .frame) := by
  intro packets announced
  have hclean : ∀ p ∈ packets, p.Clean := by decide
  refine ⟨hclean, fun f hf => ?_⟩
  have hexact : f = .json ∨ f = .proto := by simpa using hf
  have hgreeting : ∃ g, (Encoder.fresh f 0).greeting .neighbour 5 = .ok g ∧
      g.length ≤ Buffer.usualCapacity := by
    rcases hexact with rfl | rfl <;> exact ⟨_, rfl, by decide +kernel⟩
  obtain ⟨greeting, hgreeting, hlen⟩ := hgreeting
  obtain ⟨frames, hframes, hdelivers⟩ :=
    delivers_exactly.1 f hexact .nil .nil .neighbour (by decide) 0 5 greeting hgreeting hlen
      packets hclean
  exact ⟨greeting, frames, hgreeting, hframes, hdelivers⟩

end Reception
end Squitter
