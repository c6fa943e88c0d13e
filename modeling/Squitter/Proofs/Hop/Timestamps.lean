import Squitter.Proofs.Hop.Exact

/-!
# Timestamps over a hop

A message spells a timestamp modulo `Mlat.modulus` (`Packet.stamp`). Stamps of zero are
unknown. Among the others, the receiver takes each **fall** for a wrap of the sender's counter,
and adds the modulus to this timestamp and all later ones. The next message takes it off again,
unless the sum has left the 64 bits of a timestamp (`Mlat.afterFalls`), and twice the modulus
is already at their limit.

**The result** (`Reception.delivers_carried`). What arrives of the stamps follows this rule
(`Mlat.carried`). If they fall once at most, they arrive unchanged; after two falls they need not
(`Reception.stamps_change_after_two_falls`).
-/

namespace Squitter

namespace Mlat

/-- A stamp falls behind the last one, or does not. -/
def fall (last w : UInt64) : Nat := if w < last then 1 else 0

/-- How often stamps fall, apart from unknown ones. -/
def falls (last : UInt64) : List UInt64 → Nat
  | [] => 0
  | w :: ws => if w = 0 then falls last ws else fall last w + falls w ws

/-- What was added to timestamps after `n` falls. -/
def generationAfter (n : Nat) : UInt64 := .ofNat (n * modulus.toNat)

/-- The stamp that arrives as `w` after `n` falls, as the next message spells it. -/
def afterFalls (n : Nat) (w : UInt64) : UInt64 := (generationAfter n + w) % modulus

/-- What arrives of stamps, when there were `n` falls before and `last` was the last stamp. -/
def carried (n : Nat) (last : UInt64) : List UInt64 → List UInt64
  | [] => []
  | w :: ws =>
    if w = 0 then 0 :: carried n last ws
    else afterFalls (n + fall last w) w :: carried (n + fall last w) w ws

/-- After one fall at most, the sum is within the 64 bits. -/
theorem afterFalls_of_le_one {n : Nat} {w : UInt64} (hn : n ≤ 1) (hw : w < modulus) :
    afterFalls n w = w := by
  have hmodulus : modulus.toNat = 2 ^ 63 - 1 := by decide
  have hlt : w.toNat < 2 ^ 63 - 1 := hmodulus ▸ UInt64.lt_iff_toNat_lt.1 hw
  have hle : n * (2 ^ 63 - 1) ≤ 1 * (2 ^ 63 - 1) := Nat.mul_le_mul_right _ hn
  have hgeneration : n * (2 ^ 63 - 1) % 2 ^ 64 = n * (2 ^ 63 - 1) := Nat.mod_eq_of_lt (by omega)
  have hsum : (n * (2 ^ 63 - 1) + w.toNat) % 2 ^ 64 = n * (2 ^ 63 - 1) + w.toNat :=
    Nat.mod_eq_of_lt (by omega)
  apply UInt64.toNat_inj.1
  rw [afterFalls, generationAfter, UInt64.toNat_mod, UInt64.toNat_add,
    UInt64.toNat_ofNat', hmodulus,
    hgeneration, hsum, Nat.mul_add_mod_self_right, Nat.mod_eq_of_lt hlt]

theorem carried_of_falls_le {n : Nat} {last : UInt64} {ws : List UInt64}
    (h : n + falls last ws ≤ 1) (hws : ∀ w ∈ ws, w < modulus) : carried n last ws = ws := by
  induction ws generalizing n last with
  | nil => rfl
  | cons w ws ih =>
    have hlater : ∀ v ∈ ws, v < modulus := fun v hv => hws v (List.mem_cons_of_mem w hv)
    by_cases hw : w = 0
    · rw [falls, if_pos hw] at h
      rw [carried, if_pos hw, ih h hlater, hw]
    · rw [falls, if_neg hw, ← Nat.add_assoc] at h
      rw [carried, if_neg hw, ih h hlater,
        afterFalls_of_le_one (Nat.le_trans (Nat.le_add_right _ _) h) (hws w List.mem_cons_self)]

theorem generationAfter_add_fall (n : Nat) (last w : UInt64) :
    generationAfter (n + fall last w) =
      if w < last then generationAfter n + modulus else generationAfter n := by
  unfold fall
  split
  · rw [generationAfter, Nat.add_mul, UInt64.ofNat_add]
    rfl
  · rfl

end Mlat

/-! ## Packets -/

namespace Packet

/-- The timestamp as a message spells it. -/
def stamp (p : Packet) : UInt64 := (Report.ofPacket p).mlat

theorem stamp_lt (p : Packet) : p.stamp < Mlat.modulus :=
  UInt64.mod_lt _ (by decide)

variable (sender : Server)

theorem hop_of_stamp_eq_zero {p : Packet} (h : p.stamp = 0) (clock : Mlat.History) :
    (p.hop sender clock).1.stamp = 0 ∧ (p.hop sender clock).2 = clock := by
  have hmlat : p.mlat % Mlat.modulus = 0 := h
  simp only [hop, Link.stamp, hmlat, if_true, and_true]
  rfl

theorem hop_of_stamp_ne_zero {p : Packet} (h : p.stamp ≠ 0) (n : Nat) (last : UInt64) :
    (p.hop sender ⟨last, Mlat.generationAfter n⟩).1.stamp =
        Mlat.afterFalls (n + Mlat.fall last p.stamp) p.stamp ∧
      (p.hop sender ⟨last, Mlat.generationAfter n⟩).2 =
        ⟨p.stamp, Mlat.generationAfter (n + Mlat.fall last p.stamp)⟩ := by
  have hmlat : ¬ p.mlat % Mlat.modulus = 0 := h
  have hfactor : Mlat.factor (RemoteHeader.ofServer sender).mhz = 1 := by
    show Mlat.factor Mlat.clockMHz = 1
    decide
  simp only [Mlat.afterFalls, Mlat.generationAfter_add_fall, hop, Link.stamp, Mlat.widen,
    if_neg hmlat, hfactor, UInt64.mul_one]
  exact ⟨rfl, rfl⟩

/-- The stamps that arrive, when the counter has fallen `n` times. -/
theorem map_stamp_hopAll (packets : List Packet) (n : Nat) (last : UInt64) :
    (hopAll sender ⟨last, Mlat.generationAfter n⟩ packets).map stamp =
      Mlat.carried n last (packets.map stamp) := by
  induction packets generalizing n last with
  | nil => rfl
  | cons p packets ih =>
    rw [hopAll, List.map_cons, List.map_cons, Mlat.carried]
    by_cases h : p.stamp = 0
    · obtain ⟨hstamp, hclock⟩ := hop_of_stamp_eq_zero sender h ⟨last, _⟩
      rw [hstamp, hclock, ih, if_pos h]
    · obtain ⟨hstamp, hclock⟩ := hop_of_stamp_ne_zero sender h n last
      rw [hstamp, hclock, ih, if_neg h]

end Packet

/-! ## Streams -/

namespace Reception

open Decoder

/-- **What becomes of timestamps.** The stamps of the packets that are delivered are those that were
written, each after the falls up to it; if there is one fall at most, they are the same. -/
theorem delivers_carried (f : Format) (hf : f = .json ∨ f = .proto) (own source : Uuid)
    (sender : Server) (hs : own ≠ sender.id) (started now : Nat) (greeting : Bytes)
    (hgreeting : (Encoder.fresh f started).greeting sender now = .ok greeting)
    (hlen : greeting.length ≤ Buffer.usualCapacity) (packets : List Packet) :
    ∃ frames : List Packet,
      Delivers own source (greeting ++ (Encoder.fresh f started).encodeAll now packets)
        (.control (some (.ofServer sender)) :: frames.map .frame) ∧
      frames.map Packet.stamp = Mlat.carried 0 0 (packets.map Packet.stamp) ∧
      (Mlat.falls 0 (packets.map Packet.stamp) ≤ 1 →
        frames.map Packet.stamp = packets.map Packet.stamp) := by
  have hcarried := Packet.map_stamp_hopAll sender packets 0 0
  refine ⟨Packet.hopAll sender .fresh packets, delivers_hopAll source hf hs hgreeting hlen packets,
    hcarried, ?_⟩
  intro hfalls
  have hlt : ∀ w ∈ packets.map Packet.stamp, w < Mlat.modulus := by
    intro w hw
    obtain ⟨p, -, rfl⟩ := List.mem_map.1 hw
    exact p.stamp_lt
  exact hcarried.trans (Mlat.carried_of_falls_le (by rwa [Nat.zero_add]) hlt)

/-- A packet with a timestamp and nothing else. -/
def stamped (mlat : UInt64) : Packet := { Packet.blank .nil with mlat }

theorem delivers_carried_one_fall :
    ∃ frames : List Packet,
      Delivers .nil .nil (Wire.Json.write (.header (.ofServer .neighbour)) ++
          (Encoder.fresh .json 0).encodeAll 0 ([30, 10, 0, 20].map stamped))
        (.control (some (.ofServer .neighbour)) :: frames.map .frame) ∧
      frames.map Packet.stamp = [30, 10, 0, 20] := by
  obtain ⟨frames, hdelivers, -, hsame⟩ := delivers_carried .json (.inl rfl) .nil .nil .neighbour
    (by decide) 0 0 _ rfl (by decide +kernel) ([30, 10, 0, 20].map stamped)
  exact ⟨frames, hdelivers, hsame (by decide)⟩

/-- After two falls, the last one of three timestamps arrives as another one. -/
theorem stamps_change_after_two_falls :
    ∃ frames : List Packet,
      Delivers .nil .nil (Wire.Json.write (.header (.ofServer .neighbour)) ++
          (Encoder.fresh .json 0).encodeAll 0 ([30, 20, 10].map stamped))
        (.control (some (.ofServer .neighbour)) :: frames.map .frame) ∧
      ([30, 20, 10].map stamped).map Packet.stamp = [30, 20, 10] ∧
      frames.map Packet.stamp = [30, 20, 8] := by
  refine ⟨_, delivers_hopAll .nil (.inl rfl) ?_ rfl ?_ _, ?_, ?_⟩
  · decide
  · decide +kernel
  · decide
  · decide

end Reception
end Squitter
