import Squitter.Proofs.Clocks.Widening
import Squitter.Proofs.Grammar.Frames

/-!
# Sending on what was received

Packets are written in a format of receivers, read, and written in it again. What a packet is
written as (`Wire.Airspy.lineOf`, `Wire.Beast.frameOf`) has its timestamp and level on the scales of
the format, rounded down. Reading widens both, and writing again narrows them.

**Lines** (`Reception.resends_lines`). In airspy_adsb the same lines are written again,
however the stream is read, as long as the timestamps have room. What carries this is that the
generation stays a multiple of the counter's width (`Mlat.Wrapped`), and that there are at
most as many wraps as packets.

**Frames** (`Reception.resends_frame`). In beast a single frame is written again with the same
bytes, unless its level was measured but is less than one step of the format. Such a level is
spelled as zero, which is read as unknown and written as not measured
(`Reception.faint_becomes_unmeasured`).
-/

namespace Squitter

open Decoder

/-! ## Lines -/

namespace Wire.Airspy

/-- The line that is written for a packet. -/
def lineOf (p : Packet) : Line :=
  ⟨p.kind, p.content, Mlat.narrow p.mlat width sendMHz, sendMHz, Rssi.narrow p.rssi ceiling⟩

theorem level_lineOf_le (p : Packet) : (lineOf p).level ≤ ceiling := by
  have hlt := toNat_narrow_lt p.rssi
  rw [UInt32.le_iff_toNat_le]
  exact Nat.le_of_lt_succ hlt

theorem reading_lineOf_lt (p : Packet) : (lineOf p).reading < width :=
  UInt64.lt_iff_toNat_lt.2 (Mlat.toNat_narrow_lt (by decide) _ _)

/-- **A line that was read is written again.** -/
theorem write_fill_lineOf (p q : Packet) {n : Nat} {clock : Mlat.History}
    (hw : Mlat.Wrapped width n clock)
    (hfit : (n + Mlat.fall clock.last (lineOf p).reading + 1) * width.toNat *
      (Mlat.factor sendMHz).toNat ≤ 2 ^ 64) :
    write (fill (lineOf p) q clock).1 = write p := by
  have hcontent : (fill (lineOf p) q clock).1.content = p.content :=
    Packet.content_setPayload q p.kind p.content p.length_content
  have hreading : Mlat.narrow (fill (lineOf p) q clock).1.mlat width sendMHz = (lineOf p).reading :=
    hw.narrow_widen (reading_lineOf_lt p) hfit
  have hlevel : Rssi.narrow (fill (lineOf p) q clock).1.rssi ceiling = (lineOf p).level :=
    Rssi.narrow_widen (level_lineOf_le p)
  rw [write, hcontent, hreading, hlevel]
  rfl

end Wire.Airspy

namespace Format

theorem read_airspy_write (own : Uuid) (p q : Packet) (l : Link) (rest : Bytes) :
    airspy.read own (Wire.Airspy.write p ++ rest) q l =
      .ok (some (frame (Wire.Airspy.fill (Wire.Airspy.lineOf p) q l.clock).1
        (Wire.Airspy.fill (Wire.Airspy.lineOf p) q l.clock).2 l (Wire.Airspy.write p).length)) := by
  simp only [read, Wire.Airspy.read?_write_append]
  rfl

end Format

namespace Mlat

theorem descents_le_length (last : UInt64) (readings : List UInt64) :
    descents last readings ≤ readings.length := by
  induction readings generalizing last with
  | nil => exact Nat.le_refl 0
  | cons r rs ih =>
    have hfall : fall last r ≤ 1 := by
      unfold fall
      split <;> decide
    have hrest := ih r
    rw [descents, List.length_cons]
    omega

end Mlat

/-- The lines for packets are a script, and what it tells are packets with the same lines. -/
theorem Decoder.exists_script_lines (own source : Uuid) {l : Link} {n : Nat}
    (hw : Mlat.Wrapped Wire.Airspy.width n l.clock) {packets : List Packet}
    (hfit : (n +
        Mlat.descents l.clock.last (packets.map fun p => (Wire.Airspy.lineOf p).reading) + 1) *
      Wire.Airspy.width.toNat * (Mlat.factor Wire.Airspy.sendMHz).toNat ≤ 2 ^ 64) :
    ∃ (frames : List Packet) (l' : Link),
      Script own source .airspy l (packets.map Wire.Airspy.write) (frames.map .frame) l' ∧
      frames.map Wire.Airspy.write = packets.map Wire.Airspy.write := by
  induction packets generalizing l n with
  | nil => exact ⟨[], l, .nil l, rfl⟩
  | cons p packets ih =>
    rw [List.map_cons] at hfit
    have hfirst := Mlat.Wrapped.first_fits hfit
    have hnext := hw.widen (Wire.Airspy.reading_lineOf_lt p) hfirst
    rw [Mlat.descents, ← Nat.add_assoc] at hfit
    obtain ⟨frames, l', hscript, hframes⟩ := ih (l := { l with
      clock := (Wire.Airspy.fill (Wire.Airspy.lineOf p) (.blank source) l.clock).2 }) hnext hfit
    have hm := Format.isMessage_frameBytes (f := .airspy) (by decide) p
    refine ⟨_ :: frames, l',
      .cons hm (Format.read_airspy_write own p (.blank source) l) hscript, ?_⟩
    rw [List.map_cons, List.map_cons, hframes, Wire.Airspy.write_fill_lineOf p _ hw hfirst]

/-- **Lines are sent on as they came.** Of fewer than 2²⁹ packets that are written as lines, read
and written again, the lines are the same. -/
theorem Reception.resends_lines (own source : Uuid) (started now started' now' : Nat)
    {packets : List Packet} (hlen : packets.length < 2 ^ 29) :
    ∃ frames : List Packet,
      Delivers own source ((Encoder.fresh .airspy started).encodeAll now packets)
      (frames.map .frame) ∧
      (Encoder.fresh .airspy started').encodeAll now' frames =
        (Encoder.fresh .airspy started).encodeAll now packets := by
  have hstream (started now : Nat) (packets : List Packet) :
      (Encoder.fresh .airspy started).encodeAll now packets =
        (packets.map Wire.Airspy.write).flatten :=
    Encoder.encodeAll_eq (e := .fresh .airspy started) Format.noConfusion now packets
  have hfit : (0 + Mlat.descents 0 (packets.map fun p => (Wire.Airspy.lineOf p).reading) + 1) *
      Wire.Airspy.width.toNat * (Mlat.factor Wire.Airspy.sendMHz).toNat ≤ 2 ^ 64 := by
    have hdescents :=
      Mlat.descents_le_length 0 (packets.map fun p => (Wire.Airspy.lineOf p).reading)
    rw [List.length_map] at hdescents
    have hroom :
        2 ^ 29 * Wire.Airspy.width.toNat * (Mlat.factor Wire.Airspy.sendMHz).toNat ≤ 2 ^ 64 := by
      decide
    refine Nat.le_trans (Nat.mul_le_mul_right _ (Nat.mul_le_mul_right _ ?_)) hroom
    omega
  obtain ⟨frames, l', hscript, hframes⟩ :=
    exists_script_lines own source (l := .fresh) (Mlat.Wrapped.fresh _) hfit
  refine ⟨frames, ?_, ?_⟩
  · rw [hstream]
    exact delivers_of_short_script (by decide) hscript fun m hm =>
      Encoder.length_lt_of_mem_messages (f := .airspy) hm
  · rw [hstream, hstream, hframes]

/-- Three lines whose counter comes round twice. -/
theorem Reception.resends_lines_two_wraps :
    let packets := [1200, 600, 6].map stamped
    packets.length < 2 ^ 29 ∧ ∃ frames : List Packet,
      Delivers .nil .nil ((Encoder.fresh .airspy 0).encodeAll 0 packets) (frames.map .frame) ∧
      (Encoder.fresh .airspy 0).encodeAll 0 frames =
        (Encoder.fresh .airspy 0).encodeAll 0 packets := by
  intro packets
  have hlen : packets.length < 2 ^ 29 := by decide
  exact ⟨hlen, resends_lines .nil .nil 0 0 0 0 hlen⟩

/-! ## Frames -/

namespace Wire.Beast

theorem reading_frameOf_lt (p : Packet) : (frameOf p).reading < width :=
  UInt64.lt_iff_toNat_lt.2 (Mlat.toNat_narrow_lt (by decide) _ _)

/-- Only the level of a frame may be another one when it is written again. -/
theorem write_fill_frameOf (p q : Packet) :
    write (fill (frameOf p) q .fresh).1 =
      write { p with rssi := levelOf (levelByte p.rssi) } := by
  have hcontent : (fill (frameOf p) q .fresh).1.content = p.content :=
    Packet.content_setPayload q p.kind p.content p.length_content
  have hfit : (0 + Mlat.fall 0 (frameOf p).reading + 1) * width.toNat * (Mlat.factor mhz).toNat ≤
      2 ^ 64 := by
    rw [Mlat.fall, if_neg UInt64.not_lt_zero]
    decide
  have hreading : Mlat.narrow (fill (frameOf p) q .fresh).1.mlat width mhz = (frameOf p).reading :=
    (Mlat.Wrapped.fresh width).narrow_widen (reading_frameOf_lt p) hfit
  rw [write, hcontent, hreading]
  rfl

theorem write_of_levelByte_eq {p : Packet} {level : UInt32}
    (h : levelByte level = levelByte p.rssi) :
    write { p with rssi := level } = write p := by
  show escape :: typeByte p.kind :: double (_ ++ levelByte level :: p.content) = _
  rw [h]
  rfl

/-- The frames of two packets tell their level bytes. -/
theorem levelByte_eq_of_write_eq {p q : Packet} (h : write p = write q) :
    levelByte p.rssi = levelByte q.rssi := by
  have hread := read?_write_append p []
  rw [h, read?_write_append q []] at hread
  exact (congrArg (fun found => found.1.level) (Option.some.inj hread)).symm

/-- **Which frames are written again** with the same bytes: all but those of a faint level. -/
theorem write_fill_frameOf_eq_iff {p q : Packet} :
    write (fill (frameOf p) q .fresh).1 = write p ↔ p.rssi = 0 ∨ 0x1010101 ≤ p.rssi := by
  constructor
  · intro hwrite
    by_cases hzero : p.rssi = 0
    · exact .inl hzero
    · refine .inr (UInt32.not_lt.1 fun hfaint => levelByte_ne_unmeasured hzero ?_)
      rw [write_fill_frameOf, levelOf_levelByte_eq_zero_iff.2 hfaint] at hwrite
      exact (levelByte_eq_of_write_eq hwrite).symm
  · intro hlevel
    rw [write_fill_frameOf]
    apply write_of_levelByte_eq
    rcases hlevel with hzero | hle
    · rw [hzero]
      rfl
    · exact levelByte_levelOf_levelByte hle

end Wire.Beast

namespace Reception

/-- A frame is delivered as the packet that is read from it. -/
theorem delivers_frame (own source : Uuid) (p : Packet) :
    Delivers own source (Wire.Beast.write p)
      [.frame (Wire.Beast.fill (Wire.Beast.frameOf p) (.blank source) .fresh).1] := by
  have hdelivers := Wire.Beast.describes.delivers (by decide) Format.noConfusion
    Wire.Beast.Spelling.length_text_lt own source [Wire.Beast.spelled p]
  have hpacket : (Wire.Beast.grammar.fill (Wire.Beast.spelled p) (.blank source) .fresh).1 =
      (Wire.Beast.fill (Wire.Beast.frameOf p) (.blank source) .fresh).1 := by
    rw [← Wire.Beast.frame_spelled]
    rfl
  rw [← hpacket, ← Wire.Beast.text_spelled, ← List.append_nil (Wire.Beast.spelled p).text]
  exact hdelivers

/-- **A frame is sent on as it came, but for a faint level.** A level of less than one step of
the format is received as unknown, so that a measured one is spelled as not measured when it is
written again. All other frames are written again with the same bytes, and so is every frame
from the second time on. -/
theorem resends_frame (own source : Uuid) (p : Packet) :
    ∃ q : Packet, Delivers own source (Wire.Beast.write p) [.frame q] ∧
      (q.rssi = 0 ↔ p.rssi < 0x1010101) ∧
      Wire.Beast.write q =
        Wire.Beast.write (if p.rssi < 0x1010101 then { p with rssi := 0 } else p) ∧
      (Wire.Beast.write q = Wire.Beast.write p ↔ p.rssi = 0 ∨ 0x1010101 ≤ p.rssi) ∧
      ∃ q' : Packet, Delivers own source (Wire.Beast.write q) [.frame q'] ∧
        Wire.Beast.write q' = Wire.Beast.write q := by
  refine ⟨_, delivers_frame own source p, Wire.Beast.levelOf_levelByte_eq_zero_iff, ?_,
    Wire.Beast.write_fill_frameOf_eq_iff, _, delivers_frame own source _, ?_⟩
  · by_cases hfaint : p.rssi < 0x1010101
    · rw [if_pos hfaint, Wire.Beast.write_fill_frameOf,
        Wire.Beast.levelOf_levelByte_eq_zero_iff.2 hfaint]
    · rw [if_neg hfaint]
      exact Wire.Beast.write_fill_frameOf_eq_iff.2 (.inr (UInt32.not_lt.1 hfaint))
  · exact Wire.Beast.write_fill_frameOf_eq_iff.2 (Wire.Beast.levelOf_levelByte_cases p.rssi)

/-- A Mode-AC packet of the faintest level above none. -/
def faint : Packet := { (Packet.blank .nil).setPayload .modeAC [1, 2] with rssi := 1 }

/-- The frame for a faint packet has the level zero, and is written again with the mark of a
level that was not measured. -/
theorem faint_becomes_unmeasured :
    ∃ q : Packet, Delivers .nil .nil (Wire.Beast.write faint) [.frame q] ∧
      Wire.Beast.write faint = [0x1A, 0x31, 0, 0, 0, 0, 0, 0, 0x00, 1, 2] ∧
      Wire.Beast.write q = [0x1A, 0x31, 0, 0, 0, 0, 0, 0, 0xFF, 1, 2] :=
  ⟨_, delivers_frame .nil .nil faint, by decide, by decide⟩

end Reception

end Squitter
