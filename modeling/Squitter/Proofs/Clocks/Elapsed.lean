import Squitter.Proofs.Clocks.Samples

/-!
# Elapsed ticks

An airspy_adsb line spells all 32 bits of its sender's counter, and a beast message all
48 (`Format.bits?`). So a counter of `bits` bits that showed one reading and then
another has ticked their difference modulo `2 ^ bits` in between (`Mlat.elapsed`), as
long as it came round once at most.

**The result** (`Inlet.elapsed_but_for_wraps`). Between two successive packets, these are the ticks
by which the timestamps differ, but for one tick less when the counter came round. The width that is
added for a wrap is the largest reading, and not the number of readings (`Format.width_of_bits`).
Each wrap loses one tick for good: along any stretch of a run, as many ticks are missing as readings
fall (`Inlet.lost_ticks`).
-/

namespace Squitter

/-- How many bits of a counter the messages spell, where they spell all of them. -/
def Format.bits? : Format → Option Nat
  | airspy => some 32
  | beast => some 48
  | json => none
  | proto => none
  | raw => none
  | stats => none

namespace Mlat

/-- The ticks of a counter of some bits from one reading to a later one. -/
def elapsed (bits : Nat) (reading later : UInt64) : Nat :=
  (later.toNat + 2 ^ bits - reading.toNat) % 2 ^ bits

variable {bits : Nat} {width reading later : UInt64} {h : History}

theorem elapsed_of_le (hlater : later.toNat < 2 ^ bits) (hle : reading ≤ later) :
    elapsed bits reading later = later.toNat - reading.toNat := by
  have hle : reading.toNat ≤ later.toNat := UInt64.le_iff_toNat_le.1 hle
  rw [elapsed, Nat.add_comm, Nat.add_sub_assoc hle, Nat.add_mod_left, Nat.mod_eq_of_lt (by omega)]

theorem elapsed_of_lt (hreading : reading.toNat < 2 ^ bits) (hlt : later < reading) :
    elapsed bits reading later = later.toNat + 2 ^ bits - reading.toNat := by
  have hlt : later.toNat < reading.toNat := UInt64.lt_iff_toNat_lt.1 hlt
  rw [elapsed, Nat.mod_eq_of_lt (by omega)]

/-- A wrap counts for one tick less than the counter has ticked. -/
theorem ticks_add_fall (hwidth : width.toNat = 2 ^ bits - 1) (hlast : h.last.toNat < 2 ^ bits)
    (hlater : later.toNat < 2 ^ bits) :
    h.ticks width later + fall h.last later =
      h.generation.toNat + h.last.toNat + elapsed bits h.last later := by
  rw [History.ticks, fall]
  by_cases hfall : later < h.last
  · rw [if_pos hfall, if_pos hfall, elapsed_of_lt hlast hfall, hwidth]
    omega
  · have hle : h.last.toNat ≤ later.toNat := UInt64.le_iff_toNat_le.1 (UInt64.not_lt.1 hfall)
    rw [if_neg hfall, if_neg hfall, elapsed_of_le hlater (UInt64.not_lt.1 hfall)]
    omega

theorem fall_eq_zero_iff : fall reading later = 0 ↔ reading ≤ later := by
  rw [fall]
  by_cases hfall : later < reading
  · rw [if_pos hfall]
    exact iff_of_false Nat.one_ne_zero (UInt64.not_le.2 hfall)
  · rw [if_neg hfall]
    exact iff_of_true rfl (UInt64.not_lt.1 hfall)

/-- The ticks from a reading along all that come after it. -/
def elapsedAlong (bits : Nat) (reading : UInt64) : List UInt64 → Nat
  | [] => 0
  | r :: rs => elapsed bits reading r + elapsedAlong bits r rs

end Mlat

/-- The width of a counter whose bits are all spelled is the largest of its readings. -/
theorem Format.width_of_bits {f : Format} {bits : Nat} (hbits : f.bits? = some bits) {data : Bytes}
    {header : Option RemoteHeader} {c : Mlat.Counter} {reading : UInt64}
    (h : f.sample? data header = some (c, reading)) :
    c.width.toNat = 2 ^ bits - 1 ∧ c.marks = false ∧ Mlat.validMHz c.mhz ∧
      reading.toNat < 2 ^ bits := by
  cases f with
  | airspy =>
    cases hbits
    obtain ⟨hwidth, hmarks, hvalid, hreading⟩ := Format.sample?_airspy h
    exact ⟨congrArg UInt64.toNat hwidth, hmarks, hvalid, hreading⟩
  | beast =>
    cases hbits
    obtain ⟨rfl, hreading⟩ := Format.sample?_beast h
    exact ⟨rfl, rfl, rfl, hreading⟩
  | json => cases hbits
  | proto => cases hbits
  | raw => cases hbits
  | stats => cases hbits

namespace Inlet

variable {own : Uuid} {i : Inlet} {acts : List Act} {d d' : Dated}
  {before after ds : List Dated} {bits : Nat}

/-- The later of two successive packets was dated by the clock as the earlier one left it. -/
theorem received_of_successive (hdated : i.dated own acts = before ++ d :: d' :: after) :
    d.packet.mlat = d.received.1 ∧ d'.packet.mlat = d'.received.1 ∧ d'.clock = d.received.2 := by
  obtain ⟨h, -, hmlat, hclock, hmlat', -⟩ :=
    Succession.exists_of_append (hdated ▸ succession_dated own i acts)
  exact ⟨hmlat, hmlat', hclock⟩

/-- One step: what the timestamps of two successive packets differ by, and what
is lost, are the ticks. -/
theorem mlat_add_fall (hdated : i.dated own acts = before ++ d :: d' :: after)
    (hbits : d.format.bits? = some bits) (hmhz : d'.counter.mhz = d.counter.mhz) (hfits : d.Fits)
    (hfits' : d'.Fits) :
    let scale := (Mlat.factor d.counter.mhz).toNat
    d'.packet.mlat.toNat + Mlat.fall d.reading d'.reading * scale =
      d.packet.mlat.toNat + Mlat.elapsed bits d.reading d'.reading * scale := by
  intro scale
  have hd : d ∈ i.dated own acts := by
    rw [hdated]
    exact List.mem_append_right _ List.mem_cons_self
  have hd' : d' ∈ i.dated own acts := by
    rw [hdated]
    exact List.mem_append_right _ (List.mem_cons_of_mem _ List.mem_cons_self)
  have hformat := format_eq_of_mem_dated hd hd'
  obtain ⟨data, header, hsample⟩ := exists_sample_of_mem_dated hd
  obtain ⟨data', header', hsample'⟩ := exists_sample_of_mem_dated hd'
  obtain ⟨-, hmarks, -, hreading⟩ := Format.width_of_bits hbits hsample
  obtain ⟨hwidth', hmarks', -, hreading'⟩ := Format.width_of_bits (hformat ▸ hbits) hsample'
  obtain ⟨hmlat, hmlat', hclock⟩ := received_of_successive hdated
  obtain ⟨htimestamp, hticks, hlast⟩ := Dated.toNat_received (by simp [Dated.Known, hmarks]) hfits
  obtain ⟨htimestamp', -, -⟩ := Dated.toNat_received (by simp [Dated.Known, hmarks']) hfits'
  rw [← hclock] at hticks hlast
  have hadd := Mlat.ticks_add_fall hwidth' (hlast ▸ hreading) hreading'
  rw [hlast, hticks] at hadd
  rw [hmlat, hmlat', htimestamp, htimestamp', hmhz, ← Nat.add_mul, hadd, Nat.add_mul]

/-- **Each wrap loses a tick for good.** Along any stretch of a run, as many ticks are
missing as readings fall. -/
theorem lost_ticks (hdated : i.dated own acts = before ++ d :: (ds ++ d' :: after))
    (hbits : d.format.bits? = some bits)
    (hclock : ∀ e ∈ i.dated own acts, e.counter.mhz = d.counter.mhz ∧ e.Fits) :
    let readings := (ds ++ [d']).map (·.reading)
    let scale := (Mlat.factor d.counter.mhz).toNat
    d'.packet.mlat.toNat + Mlat.descents d.reading readings * scale =
      d.packet.mlat.toNat + Mlat.elapsedAlong bits d.reading readings * scale := by
  have hmem (e) (he : e ∈ d :: (ds ++ d' :: after)) : e ∈ i.dated own acts := by
    rw [hdated]
    exact List.mem_append_right before he
  obtain ⟨-, hfits⟩ := hclock d (hmem d List.mem_cons_self)
  induction ds generalizing before d with
  | nil =>
    obtain ⟨hmhz', hfits'⟩ := hclock d' (hmem d' (List.mem_cons_of_mem d List.mem_cons_self))
    exact mlat_add_fall hdated hbits hmhz' hfits hfits'
  | cons e ds ih =>
    have he := hmem e (List.mem_cons_of_mem d List.mem_cons_self)
    obtain ⟨hmhz, hfits'⟩ := hclock e he
    have hformat := format_eq_of_mem_dated (hmem d List.mem_cons_self) he
    have hstep := mlat_add_fall hdated hbits hmhz hfits hfits'
    have hdated' : i.dated own acts = (before ++ [d]) ++ e :: (ds ++ d' :: after) := by
      rw [hdated, List.append_assoc]
      rfl
    have hrest := ih hdated' (hformat ▸ hbits) (fun e' he' => hmhz ▸ hclock e' he')
      (fun e' he' => hmem e' (List.mem_cons_of_mem d he')) hfits'
    simp only [List.cons_append, List.map_cons, Mlat.descents, Mlat.elapsedAlong, Nat.add_mul]
    rw [hmhz] at hrest
    omega

/-- **Elapsed ticks are exact but for wraps.** The timestamps of two successive packets differ by
the ticks from one reading to the other, or by one tick less if the counter came round. -/
theorem elapsed_but_for_wraps (hdated : i.dated own acts = before ++ d :: d' :: after)
    (hbits : d.format.bits? = some bits) (hmhz : d'.counter.mhz = d.counter.mhz) (hfits : d.Fits)
    (hfits' : d'.Fits) :
    let ticks := Mlat.elapsed bits d.reading d'.reading
    let lost := Mlat.fall d.reading d'.reading
    let scale := 120 / d.counter.mhz.toNat
    d'.packet.mlat.toNat + lost * scale = d.packet.mlat.toNat + ticks * scale ∧
      (d'.packet.mlat.toNat = d.packet.mlat.toNat + ticks * scale ↔ d.reading ≤ d'.reading) := by
  intro ticks lost scale
  have hvalid : Mlat.validMHz d.counter.mhz := by
    have hd : d ∈ i.dated own acts := by
      rw [hdated]
      exact List.mem_append_right _ List.mem_cons_self
    obtain ⟨data, header, hsample⟩ := exists_sample_of_mem_dated hd
    exact (Format.width_of_bits hbits hsample).2.2.1
  have hscale : (Mlat.factor d.counter.mhz).toNat = scale := Mlat.toNat_factor_of_valid hvalid
  have hpos : 0 < scale := hscale ▸ Mlat.factor_pos _
  have hadd := mlat_add_fall hdated hbits hmhz hfits hfits'
  simp only [hscale] at hadd
  refine ⟨hadd, ?_⟩
  rw [← hadd, Nat.left_eq_add, Nat.mul_eq_zero, or_iff_left (Nat.pos_iff_ne_zero.1 hpos)]
  exact Mlat.fall_eq_zero_iff

/-- The largest reading of a beast counter, and two ticks later a reading of 1. -/
theorem elapsed_but_for_wraps_largest_reading :
    let p := Packet.blank .nil
    let first : Bytes := [0x1a, 0x31, 0xff, 0xff, 0xff, 0xff, 0xff, 0xff, 0xff, 1, 2]
    let second : Bytes := [0x1a, 0x31, 0, 0, 0, 0, 0, 1, 0xff, 1, 2]
    let acts := [.fill (first ++ second), .decode p, .decode p]
    ∃ d d', (fresh Buffer.usualCapacity).dated .nil acts = [d, d'] ∧
      Mlat.elapsed 48 d.reading d'.reading = 2 ∧
      d'.packet.mlat.toNat + 1 * (120 / 12) = d.packet.mlat.toNat + 2 * (120 / 12) := by
  intro p first second acts
  obtain ⟨d, d', hdated, helapsed, hfall, hmhz, hbits, hmhz', hfits, hfits'⟩ : ∃ d d',
      (fresh Buffer.usualCapacity).dated .nil acts = [d, d'] ∧
        Mlat.elapsed 48 d.reading d'.reading = 2 ∧ Mlat.fall d.reading d'.reading = 1 ∧
        d.counter.mhz = 12 ∧ d.format.bits? = some 48 ∧ d'.counter.mhz = d.counter.mhz ∧ d.Fits ∧
        d'.Fits :=
    ⟨_, _, rfl, by decide +kernel⟩
  have hsuccessive : (fresh Buffer.usualCapacity).dated .nil acts = [] ++ d :: d' :: [] := hdated
  obtain ⟨hdiffer, -⟩ := elapsed_but_for_wraps hsuccessive hbits hmhz' hfits hfits'
  rw [helapsed, hfall, hmhz] at hdiffer
  exact ⟨d, d', hdated, helapsed, hdiffer⟩

/-- Two ticks of a beast counter of 12 MHz are 20 ticks of the bus's clock, but only 10 if the
counter comes round in between. -/
theorem wrap_loses_tick :
    let p := Packet.blank .nil
    let first : Bytes := [0x1a, 0x31, 0xff, 0xff, 0xff, 0xff, 0xff, 0xff, 0xff, 1, 2]
    let second : Bytes := [0x1a, 0x31, 0, 0, 0, 0, 0, 1, 0xff, 1, 2]
    let acts := [.fill (first ++ second), .decode p, .decode p]
    let packets := (fresh Buffer.usualCapacity).dated .nil acts
    (∀ d ∈ packets, d.format = .beast ∧ d.Fits) ∧
      packets.map (·.reading) = [0xFFFFFFFFFFFF, 1] ∧
      packets.map (·.packet.mlat) = [2814749767106550, 2814749767106550 + 10] ∧
      Mlat.elapsed 48 0xFFFFFFFFFFFF 1 * (120 / Wire.Beast.mhz.toNat) = 20 := by
  decide +kernel

end Inlet
end Squitter
