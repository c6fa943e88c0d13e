import Squitter.Proofs.Clocks.Widening
import Squitter.Proofs.Handshake

/-!
# Rates

The bus's clock ticks at 120 MHz, and a whole number of its ticks counts for one tick of a
counter (`Mlat.factor`). So the timestamps of a counter of `mhz` MHz tick at a **rate**
(`Mlat.rate`) that is a multiple of `mhz`: it is 120 for counters whose frequency divides 120
(`Mlat.rate_eq_iff`), and less for all others.

**The result** (`Mlat.ticks_at_rate`). A timestamp falls short of the time that has passed by
the remainder of this division for each tick, so that it is that time, rounded down, if and
only if the frequency divides
120. Two counters that measure the same time give differences in the ratio of their rates. A counter
of 50 MHz, which a line of airspy_adsb may announce, loses one tick in six
(`Mlat.fifty_mhz_ticks_slowly`).
-/

namespace Squitter.Mlat

/-- The frequency in MHz at which the timestamps of a counter tick. -/
def rate (mhz : UInt32) : Nat := mhz.toNat * (factor mhz).toNat

variable {mhz mhz' : UInt32} {width reading a b : UInt64}

theorem rate_add_mod (hmhz : validMHz mhz) : rate mhz + 120 % mhz.toNat = 120 := by
  rw [rate, toNat_factor_of_valid hmhz, Nat.div_add_mod]

/-- **The rate is 120 MHz for frequencies that divide it**, and less for all others. -/
theorem rate_eq_iff (hmhz : validMHz mhz) : rate mhz = 120 ↔ mhz.toNat ∣ 120 := by
  have hsum := rate_add_mod hmhz
  rw [Nat.dvd_iff_mod_eq_zero]
  omega

theorem factor_le (mhz : UInt32) : (factor mhz).toNat ≤ 120 := by
  rw [toNat_factor]
  exact Nat.div_le_self 120 _

/-! ## Timestamps -/

theorem toNat_mul_factor (hfit : reading.toNat * 120 < 2 ^ 64) :
    (reading * factor mhz).toNat = reading.toNat * (factor mhz).toNat := by
  rw [UInt64.toNat_mul, Nat.mod_eq_of_lt]
  exact Nat.lt_of_le_of_lt (Nat.mul_le_mul_left _ (factor_le mhz)) hfit

/-- As long as readings do not fall, they are only scaled. -/
theorem timestamps_of_le (hle : a ≤ b) :
    timestamps width mhz .fresh [a, b] = [a * factor mhz, b * factor mhz] := by
  simp only [timestamps, widen, History.fresh, UInt64.not_lt_zero, if_false, UInt64.not_lt.2 hle,
    UInt64.zero_add]

/-- Each tick of the counter falls short by the remainder of the division. -/
theorem toNat_widen_add_shortfall (width : UInt64) (hmhz : validMHz mhz)
    (hfit : reading.toNat * 120 < 2 ^ 64) :
    (widen reading width mhz .fresh).1.toNat + reading.toNat * (120 % mhz.toNat) / mhz.toNat =
      reading.toNat * 120 / mhz.toNat := by
  obtain ⟨hpos, -⟩ := validMHz_iff.1 hmhz
  have hwiden : (widen reading width mhz .fresh).1 = reading * factor mhz := by
    simp only [widen, History.fresh, UInt64.not_lt_zero, if_false, UInt64.zero_add]
  have hsplit : reading.toNat * 120 =
      reading.toNat * (120 % mhz.toNat) + reading.toNat * (120 / mhz.toNat) * mhz.toNat := by
    rw [Nat.mul_assoc, ← Nat.mul_add, Nat.mul_comm (120 / _), Nat.mod_add_div]
  rw [hwiden, toNat_mul_factor hfit, toNat_factor_of_valid hmhz, hsplit,
    Nat.add_mul_div_right _ _ hpos, Nat.add_comm]

/-- **Only a frequency that divides 120** gives timestamps that keep up with the bus's clock. -/
theorem forall_toNat_widen_iff (hmhz : validMHz mhz) :
    (∀ reading : UInt64, reading.toNat * 120 < 2 ^ 64 →
      (widen reading width mhz .fresh).1.toNat = reading.toNat * 120 / mhz.toNat) ↔
      mhz.toNat ∣ 120 := by
  obtain ⟨hpos, hle⟩ := validMHz_iff.1 hmhz
  constructor
  · intro hall
    -- after as many ticks as there are in a microsecond, the shortfall is the remainder
    have hreading : mhz.toUInt64.toNat = mhz.toNat := rfl
    have hfit : mhz.toUInt64.toNat * 120 < 2 ^ 64 := by omega
    have hshort := toNat_widen_add_shortfall width hmhz hfit
    rw [hall _ hfit, hreading, Nat.mul_div_cancel_left 120 hpos,
      Nat.mul_div_cancel_left _ hpos] at hshort
    exact Nat.dvd_of_mod_eq_zero (Nat.left_eq_add.1 hshort.symm)
  · intro hdvd reading hfit
    have hshort := toNat_widen_add_shortfall width hmhz hfit
    rwa [Nat.mod_eq_zero_of_dvd hdvd, Nat.mul_zero, Nat.zero_div, Nat.add_zero] at hshort

/-! ## Two counters -/

/-- A counter that has ticked for some time, as seen by its timestamps. -/
theorem toNat_sub_mul_factor (hfit : b.toNat * 120 < 2 ^ 64) (hle : a ≤ b) :
    (b * factor mhz).toNat - (a * factor mhz).toNat = (b.toNat - a.toNat) * (factor mhz).toNat := by
  have hfit' : a.toNat * 120 < 2 ^ 64 :=
    Nat.lt_of_le_of_lt (Nat.mul_le_mul_right 120 (UInt64.le_iff_toNat_le.1 hle)) hfit
  rw [toNat_mul_factor hfit, toNat_mul_factor hfit', Nat.sub_mul]

/-- Two counters that tick for the same time count in the ratio of their rates. -/
theorem mul_rate_eq {n n' : Nat} (htime : n * mhz'.toNat = n' * mhz.toNat) :
    n * (factor mhz).toNat * rate mhz' = n' * (factor mhz').toNat * rate mhz := by
  calc n * (factor mhz).toNat * rate mhz'
      = n * mhz'.toNat * ((factor mhz).toNat * (factor mhz').toNat) := by rw [rate]; ac_rfl
    _ = n' * mhz.toNat * ((factor mhz).toNat * (factor mhz').toNat) := by rw [htime]
    _ = n' * (factor mhz').toNat * rate mhz := by rw [rate]; ac_rfl

theorem mul_factor_eq_iff (hmhz : validMHz mhz) (hmhz' : validMHz mhz') {n n' : Nat}
    (htime : n * mhz'.toNat = n' * mhz.toNat) :
    n * (factor mhz).toNat = n' * (factor mhz').toNat ↔ n = 0 ∨ rate mhz = rate mhz' := by
  have hratio := mul_rate_eq htime
  constructor
  · intro heq
    rw [← heq] at hratio
    rcases Nat.eq_zero_or_pos n with hn | hn
    · exact .inl hn
    · exact .inr (Nat.eq_of_mul_eq_mul_left (Nat.mul_pos hn (factor_pos mhz)) hratio).symm
  · rintro (rfl | hrate)
    · rw [Nat.zero_mul] at htime
      rcases Nat.mul_eq_zero.1 htime.symm with hn' | hzero
      · rw [hn', Nat.zero_mul, Nat.zero_mul]
      · exact absurd hzero (Nat.pos_iff_ne_zero.1 (validMHz_iff.1 hmhz).1)
    · rw [hrate] at hratio
      have hpos : 0 < rate mhz' := Nat.mul_pos (validMHz_iff.1 hmhz').1 (factor_pos mhz')
      exact Nat.eq_of_mul_eq_mul_right hpos hratio

/-- **Timestamps tick at the rate of their counter**, whatever its width: they fall short by
a remainder for each tick, and keep up with the bus's clock if and only if the frequency
divides 120. Two counters that measure the same time, of which some passes, differ in it
unless they have the same rate. -/
theorem ticks_at_rate (hmhz : validMHz mhz) (width : UInt64) :
    (∀ reading : UInt64, reading.toNat * 120 < 2 ^ 64 →
      (widen reading width mhz .fresh).1.toNat + reading.toNat * (120 % mhz.toNat) / mhz.toNat =
        reading.toNat * 120 / mhz.toNat) ∧
    ((∀ reading : UInt64, reading.toNat * 120 < 2 ^ 64 →
      (widen reading width mhz .fresh).1.toNat = reading.toNat * 120 / mhz.toNat) ↔
        mhz.toNat ∣ 120) ∧
    ∀ (mhz' : UInt32) (width' a b a' b' : UInt64), validMHz mhz' → a ≤ b → a' ≤ b' →
      b.toNat * 120 < 2 ^ 64 → b'.toNat * 120 < 2 ^ 64 →
      (b.toNat - a.toNat) * mhz'.toNat = (b'.toNat - a'.toNat) * mhz.toNat →
      ∃ x y x' y', timestamps width mhz .fresh [a, b] = [x, y] ∧
        timestamps width' mhz' .fresh [a', b'] = [x', y'] ∧
        (y.toNat - x.toNat) * rate mhz' = (y'.toNat - x'.toNat) * rate mhz ∧
        (y.toNat - x.toNat = y'.toNat - x'.toNat ↔ a = b ∨ rate mhz = rate mhz') := by
  refine ⟨fun _ => toNat_widen_add_shortfall width hmhz, forall_toNat_widen_iff hmhz, ?_⟩
  intro mhz' width' a b a' b' hmhz' hle hle' hfit hfit' htime
  refine ⟨_, _, _, _, timestamps_of_le hle, timestamps_of_le hle', ?_, ?_⟩
  · rw [toNat_sub_mul_factor hfit hle, toNat_sub_mul_factor hfit' hle']
    exact mul_rate_eq htime
  · rw [toNat_sub_mul_factor hfit hle, toNat_sub_mul_factor hfit' hle',
      mul_factor_eq_iff hmhz hmhz' htime, Nat.sub_eq_zero_iff_le, ← UInt64.le_iff_toNat_le]
    exact or_congr_left ⟨fun hge => UInt64.le_antisymm hle hge, fun heq => heq ▸ UInt64.le_refl a⟩

/-- In one second, a counter of 50 MHz is dated 100 million ticks later, and
one of 20 MHz 120 million. -/
theorem ticks_at_rate_fifty_twenty :
    rate 50 = 100 ∧ rate 20 = 120 ∧
      ∃ x y x' y', timestamps Wire.Airspy.width 50 .fresh [0, 50000000] = [x, y] ∧
        timestamps Wire.Airspy.width 20 .fresh [0, 20000000] = [x', y'] ∧
        (y.toNat - x.toNat) * rate 20 = (y'.toNat - x'.toNat) * rate 50 ∧
        y.toNat - x.toNat ≠ y'.toNat - x'.toNat := by
  have hfifty : validMHz 50 := by decide
  obtain ⟨-, -, htwo⟩ := ticks_at_rate hfifty Wire.Airspy.width
  obtain ⟨x, y, x', y', hxy, hxy', hratio, hiff⟩ := htwo 20 Wire.Airspy.width 0 50000000 0 20000000
    (by decide) (by decide) (by decide) (by decide) (by decide) (by decide)
  exact ⟨by decide, by decide, x, y, x', y', hxy, hxy', hratio,
    fun heq => absurd (hiff.1 heq) (by decide)⟩

/-- Two lines of airspy_adsb, of a counter of 50 MHz and of one of 20 MHz, after one second. -/
theorem fifty_mhz_ticks_slowly :
    let mlat (line : String) := (Decoder.fresh.decode .nil ⟨Buffer.usualCapacity, 0, utf8 line⟩
      (.blank .nil)).packet.mlat
    validMHz 50 ∧ mlat "*0102;02FAF080;19;0000;\n" = 100000000 ∧ 50000000 * 120 / 50 = 120000000 ∧
      mlat "*0102;01312D00;0A;0000;\n" = 120000000 := by
  decide +kernel

end Squitter.Mlat
