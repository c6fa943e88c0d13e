import Squitter.Proofs.Levels
import Squitter.Wire.Airspy

/-!
# Ceilings

A level is narrowed to a scale by a division by a whole factor, the quotient of the bus's scale by
the ceiling. The **remainder** of that quotient is divided by the factor as well: the strongest
level becomes the ceiling and as many steps more as there are factors in the remainder
(`Rssi.excess`, `Rssi.toNat_narrow_fullScale`).

**The result** (`Rssi.ceilings_respected`). Narrowing never reverses the order of two levels, and it
**respects** a ceiling (`Rssi.Respects`) if and only if the remainder is less than the factor. That
is so for every ceiling of 16 bits, those of airspy_adsb and beast among them
(`Rssi.respects_formats`), and no longer for `0x10000`, which is exceeded by one
(`Rssi.ceiling_exceeded`).
-/

namespace Squitter.Rssi

variable {level level' ceiling : UInt32}

/-- Narrowing stays within a scale, and all of the scale is used. -/
structure Respects (ceiling : UInt32) : Prop where
  le : ∀ level, narrow level ceiling ≤ ceiling
  monotone : ∀ level level', level ≤ level' → narrow level ceiling ≤ narrow level' ceiling
  full : narrow fullScale ceiling = ceiling

/-- The steps by which the strongest level exceeds a ceiling. -/
def excess (ceiling : UInt32) : Nat :=
  fullScale.toNat % ceiling.toNat / (fullScale.toNat / ceiling.toNat)

/-! ## Quotients -/

theorem toNat_narrow (level ceiling : UInt32) :
    (narrow level ceiling).toNat = level.toNat / (factor ceiling).toNat :=
  UInt32.toNat_div ..

theorem narrow_le_narrow (hle : level ≤ level') : narrow level ceiling ≤ narrow level' ceiling := by
  rw [UInt32.le_iff_toNat_le, toNat_narrow, toNat_narrow]
  exact Nat.div_le_div_right (UInt32.le_iff_toNat_le.1 hle)

theorem le_fullScale (level : UInt32) : level ≤ fullScale := by
  have hfull : fullScale.toNat = 2 ^ 32 - 1 := rfl
  have hlt := level.toNat_lt
  rw [UInt32.le_iff_toNat_le, hfull]
  omega

theorem toNat_factor_of_pos (hpos : 0 < ceiling.toNat) :
    (factor ceiling).toNat = fullScale.toNat / ceiling.toNat := by
  rw [toNat_factor, Nat.max_eq_left hpos]

/-- **What becomes of the strongest level.** -/
theorem toNat_narrow_fullScale (hpos : 0 < ceiling.toNat) :
    (narrow fullScale ceiling).toNat = ceiling.toNat + excess ceiling := by
  have hfactor := toNat_factor_of_pos hpos
  have hfactor_pos := factor_pos ceiling
  rw [hfactor] at hfactor_pos
  rw [toNat_narrow, hfactor, excess]
  calc
    _ = (fullScale.toNat / ceiling.toNat * ceiling.toNat + fullScale.toNat % ceiling.toNat) /
        (fullScale.toNat / ceiling.toNat) := by rw [Nat.div_add_mod']
    _ = _ := Nat.mul_add_div hfactor_pos ..

/-- A ceiling is exceeded by less than itself. -/
theorem excess_lt (hpos : 0 < ceiling.toNat) : excess ceiling < ceiling.toNat :=
  Nat.lt_of_le_of_lt (Nat.div_le_self ..) (Nat.mod_lt _ hpos)

/-- **A ceiling is not exceeded** if the remainder is less than the factor. -/
theorem excess_eq_zero_iff (hpos : 0 < ceiling.toNat) :
    excess ceiling = 0 ↔ fullScale.toNat % ceiling.toNat < fullScale.toNat / ceiling.toNat := by
  have hfactor_pos := factor_pos ceiling
  rw [toNat_factor_of_pos hpos] at hfactor_pos
  rw [excess, Nat.div_eq_zero_iff_lt hfactor_pos]

/-! ## Ceilings that are respected -/

theorem respects_iff_excess (hpos : 0 < ceiling.toNat) : Respects ceiling ↔ excess ceiling = 0 := by
  have hfull := toNat_narrow_fullScale hpos
  constructor
  · intro h
    rw [h.full] at hfull
    omega
  · intro hexcess
    have htop : narrow fullScale ceiling = ceiling := by
      rw [← UInt32.toNat_inj, hfull, hexcess, Nat.add_zero]
    refine ⟨fun level => ?_, fun _ _ => narrow_le_narrow, htop⟩
    have hle : narrow level ceiling ≤ narrow fullScale ceiling :=
      narrow_le_narrow (le_fullScale level)
    rwa [htop] at hle

/-- **Ceilings of 16 bits are respected**: the remainder is less than the
ceiling, and the factor is not. -/
theorem respects_of_le (hpos : 0 < ceiling.toNat) (hle : ceiling ≤ 0xFFFF) : Respects ceiling := by
  have hsmall : ceiling.toNat ≤ 0xFFFF := UInt32.le_iff_toNat_le.1 hle
  have hfactor : 0xFFFF ≤ fullScale.toNat / ceiling.toNat := by
    rw [Nat.le_div_iff_mul_le hpos]
    calc
      0xFFFF * ceiling.toNat ≤ 0xFFFF * 0xFFFF := Nat.mul_le_mul_left _ hsmall
      _ ≤ fullScale.toNat := by decide
  have hremainder := Nat.mod_lt fullScale.toNat hpos
  rw [respects_iff_excess hpos, excess_eq_zero_iff hpos]
  omega

/-- The scales of the formats are respected. -/
theorem respects_formats : Respects Wire.Airspy.ceiling ∧ Respects Wire.Beast.ceiling :=
  ⟨respects_of_le (by decide) (by decide), respects_of_le (by decide) (by decide)⟩

/-- **Which ceilings are respected.** Narrowing keeps the order of levels. The strongest becomes the
ceiling and its excess, which is less than the ceiling, and the ceiling is respected if and only if
the remainder of the bus's scale is less than the factor, as it is for all ceilings of 16 bits. -/
theorem ceilings_respected (hceiling : 1 ≤ ceiling) :
    (∀ level level', level ≤ level' → narrow level ceiling ≤ narrow level' ceiling) ∧
      (narrow fullScale ceiling).toNat = ceiling.toNat + excess ceiling ∧
      excess ceiling < ceiling.toNat ∧
      (Respects ceiling ↔ fullScale.toNat % ceiling.toNat < fullScale.toNat / ceiling.toNat) ∧
      (ceiling ≤ 0xFFFF → Respects ceiling) := by
  have hpos : 0 < ceiling.toNat := UInt32.le_iff_toNat_le.1 hceiling
  refine ⟨fun _ _ => narrow_le_narrow, toNat_narrow_fullScale hpos, excess_lt hpos, ?_,
    respects_of_le hpos⟩
  rw [respects_iff_excess hpos, excess_eq_zero_iff hpos]

/-- A ceiling of more than 16 bits that is respected: the remainder is 3 and the factor 65534. -/
theorem ceilings_respected_small_remainder : (1 : UInt32) ≤ 0x10002 ∧ Respects 0x10002 := by
  have hceiling : (1 : UInt32) ≤ 0x10002 := by decide
  obtain ⟨-, -, -, hiff, -⟩ := ceilings_respected hceiling
  exact ⟨hceiling, hiff.2 (by decide)⟩

/-- **A ceiling that is exceeded**: the strongest level is above it, and so the
ceiling is not respected. -/
theorem ceiling_exceeded :
    (1 : UInt32) ≤ 0x10000 ∧ narrow 0xFFFFFFFF 0x10000 = 0x10001 ∧ ¬ Respects 0x10000 := by
  refine ⟨by decide, by decide, fun h => ?_⟩
  exact absurd h.full (by decide)

end Squitter.Rssi
