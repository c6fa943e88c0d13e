import Squitter.Wire.Beast

/-!
# Signal levels on other scales

A level of a scale with a ceiling is a whole number of steps of the bus's scale
(`Rssi.toNat_widen`), and narrowing finds it again (`Rssi.narrow_widen`).

**Level bytes.** The beast format spells a level as the number of its whole steps of `0x1010101`,
and has a mark for an unknown one. The mark is never spelled for a known level
(`Wire.Beast.levelByte_ne_unmeasured`), but a level of less than one step is spelled as zero, which
stands for an unknown one (`Wire.Beast.levelOf_levelByte_eq_zero_iff`).
-/

namespace Squitter

/-! ## Scales -/

namespace Rssi

variable {level ceiling : UInt32}

theorem toNat_factor (ceiling : UInt32) :
    (factor ceiling).toNat = fullScale.toNat / max ceiling.toNat 1 := by
  have hmax : (max ceiling 1).toNat = max ceiling.toNat 1 := by
    show (if ceiling ≤ 1 then 1 else ceiling).toNat = _
    by_cases h : ceiling ≤ 1
    · have hle : ceiling.toNat ≤ 1 := UInt32.le_iff_toNat_le.1 h
      rw [if_pos h, Nat.max_eq_right hle]
      rfl
    · have hle : 1 ≤ ceiling.toNat :=
        UInt32.le_iff_toNat_le.1 ((UInt32.le_total ceiling 1).resolve_left h)
      rw [if_neg h, Nat.max_eq_left hle]
  rw [factor, UInt32.toNat_div, hmax]

theorem factor_pos (ceiling : UInt32) : 0 < (factor ceiling).toNat := by
  have hlt := ceiling.toNat_lt
  have hfull : fullScale.toNat = 2 ^ 32 - 1 := rfl
  rw [toNat_factor]
  exact Nat.div_pos (by omega) (by omega)

/-- A level of a scale is a level of the bus's scale. -/
theorem toNat_widen (hle : level ≤ ceiling) :
    (widen level ceiling).toNat = level.toNat * (factor ceiling).toNat := by
  have hmax : level.toNat ≤ max ceiling.toNat 1 :=
    Nat.le_trans (UInt32.le_iff_toNat_le.1 hle) (Nat.le_max_left _ _)
  have hfull : level.toNat * (factor ceiling).toNat ≤ fullScale.toNat := by
    rw [toNat_factor, Nat.mul_comm]
    exact Nat.le_trans (Nat.mul_le_mul_left _ hmax) (Nat.div_mul_le_self _ _)
  rw [widen, UInt32.toNat_mul, Nat.mod_eq_of_lt (Nat.lt_of_le_of_lt hfull fullScale.toNat_lt)]

/-- **Narrowing finds a level again.** -/
theorem narrow_widen (hle : level ≤ ceiling) : narrow (widen level ceiling) ceiling = level := by
  apply UInt32.toNat_inj.1
  rw [narrow, UInt32.toNat_div, toNat_widen hle, Nat.mul_div_cancel _ (factor_pos ceiling)]

end Rssi

/-! ## Level bytes -/

namespace Wire.Beast

/-- The level that a level byte stands for. -/
def levelOf (b : UInt8) : UInt32 :=
  if b = unmeasured then 0 else Rssi.widen b.toUInt32 ceiling

variable {rssi : UInt32}

theorem toNat_narrow (rssi : UInt32) :
    (Rssi.narrow rssi ceiling).toNat = rssi.toNat / 0x1010101 := by
  rw [Rssi.narrow, UInt32.toNat_div]
  rfl

/-- A level byte below the mark stands for its multiple of the step. -/
theorem toNat_levelOf {b : UInt8} (hb : b ≠ unmeasured) :
    (levelOf b).toNat = b.toNat * 0x1010101 := by
  have hle : b.toUInt32 ≤ ceiling := by
    have hlt := b.toNat_lt
    rw [UInt32.le_iff_toNat_le, UInt8.toNat_toUInt32]
    exact Nat.le_of_lt_succ hlt
  rw [levelOf, if_neg hb, Rssi.toNat_widen hle, UInt8.toNat_toUInt32]
  rfl

/-- The level byte of a measured level: its whole steps, but never the mark. -/
theorem toNat_levelByte (hrssi : rssi ≠ 0) :
    (levelByte rssi).toNat = min (rssi.toNat / 0x1010101) 254 := by
  have hsteps := toNat_narrow rssi
  have hlt := rssi.toNat_lt
  have hmost : (unmeasured - 1).toUInt32.toNat = 254 := rfl
  rw [levelByte, if_neg hrssi, UInt32.toNat_toUInt8]
  show (if Rssi.narrow rssi ceiling ≤ (unmeasured - 1).toUInt32 then Rssi.narrow rssi ceiling
    else (unmeasured - 1).toUInt32).toNat % 2 ^ 8 = _
  by_cases hle : Rssi.narrow rssi ceiling ≤ (unmeasured - 1).toUInt32
  · rw [if_pos hle, hsteps]
    rw [UInt32.le_iff_toNat_le, hsteps, hmost] at hle
    omega
  · rw [if_neg hle, hmost]
    rw [UInt32.le_iff_toNat_le, hsteps, hmost] at hle
    omega

theorem levelByte_ne_unmeasured (hrssi : rssi ≠ 0) : levelByte rssi ≠ unmeasured := by
  intro heq
  have hbyte := toNat_levelByte hrssi
  have hmark : unmeasured.toNat = 255 := rfl
  rw [heq] at hbyte
  omega

/-- What becomes of a measured level: a multiple of the step. -/
theorem toNat_levelOf_levelByte (hrssi : rssi ≠ 0) :
    (levelOf (levelByte rssi)).toNat = min (rssi.toNat / 0x1010101) 254 * 0x1010101 := by
  rw [toNat_levelOf (levelByte_ne_unmeasured hrssi), toNat_levelByte hrssi]

/-- **Which levels are received as unknown**: those of less than one step. -/
theorem levelOf_levelByte_eq_zero_iff : levelOf (levelByte rssi) = 0 ↔ rssi < 0x1010101 := by
  rw [UInt32.lt_iff_toNat_lt, ← UInt32.toNat_inj]
  show (levelOf (levelByte rssi)).toNat = 0 ↔ rssi.toNat < 0x1010101
  by_cases hrssi : rssi = 0
  · rw [hrssi]
    decide
  · rw [toNat_levelOf_levelByte hrssi]
    omega

/-- All other levels are spelled as they were. -/
theorem levelByte_levelOf_levelByte (hrssi : 0x1010101 ≤ rssi) :
    levelByte (levelOf (levelByte rssi)) = levelByte rssi := by
  have hle : 0x1010101 ≤ rssi.toNat := UInt32.le_iff_toNat_le.1 hrssi
  have hne : rssi ≠ 0 := by
    rintro rfl
    exact absurd hle (by decide)
  have hne' : levelOf (levelByte rssi) ≠ 0 :=
    fun hzero => UInt32.not_lt.2 hrssi (levelOf_levelByte_eq_zero_iff.1 hzero)
  apply UInt8.toNat_inj.1
  rw [toNat_levelByte hne', toNat_levelOf_levelByte hne, toNat_levelByte hne]
  omega

/-- A level is received as unknown, or as one step at least. -/
theorem levelOf_levelByte_cases (rssi : UInt32) :
    levelOf (levelByte rssi) = 0 ∨ 0x1010101 ≤ levelOf (levelByte rssi) := by
  by_cases hrssi : rssi = 0
  · rw [hrssi]
    exact .inl rfl
  · have hlevel := toNat_levelOf_levelByte hrssi
    rw [UInt32.le_iff_toNat_le, ← UInt32.toNat_inj]
    show (levelOf (levelByte rssi)).toNat = 0 ∨ 0x1010101 ≤ (levelOf (levelByte rssi)).toNat
    omega

end Wire.Beast
end Squitter
