import Squitter.Proofs.Hop.Timestamps

/-!
# Widening and narrowing

The readings of a counter are brought onto the bus's clock one after the other (`Mlat.timestamps`).
What a timestamp stands for is the number of **ticks** of the counter (`History.ticks`): the wraps
that were counted, and the reading. If these ticks are within the 64 bits of a timestamp, they are
what is computed (`toNat_widen`).

**The result** (`narrow_timestamps`). Where all readings are within the counter's range, each
reading below the one before it counts as one wrap, no timestamp is before an earlier one, and
narrowing finds every reading again. This is so up to the first timestamp that may leave the
64 bits. The invariant is that the generation is a multiple of the width (`Wrapped`), so that
it is gone modulo the width.
-/

namespace Squitter.Mlat

/-! ## Factors -/

theorem toNat_factor (mhz : UInt32) : (factor mhz).toNat = 120 / min (max mhz.toNat 1) 120 := by
  have hmax (a b : UInt32) : (max a b).toNat = max a.toNat b.toNat := by
    show (if a ≤ b then b else a).toNat = _
    by_cases h : a ≤ b
    · rw [if_pos h, Nat.max_eq_right (UInt32.le_iff_toNat_le.1 h)]
    · rw [if_neg h,
        Nat.max_eq_left (UInt32.le_iff_toNat_le.1 ((UInt32.le_total a b).resolve_left h))]
  have hmin (a b : UInt32) : (min a b).toNat = min a.toNat b.toNat := by
    show (if a ≤ b then a else b).toNat = _
    by_cases h : a ≤ b
    · rw [if_pos h, Nat.min_eq_left (UInt32.le_iff_toNat_le.1 h)]
    · rw [if_neg h,
        Nat.min_eq_right (UInt32.le_iff_toNat_le.1 ((UInt32.le_total a b).resolve_left h))]
  rw [factor, UInt32.toNat_toUInt64, UInt32.toNat_div, hmin, hmax]
  rfl

variable {mhz : UInt32} {width reading : UInt64} {readings : List UInt64} {h : History} {n : Nat}

theorem validMHz_iff : validMHz mhz = true ↔ 0 < mhz.toNat ∧ mhz.toNat ≤ 120 := by
  simp only [validMHz, Bool.and_eq_true, decide_eq_true_eq, UInt32.lt_iff_toNat_lt,
    UInt32.le_iff_toNat_le]
  rfl

theorem toNat_factor_of_valid (hmhz : validMHz mhz) : (factor mhz).toNat = 120 / mhz.toNat := by
  obtain ⟨hpos, hle⟩ := validMHz_iff.1 hmhz
  rw [toNat_factor, Nat.max_eq_left hpos, Nat.min_eq_left hle]

theorem factor_pos (mhz : UInt32) : 0 < (factor mhz).toNat := by
  rw [toNat_factor]
  apply Nat.div_pos
  · exact Nat.min_le_right _ _
  · exact Nat.lt_min.2 ⟨Nat.lt_of_lt_of_le Nat.one_pos (Nat.le_max_right _ _), by decide⟩

/-! ## One reading -/

/-- The ticks of a counter of a width when it shows a reading: the wraps so far, one more if the
reading is below the last one, and the reading. -/
def History.ticks (h : History) (width reading : UInt64) : Nat :=
  h.generation.toNat + (if reading < h.last then width.toNat else 0) + reading.toNat

/-- **Ticks within the 64 bits** are what is computed. -/
theorem toNat_widen (hfit : h.ticks width reading * (factor mhz).toNat < 2 ^ 64) :
    (widen reading width mhz h).1.toNat = h.ticks width reading * (factor mhz).toNat ∧
      (widen reading width mhz h).2.generation.toNat + reading.toNat = h.ticks width reading := by
  have hticks : h.ticks width reading < 2 ^ 64 :=
    Nat.lt_of_le_of_lt (Nat.le_mul_of_pos_right _ (factor_pos mhz)) hfit
  have hgeneration : (widen reading width mhz h).2.generation.toNat + reading.toNat =
      h.ticks width reading := by
    unfold History.ticks at hticks ⊢
    simp only [widen]
    by_cases hfall : reading < h.last
    · rw [if_pos hfall] at hticks ⊢
      rw [if_pos hfall, UInt64.toNat_add, Nat.mod_eq_of_lt (by omega)]
    · rw [if_neg hfall] at hticks ⊢
      rw [if_neg hfall, Nat.add_zero]
  refine ⟨?_, hgeneration⟩
  show (((widen reading width mhz h).2.generation + reading) * factor mhz).toNat = _
  rw [UInt64.toNat_mul, UInt64.toNat_add, hgeneration, Nat.mod_eq_of_lt hticks,
    Nat.mod_eq_of_lt hfit]

/-- A counter never seems to run backwards unless it falls by more than its width. -/
theorem le_ticks_iff :
    h.generation.toNat + h.last.toNat ≤ h.ticks width reading ↔
      h.last.toNat ≤ reading.toNat + width.toNat := by
  unfold History.ticks
  by_cases hfall : reading < h.last
  · rw [if_pos hfall]
    omega
  · have hle : h.last.toNat ≤ reading.toNat :=
      UInt64.le_iff_toNat_le.1 (UInt64.not_lt.1 hfall)
    rw [if_neg hfall]
    omega

/-! ## Many readings -/

/-- The timestamps for the readings of a counter, one after the other. -/
def timestamps (width : UInt64) (mhz : UInt32) (h : History) : List UInt64 → List UInt64
  | [] => []
  | r :: rs => (widen r width mhz h).1 :: timestamps width mhz (widen r width mhz h).2 rs

/-- The history after some readings. -/
def historyAfter (width : UInt64) (mhz : UInt32) (h : History) (readings : List UInt64) : History :=
  readings.foldl (fun h r => (widen r width mhz h).2) h

/-- How many readings are below the one before them. -/
def descents (last : UInt64) : List UInt64 → Nat
  | [] => 0
  | r :: rs => fall last r + descents r rs

theorem take_timestamps (h : History) (readings : List UInt64) (n : Nat) :
    (timestamps width mhz h readings).take n = timestamps width mhz h (readings.take n) := by
  induction readings generalizing h n with
  | nil => rw [List.take_nil, timestamps, List.take_nil]
  | cons r rs ih =>
    cases n with
    | zero => rfl
    | succ n => rw [timestamps, List.take_succ_cons, ih, List.take_succ_cons, timestamps]

/-- A counter of which `n` wraps were counted, and which last showed a reading within its range. -/
structure Wrapped (width : UInt64) (n : Nat) (h : History) : Prop where
  generation : h.generation.toNat = n * width.toNat
  last : h.last.toNat ≤ width.toNat

namespace Wrapped

theorem fresh (width : UInt64) : Wrapped width 0 .fresh :=
  ⟨(Nat.zero_mul _).symm, Nat.zero_le _⟩

theorem ticks_eq (hw : Wrapped width n h) :
    h.ticks width reading = (n + fall h.last reading) * width.toNat + reading.toNat := by
  rw [History.ticks, hw.generation, Nat.add_mul]
  unfold fall
  by_cases hfall : reading < h.last
  · rw [if_pos hfall, if_pos hfall, Nat.one_mul]
  · rw [if_neg hfall, if_neg hfall, Nat.zero_mul]

theorem ticks_mul_lt (hw : Wrapped width n h) (hreading : reading < width)
    (hfit : (n + fall h.last reading + 1) * width.toNat * (factor mhz).toNat ≤ 2 ^ 64) :
    h.ticks width reading * (factor mhz).toNat < 2 ^ 64 := by
  have hlt : h.ticks width reading < (n + fall h.last reading + 1) * width.toNat := by
    rw [hw.ticks_eq, Nat.add_mul _ 1, Nat.one_mul]
    exact Nat.add_lt_add_left (UInt64.lt_iff_toNat_lt.1 hreading) _
  exact Nat.lt_of_lt_of_le (Nat.mul_lt_mul_of_pos_right hlt (factor_pos mhz)) hfit

/-- **The generation stays a multiple of the width.** -/
theorem widen (hw : Wrapped width n h) (hreading : reading < width)
    (hfit : (n + fall h.last reading + 1) * width.toNat * (factor mhz).toNat ≤ 2 ^ 64) :
    Wrapped width (n + fall h.last reading) (Mlat.widen reading width mhz h).2 where
  generation := by
    obtain ⟨-, hticks⟩ := toNat_widen (hw.ticks_mul_lt hreading hfit)
    rw [hw.ticks_eq] at hticks
    exact Nat.add_right_cancel hticks
  last := Nat.le_of_lt (UInt64.lt_iff_toNat_lt.1 hreading)

/-- The timestamp is not before that of the last reading. -/
theorem le_widen (hw : Wrapped width n h) (hreading : reading < width)
    (hfit : (n + fall h.last reading + 1) * width.toNat * (factor mhz).toNat ≤ 2 ^ 64) :
    (h.generation.toNat + h.last.toNat) * (factor mhz).toNat ≤
      (Mlat.widen reading width mhz h).1.toNat := by
  obtain ⟨htimestamp, -⟩ := toNat_widen (hw.ticks_mul_lt hreading hfit)
  rw [htimestamp]
  apply Nat.mul_le_mul_right
  exact le_ticks_iff.2 (Nat.le_trans hw.last (Nat.le_add_left _ _))

/-- **Narrowing takes the generation off again.** -/
theorem narrow_widen (hw : Wrapped width n h) (hreading : reading < width)
    (hfit : (n + fall h.last reading + 1) * width.toNat * (factor mhz).toNat ≤ 2 ^ 64) :
    narrow (Mlat.widen reading width mhz h).1 width mhz = reading := by
  obtain ⟨htimestamp, -⟩ := toNat_widen (hw.ticks_mul_lt hreading hfit)
  have hwidth : width ≠ 0 := by
    rintro rfl
    exact UInt64.not_lt_zero hreading
  apply UInt64.toNat_inj.1
  rw [narrow, if_neg hwidth, UInt64.toNat_mod, UInt64.toNat_div, htimestamp,
    Nat.mul_div_cancel _ (factor_pos mhz), hw.ticks_eq, Nat.mul_add_mod_self_right,
    Nat.mod_eq_of_lt (UInt64.lt_iff_toNat_lt.1 hreading)]

/-- The room that a list of readings needs is enough for its first reading. -/
theorem first_fits {r : UInt64} {rs : List UInt64}
    (hfit : (n + descents h.last (r :: rs) + 1) * width.toNat * (factor mhz).toNat ≤ 2 ^ 64) :
    (n + fall h.last r + 1) * width.toNat * (factor mhz).toNat ≤ 2 ^ 64 := by
  refine Nat.le_trans ?_ hfit
  apply Nat.mul_le_mul_right
  apply Nat.mul_le_mul_right
  rw [descents]
  omega

theorem historyAfter (hw : Wrapped width n h) (hreadings : ∀ r ∈ readings, r < width)
    (hfit : (n + descents h.last readings + 1) * width.toNat * (factor mhz).toNat ≤ 2 ^ 64) :
    Wrapped width (n + descents h.last readings) (historyAfter width mhz h readings) := by
  induction readings generalizing h n with
  | nil => exact hw
  | cons r rs ih =>
    obtain ⟨hr, hrs⟩ := List.forall_mem_cons.1 hreadings
    have hnext := hw.widen hr (first_fits hfit)
    rw [descents, ← Nat.add_assoc] at hfit ⊢
    exact ih hnext hrs hfit

theorem forall_le_timestamps (hw : Wrapped width n h) (hreadings : ∀ r ∈ readings, r < width)
    (hfit : (n + descents h.last readings + 1) * width.toNat * (factor mhz).toNat ≤ 2 ^ 64) :
    (∀ t ∈ timestamps width mhz h readings,
      (h.generation.toNat + h.last.toNat) * (factor mhz).toNat ≤ t.toNat) ∧
    (timestamps width mhz h readings).Pairwise (· ≤ ·) := by
  induction readings generalizing h n with
  | nil => exact ⟨nofun, .nil⟩
  | cons r rs ih =>
    obtain ⟨hr, hrs⟩ := List.forall_mem_cons.1 hreadings
    have hfirst := first_fits hfit
    have hle := hw.le_widen hr hfirst
    obtain ⟨htimestamp, hticks⟩ := toNat_widen (hw.ticks_mul_lt hr hfirst)
    rw [descents, ← Nat.add_assoc] at hfit
    obtain ⟨hlater, hrest⟩ := ih (hw.widen hr hfirst) hrs hfit
    -- the timestamp is the ticks of the history that it leaves
    have hhead : ∀ t ∈ timestamps width mhz (Mlat.widen r width mhz h).2 rs,
        (Mlat.widen r width mhz h).1.toNat ≤ t.toNat := by
      intro t ht
      rw [htimestamp, ← hticks]
      exact hlater t ht
    refine ⟨List.forall_mem_cons.2 ⟨hle, fun t ht => Nat.le_trans hle (hhead t ht)⟩, ?_⟩
    exact List.pairwise_cons.2 ⟨fun t ht => UInt64.le_iff_toNat_le.2 (hhead t ht), hrest⟩

theorem map_narrow_timestamps (hw : Wrapped width n h) (hreadings : ∀ r ∈ readings, r < width)
    (hfit : (n + descents h.last readings + 1) * width.toNat * (factor mhz).toNat ≤ 2 ^ 64) :
    (timestamps width mhz h readings).map (narrow · width mhz) = readings := by
  induction readings generalizing h n with
  | nil => rfl
  | cons r rs ih =>
    obtain ⟨hr, hrs⟩ := List.forall_mem_cons.1 hreadings
    have hfirst := first_fits hfit
    rw [descents, ← Nat.add_assoc] at hfit
    rw [timestamps, List.map_cons, hw.narrow_widen hr hfirst, ih (hw.widen hr hfirst) hrs hfit]

end Wrapped

/-- **Narrowing inverts widening** along any readings of a counter, as long as the timestamps have
room: the generation is one width for each descent, the timestamps do not decrease, and narrowing
them gives the readings. -/
theorem narrow_timestamps (hmhz : validMHz mhz) (hreadings : ∀ r ∈ readings, r < width) (n : Nat)
    (hfit : (descents 0 (readings.take n) + 1) * width.toNat * (120 / mhz.toNat) ≤ 2 ^ 64) :
    (historyAfter width mhz .fresh (readings.take n)).generation.toNat =
        descents 0 (readings.take n) * width.toNat ∧
      ((timestamps width mhz .fresh readings).take n).Pairwise (· ≤ ·) ∧
      ((timestamps width mhz .fresh readings).take n).map (narrow · width mhz) =
        readings.take n := by
  have htake : ∀ r ∈ readings.take n, r < width := fun r hr => hreadings r (List.mem_of_mem_take hr)
  have hfresh := Wrapped.fresh width
  rw [← toNat_factor_of_valid hmhz, ← Nat.zero_add (descents 0 _)] at hfit
  have hafter := hfresh.historyAfter htake hfit
  rw [Nat.zero_add] at hafter
  rw [take_timestamps]
  exact ⟨hafter.generation, (hfresh.forall_le_timestamps htake hfit).2,
    hfresh.map_narrow_timestamps htake hfit⟩

/-- A counter of 12 MHz that wraps after 1000 ticks, and falls twice. -/
theorem narrow_timestamps_two_descents :
    let readings := [900, 950, 999, 3, 50, 400, 399]
    (historyAfter 1000 12 .fresh readings).generation.toNat = 2 * 1000 ∧
      (timestamps 1000 12 .fresh readings).Pairwise (· ≤ ·) ∧
      (timestamps 1000 12 .fresh readings).map (narrow · 1000 12) = readings := by
  intro readings
  have hreadings : ∀ r ∈ readings, r < 1000 := by simp [readings]
  have hdescents : descents 0 (readings.take 7) = 2 := by decide
  have hfit :
      (descents 0 (readings.take 7) + 1) * (1000 : UInt64).toNat * (120 / (12 : UInt32).toNat) ≤
      2 ^ 64 := by
    rw [hdescents]
    decide
  obtain ⟨hgeneration, hsorted, hnarrow⟩ := narrow_timestamps (by decide) hreadings 7 hfit
  rw [hdescents] at hgeneration
  exact ⟨hgeneration, hsorted, hnarrow⟩

end Squitter.Mlat
