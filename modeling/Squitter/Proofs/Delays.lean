import Mathlib.Algebra.Group.Nat.Defs
import Squitter.Backoff

/-!
# Delays between attempts

Products and powers that do not fit into a word count as the largest word. The cap fits, so that
nothing is lost by this: the ceiling is what it would be without a largest word
(`Backoff.toNat_ceiling`).

**Draws.** A draw is accepted (`Backoff.Accepts`) or refused, and the first that is accepted decides
(`Backoff.below?_eq_some_iff`). What is drawn is below the bound (`Backoff.drawn_lt`), and every
number below the bound is drawn by some draw (`Backoff.exists_drawn_eq`).

**The result** (`Backoff.delays_exact`). The numbers below the spread, put on half the ceiling, are
the numbers from there up to the ceiling, also if the ceiling is odd or 1. So these are the delays.
-/

namespace Squitter.Backoff

variable {b : Backoff} {attempt later : UInt32} {n r draw delay : UInt64} {draws rest : List UInt64}

/-! ## The ceiling -/

theorem toNat_le_maxWord (n : UInt64) : n.toNat ≤ maxWord :=
  Nat.le_pred_of_lt n.toNat_lt_size

/-- A factor that does not fit into a word may be taken for the largest
word, below a cap that fits. -/
theorem min_mul_maxWord {cap m : Nat} (base : Nat) (hcap : cap ≤ maxWord) (hm : maxWord ≤ m) :
    min (base * maxWord) cap = min (base * m) cap := by
  rcases Nat.eq_zero_or_pos base with hbase | hbase
  · rw [hbase, Nat.zero_mul, Nat.zero_mul]
  · have hword : cap ≤ base * maxWord := Nat.le_trans hcap (Nat.le_mul_of_pos_left _ hbase)
    have hlarge : cap ≤ base * m := Nat.le_trans hword (Nat.mul_le_mul_left base hm)
    rw [Nat.min_eq_right hword, Nat.min_eq_right hlarge]

/-- **The ceiling is exact**: the base, doubled once for each attempt, up to the cap. -/
theorem toNat_ceiling (b : Backoff) (attempt : UInt32) :
    (b.ceiling attempt).toNat = min (b.base.toNat * 2 ^ attempt.toNat) b.cap.toNat := by
  have hcap := toNat_le_maxWord b.cap
  have hfit (m : Nat) : (UInt64.ofNat (min m b.cap.toNat)).toNat = min m b.cap.toNat := by
    rw [UInt64.toNat_ofNat', Nat.mod_eq_of_lt]
    exact Nat.lt_of_le_of_lt (Nat.min_le_right _ _) b.cap.toNat_lt
  rw [ceiling, hfit, Nat.min_assoc, Nat.min_eq_right hcap]
  by_cases hlt : attempt < 64
  · rw [if_pos hlt, Nat.one_shiftLeft]
  · have hle : 64 ≤ attempt.toNat := UInt32.le_iff_toNat_le.1 (UInt32.not_lt.1 hlt)
    have hpow : maxWord ≤ 2 ^ attempt.toNat :=
      Nat.le_trans (by decide) (Nat.pow_le_pow_right Nat.two_pos hle)
    rw [if_neg hlt, min_mul_maxWord _ hcap hpow]

theorem ceiling_le_ceiling (hle : attempt ≤ later) : b.ceiling attempt ≤ b.ceiling later := by
  rw [UInt64.le_iff_toNat_le, toNat_ceiling, toNat_ceiling]
  have hpow : 2 ^ attempt.toNat ≤ 2 ^ later.toNat :=
    Nat.pow_le_pow_right Nat.two_pos (UInt32.le_iff_toNat_le.1 hle)
  have hmul := Nat.mul_le_mul_left b.base.toNat hpow
  omega

theorem ceiling_le_cap (b : Backoff) (attempt : UInt32) : b.ceiling attempt ≤ b.cap := by
  rw [UInt64.le_iff_toNat_le, toNat_ceiling]
  exact Nat.min_le_right _ _

/-! ## Draws -/

/-- The draw decides which number below `n` is drawn. -/
def Accepts (n draw : UInt64) : Prop := (wideMul draw n).2 ≤ zone n

instance : Decidable (Accepts n draw) := inferInstanceAs (Decidable (_ ≤ _))

/-- The number that a draw decides on. -/
def drawn (n draw : UInt64) : UInt64 := (wideMul draw n).1

theorem toNat_wideMul (a b : UInt64) :
    (wideMul a b).1.toNat = a.toNat * b.toNat / 2 ^ 64 ∧
      (wideMul a b).2.toNat = a.toNat * b.toNat % 2 ^ 64 := by
  have hlt : a.toNat * b.toNat < 2 ^ 64 * 2 ^ 64 := Nat.mul_lt_mul'' a.toNat_lt b.toNat_lt
  refine ⟨?_, UInt64.toNat_ofNat'⟩
  show (UInt64.ofNat (a.toNat * b.toNat / 2 ^ 64)).toNat = _
  rw [UInt64.toNat_ofNat', Nat.mod_eq_of_lt (Nat.div_lt_of_lt_mul hlt)]

/-- What is drawn is below the bound. -/
theorem drawn_lt (hn : 0 < n) (draw : UInt64) : drawn n draw < n := by
  have hpos : 0 < n.toNat := UInt64.lt_iff_toNat_lt.1 hn
  rw [UInt64.lt_iff_toNat_lt, drawn, (toNat_wideMul draw n).1]
  exact Nat.div_lt_of_lt_mul (Nat.mul_lt_mul_of_pos_right draw.toNat_lt hpos)

theorem below?_cons (n draw : UInt64) (draws : List UInt64) :
    below? n (draw :: draws) =
      if Accepts n draw then some (drawn n draw, draws) else below? n draws := rfl

/-- **The first draw that is accepted decides.** -/
theorem below?_eq_some_iff :
    below? n draws = some (r, rest) ↔
      ∃ refused draw, draws = refused ++ draw :: rest ∧ (∀ d ∈ refused, ¬ Accepts n d) ∧
        Accepts n draw ∧ drawn n draw = r := by
  constructor
  · intro h
    induction draws with
    | nil => cases h
    | cons draw draws ih =>
      rw [below?_cons] at h
      by_cases haccepts : Accepts n draw
      · rw [if_pos haccepts] at h
        cases h
        exact ⟨[], draw, rfl, nofun, haccepts, rfl⟩
      · rw [if_neg haccepts] at h
        obtain ⟨refused, decisive, rfl, hrefused, hdecisive⟩ := ih h
        exact ⟨draw :: refused, decisive, rfl,
          List.forall_mem_cons.2 ⟨haccepts, hrefused⟩, hdecisive⟩
  · rintro ⟨refused, draw, rfl, hrefused, haccepts, rfl⟩
    induction refused with
    | nil => rw [List.nil_append, below?_cons, if_pos haccepts]
    | cons d refused ih =>
      obtain ⟨hd, hrefused⟩ := List.forall_mem_cons.1 hrefused
      rw [List.cons_append, below?_cons, if_neg hd, ih hrefused]

theorem isSome_below?_iff : (below? n draws).isSome ↔ ∃ draw ∈ draws, Accepts n draw := by
  induction draws with
  | nil => exact iff_of_false nofun nofun
  | cons draw draws ih =>
    rw [below?_cons]
    simp only [List.mem_cons, exists_eq_or_imp]
    by_cases haccepts : Accepts n draw
    · rw [if_pos haccepts]
      exact iff_of_true rfl (.inl haccepts)
    · rw [if_neg haccepts, ih, or_iff_right haccepts]

/-! ## Every number can be drawn -/

/-- The low words that are accepted are as many as the largest multiple of the bound by a power of
two that fits into a word. -/
theorem toNat_zone (hn : 0 < n) :
    (zone n).toNat + 1 = n.toNat * 2 ^ (63 - n.toNat.log2) := by
  have hne : n.toNat ≠ 0 := Nat.pos_iff_ne_zero.1 (UInt64.lt_iff_toNat_lt.1 hn)
  have hlog : n.toNat.log2 < 64 := (Nat.log2_lt hne).2 n.toNat_lt
  have hlt : n.toNat * 2 ^ (63 - n.toNat.log2) < 2 ^ 64 := by
    calc n.toNat * 2 ^ (63 - n.toNat.log2)
        < 2 ^ (n.toNat.log2 + 1) * 2 ^ (63 - n.toNat.log2) :=
          Nat.mul_lt_mul_of_pos_right Nat.lt_log2_self (Nat.two_pow_pos _)
      _ = 2 ^ 64 := by rw [← Nat.pow_add]; congr 1; omega
  have hpos : 0 < n.toNat * 2 ^ (63 - n.toNat.log2) :=
    Nat.mul_pos (Nat.pos_iff_ne_zero.2 hne) (Nat.two_pow_pos _)
  have hshift : (n <<< (63 - n.toNat.log2).toUInt64).toNat = n.toNat * 2 ^ (63 - n.toNat.log2) := by
    have hamount : (63 - n.toNat.log2).toUInt64.toNat % 64 = 63 - n.toNat.log2 := by
      show (UInt64.ofNat (63 - n.toNat.log2)).toNat % 64 = _
      rw [UInt64.toNat_ofNat']
      omega
    rw [UInt64.toNat_shiftLeft, hamount, Nat.shiftLeft_eq, Nat.mod_eq_of_lt hlt]
  have hone : (1 : UInt64) ≤ n <<< (63 - n.toNat.log2).toUInt64 := by
    rw [UInt64.le_iff_toNat_le, hshift]
    exact hpos
  rw [zone, UInt64.toNat_sub_of_le _ _ hone, hshift]
  exact Nat.sub_add_cancel hpos

/-- A number is drawn by the least draw that reaches it: the low word is then below the bound. -/
theorem exists_drawn_eq (hr : r < n) : ∃ draw, Accepts n draw ∧ drawn n draw = r := by
  have hlt : r.toNat < n.toNat := UInt64.lt_iff_toNat_lt.1 hr
  have hpos : 0 < n.toNat := Nat.zero_lt_of_lt hlt
  have hn : 0 < n := UInt64.lt_iff_toNat_lt.2 hpos
  have hword := n.toNat_lt
  obtain ⟨v, hv⟩ : ∃ v, v = (r.toNat * 2 ^ 64 + (n.toNat - 1)) / n.toNat := ⟨_, rfl⟩
  -- the excess of the product over what is to be drawn
  have hdivide := Nat.div_add_mod (r.toNat * 2 ^ 64 + (n.toNat - 1)) n.toNat
  have hmod := Nat.mod_lt (r.toNat * 2 ^ 64 + (n.toNat - 1)) hpos
  rw [← hv, Nat.mul_comm] at hdivide
  have hfit : v < 2 ^ 64 := by
    rw [hv]
    apply Nat.div_lt_of_lt_mul
    have hmul : (r.toNat + 1) * 2 ^ 64 ≤ n.toNat * 2 ^ 64 := Nat.mul_le_mul_right _ hlt
    omega
  have hdraw : (UInt64.ofNat v).toNat = v := by
    rw [UInt64.toNat_ofNat', Nat.mod_eq_of_lt hfit]
  obtain ⟨hhigh, hlow⟩ := toNat_wideMul (UInt64.ofNat v) n
  rw [hdraw] at hhigh hlow
  refine ⟨.ofNat v, ?_, UInt64.toNat_inj.1 ?_⟩
  · have hzone := toNat_zone hn
    have hle : n.toNat ≤ n.toNat * 2 ^ (63 - n.toNat.log2) :=
      Nat.le_mul_of_pos_right _ (Nat.two_pow_pos _)
    rw [Accepts, UInt64.le_iff_toNat_le, hlow]
    omega
  · rw [drawn, hhigh]
    omega

/-! ## Delays -/

theorem toNat_half (n : UInt64) : (n / 2).toNat = n.toNat / 2 := UInt64.toNat_div n 2

/-- The delays for an attempt are as many as the numbers from half the ceiling up to the ceiling. -/
theorem toNat_spread (b : Backoff) (attempt : UInt32) :
    (b.spread attempt).toNat = (b.ceiling attempt).toNat - (b.ceiling attempt).toNat / 2 := by
  have hhalf := toNat_half (b.ceiling attempt)
  have hle : b.ceiling attempt / 2 ≤ b.ceiling attempt := by
    rw [UInt64.le_iff_toNat_le, hhalf]
    exact Nat.div_le_self _ _
  rw [spread, UInt64.toNat_sub_of_le _ _ hle, hhalf]

theorem spread_eq_zero_iff : b.spread attempt = 0 ↔ b.ceiling attempt = 0 := by
  rw [← UInt64.toNat_inj, ← UInt64.toNat_inj, toNat_spread]
  show _ = 0 ↔ _ = 0
  omega

/-- The delay that is picked does not need the cap. -/
theorem toNat_pick (hr : r < b.spread attempt) :
    (b.pick attempt r).toNat = (b.ceiling attempt).toNat / 2 + r.toNat := by
  have hlt : r.toNat < (b.spread attempt).toNat := UInt64.lt_iff_toNat_lt.1 hr
  rw [toNat_spread] at hlt
  have hword := (b.ceiling attempt).toNat_lt
  have hcap : (b.ceiling attempt).toNat ≤ b.cap.toNat :=
    UInt64.le_iff_toNat_le.1 (ceiling_le_cap b attempt)
  have hsum : (b.ceiling attempt / 2 + r).toNat = (b.ceiling attempt).toNat / 2 + r.toNat := by
    rw [UInt64.toNat_add, toNat_half, Nat.mod_eq_of_lt]
    omega
  have hle : b.ceiling attempt / 2 + r ≤ b.cap := by
    rw [UInt64.le_iff_toNat_le, hsum]
    omega
  rw [pick, show min (b.ceiling attempt / 2 + r) b.cap = _ from if_pos hle, hsum]

theorem delay?_of_ceiling_eq_zero (hzero : b.ceiling attempt = 0) (draws : List UInt64) :
    b.delay? attempt draws = some (0, draws) := by
  rw [delay?, if_pos (spread_eq_zero_iff.2 hzero), hzero]

theorem delay?_of_ceiling_pos (hpos : 0 < b.ceiling attempt) (draws : List UInt64) :
    b.delay? attempt draws =
      (below? (b.spread attempt) draws).map fun (r, draws) => (b.pick attempt r, draws) := by
  rw [delay?, if_neg (mt spread_eq_zero_iff.1 (UInt64.pos_iff_ne_zero.1 hpos))]

theorem spread_pos (hpos : 0 < b.ceiling attempt) : 0 < b.spread attempt :=
  UInt64.pos_iff_ne_zero.2 (mt spread_eq_zero_iff.1 (UInt64.pos_iff_ne_zero.1 hpos))

/-- **A delay lies in the upper half below the ceiling.** -/
theorem delay_lt_ceiling (hpos : 0 < b.ceiling attempt)
    (h : b.delay? attempt draws = some (delay, rest)) :
    b.ceiling attempt / 2 ≤ delay ∧ delay < b.ceiling attempt := by
  rw [delay?_of_ceiling_pos hpos] at h
  obtain ⟨⟨r, rest'⟩, hbelow, hpick⟩ := Option.map_eq_some_iff.1 h
  cases hpick
  obtain ⟨-, draw, -, -, -, rfl⟩ := below?_eq_some_iff.1 hbelow
  have hr := drawn_lt (spread_pos hpos) draw
  have hlt : (drawn (b.spread attempt) draw).toNat < (b.spread attempt).toNat :=
    UInt64.lt_iff_toNat_lt.1 hr
  rw [toNat_spread] at hlt
  rw [UInt64.le_iff_toNat_le, UInt64.lt_iff_toNat_lt, toNat_half, toNat_pick hr]
  omega

/-- **Every number there is a delay**, picked by a draw that is accepted. -/
theorem exists_delay?_eq (hle : b.ceiling attempt / 2 ≤ delay) (hlt : delay < b.ceiling attempt) :
    ∃ draw, ∀ draws, b.delay? attempt (draw :: draws) = some (delay, draws) := by
  have hnat : (b.ceiling attempt / 2).toNat ≤ delay.toNat := UInt64.le_iff_toNat_le.1 hle
  have hlt' : delay.toNat < (b.ceiling attempt).toNat := UInt64.lt_iff_toNat_lt.1 hlt
  have hpos : 0 < b.ceiling attempt := UInt64.lt_iff_toNat_lt.2 (Nat.zero_lt_of_lt hlt')
  have hsub : (delay - b.ceiling attempt / 2).toNat =
      delay.toNat - (b.ceiling attempt).toNat / 2 := by
    rw [UInt64.toNat_sub_of_le _ _ hle, toNat_half]
  have hr : delay - b.ceiling attempt / 2 < b.spread attempt := by
    rw [toNat_half] at hnat
    rw [UInt64.lt_iff_toNat_lt, hsub, toNat_spread]
    omega
  have hpick : b.pick attempt (delay - b.ceiling attempt / 2) = delay := by
    rw [toNat_half] at hnat
    rw [← UInt64.toNat_inj, toNat_pick hr, hsub]
    omega
  obtain ⟨draw, haccepts, hdrawn⟩ := exists_drawn_eq hr
  refine ⟨draw, fun draws => ?_⟩
  rw [delay?_of_ceiling_pos hpos, below?_cons, if_pos haccepts, hdrawn]
  exact congrArg (fun delay => some (delay, draws)) hpick

/-- **Delays are exact.** The ceiling is the base, doubled for each attempt, up to the cap, and
never falls from one attempt to a later one. If it is zero, there is no delay and nothing is drawn.
Otherwise there is a delay as soon as a draw is accepted. It lies in the upper half below the
ceiling and so within the cap, and every number there is a delay. -/
theorem delays_exact (b : Backoff) (attempt : UInt32) :
    let c := b.ceiling attempt
    c.toNat = min (b.base.toNat * 2 ^ attempt.toNat) b.cap.toNat ∧
    (∀ later, attempt ≤ later → c ≤ b.ceiling later) ∧
    (c = 0 → ∀ draws, b.delay? attempt draws = some (0, draws)) ∧
    (0 < c → ∀ draws,
      ((b.delay? attempt draws).isSome ↔ ∃ draw ∈ draws, Accepts (b.spread attempt) draw) ∧
      ∀ delay rest, b.delay? attempt draws = some (delay, rest) →
        c / 2 ≤ delay ∧ delay < c ∧ delay ≤ b.cap) ∧
    ∀ delay, c / 2 ≤ delay → delay < c →
      ∃ draw, ∀ draws, b.delay? attempt (draw :: draws) = some (delay, draws) := by
  intro c
  refine ⟨toNat_ceiling b attempt, fun _ => ceiling_le_ceiling, delay?_of_ceiling_eq_zero, ?_,
    fun _ => exists_delay?_eq⟩
  intro hpos draws
  refine ⟨?_, fun delay rest h => ?_⟩
  · rw [delay?_of_ceiling_pos hpos, Option.isSome_map]
    exact isSome_below?_iff
  · obtain ⟨hle, hlt⟩ := delay_lt_ceiling hpos h
    exact ⟨hle, hlt, UInt64.le_trans (UInt64.le_of_lt hlt) (ceiling_le_cap b attempt)⟩

/-- An odd ceiling, and a first draw that is refused. The second one picks 3 out of 2, 3 and 4. -/
theorem delays_exact_odd_ceiling :
    let b : Backoff := ⟨3, 5⟩
    let draws := [0xFFFFFFFFFFFFFFFF, 0x8000000000000000, 7]
    b.ceiling 1 = 5 ∧ 5 ≤ b.ceiling 0xFFFFFFFF ∧ b.delay? 1 draws = some (3, [7]) ∧
      5 / 2 ≤ (3 : UInt64) ∧ (3 : UInt64) < 5 ∧
      ∃ draw, ∀ draws, b.delay? 1 (draw :: draws) = some (4, draws) := by
  intro b draws
  obtain ⟨-, hmono, -, hdelay, hall⟩ := delays_exact b 1
  have hceiling : b.ceiling 1 = 5 := by decide +kernel
  have hpicked : b.delay? 1 draws = some (3, [7]) := by decide +kernel
  simp only [hceiling] at hmono hdelay hall
  obtain ⟨hle, hlt, -⟩ := (hdelay (by decide) draws).2 _ _ hpicked
  exact ⟨hceiling, hmono _ (by decide), hpicked, hle, hlt, hall 4 (by decide) (by decide)⟩

/-- The usual delays reach a minute with the seventh attempt and stay there. -/
example : usual.ceiling 5 = 32000 ∧ usual.ceiling 6 = 60000 ∧ usual.ceiling 200 = 60000 := by decide

end Squitter.Backoff
