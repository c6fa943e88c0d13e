import Mathlib.Data.Nat.GCD.Basic
import Squitter.Encoder

/-!
# Counters on the wire

Four formats carry timestamps, as readings of a **counter** (`Mlat.Counter`) of their own. In
json and proto a reading of zero is a mark for an unknown timestamp (`Counter.marks`); in
airspy_adsb and beast it is a reading like any other. `Counter.arrivals` are the timestamps that
arrive when some are written.

**What unknown timestamps do** (`Undisturbed`). They should arrive as unknown, and the others as if
the unknown ones had been left out. Where zero is a mark, this is so (`undisturbed_of_marks`). Where
it is not, it is so as long as no unknown timestamp comes after one that is read as anything but
zero (`undisturbed_of_unknownFirst`), and only then (`unknownFirst_of_undisturbed`): otherwise the
unknown one is taken for a wrap of the counter, and `n` wraps never add up to an unknown timestamp
again (`wraps_ne_zero`), for as many as could ever be counted.
-/

namespace Squitter

namespace Mlat

/-- The counter whose readings a format carries. -/
structure Counter where
  width : UInt64
  mhz : UInt32
  /-- A reading of zero says that the timestamp is unknown. -/
  marks : Bool

namespace Counter

/-- The counter of a bus. -/
def bus : Counter := ⟨modulus, clockMHz, true⟩

/-- The reading for a timestamp. -/
def reading (c : Counter) (timestamp : UInt64) : UInt64 := narrow timestamp c.width c.mhz

/-- The timestamp for a reading, and the history afterwards. -/
def receive (c : Counter) (reading : UInt64) (h : History) : UInt64 × History :=
  if c.marks ∧ reading = 0 then (0, h) else widen reading c.width c.mhz h

/-- What arrives of timestamps, one after the other. -/
def arrivals (c : Counter) (h : History) : List UInt64 → List UInt64
  | [] => []
  | t :: ts => (c.receive (c.reading t) h).1 :: c.arrivals (c.receive (c.reading t) h).2 ts

/-- No unknown timestamp comes after one that is read as anything but zero. -/
def UnknownFirst (c : Counter) (ts : List UInt64) : Prop :=
  ts.Pairwise fun t later => c.reading t ≠ 0 → later ≠ 0

end Counter

/-- Of the timestamps `ts`, those that are unknown arrive as unknown, and the others as `others`. -/
structure Undisturbed (ts arrived others : List UInt64) : Prop where
  length : arrived.length = ts.length
  unknown : ∀ x ∈ ts.zip arrived, x.1 = 0 → x.2 = 0
  known : ((ts.zip arrived).filter fun x => x.1 ≠ 0).map Prod.snd = others

end Mlat

/-- The counter of a format, if it carries timestamps. -/
def Format.counter : Format → Option Mlat.Counter
  | airspy => some ⟨Wire.Airspy.width, Wire.Airspy.sendMHz, false⟩
  | beast => some ⟨Wire.Beast.width, Wire.Beast.mhz, false⟩
  | json => some .bus
  | proto => some .bus
  | raw => none
  | stats => none

namespace Mlat

variable {c : Counter} {h : History} {t : UInt64} {ts arrived others : List UInt64}

/-! ## Adding a timestamp in front -/

theorem filter_cons_of_known (ht : t ≠ 0) (ts : List UInt64) :
    (t :: ts).filter (· ≠ 0) = t :: ts.filter (· ≠ 0) :=
  List.filter_cons_of_pos (by simpa using ht)

theorem Undisturbed.cons_unknown (hu : Undisturbed ts arrived others) :
    Undisturbed (0 :: ts) (0 :: arrived) others where
  length := congrArg Nat.succ hu.length
  unknown x hx hzero := by
    rcases List.mem_cons.1 hx with rfl | hx
    · rfl
    · exact hu.unknown x hx hzero
  known := hu.known

theorem Undisturbed.cons_known (ht : t ≠ 0) (a : UInt64) (hu : Undisturbed ts arrived others) :
    Undisturbed (t :: ts) (a :: arrived) (a :: others) where
  length := congrArg Nat.succ hu.length
  unknown x hx hzero := by
    rcases List.mem_cons.1 hx with rfl | hx
    · exact absurd hzero ht
    · exact hu.unknown x hx hzero
  known := by
    rw [List.zip_cons_cons, List.filter_cons_of_pos (by simpa using ht), List.map_cons, hu.known]

namespace Counter

theorem marks_iff {f : Format} (hf : f.counter = some c) :
    c.marks = true ↔ f = .json ∨ f = .proto := by
  cases f with
  | raw => cases hf
  | stats => cases hf
  | _ => cases hf; decide

theorem reading_zero (c : Counter) : c.reading 0 = 0 := by
  rw [reading, narrow, UInt64.zero_div]
  simp only [UInt64.zero_mod, ite_self]

theorem receive_of_unmarked (hc : c.marks = false) (w : UInt64) (h : History) :
    c.receive w h = widen w c.width c.mhz h := by
  rw [receive, hc, if_neg (by simp)]

/-! ## Zero as a mark -/

/-- **Where zero is a mark, unknown timestamps do nothing.** -/
theorem undisturbed_of_marks (hc : c.marks = true) (h : History) (ts : List UInt64) :
    Undisturbed ts (c.arrivals h ts) (c.arrivals h (ts.filter (· ≠ 0))) := by
  induction ts generalizing h with
  | nil => exact ⟨rfl, nofun, rfl⟩
  | cons t ts ih =>
    by_cases ht : t = 0
    · have hreceive : c.receive (c.reading t) h = (0, h) := by
        rw [receive, ht, reading_zero, if_pos ⟨hc, rfl⟩]
      rw [arrivals, hreceive, ht, List.filter_cons_of_neg (by simp)]
      exact (ih h).cons_unknown
    · rw [filter_cons_of_known ht]
      exact (ih _).cons_known ht _

/-! ## Zero as a reading -/

theorem undisturbed_of_known (h : History) (hts : ∀ t ∈ ts, t ≠ 0) :
    Undisturbed ts (c.arrivals h ts) (c.arrivals h (ts.filter (· ≠ 0))) := by
  induction ts generalizing h with
  | nil => exact ⟨rfl, nofun, rfl⟩
  | cons t ts ih =>
    have ht := hts t List.mem_cons_self
    rw [filter_cons_of_known ht]
    exact (ih _ fun t' ht' => hts t' (List.mem_cons_of_mem t ht')).cons_known ht _

/-- A counter that was never read, or only as zero, stays so. -/
theorem receive_zero_fresh (c : Counter) : c.receive 0 .fresh = (0, .fresh) := by
  rw [receive]
  split
  · rfl
  · show ((0 + 0) * factor c.mhz, History.fresh) = (0, .fresh)
    rw [UInt64.add_zero, UInt64.zero_mul]

theorem undisturbed_of_unknownFirst (hts : c.UnknownFirst ts) :
    Undisturbed ts (c.arrivals .fresh ts) (c.arrivals .fresh (ts.filter (· ≠ 0))) := by
  induction ts with
  | nil => exact ⟨rfl, nofun, rfl⟩
  | cons t ts ih =>
    obtain ⟨hlater, hrest⟩ := List.pairwise_cons.1 hts
    by_cases hw : c.reading t = 0
    · have hreceive : c.receive (c.reading t) .fresh = (0, .fresh) := by
        rw [hw, receive_zero_fresh]
      rw [arrivals, hreceive]
      by_cases ht : t = 0
      · rw [ht, List.filter_cons_of_neg (by simp)]
        exact (ih hrest).cons_unknown
      · rw [filter_cons_of_known ht, arrivals, hreceive]
        exact (ih hrest).cons_known ht 0
    · -- from a reading on that is not zero, all timestamps are known
      refine undisturbed_of_known .fresh fun t' ht' => ?_
      rcases List.mem_cons.1 ht' with rfl | ht'
      · exact fun hzero => hw (by rw [hzero, reading_zero])
      · exact hlater t' ht' hw

/-- After `n` wraps, and with one more at the next reading of zero if there was none yet, an unknown
timestamp does not arrive as one. -/
theorem known_of_unknown_arrivals (hc : c.marks = false)
    (hwraps : ∀ n, 0 < n → n < 2 ^ 63 → UInt64.ofNat n * c.width * factor c.mhz ≠ 0) {n : Nat}
    (hgeneration : h.generation = UInt64.ofNat n * c.width) (hread : h.last ≠ 0 ∨ 0 < n)
    (hlen : n + ts.length < 2 ^ 63)
    (hunknown : ∀ x ∈ ts.zip (c.arrivals h ts), x.1 = 0 → x.2 = 0) : ∀ t ∈ ts, t ≠ 0 := by
  induction ts generalizing h n with
  | nil => exact nofun
  | cons t ts ih =>
    rw [List.length_cons] at hlen
    obtain ⟨hhead, htail⟩ := List.forall_mem_cons.1 hunknown
    -- the reading is one more wrap, or none
    obtain ⟨m, hm, hmle, hfall⟩ : ∃ m, (c.receive (c.reading t) h).2.generation =
        UInt64.ofNat m * c.width ∧ m ≤ n + 1 ∧ (c.reading t ≠ 0 ∨ 0 < m) := by
      rw [receive_of_unmarked hc, widen]
      split
      · refine ⟨n + 1, ?_, Nat.le_refl _, .inr (Nat.succ_pos n)⟩
        show h.generation + c.width = _
        rw [hgeneration, UInt64.ofNat_add, UInt64.add_mul]
        show _ = _ + 1 * c.width
        rw [UInt64.one_mul]
      · rename_i hle
        refine ⟨n, hgeneration, Nat.le_succ n, hread.imp_left fun hlast hw => hle ?_⟩
        rw [hw]
        exact UInt64.pos_iff_ne_zero.2 hlast
    have ht : t ≠ 0 := by
      rintro rfl
      have hpos : 0 < m := hfall.resolve_left fun hne => hne c.reading_zero
      refine hwraps m hpos (by omega) ?_
      have hzero : (c.receive (c.reading 0) h).1 = 0 := hhead rfl
      rw [receive_of_unmarked hc, reading_zero] at hzero hm
      rw [← hm]
      show (_ : UInt64) * _ = 0
      rw [← UInt64.add_zero (widen 0 c.width c.mhz h).2.generation]
      exact hzero
    have hlast : (c.receive (c.reading t) h).2.last ≠ 0 ∨ 0 < m := by
      rw [receive_of_unmarked hc]
      exact hfall
    exact List.forall_mem_cons.2 ⟨ht, ih hm hlast (by omega) htail⟩

/-- **Where zero is a reading**, unknown timestamps that arrive as unknown come first. -/
theorem unknownFirst_of_undisturbed (hc : c.marks = false)
    (hwraps : ∀ n, 0 < n → n < 2 ^ 63 → UInt64.ofNat n * c.width * factor c.mhz ≠ 0)
    (hlen : ts.length < 2 ^ 63)
    (hunknown : ∀ x ∈ ts.zip (c.arrivals .fresh ts), x.1 = 0 → x.2 = 0) : c.UnknownFirst ts := by
  induction ts with
  | nil => exact .nil
  | cons t ts ih =>
    rw [List.length_cons] at hlen
    obtain ⟨-, htail⟩ := List.forall_mem_cons.1 hunknown
    by_cases hw : c.reading t = 0
    · have hreceive : c.receive (c.reading t) .fresh = (0, .fresh) := by
        rw [hw, receive_zero_fresh]
      rw [hreceive] at htail
      exact List.pairwise_cons.2 ⟨fun _ _ hne => absurd hw hne, ih (by omega) htail⟩
    · have hhistory : (c.receive (c.reading t) .fresh).2 = ⟨c.reading t, 0⟩ := by
        simp only [receive_of_unmarked hc, widen, History.fresh, UInt64.not_lt_zero, if_false]
      rw [hhistory] at htail
      have hknown : ∀ t' ∈ ts, t' ≠ 0 := by
        refine known_of_unknown_arrivals hc hwraps (n := 0) ?_ (.inl hw) (by omega) htail
        exact UInt64.zero_mul.symm
      exact List.pairwise_cons.2 ⟨fun t' ht' _ => hknown t' ht',
        List.pairwise_of_forall_mem_list fun _ _ t' ht' _ => hknown t' ht'⟩

/-! ## Wraps -/

/-- Wraps never add up to zero, if one of them is twice an odd number of ticks. -/
theorem mul_ne_zero_of_odd {width ticks : UInt64} {m : Nat}
    (hm : width.toNat * ticks.toNat = 2 * m) (hodd : Nat.Coprime 2 m) {n : Nat} (hpos : 0 < n)
    (hn : n < 2 ^ 63) : UInt64.ofNat n * width * ticks ≠ 0 := by
  intro hzero
  have hmod : n * (2 * m) % 2 ^ 64 = 0 := by
    have htoNat := congrArg UInt64.toNat hzero
    rw [UInt64.toNat_mul, UInt64.toNat_mul, UInt64.toNat_ofNat', Nat.mod_mul_mod, Nat.mul_assoc,
      Nat.mod_mul_mod, hm] at htoNat
    exact htoNat
  have hdvd : 2 ^ 63 * 2 ∣ n * m * 2 := by
    rw [Nat.mul_assoc, Nat.mul_comm m 2]
    exact Nat.dvd_of_mod_eq_zero hmod
  have hdvd' : 2 ^ 63 ∣ n :=
    (Nat.Coprime.pow_left 63 hodd).dvd_of_dvd_mul_right
      (Nat.dvd_of_mul_dvd_mul_right (by decide) hdvd)
  exact Nat.not_lt.2 (Nat.le_of_dvd hpos hdvd') hn

theorem wraps_ne_zero {f : Format} (hf : f.counter = some c) (hc : c.marks = false) (n : Nat)
    (hpos : 0 < n) (hn : n < 2 ^ 63) : UInt64.ofNat n * c.width * factor c.mhz ≠ 0 := by
  cases f with
  | airspy =>
    cases hf
    exact mul_ne_zero_of_odd (m := 0xFFFFFFFF * 3) (by decide) (by decide) hpos hn
  | beast =>
    cases hf
    exact mul_ne_zero_of_odd (m := 0xFFFFFFFFFFFF * 5) (by decide) (by decide) hpos hn
  | json =>
    cases hf
    cases hc
  | proto =>
    cases hf
    cases hc
  | raw => cases hf
  | stats => cases hf

end Counter
end Mlat
end Squitter
