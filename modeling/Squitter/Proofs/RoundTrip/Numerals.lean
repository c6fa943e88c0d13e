import Mathlib.Algebra.Group.Nat.Defs
import Squitter.Hex
import Squitter.Json.Number

/-!
# Numerals read back

What is written as bytes or in hexadecimal or decimal digits is read as what it was.

**Bytes.** A number of `n` bytes reads back modulo `256 ^ n` (`Bytes.ofLittleEndian_littleEndian`),
and none that is read is larger (`Bytes.ofBigEndian_lt`).

**Hexadecimal.** A byte string reads back whatever the case of its digits
(`Hex.decode?_of_map_digit?`), because a reading only depends on the values of the digits
(`Hex.overwrite_congr`). A number of `n` digits reads back modulo `16 ^ n` (`Hex.toInt?_ofInt`), and
none that is read is larger (`Hex.toNat_lt_of_toInt?`).

**Decimal.** A JSON number that was written as a natural below 2⁶⁴ is read as that natural, if no
digit, point or exponent follows it (`Json.readNumber?_digits_append`).
-/

namespace Squitter

/-! ## Bytes -/

namespace Bytes

theorem ofLittleEndian_littleEndian (width n : Nat) :
    ofLittleEndian (littleEndian width n) = n % 256 ^ width := by
  induction width generalizing n with
  | zero => simp [littleEndian, ofLittleEndian, Nat.mod_one]
  | succ width ih =>
    have h : n % 2 ^ 8 = n % 256 := rfl
    simp only [littleEndian, ofLittleEndian, ih, UInt8.toNat_ofNat']
    rw [h, Nat.pow_succ, Nat.mul_comm (256 ^ width), Nat.mod_mul]

theorem ofBigEndian_bigEndian (width n : Nat) :
    ofBigEndian (bigEndian width n) = n % 256 ^ width := by
  simp [ofBigEndian, bigEndian, ofLittleEndian_littleEndian]

theorem ofLittleEndian_lt (bytes : Bytes) : ofLittleEndian bytes < 256 ^ bytes.length := by
  induction bytes with
  | nil => exact Nat.one_pos
  | cons b bytes ih =>
    have hb := b.toNat_lt
    rw [ofLittleEndian, List.length_cons, Nat.pow_succ]
    omega

/-- A number of `n` bytes is below the first one with more. -/
theorem ofBigEndian_lt (bytes : Bytes) : ofBigEndian bytes < 256 ^ bytes.length := by
  have hlt := ofLittleEndian_lt bytes.reverse
  rwa [List.length_reverse] at hlt

end Bytes

/-! ## Hexadecimal digits -/

namespace Hex

theorem digit?_digit (n : UInt8) : digit? (digit n) = some (n &&& 0x0F) := by
  have h : ∀ i : Fin 256, digit? (digit (.ofFin i)) = some (.ofFin i &&& 0x0F) := by
    decide +kernel
  exact h n.toFin

theorem high_or_low (b : UInt8) : (b >>> 4 &&& 0x0F) <<< 4 ||| (b &&& 0x0F) = b := by
  have h : ∀ i : Fin 256,
      ((.ofFin i : UInt8) >>> 4 &&& 0x0F) <<< 4 ||| (.ofFin i &&& 0x0F) = .ofFin i := by
    decide +kernel
  exact h b.toFin

/-! ## Byte strings -/

@[simp] theorem encode_nil : encode [] = [] := rfl

@[simp] theorem encode_cons (b : UInt8) (data : Bytes) :
    encode (b :: data) = digit (b >>> 4) :: digit b :: encode data := rfl

@[simp] theorem length_encode (data : Bytes) : (encode data).length = 2 * data.length := by
  induction data with
  | nil => rfl
  | cons b data ih =>
    simp only [encode_cons, List.length_cons, ih]
    omega

/-- Only the values of the digits matter. -/
theorem overwrite_congr {out hex hex' : Bytes} (h : hex.map digit? = hex'.map digit?) :
    overwrite out hex = overwrite out hex' := by
  induction out generalizing hex hex' with
  | nil => simp only [overwrite]
  | cons old out ih =>
    rcases hex with _ | ⟨high, _ | ⟨low, hex⟩⟩
    · rcases hex' with _ | ⟨high', hex'⟩
      · rfl
      · cases h
    · rcases hex' with _ | ⟨high', _ | ⟨low', hex'⟩⟩
      · cases h
      · simp only [overwrite]
      · simp at h
    · rcases hex' with _ | ⟨high', _ | ⟨low', hex'⟩⟩
      · cases h
      · simp at h
      · simp only [List.map_cons, List.cons.injEq] at h
        obtain ⟨hhigh, hlow, hrest⟩ := h
        simp only [overwrite, hhigh, hlow, ih hrest]

theorem overwrite_encode {out data : Bytes} (h : out.length = data.length) :
    overwrite out (encode data) = (true, data) := by
  induction data generalizing out with
  | nil => rw [List.length_eq_zero_iff.1 h]; rfl
  | cons b data ih =>
    cases out with
    | nil => cases h
    | cons old out =>
      have hout : out.length = data.length := Nat.succ.inj h
      simp only [encode_cons, overwrite, digit?_digit, ih hout, high_or_low]

/-- A byte string reads back from digits that have the values of those it is written in. -/
theorem decode?_of_map_digit? {data hex : Bytes}
    (h : hex.map digit? = (encode data).map digit?) : decode? data.length hex = some data := by
  have hlen : hex.length = 2 * data.length := by
    have hmap := congrArg List.length h
    simpa only [List.length_map, length_encode] using hmap
  simp only [decode?, decodeInto, List.length_replicate, hlen, if_true, overwrite_congr h,
    overwrite_encode List.length_replicate]

theorem decode?_encode (data : Bytes) : decode? data.length (encode data) = some data :=
  decode?_of_map_digit? rfl

/-! ## Numbers -/

@[simp] theorem length_ofInt (value : UInt64) (n : Nat) : (ofInt value n).length = n := by
  induction n with
  | zero => rfl
  | succ n ih => simp only [ofInt, List.length_cons, ih]

theorem toNat_shiftLeft_or_digit (acc : UInt64) {d : UInt8} (hd : d.toNat < 16) :
    (acc <<< 4 ||| d.toUInt64).toNat = (acc.toNat * 16 + d.toNat) % 2 ^ 64 := by
  have hhigh : acc.toNat <<< 4 % 2 ^ 64 = (acc.toNat % 2 ^ 60) <<< 4 := by
    simp only [Nat.shiftLeft_eq]
    omega
  have hshift : (acc <<< 4).toNat = (acc.toNat % 2 ^ 60) <<< 4 := by
    rw [← hhigh, UInt64.toNat_shiftLeft]
    rfl
  rw [UInt64.toNat_or, hshift, UInt8.toNat_toUInt64, ← Nat.shiftLeft_add_eq_or_of_lt hd,
    Nat.shiftLeft_eq]
  omega

theorem toNat_digit_value (value : UInt64) {n : Nat} (hn : n < 16) :
    ((value >>> (4 * n).toUInt64).toUInt8 &&& 0x0F).toNat = value.toNat / 16 ^ n % 16 := by
  have hshift : (value >>> (4 * n).toUInt64).toNat = value.toNat / 16 ^ n := by
    rw [UInt64.toNat_shiftRight, Nat.shiftRight_eq_div_pow]
    have h4 : (4 * n).toUInt64.toNat % 64 = 4 * n := by
      rw [Nat.toUInt64_eq, UInt64.toNat_ofNat']
      omega
    rw [h4, Nat.pow_mul]
  have hlow (m : UInt8) : (m &&& 0x0F).toNat = m.toNat % 16 := by
    rw [UInt8.toNat_and]
    exact Nat.and_two_pow_sub_one_eq_mod m.toNat 4
  rw [hlow, UInt64.toNat_toUInt8, hshift]
  omega

/-- The loop over the lowest `n` digits of a number appends them to what was read before. -/
theorem foldlM_ofInt (value : UInt64) {n : Nat} (hn : n ≤ 16) (acc : UInt64) :
    (ofInt value n).foldlM (fun (acc : UInt64) c =>
        (digit? c).map fun d => (acc <<< 4) ||| d.toUInt64) acc =
      some (.ofNat (acc.toNat * 16 ^ n + value.toNat % 16 ^ n)) := by
  induction n generalizing acc with
  | zero => simp [ofInt, Nat.mod_one]
  | succ n ih =>
    have hd := toNat_digit_value value (Nat.lt_of_succ_le hn)
    have hacc := toNat_shiftLeft_or_digit acc (d := (value >>> (4 * n).toUInt64).toUInt8 &&& 0x0F)
      (by rw [hd]; exact Nat.mod_lt _ (by decide))
    simp only [ofInt, if_pos (Nat.lt_of_succ_le hn), List.foldlM_cons, digit?_digit,
      Option.map_some, Option.bind_eq_bind, Option.bind_some]
    have hmod (x p q m : Nat) : (x % m * p + q) % m = (x * p + q) % m := by
      rw [Nat.add_mod, Nat.mul_mod, Nat.mod_mod, ← Nat.mul_mod, ← Nat.add_mod]
    have hvalue : value.toNat % 16 ^ (n + 1) =
        value.toNat % 16 ^ n + 16 ^ n * (value.toNat / 16 ^ n % 16) := by
      rw [Nat.pow_succ, Nat.mod_mul]
    have hsum : (acc.toNat * 16 + value.toNat / 16 ^ n % 16) * 16 ^ n + value.toNat % 16 ^ n =
        acc.toNat * 16 ^ (n + 1) + value.toNat % 16 ^ (n + 1) := by
      rw [hvalue, Nat.pow_succ]
      grind
    rw [ih (Nat.le_of_succ_le hn), hacc, hd]
    refine congrArg some (UInt64.toNat_inj.1 ?_)
    rw [UInt64.toNat_ofNat', UInt64.toNat_ofNat', hmod, hsum]

/-- A number reads back from its lowest digits. -/
theorem toInt?_ofInt (value : UInt64) {n : Nat} (h₀ : 0 < n) (hn : n ≤ 16) :
    toInt? (ofInt value n) = some (.ofNat (value.toNat % 16 ^ n)) := by
  have hne : ¬ ((ofInt value n).isEmpty ∨ 16 < (ofInt value n).length) := by
    rw [List.isEmpty_iff_length_eq_zero, length_ofInt]
    omega
  rw [toInt?, if_neg hne, foldlM_ofInt value hn]
  simp

theorem toInt?_ofInt_of_lt {value : UInt64} {n : Nat} (h₀ : 0 < n) (hn : n ≤ 16)
    (h : value.toNat < 16 ^ n) : toInt? (ofInt value n) = some value := by
  rw [toInt?_ofInt value h₀ hn, Nat.mod_eq_of_lt h, UInt64.ofNat_toNat]

theorem digit?_lt {c d : UInt8} (h : digit? c = some d) : d.toNat < 16 := by
  have hall : ∀ i : Fin 256, ∀ d ∈ digit? (.ofFin i), d.toNat < 16 := by decide +kernel
  exact hall c.toFin d h

theorem toNat_lt_of_foldlM {hex : Bytes} {acc value : UInt64} {n : Nat} (hacc : acc.toNat < 16 ^ n)
    (hn : n + hex.length ≤ 16)
    (h : hex.foldlM (fun (acc : UInt64) c => (digit? c).map fun d => (acc <<< 4) ||| d.toUInt64) acc
      = some value) : value.toNat < 16 ^ (n + hex.length) := by
  induction hex generalizing acc n with
  | nil =>
    cases h
    exact hacc
  | cons c hex ih =>
    rw [List.foldlM_cons] at h
    obtain ⟨acc', hstep, h⟩ := Option.bind_eq_some_iff.1 h
    obtain ⟨d, hd, rfl⟩ := Option.map_eq_some_iff.1 hstep
    have hlt := digit?_lt hd
    have hnext : (acc <<< 4 ||| d.toUInt64).toNat < 16 ^ (n + 1) := by
      rw [toNat_shiftLeft_or_digit acc hlt, Nat.pow_succ]
      exact Nat.lt_of_le_of_lt (Nat.mod_le _ _) (by omega)
    rw [List.length_cons, Nat.add_comm hex.length, ← Nat.add_assoc] at hn ⊢
    exact ih hnext hn h

/-- A number of `n` digits is below the first one with more. -/
theorem toNat_lt_of_toInt? {hex : Bytes} {value : UInt64} (h : toInt? hex = some value) :
    value.toNat < 16 ^ hex.length := by
  unfold toInt? at h
  split at h
  · cases h
  · rename_i hlen
    have hzero : (0 : UInt64).toNat < 16 ^ 0 := Nat.one_pos
    have hlt := toNat_lt_of_foldlM hzero (by omega) h
    rwa [Nat.zero_add] at hlt

end Hex

/-! ## Decimal digits -/

namespace Decimal

theorem value_digit {d : Nat} (h : d < 10) : value (digit d) = d := by
  rw [value, digit, UInt8.toNat_ofNat']
  omega

theorem isDigit_digit {d : Nat} (h : d < 10) : isDigit (digit d) := by
  simp only [isDigit, digit, Bool.and_eq_true, decide_eq_true_eq, UInt8.le_iff_toNat_le,
    UInt8.toNat_ofNat', UInt8.reduceToNat]
  omega

theorem digits_of_lt {n : Nat} (h : n < 10) : digits n = [digit n] := by
  rw [digits, if_pos h]

theorem digits_of_le {n : Nat} (h : 10 ≤ n) : digits n = digits (n / 10) ++ [digit (n % 10)] := by
  rw [digits, if_neg (by omega)]

theorem digits_ne_nil (n : Nat) : digits n ≠ [] := by
  by_cases h : n < 10
  · rw [digits_of_lt h]
    exact List.cons_ne_nil _ _
  · rw [digits_of_le (by omega)]
    exact List.append_ne_nil_of_right_ne_nil _ (List.cons_ne_nil _ _)

theorem all_isDigit_digits (n : Nat) : ∀ c ∈ digits n, isDigit c := by
  induction n using Nat.strongRecOn with
  | ind n ih =>
    intro c hc
    by_cases h : n < 10
    · rw [digits_of_lt h, List.mem_singleton] at hc
      rw [hc]
      exact isDigit_digit h
    · rw [digits_of_le (by omega), List.mem_append, List.mem_singleton] at hc
      rcases hc with hc | rfl
      · exact ih (n / 10) (by omega) c hc
      · exact isDigit_digit (Nat.mod_lt _ (by decide))

theorem length_digits_le {n k : Nat} (hk : 0 < k) (h : n < 10 ^ k) : (digits n).length ≤ k := by
  induction k generalizing n with
  | zero => exact absurd hk (Nat.lt_irrefl 0)
  | succ k ih =>
    by_cases hn : n < 10
    · rw [digits_of_lt hn]
      exact hk
    · have hpos : 0 < k := by
        rcases k with _ | k
        · exact absurd h hn
        · exact Nat.succ_pos k
      have hdiv : n / 10 < 10 ^ k := by
        rw [Nat.pow_succ] at h
        omega
      rw [digits_of_le (by omega), List.length_append, List.length_singleton]
      exact Nat.succ_le_succ (ih hpos hdiv)

theorem ofDigits_append_singleton (ds : Bytes) (d : UInt8) :
    ofDigits (ds ++ [d]) = 10 * ofDigits ds + value d := by
  simp only [ofDigits, List.foldl_append, List.foldl_cons, List.foldl_nil]

theorem ofDigits_digits (n : Nat) : ofDigits (digits n) = n := by
  induction n using Nat.strongRecOn with
  | ind n ih =>
    by_cases h : n < 10
    · rw [digits_of_lt h]
      simp only [ofDigits, List.foldl_cons, List.foldl_nil, value_digit h]
      omega
    · rw [digits_of_le (by omega), ofDigits_append_singleton, ih (n / 10) (by omega),
        value_digit (Nat.mod_lt _ (by decide))]
      omega

/-- The numeral of a positive number does not begin with a zero. -/
theorem exists_digits_eq_cons {n : Nat} (h : 0 < n) : ∃ d ds, digits n = d :: ds ∧ d ≠ 0x30 := by
  induction n using Nat.strongRecOn with
  | ind n ih =>
    by_cases hn : n < 10
    · refine ⟨digit n, [], digits_of_lt hn, fun heq => ?_⟩
      have hvalue := congrArg value heq
      rw [value_digit hn] at hvalue
      exact absurd hvalue (Nat.ne_of_gt h)
    · obtain ⟨d, ds, hds, hd⟩ := ih (n / 10) (by omega) (by omega)
      exact ⟨d, ds ++ [digit (n % 10)], by rw [digits_of_le (by omega), hds]; rfl, hd⟩

end Decimal

/-! ## JSON numbers -/

namespace Json

/-- A byte that cannot belong to the number before it. -/
def Terminates (c : UInt8) : Prop :=
  ¬ Decimal.isDigit c ∧ c ≠ 0x2E ∧ c ≠ 0x65 ∧ c ≠ 0x45

variable {c : UInt8} {rest : Bytes}

theorem digits_digits_append (n : Nat) (hc : Terminates c) :
    digits (Decimal.digits n ++ c :: rest) = (Decimal.digits n, c :: rest) := by
  have hall := Decimal.all_isDigit_digits n
  simp only [digits]
  rw [List.takeWhile_append_of_pos hall, List.dropWhile_append_of_pos hall,
    List.takeWhile_cons_of_neg hc.1, List.dropWhile_cons_of_neg hc.1, List.append_nil]

theorem whole?_digits_append (n : Nat) (hc : Terminates c) :
    whole? (Decimal.digits n ++ c :: rest) = some (Decimal.digits n, c :: rest) := by
  by_cases hn : n = 0
  · subst hn
    rw [whole?, digits_digits_append 0 hc, Decimal.digits_of_lt (by decide)]
    rfl
  · obtain ⟨d, ds, hds, hd⟩ := Decimal.exists_digits_eq_cons (Nat.pos_of_ne_zero hn)
    rw [whole?, digits_digits_append n hc, hds]
    simp only [hd, false_and, if_false]

theorem fraction?_of_terminates (hc : Terminates c) :
    fraction? (c :: rest) = some (none, c :: rest) := by
  unfold fraction?
  split
  · rename_i heq
    exact absurd (List.cons.inj heq).1 hc.2.1
  · rfl

theorem exponent?_of_terminates (hc : Terminates c) :
    exponent? (c :: rest) = some (none, c :: rest) := by
  simp only [exponent?, hc.2.2.1, hc.2.2.2, or_self, if_false]

theorem sign_digits_append (n : Nat) (bytes : Bytes) :
    sign (Decimal.digits n ++ bytes) = (false, Decimal.digits n ++ bytes) := by
  cases hds : Decimal.digits n with
  | nil => exact absurd hds (Decimal.digits_ne_nil n)
  | cons d ds =>
    have hd : Decimal.isDigit d :=
      Decimal.all_isDigit_digits n d (by rw [hds]; exact List.mem_cons_self)
    unfold sign
    split
    · rename_i heq
      rw [(List.cons.inj heq).1] at hd
      cases hd
    · rfl

theorem le_foldl_digits (ds : Bytes) (n : Nat) :
    n ≤ ds.foldl (fun n d => 10 * n + Decimal.value d) n := by
  induction ds generalizing n with
  | nil => exact Nat.le_refl n
  | cons d ds ih =>
    have hle := ih (10 * n + Decimal.value d)
    rw [List.foldl_cons]
    omega

theorem absorb_of_lt {ds : Bytes} {n : Nat}
    (h : ds.foldl (fun n d => 10 * n + Decimal.value d) n < UInt64.size) :
    absorb n ds = (ds.foldl (fun n d => 10 * n + Decimal.value d) n, ds.length) := by
  induction ds generalizing n with
  | nil => rfl
  | cons d ds ih =>
    rw [List.foldl_cons] at h ⊢
    have hnext : n * 10 + Decimal.value d = 10 * n + Decimal.value d := by omega
    have hlt : 10 * n + Decimal.value d < UInt64.size := Nat.lt_of_le_of_lt (le_foldl_digits ds _) h
    simp only [absorb, hnext, if_pos hlt, ih h, List.length_cons]

theorem round53_le (n : Nat) : round53 n ≤ 2 * n + 1 := by
  have hunit : 2 ^ (n.log2 - 52) ≤ n + 1 := by
    by_cases hn : n = 0
    · subst hn; decide
    · have hpow : 2 ^ (n.log2 - 52) ≤ 2 ^ n.log2 :=
        Nat.pow_le_pow_right (by decide) (Nat.sub_le _ _)
      have hlog := Nat.log2_self_le hn
      omega
  have hdiv := Nat.div_mul_le_self n (2 ^ (n.log2 - 52))
  simp only [round53, Nat.one_shiftLeft]
  split
  · omega
  · rw [Nat.add_mul]
    omega

/-- All naturals of 64 bits are in the range of floating-point numbers. -/
theorem not_overflows {n : Nat} (h : n < UInt64.size) : overflows n 0 = false := by
  have hround := round53_le n
  have hone : round53 (Nat.pow 10 0) = 1 := rfl
  have hbound : 4 * UInt64.size < overflowBound := by decide +kernel
  have hlt : ¬ overflowBound ≤ round53 n * round53 (Nat.pow 10 0) := by
    rw [hone]
    omega
  show (n ≠ 0 && (decide (308 < 0) ||
    decide (overflowBound ≤ round53 n * round53 (Nat.pow 10 0)))) = false
  rw [decide_eq_false hlt]
  simp

/-- **A natural reads back** from its numeral. -/
theorem readNumber?_digits_append {n : Nat} (h : n < UInt64.size) (hc : Terminates c) :
    readNumber? (Decimal.digits n ++ c :: rest) = some (some (.ofNat n), c :: rest) := by
  have hn := Decimal.ofDigits_digits n
  have habsorb : absorb 0 (Decimal.digits n) = (n, (Decimal.digits n).length) := by
    have hlt : (Decimal.digits n).foldl (fun n d => 10 * n + Decimal.value d) 0 < UInt64.size := by
      show Decimal.ofDigits _ < _
      rwa [hn]
    rw [absorb_of_lt hlt]
    exact congrArg (·, _) hn
  have hrange : inRange (Decimal.digits n) [] 0 = true := by
    simp [inRange, habsorb, absorb, not_overflows h]
  simp only [readNumber?, sign_digits_append, whole?_digits_append n hc, fraction?_of_terminates hc,
    exponent?_of_terminates hc, Option.bind_eq_bind, Option.bind_some, Option.getD_none, hrange, hn]
  have hspecial : ¬ (false = true ∨ (none : Option Bytes).isSome = true ∨
      (none : Option Int).isSome = true ∨ UInt64.size ≤ n) := by
    rintro (hneg | hfraction | hexponent | hle)
    · cases hneg
    · cases hfraction
    · cases hexponent
    · exact Nat.not_le.2 h hle
  rw [if_pos trivial, if_neg hspecial]

end Json
end Squitter
