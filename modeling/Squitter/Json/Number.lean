import Squitter.Text.Decimal

/-!
# JSON numbers

`readNumber?` reads a number from the front of a byte string. Of its value only this is kept: a
plain integer below 2⁶⁴ is a **natural**, and any other number is just a number. A number must not
be too large for a floating-point number of 64 bits (`overflows`): its digits are taken as a
significand of at most 64 bits, further digits only shift the exponent, and the significand, the
power of ten and their product are each rounded to 53 bits.
-/

namespace Squitter.Json

/-! ## Range -/

/-- The closest number with at most 53 significant bits; of two, the one with an even last bit. -/
def round53 (n : Nat) : Nat :=
  let shift := n.log2 - 52
  let unit := 1 <<< shift
  let q := n / unit
  let r := n % unit
  if 2 * r < unit ∨ (2 * r = unit ∧ q % 2 = 0) then q * unit else (q + 1) * unit

/-- The least number that rounds beyond the largest floating-point number of 64 bits. -/
def overflowBound : Nat := 1 <<< 1024 - 1 <<< 970

/-- The number `significand * 10 ^ exponent` has no floating-point value. -/
def overflows (significand : Nat) (exponent : Int) : Bool :=
  match exponent with
  | .ofNat e =>
    significand ≠ 0 && (308 < e || overflowBound ≤ round53 significand * round53 (Nat.pow 10 e))
  | .negSucc _ => false

/-- Append digits to a significand as long as it stays below 2⁶⁴: the new significand and the number
of digits that were appended. -/
def absorb (significand : Nat) : Bytes → Nat × Nat
  | [] => (significand, 0)
  | d :: ds =>
    let next := significand * 10 + Decimal.value d
    if next < UInt64.size then
      let (significand, n) := absorb next ds
      (significand, n + 1)
    else (significand, 0)

/-- Some floating-point number is close to the one with the given digits before and after the point
and the given exponent. -/
def inRange (whole fraction : Bytes) (exponent : Int) : Bool :=
  let (significand, n) := absorb 0 whole
  let (significand, m) := absorb significand fraction
  ¬ overflows significand (exponent + (whole.length - n : Nat) - m)

/-! ## Reading -/

/-- The digits at the front, and the bytes after them. -/
def digits (bytes : Bytes) : Bytes × Bytes :=
  (bytes.takeWhile Decimal.isDigit, bytes.dropWhile Decimal.isDigit)

/-- The digits of the whole part: a zero alone, or digits that do not begin with one. -/
def whole? (bytes : Bytes) : Option (Bytes × Bytes) :=
  match digits bytes with
  | ([], _) => none
  | (d :: ds, rest) => if d = 0x30 ∧ ds ≠ [] then none else some (d :: ds, rest)

/-- The digits after a point, if there is one. -/
def fraction? (bytes : Bytes) : Option (Option Bytes × Bytes) :=
  match bytes with
  | 0x2E :: rest =>
    match digits rest with
    | ([], _) => none
    | (ds, rest) => some (some ds, rest)
  | _ => some (none, bytes)

/-- The sign of an exponent, true for minus. -/
def exponentSign (bytes : Bytes) : Bool × Bytes :=
  match bytes with
  | 0x2B :: rest => (false, rest)
  | 0x2D :: rest => (true, rest)
  | _ => (false, bytes)

/-- The exponent after an `e`, if there is one. -/
def exponent? (bytes : Bytes) : Option (Option Int × Bytes) :=
  match bytes with
  | c :: rest =>
    if c = 0x65 ∨ c = 0x45 then
      let (negative, rest) := exponentSign rest
      match digits rest with
      | ([], _) => none
      | (ds, rest) =>
        let e : Int := Decimal.ofDigits ds
        some (some (if negative then -e else e), rest)
    else some (none, bytes)
  | [] => some (none, bytes)

/-- The sign of a number, true for minus. -/
def sign (bytes : Bytes) : Bool × Bytes :=
  match bytes with
  | 0x2D :: rest => (true, rest)
  | _ => (false, bytes)

/-- The number at the front, as a natural if it is one below 2⁶⁴, and the bytes after it. -/
def readNumber? (bytes : Bytes) : Option (Option UInt64 × Bytes) := do
  let (negative, rest) := sign bytes
  let (whole, rest) ← whole? rest
  let (fraction, rest) ← fraction? rest
  let (exponent, rest) ← exponent? rest
  if inRange whole (fraction.getD []) (exponent.getD 0) then
    let n := Decimal.ofDigits whole
    if negative ∨ fraction.isSome ∨ exponent.isSome ∨ UInt64.size ≤ n then some (none, rest)
    else some (some (UInt64.ofNat n), rest)
  else none

/-! ## Reading makes progress -/

theorem length_digits_le (bytes : Bytes) : (digits bytes).2.length ≤ bytes.length := by
  simp only [digits]
  exact (List.dropWhile_suffix _).length_le

theorem length_lt_of_whole? {bytes rest ds : Bytes} (h : whole? bytes = some (ds, rest)) :
    rest.length < bytes.length := by
  unfold whole? at h
  split at h
  · simp at h
  · rename_i d ds' rest' hd
    split at h
    · simp at h
    · obtain ⟨_, rfl⟩ := Prod.mk.inj (Option.some.inj h)
      have happ : bytes.takeWhile Decimal.isDigit ++ bytes.dropWhile Decimal.isDigit = bytes :=
        List.takeWhile_append_dropWhile
      simp only [digits, Prod.mk.injEq] at hd
      rw [hd.1, hd.2] at happ
      rw [← happ]
      simp only [List.length_append, List.length_cons]
      omega

theorem length_le_of_fraction? {bytes rest : Bytes} {ds : Option Bytes}
    (h : fraction? bytes = some (ds, rest)) : rest.length ≤ bytes.length := by
  unfold fraction? at h
  split at h
  · rename_i rest'
    split at h
    · simp at h
    · rename_i ds' r _ hd
      obtain ⟨_, rfl⟩ := Prod.mk.inj (Option.some.inj h)
      have hle := length_digits_le rest'
      rw [hd] at hle
      exact Nat.le_trans hle (Nat.le_succ _)
  · obtain ⟨_, rfl⟩ := Prod.mk.inj (Option.some.inj h)
    exact Nat.le_refl _

theorem length_exponentSign_le (bytes : Bytes) : (exponentSign bytes).2.length ≤ bytes.length := by
  unfold exponentSign
  split <;> simp

theorem length_le_of_exponent? {bytes rest : Bytes} {e : Option Int}
    (h : exponent? bytes = some (e, rest)) : rest.length ≤ bytes.length := by
  unfold exponent? at h
  split at h
  · rename_i c rest'
    split at h
    · simp only at h
      split at h
      · simp at h
      · rename_i ds r _ hd
        obtain ⟨_, rfl⟩ := Prod.mk.inj (Option.some.inj h)
        have h₁ := length_digits_le (exponentSign rest').2
        have h₂ := length_exponentSign_le rest'
        rw [hd] at h₁
        simp only [List.length_cons]
        have : r.length ≤ (exponentSign rest').2.length := h₁
        omega
    · obtain ⟨_, rfl⟩ := Prod.mk.inj (Option.some.inj h)
      exact Nat.le_refl _
  · obtain ⟨_, rfl⟩ := Prod.mk.inj (Option.some.inj h)
    exact Nat.le_refl _

theorem length_sign_le (bytes : Bytes) : (sign bytes).2.length ≤ bytes.length := by
  unfold sign
  split <;> simp

theorem length_lt_of_readNumber? {bytes rest : Bytes} {n : Option UInt64}
    (h : readNumber? bytes = some (n, rest)) : rest.length < bytes.length := by
  simp only [readNumber?, Option.bind_eq_bind, Option.bind_eq_some_iff] at h
  obtain ⟨⟨whole, r₁⟩, h₁, ⟨fraction, r₂⟩, h₂, ⟨exponent, r₃⟩, h₃, h⟩ := h
  have g₀ := length_sign_le bytes
  have g₁ := length_lt_of_whole? h₁
  have g₂ := length_le_of_fraction? h₂
  have g₃ := length_le_of_exponent? h₃
  simp only at g₂ g₃ h
  split at h
  · split at h <;>
    · obtain ⟨_, rfl⟩ := Prod.mk.inj (Option.some.inj h)
      omega
  · simp at h

end Squitter.Json
