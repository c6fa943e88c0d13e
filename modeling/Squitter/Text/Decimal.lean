import Squitter.Bytes

/-!
# Decimal numerals

`digits` writes a number in decimal without leading zeros, and `read?` reads a numeral that may
carry a plus sign, up to a bound.
-/

namespace Squitter.Decimal

/-- The ASCII digit for `d`, which is below ten. -/
def digit (d : Nat) : UInt8 :=
  UInt8.ofNat (48 + d)

/-- The ASCII digits are `0` to `9`. -/
def isDigit (c : UInt8) : Bool :=
  48 ≤ c && c ≤ 57

/-- The value of an ASCII digit. -/
def value (c : UInt8) : Nat :=
  c.toNat - 48

/-- The decimal numeral of `n`. -/
def digits (n : Nat) : Bytes :=
  if n < 10 then [digit n] else digits (n / 10) ++ [digit (n % 10)]
termination_by n

/-- The decimal numeral of `n` as a text. -/
def text (n : Nat) : String :=
  latin (digits n)

/-- The number that a string of digits stands for. -/
def ofDigits (ds : Bytes) : Nat :=
  ds.foldl (fun n d => 10 * n + value d) 0

/-- The number a numeral stands for: an optional plus sign and at least one digit, with a value of
at most `bound`. -/
def read? (bound : Nat) (numeral : Bytes) : Option Nat :=
  let ds := match numeral with
    | 43 :: rest => rest
    | all => all
  if ds.isEmpty ∨ ¬ ds.all isDigit ∨ bound < ofDigits ds then none else some (ofDigits ds)

end Squitter.Decimal
