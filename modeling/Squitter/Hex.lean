import Squitter.Bytes

/-!
# Hexadecimal text

Payloads and counters are written in hexadecimal. **Writing** (`encode`, `ofInt`) uses upper-case
digits; **reading** (`decode?`, `toInt?`) takes either case. `decodeInto` shows how far a reading
gets that meets a character which is no digit.
-/

namespace Squitter.Hex

/-! ## Digits -/

/-- The upper-case digit for the low four bits of `n`. -/
def digit (n : UInt8) : UInt8 :=
  let d := n &&& 0x0F
  if d < 10 then d + 0x30 else d + 0x37

/-- The value of a digit of either case. -/
def digit? (c : UInt8) : Option UInt8 :=
  if 0x30 ≤ c ∧ c ≤ 0x39 then some (c - 0x30)
  else if 0x61 ≤ c ∧ c ≤ 0x66 then some (c - 0x57)
  else if 0x41 ≤ c ∧ c ≤ 0x46 then some (c - 0x37)
  else none

/-! ## Byte strings -/

/-- Two digits for each byte. -/
def encode (data : Bytes) : Bytes :=
  data.flatMap fun b : UInt8 => [digit (b >>> 4), digit b]

/-- Overwrite `out` from its front with the values of pairs of digits, up to the first pair that
is not one; the flag tells whether there was none. -/
def overwrite : (out hex : Bytes) → Bool × Bytes
  | old :: out, high :: low :: hex =>
    match digit? high, digit? low with
    | some h, some l =>
      let (ok, rest) := overwrite out hex
      (ok, (h <<< 4 ||| l) :: rest)
    | _, _ => (false, old :: out)
  | out, _ => (true, out)

/-- Overwrite all of `out` from a text of exactly two digits for each byte of it. A text of another
length changes nothing; a text with a character that is no digit changes the bytes before it. -/
def decodeInto (out hex : Bytes) : Bool × Bytes :=
  if hex.length = 2 * out.length then overwrite out hex else (false, out)

/-- The `n` bytes written by exactly `2 * n` digits. -/
def decode? (n : Nat) (hex : Bytes) : Option Bytes :=
  match decodeInto (List.replicate n 0) hex with
  | (true, out) => some out
  | (false, _) => none

/-! ## Numbers -/

/-- The number written by 1 to 16 digits, the most significant first. -/
def toInt? (hex : Bytes) : Option UInt64 :=
  if hex.isEmpty ∨ 16 < hex.length then none
  else hex.foldlM (fun (acc : UInt64) c => (digit? c).map fun d => (acc <<< 4) ||| d.toUInt64) 0

/-- The `digits` lowest hexadecimal digits of `value`. -/
def ofInt (value : UInt64) : (digits : Nat) → Bytes
  | 0 => []
  | digits + 1 =>
    (if digits < 16 then digit (value >>> (4 * digits).toUInt64).toUInt8 else digit 0) ::
      ofInt value digits

end Squitter.Hex
