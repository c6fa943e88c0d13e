/-!
# Backoff

A transport that failed tries again after a random delay. **The ceiling** (`ceiling`) doubles with
each attempt up to a cap, and the delay (`delay?`) lies in the upper half below the ceiling, where
a random number picks it. A number below `n` is drawn without bias (`below?`): a 64-bit draw is
multiplied by `n`, the high word is the result, and a draw with too large a low word is refused.
-/

namespace Squitter

/-- Parameters of the delays, in milliseconds. -/
structure Backoff where
  base : UInt64
  cap : UInt64
deriving DecidableEq, Repr

namespace Backoff

/-- One second, doubling up to a minute. -/
def usual : Backoff := ⟨1000, 60000⟩

/-- The largest 64-bit number. -/
def maxWord : Nat := UInt64.size - 1

/-- Upper bound of the delay for an attempt, counted from zero. Factors and products beyond 64 bits
count as the largest number of 64 bits. -/
def ceiling (b : Backoff) (attempt : UInt32) : UInt64 :=
  let factor := if attempt < 64 then 1 <<< attempt.toNat else maxWord
  UInt64.ofNat (min (min (b.base.toNat * factor) maxWord) b.cap.toNat)

/-- The largest low word with which a draw for a number below `n` is accepted. -/
def zone (n : UInt64) : UInt64 :=
  (n <<< (63 - n.toNat.log2).toUInt64) - 1

/-- High and low word of the product of two words. -/
def wideMul (a b : UInt64) : UInt64 × UInt64 :=
  let product := a.toNat * b.toNat
  (UInt64.ofNat (product / UInt64.size), UInt64.ofNat product)

/-- A number below `n` from the first acceptable draw, and the draws after it; nothing if all draws
are refused. -/
def below? (n : UInt64) : List UInt64 → Option (UInt64 × List UInt64)
  | [] => none
  | draw :: draws =>
    let (high, low) := wideMul draw n
    if low ≤ zone n then some (high, draws) else below? n draws

/-- How many delays there are for an attempt. -/
def spread (b : Backoff) (attempt : UInt32) : UInt64 :=
  b.ceiling attempt - b.ceiling attempt / 2

/-- The delay that a number below the spread picks. -/
def pick (b : Backoff) (attempt : UInt32) (r : UInt64) : UInt64 :=
  min (b.ceiling attempt / 2 + r) b.cap

/-- The delay for an attempt, and the draws that are left. Without a spread, nothing is drawn. -/
def delay? (b : Backoff) (attempt : UInt32) (draws : List UInt64) :
    Option (UInt64 × List UInt64) :=
  if b.spread attempt = 0 then some (b.ceiling attempt, draws)
  else (below? (b.spread attempt) draws).map fun (r, draws) => (b.pick attempt r, draws)

end Backoff

end Squitter
