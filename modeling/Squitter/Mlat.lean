/-!
# MLAT timestamps

A receiver stamps each frame with a counter of its own frequency and width. The bus keeps all
timestamps on one clock of 120 MHz.

**Widening** (`widen`) brings a reading onto that clock. The counter's history (`History`) holds the
last reading and the **generation**, the sum of the widths of all wraps so far: a reading below the
last one counts as a wrap. **Narrowing** (`narrow`) brings a timestamp back to a counter's range.
-/

namespace Squitter.Mlat

/-- Frequency of the bus's clock in MHz. -/
def clockMHz : UInt32 := 120

/-- Number of ticks after which timestamps on the wire start over. -/
def modulus : UInt64 := 0x7FFFFFFFFFFFFFFF

/-- What is remembered of one counter. -/
structure History where
  last : UInt64
  generation : UInt64
deriving DecidableEq, Repr

namespace History

/-- A counter that was never read. -/
def fresh : History := ⟨0, 0⟩

instance : Inhabited History := ⟨fresh⟩

end History

/-- A counter must tick, and no faster than the bus's clock. -/
def validMHz (mhz : UInt32) : Bool :=
  0 < mhz && mhz ≤ clockMHz

/-- Ticks of the bus's clock for one tick of a counter, rounded down; a frequency outside 1 to 120
counts as the nearest of these. -/
def factor (mhz : UInt32) : UInt64 :=
  (clockMHz / min (max mhz 1) clockMHz).toUInt64

/-- Bring a reading of a counter of width `width` onto the bus's clock. -/
def widen (reading width : UInt64) (mhz : UInt32) (h : History) : UInt64 × History :=
  let generation := if reading < h.last then h.generation + width else h.generation
  ((generation + reading) * factor mhz, ⟨reading, generation⟩)

/-- Bring a timestamp to the range of a counter of width `width`; width zero has no range. -/
def narrow (timestamp width : UInt64) (mhz : UInt32) : UInt64 :=
  let reading := timestamp / factor mhz
  if width = 0 then reading else reading % width

end Squitter.Mlat
