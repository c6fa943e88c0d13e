/-!
# Signal levels

Every format has a linear scale of its own for the received signal strength, from zero to a
**ceiling**. The bus keeps levels on a scale of 32 bits: **widening** multiplies by a whole factor,
and **narrowing** divides by it.
-/

namespace Squitter.Rssi

/-- The strongest level on the bus's scale. -/
def fullScale : UInt32 := 0xFFFFFFFF

/-- How many levels of the bus's scale make one level of a scale with the given ceiling. -/
def factor (ceiling : UInt32) : UInt32 :=
  fullScale / max ceiling 1

/-- Bring a level onto the bus's scale. -/
def widen (level ceiling : UInt32) : UInt32 :=
  level * factor ceiling

/-- Bring a level on the bus's scale to a scale with the given ceiling. -/
def narrow (level ceiling : UInt32) : UInt32 :=
  level / factor ceiling

end Squitter.Rssi
