import Squitter.Wire.Json

/-!
# The stats format

A stats stream holds no packets but reports of how many there were. A **tally** (`Tally`) counts the
packets of each kind; every thousandth packet brings a report, and so does the start of a stream.
-/

namespace Squitter.Wire.Stats

/-- Packets between two reports. -/
def interval : Nat := 1000

/-- Packets seen so far, in total and by kind. No stream lasts long enough to exhaust 64 bits, so
the counts are not bounded. -/
structure Tally where
  total : Nat
  modeAC : Nat
  short : Nat
  long : Nat
  total_eq : total = modeAC + short + long
deriving DecidableEq

namespace Tally

/-- No packets yet. -/
def zero : Tally := ⟨0, 0, 0, 0, rfl⟩

/-- Packets of a kind. -/
def count (t : Tally) : Kind → Nat
  | .modeAC => t.modeAC
  | .short => t.short
  | .long => t.long

/-- Count one packet. -/
def add (t : Tally) (kind : Kind) : Tally where
  total := t.total + 1
  modeAC := t.modeAC + if kind = .modeAC then 1 else 0
  short := t.short + if kind = .short then 1 else 0
  long := t.long + if kind = .long then 1 else 0
  total_eq := by
    rw [t.total_eq]
    cases kind <;> simp <;> omega

/-- The report of a tally after `uptime` seconds, with the kinds in the order of their names. -/
def report (t : Tally) (uptime : Nat) : Bytes :=
  Json.line [Json.number "uptime_seconds" uptime,
    Json.member "packet_counts"
      (0x7B :: List.intercalate [0x2C]
        ([Kind.modeAC, .long, .short].map fun k => Json.number k.name (t.count k)) ++ [0x7D])]

/-- Count one packet; the output is a report if it completes an interval. -/
def record (t : Tally) (uptime : Nat) (kind : Kind) : Bytes × Tally :=
  let t := t.add kind
  (if t.total % interval = 0 then t.report uptime else [], t)

@[simp] theorem count_zero (k : Kind) : zero.count k = 0 := by
  cases k <;> rfl

@[simp] theorem count_add (t : Tally) (k k' : Kind) :
    (t.add k).count k' = t.count k' + if k = k' then 1 else 0 := by
  cases k <;> cases k' <;> rfl

@[simp] theorem total_add (t : Tally) (k : Kind) : (t.add k).total = t.total + 1 := rfl

end Tally

end Squitter.Wire.Stats
