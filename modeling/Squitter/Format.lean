/-!
# Wire formats

The six **formats** a stream can have. All but `stats`, which only reports counts, can be read; on
an input they are tried in the order of `readable`.
-/

namespace Squitter

/-- How packets are written on a stream. -/
inductive Format
  | airspy
  | beast
  | json
  | proto
  | raw
  | stats
deriving DecidableEq, Repr

namespace Format

/-- All formats, in their order. -/
def all : List Format := [airspy, beast, json, proto, raw, stats]

/-- The formats of inputs, in the order in which they are tried. -/
def readable : List Format := [airspy, beast, json, proto, raw]

/-- The name by which endpoints and messages refer to a format. -/
def name : Format → String
  | airspy => "airspy_adsb"
  | beast => "beast"
  | json => "json"
  | proto => "proto"
  | raw => "raw"
  | stats => "stats"

/-- The format with the given name. -/
def ofName? (text : String) : Option Format :=
  all.find? fun f => f.name = text

theorem mem_all (f : Format) : f ∈ all := by
  cases f <;> decide

end Format

end Squitter
