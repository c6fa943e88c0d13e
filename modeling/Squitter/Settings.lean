import Squitter.Backoff
import Squitter.Error
import Squitter.Text.Blank

/-!
# Settings

What holds for the whole bus (`Settings`): how many buses a packet may cross, how long to wait
before trying again, and how many lookups may run at once. The hop limit can be set in the
environment.
-/

namespace Squitter

/-- Settings of a bus. -/
structure Settings where
  /-- A packet that has crossed this many buses is dropped. -/
  maxHops : UInt16
  backoff : Backoff
  resolverThreads : Nat
deriving DecidableEq

namespace Settings

/-- The settings when nothing is configured. -/
def usual : Settings := ⟨5, .usual, 4⟩

/-- Read a hop limit, a positive number of 16 bits with white space around it. -/
def maxHops? (text : String) : Option UInt16 :=
  match Decimal.read? 0xFFFF (utf8 (String.ofList (Text.trim text.toList))) with
  | some (n + 1) => some (UInt16.ofNat (n + 1))
  | _ => none

/-- The settings with the hop limit that the environment gives, if it gives one. -/
def ofEnvironment (maxHops : Option String) : Except ConfigError Settings :=
  match maxHops with
  | none => .ok usual
  | some text =>
    match maxHops? text with
    | some n => .ok { usual with maxHops := n }
    | none => .error (.badMaxHops text)

end Settings

end Squitter
