import Squitter.Uuid

/-!
# The identity of a bus

A bus announces its own identity and version (`Server`) to its peers, so that it can refuse a
connection that leads back to itself.
-/

namespace Squitter

/-- Identity and version of a bus. -/
structure Server where
  id : Uuid
  version : String
deriving DecidableEq

/-- The version of this bus. -/
def versionNumber : String := "0.1.0"

/-- What this bus announces as its version. -/
def Server.usualVersion : String := "adsbus/" ++ versionNumber

end Squitter
