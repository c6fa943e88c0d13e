import Squitter.Hex

/-!
# Identities

Every bus and every connection has a 128-bit **identity** (`Uuid`). Its text (`text`) has the form
`8-4-4-4-12` in lower-case digits. Reading (`parse?`) takes that form in either case, also in
braces or after `urn:uuid:`, and the form without hyphens.
-/

namespace Squitter

/-- A 128-bit identity. -/
structure Uuid where
  bytes : Vector UInt8 16
deriving DecidableEq

namespace Uuid

/-- The identity of all zeros. -/
def nil : Uuid := ⟨Vector.replicate 16 0⟩

instance : Inhabited Uuid := ⟨nil⟩

/-- The identity whose bytes are given, if there are sixteen. -/
def ofBytes? (bytes : Bytes) : Option Uuid :=
  if h : bytes.length = 16 then some ⟨⟨bytes.toArray, by simpa using h⟩⟩ else none

/-- The sixteen bytes. -/
def toBytes (id : Uuid) : Bytes := id.bytes.toList

@[simp] theorem length_toBytes (id : Uuid) : id.toBytes.length = 16 := by
  simp [toBytes]

@[simp] theorem ofBytes?_toBytes (id : Uuid) : ofBytes? id.toBytes = some id := by
  simp only [ofBytes?, length_toBytes, dite_true]
  rfl

/-! ## Text -/

/-- The lower-case form of an upper-case hexadecimal digit. -/
def lowerDigit (c : UInt8) : UInt8 :=
  if 0x41 ≤ c ∧ c ≤ 0x46 then c + 0x20 else c

/-- The 36 ASCII characters of the form `8-4-4-4-12`. -/
def ascii (id : Uuid) : Bytes :=
  let ds := (Hex.encode id.toBytes).map lowerDigit
  ds.take 8 ++ 0x2D :: (ds.drop 8).take 4 ++ 0x2D :: (ds.drop 12).take 4 ++
    0x2D :: (ds.drop 16).take 4 ++ 0x2D :: ds.drop 20

/-- The text of the form `8-4-4-4-12`. -/
def text (id : Uuid) : String :=
  latin id.ascii

/-- Read 32 digits without hyphens. -/
def simple? (s : Bytes) : Option Uuid :=
  (Hex.decode? 16 s).bind ofBytes?

/-- Read the form `8-4-4-4-12`. -/
def hyphenated? (s : Bytes) : Option Uuid :=
  if s.length = 36 ∧ s[8]? = some 0x2D ∧ s[13]? = some 0x2D ∧ s[18]? = some 0x2D ∧
      s[23]? = some 0x2D then
    simple? (s.take 8 ++ (s.drop 9).take 4 ++ (s.drop 14).take 4 ++ (s.drop 19).take 4 ++
      s.drop 24)
  else none

/-- The lower-case form of an ASCII letter. -/
def lowerLetter (c : UInt8) : UInt8 :=
  if 0x41 ≤ c ∧ c ≤ 0x5A then c + 0x20 else c

/-- Read an identity in any of its forms, which their lengths tell apart. -/
def parse? (s : Bytes) : Option Uuid :=
  if s.length = 32 then simple? s
  else if s.length = 36 then hyphenated? s
  else if s.length = 38 ∧ s.head? = some 0x7B ∧ s.getLast? = some 0x7D then
    hyphenated? ((s.drop 1).take 36)
  else if s.length = 45 ∧ (s.take 9).map lowerLetter = utf8 "urn:uuid:" then
    hyphenated? (s.drop 9)
  else none

end Uuid

end Squitter
