import Squitter.Bytes

/-!
# Reading UTF-8

`next?` reads one character from the front of a byte string and refuses all that is not
well-formed UTF-8; `decode?` reads a whole string. `lossy` never refuses: every maximal piece that
could begin a character but is not one becomes U+FFFD.
-/

namespace Squitter.Utf8

/-! ## Strict reading -/

/-- The character at the front of a byte string, and the bytes after it. -/
def next? (bytes : Bytes) : Option (Char × Bytes) :=
  ((bytes.take 4).toByteArray.utf8DecodeChar? 0).map fun c => (c, bytes.drop c.utf8Size)

/-- A byte string that reads as one character is not empty. -/
theorem next?_nil : next? [] = none := by
  rfl

/-- Reading a character uses up at least one byte. -/
theorem length_lt_of_next? {bytes rest : Bytes} {c : Char} (h : next? bytes = some (c, rest)) :
    rest.length < bytes.length := by
  cases bytes with
  | nil => simp [next?_nil] at h
  | cons b bytes =>
    simp only [next?, Option.map_eq_some_iff, Prod.mk.injEq] at h
    obtain ⟨c', _, rfl, rfl⟩ := h
    have := c'.utf8Size_pos
    simp only [List.length_drop, List.length_cons]
    omega

/-- The text a byte string encodes, if all of it is well-formed. -/
def decode? (bytes : Bytes) : Option String :=
  String.fromUTF8? bytes.toByteArray

/-! ## Lossy reading -/

/-- The bounds on the byte after a leading byte, and how many bytes follow that leading byte. -/
def following? (lead : UInt8) : Option (UInt8 × UInt8 × Nat) :=
  if 0xC2 ≤ lead ∧ lead ≤ 0xDF then some (0x80, 0xBF, 1)
  else if lead = 0xE0 then some (0xA0, 0xBF, 2)
  else if lead = 0xED then some (0x80, 0x9F, 2)
  else if 0xE1 ≤ lead ∧ lead ≤ 0xEF then some (0x80, 0xBF, 2)
  else if lead = 0xF0 then some (0x90, 0xBF, 3)
  else if lead = 0xF4 then some (0x80, 0x8F, 3)
  else if 0xF1 ≤ lead ∧ lead ≤ 0xF3 then some (0x80, 0xBF, 3)
  else none

/-- How many bytes at the front of `bytes`, at most `n`, are continuation bytes, the first of them
between `low` and `high`. -/
def continuation (low high : UInt8) : (n : Nat) → (bytes : Bytes) → Nat
  | n + 1, b :: bytes =>
    if low ≤ b ∧ b ≤ high then continuation 0x80 0xBF n bytes + 1 else 0
  | _, _ => 0

/-- Length of the longest front of a non-empty byte string that could begin a character, and at
least one. -/
def pieceLength (lead : UInt8) (bytes : Bytes) : Nat :=
  match following? lead with
  | some (low, high, n) => 1 + continuation low high n bytes
  | none => 1

/-- The characters of a byte string, with U+FFFD for each piece that is not well-formed. -/
def lossy (bytes : Bytes) : List Char :=
  match bytes with
  | [] => []
  | lead :: rest =>
    match h : next? (lead :: rest) with
    | some (c, after) => c :: lossy after
    | none => Char.ofNat 0xFFFD :: lossy (rest.drop (pieceLength lead rest - 1))
termination_by bytes.length
decreasing_by
  · exact length_lt_of_next? h
  · simp only [List.length_drop, List.length_cons]; omega

end Squitter.Utf8
