import Squitter.Text.Utf8

/-!
# JSON strings

`quote` writes a text as a JSON string, escaping what JSON requires and nothing else. `readText?`
reads the rest of a string after its opening quotation mark; control characters must be escaped,
the bytes must be UTF-8, and escaped surrogates must come in pairs.
-/

namespace Squitter.Json

/-! ## Writing -/

/-- The lower-case hexadecimal digit for a number below sixteen. -/
def hexDigit (n : Nat) : UInt8 :=
  UInt8.ofNat (if n < 10 then 48 + n else 87 + n)

/-- How a character is written in a string. -/
def quoteChar (c : Char) : Bytes :=
  match c with
  | '"' => [0x5C, 0x22]
  | '\\' => [0x5C, 0x5C]
  | '\x08' => [0x5C, 0x62]
  | '\x0c' => [0x5C, 0x66]
  | '\n' => [0x5C, 0x6E]
  | '\r' => [0x5C, 0x72]
  | '\t' => [0x5C, 0x74]
  | c =>
    if c.toNat < 0x20 then
      [0x5C, 0x75, 0x30, 0x30, hexDigit (c.toNat / 16), hexDigit (c.toNat % 16)]
    else String.utf8EncodeChar c

/-- A text as a JSON string. -/
def quote (text : String) : Bytes :=
  0x22 :: text.toList.flatMap quoteChar ++ [0x22]

/-! ## Reading -/

/-- The value of a hexadecimal digit. -/
def hexValue? (c : UInt8) : Option Nat :=
  if 0x30 ≤ c ∧ c ≤ 0x39 then some (c.toNat - 0x30)
  else if 0x61 ≤ c ∧ c ≤ 0x66 then some (c.toNat - 0x57)
  else if 0x41 ≤ c ∧ c ≤ 0x46 then some (c.toNat - 0x37)
  else none

/-- The UTF-16 unit written by four hexadecimal digits. -/
def unit? (a b c d : UInt8) : Option Nat := do
  some (((← hexValue? a) * 16 + (← hexValue? b)) * 256 + (← hexValue? c) * 16 + (← hexValue? d))

/-- The character for a UTF-16 unit that is no surrogate. -/
def ofUnit? (n : Nat) : Option Char :=
  if h : n.isValidChar then some (Char.ofNatAux n h) else none

/-- The character for a pair of surrogates. -/
def ofPair? (high low : Nat) : Option Char :=
  if 0xD800 ≤ high ∧ high ≤ 0xDBFF ∧ 0xDC00 ≤ low ∧ low ≤ 0xDFFF then
    ofUnit? (0x10000 + (high - 0xD800) * 0x400 + (low - 0xDC00))
  else none

/-- The character after a backslash, and the bytes after it. -/
def escaped? : Bytes → Option (Char × Bytes)
  | 0x22 :: rest => some ('"', rest)
  | 0x5C :: rest => some ('\\', rest)
  | 0x2F :: rest => some ('/', rest)
  | 0x62 :: rest => some ('\x08', rest)
  | 0x66 :: rest => some ('\x0c', rest)
  | 0x6E :: rest => some ('\n', rest)
  | 0x72 :: rest => some ('\r', rest)
  | 0x74 :: rest => some ('\t', rest)
  | 0x75 :: a :: b :: c :: d :: rest => do
    let n ← unit? a b c d
    match ofUnit? n with
    | some c => some (c, rest)
    | none =>
      match rest with
      | 0x5C :: 0x75 :: a :: b :: c :: d :: rest =>
        some (← ofPair? n (← unit? a b c d), rest)
      | _ => none
  | _ => none

/-- The next character of a string, and the bytes after it. -/
def char? : Bytes → Option (Char × Bytes)
  | [] => none
  | 0x5C :: rest => escaped? rest
  | c :: rest => if c < 0x20 then none else Utf8.next? (c :: rest)

theorem length_lt_of_escaped? {bytes rest : Bytes} {c : Char}
    (h : escaped? bytes = some (c, rest)) : rest.length < bytes.length := by
  unfold escaped? at h
  split at h
  all_goals try (obtain ⟨_, rfl⟩ := Prod.mk.inj (Option.some.inj h); simp)
  · simp only [Option.bind_eq_bind, Option.bind_eq_some_iff] at h
    obtain ⟨n, _, h⟩ := h
    split at h
    · obtain ⟨_, rfl⟩ := Prod.mk.inj (Option.some.inj h); simp; omega
    · split at h
      · simp only [Option.bind_eq_some_iff] at h
        obtain ⟨_, _, _, _, h⟩ := h
        obtain ⟨_, rfl⟩ := Prod.mk.inj (Option.some.inj h); simp; omega
      · simp at h
  · simp at h

theorem length_lt_of_char? {bytes rest : Bytes} {c : Char} (h : char? bytes = some (c, rest)) :
    rest.length < bytes.length := by
  unfold char? at h
  split at h
  · simp at h
  · have := length_lt_of_escaped? h
    simp only [List.length_cons]; omega
  · split at h
    · simp at h
    · exact Utf8.length_lt_of_next? h

/-- The characters up to the closing quotation mark, and the bytes after it. -/
def readChars? (bytes : Bytes) : Option (List Char × Bytes) :=
  match bytes with
  | 0x22 :: rest => some ([], rest)
  | bytes =>
    match _h : char? bytes with
    | none => none
    | some (c, rest) =>
      (readChars? rest).map fun (cs, rest) => (c :: cs, rest)
termination_by bytes.length
decreasing_by exact length_lt_of_char? _h

/-- The text up to the closing quotation mark, and the bytes after it. -/
def readText? (bytes : Bytes) : Option (String × Bytes) :=
  (readChars? bytes).map fun (cs, rest) => (String.ofList cs, rest)

theorem length_lt_of_readChars? {bytes rest : Bytes} {cs : List Char}
    (h : readChars? bytes = some (cs, rest)) : rest.length < bytes.length := by
  fun_induction readChars? bytes generalizing cs rest with
  | case1 rest' => obtain ⟨_, rfl⟩ := Prod.mk.inj (Option.some.inj h); simp
  | case2 => simp at h
  | case3 bytes _ c rest' hc ih =>
    obtain ⟨⟨cs', rest''⟩, h₁, h₂⟩ := Option.map_eq_some_iff.1 h
    obtain ⟨_, rfl⟩ := Prod.mk.inj h₂
    have := length_lt_of_char? hc
    have := ih h₁
    omega

theorem length_lt_of_readText? {bytes rest : Bytes} {text : String}
    (h : readText? bytes = some (text, rest)) : rest.length < bytes.length := by
  obtain ⟨⟨cs, rest'⟩, h₁, h₂⟩ := Option.map_eq_some_iff.1 h
  obtain ⟨_, rfl⟩ := Prod.mk.inj h₂
  exact length_lt_of_readChars? h₁

end Squitter.Json
