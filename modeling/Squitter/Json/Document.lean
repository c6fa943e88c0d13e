import Squitter.Json.Number
import Squitter.Json.Quoted

/-!
# JSON documents

A stream of JSON documents is read one **document** (`Document`) at a time: an object or array at
the front of a byte string, after blanks. Of its members only texts and naturals keep their value
(`Item`), but all of it is checked.

The **scanner** (`Scan`) works token by token. It keeps the open brackets, of which there may be at
most `maxDepth` at once, what may come next (`Expect`), and the members of the outermost bracket.
The document ends where the last bracket closes, whatever comes after it.
-/

namespace Squitter.Json

/-! ## Members -/

/-- The value of a member, as far as it is kept. -/
inductive Item
  | text (value : String)
  | natural (value : UInt64)
  | other
deriving DecidableEq

/-- Kinds of brackets: of arrays and of objects. -/
inductive Bracket
  | square
  | curly
deriving DecidableEq

/-- An object with its keys and values in order, or an array with its values. -/
structure Document where
  bracket : Bracket
  /-- Keys and values; the keys of an array mean nothing. -/
  members : List (String × Item)
deriving DecidableEq

/-! ## Tokens -/

/-- Blanks between tokens. -/
def isBlank (c : UInt8) : Bool :=
  c = 0x20 || c = 0x0A || c = 0x0D || c = 0x09

/-- The bytes after leading blanks. -/
def skipBlanks (bytes : Bytes) : Bytes :=
  bytes.dropWhile isBlank

/-- The bytes after a word at the front. -/
def word? (w bytes : Bytes) : Option Bytes :=
  if w.isPrefixOf bytes then some (bytes.drop w.length) else none

/-- A value without brackets, and the bytes after it. -/
def scalar? (bytes : Bytes) : Option (Item × Bytes) :=
  match bytes with
  | 0x22 :: rest => (readText? rest).map fun (value, rest) => (.text value, rest)
  | 0x6E :: rest => (word? (utf8 "ull") rest).map fun rest => (.other, rest)
  | 0x74 :: rest => (word? (utf8 "rue") rest).map fun rest => (.other, rest)
  | 0x66 :: rest => (word? (utf8 "alse") rest).map fun rest => (.other, rest)
  | bytes => (readNumber? bytes).map fun (value, rest) =>
    ((value.map Item.natural).getD .other, rest)

/-! ## The scanner -/

/-- What may come next. -/
inductive Expect
  | value
  | valueOrClose
  | key
  | keyOrClose
  | colon
  | commaOrClose
deriving DecidableEq

/-- Most brackets that may be open at once. -/
def maxDepth : Nat := 127

/-- The state of the scanner between two tokens. -/
structure Scan where
  /-- Open brackets, innermost first. -/
  stack : List Bracket
  expect : Expect
  /-- The last key of the outermost bracket. -/
  key : String
  /-- The members of the outermost bracket, last first. -/
  members : List (String × Item)
deriving DecidableEq

namespace Scan

/-- The state after the opening of a document. -/
def start (b : Bracket) : Scan where
  stack := [b]
  expect := match b with
    | .square => .valueOrClose
    | .curly => .keyOrClose
  key := ""
  members := []

/-- Open a bracket. -/
def opened (s : Scan) (b : Bracket) : Option Scan :=
  if s.stack.length < maxDepth then
    some { s with stack := b :: s.stack, expect := (start b).expect }
  else none

/-- Take in a complete value. -/
def took (s : Scan) (item : Item) : Scan :=
  { s with
    expect := .commaOrClose
    members := if s.stack.length = 1 then (s.key, item) :: s.members else s.members }

/-- Take in a key. -/
def keyed (s : Scan) (key : String) : Scan :=
  { s with expect := .colon, key := if s.stack.length = 1 then key else s.key }

/-- Close the innermost bracket; what it held is a value of the one around it. -/
def closed (s : Scan) : Scan :=
  { s with stack := s.stack.tail }.took .other

/-- The bracket that a closing byte closes. -/
def closing? (c : UInt8) : Option Bracket :=
  if c = 0x5D then some .square else if c = 0x7D then some .curly else none

/-- Read a value or its opening bracket. -/
def value? (s : Scan) (bytes : Bytes) : Option (Scan × Bytes) :=
  match bytes with
  | 0x5B :: rest => (s.opened .square).map fun s => (s, rest)
  | 0x7B :: rest => (s.opened .curly).map fun s => (s, rest)
  | bytes => (scalar? bytes).map fun (item, rest) => (s.took item, rest)

/-- Read a key. -/
def key? (s : Scan) (bytes : Bytes) : Option (Scan × Bytes) :=
  match bytes with
  | 0x22 :: rest => (readText? rest).map fun (key, rest) => (s.keyed key, rest)
  | _ => none

/-- Read one token, before which there are no blanks. -/
def step (s : Scan) (bytes : Bytes) : Option (Scan × Bytes) :=
  match bytes with
  | [] => none
  | c :: rest =>
    let closes := (closing? c).isSome ∧ closing? c = s.stack.head?
    match s.expect with
    | .value => s.value? bytes
    | .valueOrClose => if closes then some (s.closed, rest) else s.value? bytes
    | .key => s.key? bytes
    | .keyOrClose => if closes then some (s.closed, rest) else s.key? bytes
    | .colon => if c = 0x3A then some ({ s with expect := .value }, rest) else none
    | .commaOrClose =>
      if closes then some (s.closed, rest)
      else if c = 0x2C then
        let expect := if s.stack.head? = some .square then .value else .key
        some ({ s with expect }, rest)
      else none

theorem length_le_of_word? {w bytes rest : Bytes} (h : word? w bytes = some rest) :
    rest.length ≤ bytes.length := by
  unfold word? at h
  split at h
  · obtain rfl := Option.some.inj h; simp
  · simp at h

theorem length_lt_of_scalar? {bytes rest : Bytes} {item : Item}
    (h : scalar? bytes = some (item, rest)) : rest.length < bytes.length := by
  unfold scalar? at h
  split at h
  · obtain ⟨⟨value, r⟩, h₁, h₂⟩ := Option.map_eq_some_iff.1 h
    obtain ⟨_, rfl⟩ := Prod.mk.inj h₂
    exact Nat.lt_succ_of_lt (length_lt_of_readText? h₁)
  iterate 3
    obtain ⟨r, h₁, h₂⟩ := Option.map_eq_some_iff.1 h
    obtain ⟨_, rfl⟩ := Prod.mk.inj h₂
    exact Nat.lt_succ_of_le (length_le_of_word? h₁)
  · obtain ⟨⟨value, r⟩, h₁, h₂⟩ := Option.map_eq_some_iff.1 h
    obtain ⟨_, rfl⟩ := Prod.mk.inj h₂
    exact length_lt_of_readNumber? h₁

theorem length_lt_of_value? {s s' : Scan} {bytes rest : Bytes}
    (h : s.value? bytes = some (s', rest)) : rest.length < bytes.length := by
  unfold value? at h
  split at h
  iterate 2
    obtain ⟨r, _, h₂⟩ := Option.map_eq_some_iff.1 h
    obtain ⟨_, rfl⟩ := Prod.mk.inj h₂
    exact Nat.lt_succ_self _
  · obtain ⟨⟨value, r⟩, h₁, h₂⟩ := Option.map_eq_some_iff.1 h
    obtain ⟨_, rfl⟩ := Prod.mk.inj h₂
    exact length_lt_of_scalar? h₁

theorem length_lt_of_key? {s s' : Scan} {bytes rest : Bytes}
    (h : s.key? bytes = some (s', rest)) : rest.length < bytes.length := by
  unfold key? at h
  split at h
  · obtain ⟨⟨value, r⟩, h₁, h₂⟩ := Option.map_eq_some_iff.1 h
    obtain ⟨_, rfl⟩ := Prod.mk.inj h₂
    exact Nat.lt_succ_of_lt (length_lt_of_readText? h₁)
  · simp at h

/-- Every token has at least one byte. -/
theorem length_lt_of_step {s s' : Scan} {bytes rest : Bytes}
    (h : s.step bytes = some (s', rest)) : rest.length < bytes.length := by
  unfold step at h
  split at h
  · simp at h
  · rename_i c rest'
    have hlt : rest'.length < (c :: rest').length := Nat.lt_succ_self _
    simp only at h
    split at h
    · exact length_lt_of_value? h
    · split at h
      · obtain ⟨_, rfl⟩ := Prod.mk.inj (Option.some.inj h); exact hlt
      · exact length_lt_of_value? h
    · exact length_lt_of_key? h
    · split at h
      · obtain ⟨_, rfl⟩ := Prod.mk.inj (Option.some.inj h); exact hlt
      · exact length_lt_of_key? h
    · split at h
      · obtain ⟨_, rfl⟩ := Prod.mk.inj (Option.some.inj h); exact hlt
      · simp at h
    · split at h
      · obtain ⟨_, rfl⟩ := Prod.mk.inj (Option.some.inj h); exact hlt
      · split at h
        · obtain ⟨_, rfl⟩ := Prod.mk.inj (Option.some.inj h); exact hlt
        · simp at h

theorem length_skipBlanks_le (bytes : Bytes) : (skipBlanks bytes).length ≤ bytes.length :=
  (List.dropWhile_suffix _).length_le

/-- Read tokens until the last bracket closes: the members, and the bytes after it. -/
def run (s : Scan) (bytes : Bytes) : Option (List (String × Item) × Bytes) :=
  match _h : s.step (skipBlanks bytes) with
  | none => none
  | some (s, rest) => if s.stack = [] then some (s.members.reverse, rest) else s.run rest
termination_by bytes.length
decreasing_by
  have h₁ := length_lt_of_step _h
  have h₂ := length_skipBlanks_le bytes
  omega

theorem length_lt_of_run {s : Scan} {bytes rest : Bytes} {members : List (String × Item)}
    (h : s.run bytes = some (members, rest)) : rest.length < bytes.length := by
  fun_induction run s bytes with
  | case1 => simp at h
  | case2 s bytes s' rest' hs _ =>
    obtain ⟨_, rfl⟩ := Prod.mk.inj (Option.some.inj h)
    exact Nat.lt_of_lt_of_le (length_lt_of_step hs) (length_skipBlanks_le bytes)
  | case3 s bytes s' rest' hs _ ih =>
    have h₁ := ih h
    have h₂ := length_lt_of_step hs
    have h₃ := length_skipBlanks_le bytes
    omega

end Scan

/-- The document at the front, after blanks, and the bytes after it. -/
def readDocument? (bytes : Bytes) : Option (Document × Bytes) :=
  match skipBlanks bytes with
  | 0x5B :: rest =>
    ((Scan.start .square).run rest).map fun (members, rest) => (⟨.square, members⟩, rest)
  | 0x7B :: rest =>
    ((Scan.start .curly).run rest).map fun (members, rest) => (⟨.curly, members⟩, rest)
  | _ => none

theorem length_lt_of_readDocument? {bytes rest : Bytes} {d : Document}
    (h : readDocument? bytes = some (d, rest)) : rest.length < bytes.length := by
  have hb := Scan.length_skipBlanks_le bytes
  unfold readDocument? at h
  split at h
  iterate 2
    rename_i rest' hd
    obtain ⟨⟨members, r⟩, h₁, h₂⟩ := Option.map_eq_some_iff.1 h
    obtain ⟨_, rfl⟩ := Prod.mk.inj h₂
    have := Scan.length_lt_of_run h₁
    rw [hd] at hb
    simp only [List.length_cons] at hb
    omega
  · simp at h

end Squitter.Json
