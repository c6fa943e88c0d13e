import Squitter.Packet
import Squitter.Wire.Line

/-!
# The raw format

A line `*` payload `;` holds nothing but the payload, in hexadecimal. The kind of the packet is the
one whose payload fits (`readKind?`, `read?`).
-/

namespace Squitter.Wire.Raw

/-- Read a line with a payload of the given kind: the payload and the length of the line. -/
def readKind? (kind : Kind) (data : Bytes) : Option (Bytes × Nat) :=
  match data with
  | c :: rest =>
    if c = asterisk then do
      let (hex, rest) ← field? (2 * kind.payloadLength) rest
      let ending ← lineEnd? rest
      let payload ← Hex.decode? kind.payloadLength hex
      some (payload, 2 * kind.payloadLength + 2 + ending)
    else none
  | [] => none

/-- Read a line of any kind: the kind, the payload and the length of the line. -/
def read? (data : Bytes) : Option (Kind × Bytes × Nat) :=
  Kind.all.findSome? fun kind => (readKind? kind data).map fun r => (kind, r)

theorem pos_of_readKind? {kind : Kind} {data payload : Bytes} {n : Nat}
    (h : readKind? kind data = some (payload, n)) : 0 < n := by
  unfold readKind? at h
  split at h
  · split at h
    · simp only [Option.bind_eq_bind, Option.bind_eq_some_iff] at h
      obtain ⟨_, _, _, _, _, _, h⟩ := h
      obtain ⟨_, rfl⟩ := Prod.mk.inj (Option.some.inj h)
      omega
    · simp at h
  · simp at h

/-- A line has at least one byte. -/
theorem pos_of_read? {data payload : Bytes} {kind : Kind} {n : Nat}
    (h : read? data = some (kind, payload, n)) : 0 < n := by
  obtain ⟨k, _, h⟩ := List.exists_of_findSome?_eq_some h
  obtain ⟨⟨_, _⟩, h₁, h₂⟩ := Option.map_eq_some_iff.1 h
  cases h₂
  exact pos_of_readKind? h₁

/-- The line for a packet. -/
def write (p : Packet) : Bytes :=
  asterisk :: Hex.encode p.content ++ [semicolon, 0x0A]

end Squitter.Wire.Raw
