import Squitter.Link
import Squitter.Text.Utf8

/-!
# The proto format

Every message is a **body** after its length, in four bytes with the most significant first. A body
is a tag of four bytes and the fields in their order; numbers have the least significant byte first,
and texts and payloads follow their length in eight bytes (`readBody?`, `writeBody`). Bytes after
the last field are ignored.
-/

namespace Squitter.Wire.Proto

/-- Bytes of the length before a body. -/
def lengthBytes : Nat := 4

/-- The longest body: with its length before it, it fits into a buffer. -/
def maxBody : Nat := 1020

/-! ## Reading fields -/

/-- A reader of one field: its value and the bytes after it. -/
abbrev Reader (α : Type) := StateT Bytes Option α

/-- The next `n` bytes. -/
def take (n : Nat) : Reader Bytes :=
  fun bytes => bytes.split? n

/-- A number of `n` bytes. -/
def number (n : Nat) : Reader Nat := do
  return Bytes.ofLittleEndian (← take n)

/-- Bytes after their length. -/
def block : Reader Bytes := do
  take (← number 8)

/-- A text after its length. -/
def text : Reader String := do
  match Utf8.decode? (← block) with
  | some text => return text
  | none => failure

/-- An identity. -/
def uuid : Reader Uuid := do
  match Uuid.ofBytes? (← take 16) with
  | some id => return id
  | none => failure

/-- An announcement. -/
def announcement : Reader Announcement := do
  let magic ← text
  let version ← text
  let server ← uuid
  let mhz ← number 4
  let width ← number 8
  let ceiling ← number 4
  return { magic, version, server, mhz := .ofNat mhz, width := .ofNat width,
           ceiling := .ofNat ceiling }

/-- The report of a packet of the given kind. -/
def report (kind : Kind) : Reader (Report Bytes) := do
  let source ← uuid
  let payload ← block
  let mlat ← number 8
  let rssi ← number 4
  let hops ← number 2
  return { kind, source, payload, mlat := .ofNat mlat, rssi := .ofNat rssi, hops := .ofNat hops }

/-- A message after its tag. -/
def message : Reader (Message Bytes) := do
  match ← number 4 with
  | 0 => return .header (← announcement)
  | 1 => return .packet (← report .modeAC)
  | 2 => return .packet (← report .short)
  | 3 => return .packet (← report .long)
  | _ => failure

/-- The message in a body. -/
def readBody? (body : Bytes) : Option (Message Bytes) :=
  (message.run body).map (·.1)

/-- The message at the front, and the number of bytes it takes up. -/
def read? (data : Bytes) : Option (Message Bytes × Nat) := do
  let (front, rest) ← data.split? lengthBytes
  let n := Bytes.ofBigEndian front
  if 0 < n ∧ n ≤ maxBody then
    let (body, _) ← rest.split? n
    let message ← readBody? body
    some (message, lengthBytes + n)
  else none

/-- A message has at least one byte. -/
theorem pos_of_read? {data : Bytes} {m : Message Bytes} {n : Nat}
    (h : read? data = some (m, n)) : 0 < n := by
  simp only [read?, Option.bind_eq_bind, Option.bind_eq_some_iff] at h
  obtain ⟨_, _, h⟩ := h
  split at h
  · simp only [Option.bind_eq_some_iff] at h
    obtain ⟨_, _, _, _, h⟩ := h
    obtain ⟨_, rfl⟩ := Prod.mk.inj (Option.some.inj h)
    omega
  · simp at h

/-! ## Writing -/

/-- A block after its length. -/
def writeBlock (bytes : Bytes) : Bytes :=
  Bytes.littleEndian 8 bytes.length ++ bytes

/-- The tag of a kind. -/
def tag : Kind → Nat
  | .modeAC => 1
  | .short => 2
  | .long => 3

/-- The body of a message. Levels have four bytes. -/
def writeBody (m : Message Bytes) : Bytes :=
  match m with
  | .header a =>
    Bytes.littleEndian 4 0 ++ writeBlock (utf8 a.magic) ++ writeBlock (utf8 a.version) ++
      a.server.toBytes ++ Bytes.littleEndian 4 a.mhz.toNat ++ Bytes.littleEndian 8 a.width.toNat ++
      Bytes.littleEndian 4 a.ceiling.toNat
  | .packet r =>
    Bytes.littleEndian 4 (tag r.kind) ++ r.source.toBytes ++ writeBlock r.payload ++
      Bytes.littleEndian 8 r.mlat.toNat ++ Bytes.littleEndian 4 r.rssi.toNat ++
      Bytes.littleEndian 2 r.hops.toNat

/-- A message with its length, if it is not too long. -/
def write (m : Message Bytes) : Except Error Bytes :=
  let body := writeBody m
  if body.length ≤ maxBody then .ok (Bytes.bigEndian lengthBytes body.length ++ body)
  else .error (.codec (.messageTooLarge body.length))

end Squitter.Wire.Proto
