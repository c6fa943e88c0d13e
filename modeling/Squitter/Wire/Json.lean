import Squitter.Json.Document
import Squitter.Link

/-!
# The json format

Every message is a JSON object on a line of its own. Its member `type` names the kind of message,
the others are its **fields**. A reader (`read?`) takes the members in any order and ignores
unknown ones, but no known one may occur twice; it also takes an array of the type and the fields in
their fixed order. Line ends after a message belong to it.

A payload is hexadecimal text. It is checked only once the message is otherwise complete, so
`parse` tells a message that is not there (yet) from one that breaks the protocol.
-/

namespace Squitter.Wire.Json

open Squitter.Json

/-! ## Fields -/

/-- How the fields of a message are found: by the keys of an object, or by their place. -/
inductive Fields
  | keyed (members : List (String × Item))
  | placed (items : List Item)

namespace Fields

/-- The value of a field: refused (`none`) if it occurs twice, else there or not. -/
def find? (fields : Fields) (place : Nat) (key : String) : Option (Option Item) :=
  match fields with
  | keyed members =>
    match members.filter fun m => m.1 = key with
    | [] => some none
    | [m] => some (some m.2)
    | _ => none
  | placed items => some items[place]?

/-- At most `n` fields are there by their place. -/
def atMost (fields : Fields) (n : Nat) : Bool :=
  match fields with
  | keyed _ => true
  | placed items => items.length ≤ n

/-- A field that must be a text. -/
def text? (fields : Fields) (place : Nat) (key : String) : Option String := do
  match ← fields.find? place key with
  | some (.text value) => some value
  | _ => none

/-- A field that must be an identity. -/
def uuid? (fields : Fields) (place : Nat) (key : String) : Option Uuid := do
  Uuid.parse? (utf8 (← fields.text? place key))

/-- A field that must be a natural. -/
def natural? (fields : Fields) (place : Nat) (key : String) : Option UInt64 := do
  match ← fields.find? place key with
  | some (.natural value) => some value
  | _ => none

/-- A field that is a natural, or zero if it is not there. -/
def naturalOrZero? (fields : Fields) (place : Nat) (key : String) : Option UInt64 := do
  match ← fields.find? place key with
  | none => some 0
  | some (.natural value) => some value
  | _ => none

end Fields

/-! ## Reading -/

/-- The type and the fields of a document. -/
def typed? (d : Document) : Option (String × Fields) :=
  match d.bracket with
  | .curly =>
    match d.members.filter fun m => m.1 = "type" with
    | [(_, .text tag)] => some (tag, .keyed (d.members.filter fun m => m.1 ≠ "type"))
    | _ => none
  | .square =>
    match d.members with
    | (_, .text tag) :: rest => some (tag, .placed (rest.map (·.2)))
    | _ => none

/-- A number of 32 bits; a larger one counts as zero, which no announcement may hold. -/
def clip32 (n : UInt64) : UInt32 :=
  if n ≤ 0xFFFFFFFF then n.toUInt32 else 0

/-- The announcement with the given fields. -/
def announcement? (f : Fields) : Option Announcement := do
  if f.atMost 6 then
    let magic ← f.text? 0 "magic"
    let version ← f.text? 1 "server_version"
    let server ← f.uuid? 2 "server_id"
    let mhz ← f.natural? 3 "mlat_timestamp_mhz"
    let width ← f.natural? 4 "mlat_timestamp_max"
    let ceiling ← f.natural? 5 "rssi_max"
    some { magic, version, server, mhz := clip32 mhz, width, ceiling := clip32 ceiling }
  else none

/-- The report of a packet of the given kind with the given fields. -/
def report? (kind : Kind) (f : Fields) : Option (Report String) := do
  if f.atMost 5 then
    let source ← f.uuid? 0 "source_id"
    let payload ← f.text? 1 "payload"
    let mlat ← f.naturalOrZero? 2 "mlat_timestamp"
    let rssi ← f.naturalOrZero? 3 "rssi"
    let hops ← f.naturalOrZero? 4 "hops"
    if hops ≤ 0xFFFF then
      some { kind, source, payload, mlat, rssi, hops := hops.toUInt16 }
    else none
  else none

/-- The message that a document stands for. -/
def message? (d : Document) : Option (Message String) := do
  let (tag, fields) ← typed? d
  if tag = "header" then (announcement? fields).map .header
  else
    let kind ← Kind.ofName? tag
    (report? kind fields).map .packet

/-- Bytes of line ends. -/
def isLineEnd (c : UInt8) : Bool :=
  c = 0x0D || c = 0x0A

/-- The message at the front, and the number of bytes it takes up with the line ends after it. -/
def read? (data : Bytes) : Option (Message String × Nat) := do
  let (document, rest) ← readDocument? data
  let message ← message? document
  some (message, data.length - (rest.dropWhile isLineEnd).length)

/-- A message has at least one byte. -/
theorem pos_of_read? {data : Bytes} {m : Message String} {n : Nat}
    (h : read? data = some (m, n)) : 0 < n := by
  simp only [read?, Option.bind_eq_bind, Option.bind_eq_some_iff] at h
  obtain ⟨⟨d, rest⟩, hd, _, _, h⟩ := h
  obtain ⟨_, rfl⟩ := Prod.mk.inj (Option.some.inj h)
  have h₁ := length_lt_of_readDocument? hd
  have h₂ : (rest.dropWhile isLineEnd).length ≤ rest.length :=
    (List.dropWhile_suffix _).length_le
  dsimp only
  omega

/-- Read the payload of a report. -/
def payload (r : Report String) : Except Error (Report Bytes) :=
  match Hex.decode? r.kind.payloadLength (utf8 r.payload) with
  | some payload => .ok { r with payload }
  | none => .error (.invalidHex r.payload)

/-- Read the payload of a message. -/
def decoded (m : Message String) : Except Error (Message Bytes) :=
  match m with
  | .header a => .ok (.header a)
  | .packet r => (payload r).map .packet

/-! ## Writing -/

/-- A member of an object. -/
def member (key : String) (value : Bytes) : Bytes :=
  quote key ++ 0x3A :: value

/-- A member with a number. -/
def number (key : String) (n : Nat) : Bytes :=
  member key (Decimal.digits n)

/-- A member with a number, unless it is zero. -/
def numberUnlessZero (key : String) (n : Nat) : List Bytes :=
  if n = 0 then [] else [number key n]

/-- An object on a line of its own. -/
def line (members : List Bytes) : Bytes :=
  0x7B :: List.intercalate [0x2C] members ++ [0x7D, 0x0A]

/-- The members of an announcement. -/
def announcementMembers (a : Announcement) : List Bytes :=
  [member "type" (quote "header"), member "magic" (quote a.magic),
    member "server_version" (quote a.version), member "server_id" (quote a.server.text),
    number "mlat_timestamp_mhz" a.mhz.toNat, number "mlat_timestamp_max" a.width.toNat,
    number "rssi_max" a.ceiling.toNat]

/-- The members of a report. -/
def reportMembers (r : Report Bytes) : List Bytes :=
  [member "type" (quote r.kind.name), member "source_id" (quote r.source.text),
    member "payload" (0x22 :: Hex.encode r.payload ++ [0x22])] ++
    numberUnlessZero "mlat_timestamp" r.mlat.toNat ++ numberUnlessZero "rssi" r.rssi.toNat ++
    numberUnlessZero "hops" r.hops.toNat

/-- The line for a message. -/
def write (m : Message Bytes) : Bytes :=
  match m with
  | .header a => line (announcementMembers a)
  | .packet r => line (reportMembers r)

end Squitter.Wire.Json
