import Squitter.Error

/-!
# Network addresses

An **address** (`Address`) is the IP address of a host with a port. A host may be given in numbers:
IPv4 as four decimal numbers with dots (`Ip.v4?`) or with fewer, wider ones (`Ip.loose?`), IPv6 as
groups of hexadecimal digits with colons, of which one run of zeros may be left out and the last two
may be written as IPv4 (`Ip.v6?`). `Ip.text` writes an address in its one canonical form.

What a host stands for is not settled here but by a **name service** (`NameService`), on which the
answer to a question for addresses depends (`Query.answer`).
-/

namespace Squitter

/-- The address of a host. -/
inductive Ip
  | v4 (octets : Vector UInt8 4)
  | v6 (groups : Vector UInt16 8)
deriving DecidableEq

/-- A host and a port on it. -/
structure Address where
  ip : Ip
  port : UInt16
deriving DecidableEq

/-! ## Pieces -/

/-- The pieces of a text between the occurrences of a character. -/
def pieces (c : Char) : List Char → List (List Char)
  | [] => [[]]
  | x :: rest =>
    if x = c then [] :: pieces c rest
    else
      match pieces c rest with
      | [] => [[x]]
      | piece :: more => (x :: piece) :: more

/-- The value of a digit of either case, in a base of at most sixteen. -/
def digitValue? (base : Nat) (c : Char) : Option Nat :=
  let value :=
    if '0' ≤ c ∧ c ≤ '9' then some (c.toNat - 48)
    else if 'a' ≤ c ∧ c ≤ 'f' then some (c.toNat - 87)
    else if 'A' ≤ c ∧ c ≤ 'F' then some (c.toNat - 55)
    else none
  value.filter (· < base)

/-- The number that a nonempty string of digits stands for. -/
def number? (base : Nat) (digits : List Char) : Option Nat :=
  if digits.isEmpty then none
  else digits.foldlM (fun n c => (digitValue? base c).map (base * n + ·)) 0

namespace Ip

/-! ## Reading IPv4 -/

/-- The address with the given number. -/
def ofNumber (n : Nat) : Ip :=
  .v4 (Vector.ofFn fun i : Fin 4 => UInt8.ofNat (n >>> (8 * (3 - i.val))))

/-- A number of one byte without leading zeros. -/
def octet? (piece : List Char) : Option Nat :=
  if 3 < piece.length ∨ (1 < piece.length ∧ piece.head? = some '0') then none
  else (number? 10 piece).filter (· ≤ 255)

/-- Four bytes with dots between them, as one number. -/
def dotted? (text : List Char) : Option Nat :=
  match (pieces '.' text).mapM octet? with
  | some [a, b, c, d] => some (((a * 256 + b) * 256 + c) * 256 + d)
  | _ => none

/-- The address written as four bytes with dots. -/
def v4? (text : List Char) : Option Ip :=
  (dotted? text).map ofNumber

/-- A number in hexadecimal after `0x`, in octal after `0`, or in decimal. -/
def looseNumber? : List Char → Option Nat
  | '0' :: 'x' :: digits => number? 16 digits
  | '0' :: 'X' :: digits => number? 16 digits
  | '0' :: c :: digits => number? 8 (c :: digits)
  | digits => number? 10 digits

/-- One to four numbers, of which the last fills the bytes that the others leave. -/
def loose? (text : List Char) : Option Ip := do
  let numbers ← (pieces '.' text).mapM looseNumber?
  let last ← numbers.getLast?
  let front := numbers.dropLast
  if 3 < front.length ∨ front.any (255 < ·) ∨ 1 <<< (8 * (4 - front.length)) ≤ last then none
  else some (ofNumber (front.zipIdx.foldl (fun n (b, i) => n + b <<< (8 * (3 - i))) last))

/-! ## Reading IPv6 -/

/-- One to four hexadecimal digits. -/
def group? (piece : List Char) : Option (List Nat) :=
  if 4 < piece.length then none else (number? 16 piece).map ([·])

/-- The last piece may hold two groups as an IPv4 address. -/
def lastGroups? (piece : List Char) : Option (List Nat) :=
  match dotted? piece with
  | some n => some [n / 65536, n % 65536]
  | none => group? piece

/-- Groups with colons between them; no groups are written as nothing. -/
def groups? (last : List Char → Option (List Nat)) (text : List Char) : Option (List Nat) :=
  if text.isEmpty then some []
  else
    let ps := pieces ':' text
    do return (← ps.dropLast.mapM group?).flatten ++ (← ps.getLast?.bind last)

/-- The text before and after the first two colons in a row. -/
def gap? : List Char → Option (List Char × List Char)
  | [] => none
  | ':' :: ':' :: rest => some ([], rest)
  | c :: rest => (gap? rest).map fun (front, back) => (c :: front, back)

/-- The address of eight groups. -/
def ofGroups (groups : List Nat) : Ip :=
  .v6 (Vector.ofFn fun i : Fin 8 => UInt16.ofNat (groups.getD i.val 0))

/-- The address written as eight groups, or with two colons for at least one group of zeros. -/
def v6? (text : List Char) : Option Ip :=
  match gap? text with
  | none => do
    let groups ← groups? lastGroups? text
    if groups.length = 8 then some (ofGroups groups) else none
  | some (front, back) => do
    let front ← groups? group? front
    let back ← groups? lastGroups? back
    if 7 < front.length + back.length then none
    else some (ofGroups (front ++ List.replicate (8 - (front.length + back.length)) 0 ++ back))

/-! ## Writing -/

/-- Hexadecimal digits without leading zeros. -/
def groupText (g : UInt16) : String :=
  String.ofList (Nat.toDigits 16 g.toNat)

/-- Start and length of the first longest run of zeros. -/
def longestRun (groups : List UInt16) : Nat × Nat :=
  (List.range groups.length).foldl (fun best i =>
    let run := ((groups.drop i).takeWhile (· = 0)).length
    if best.2 < run then (i, run) else best) (0, 0)

/-- Groups with colons between them. -/
def joined (groups : List UInt16) : String :=
  String.intercalate ":" (groups.map groupText)

/-- Four bytes with dots between them. -/
def octetsText (octets : List UInt8) : String :=
  String.intercalate "." (octets.map fun b => Decimal.text b.toNat)

/-- The canonical form: two colons stand for the first longest run of at least two zeros, and an
address that stands for one of IPv4 ends in that. -/
def text : Ip → String
  | .v4 octets => octetsText octets.toList
  | .v6 groups =>
    match groups.toList with
    | [0, 0, 0, 0, 0, 0xFFFF, g, h] =>
      "::ffff:" ++ octetsText [(g >>> 8).toUInt8, g.toUInt8, (h >>> 8).toUInt8, h.toUInt8]
    | groups =>
      let (start, length) := longestRun groups
      if 1 < length then
        joined (groups.take start) ++ "::" ++ joined (groups.drop (start + length))
      else joined groups

end Ip

/-- An address with its port; an address with colons stands in brackets. -/
def Address.text (a : Address) : String :=
  let port := Decimal.text a.port.toNat
  match a.ip with
  | .v4 _ => a.ip.text ++ ":" ++ port
  | .v6 _ => "[" ++ a.ip.text ++ "]:" ++ port

/-! ## Looking up -/

/-- What the computer knows of names: the addresses of a host with a port on it. There may be none,
and who asks again may be told something else. -/
abbrev NameService := String → UInt16 → Except IoError (List Address)

/-- The answer to a question for addresses. -/
abbrev Answer := Except IoError (List Address)

/-- A question for addresses: of a host, or of this computer if there is none. A passive one is for
listening. -/
structure Query where
  host : Option String
  port : String
  passive : Bool
deriving DecidableEq

namespace Query

/-- The addresses of this computer: all interfaces for listening, and else itself, IPv6 first. -/
def ownAddresses (passive : Bool) (port : UInt16) : List Address :=
  let last := if passive then 0 else 1
  let ip := if passive then 0 else 0x7F000001
  [⟨Ip.ofGroups [0, 0, 0, 0, 0, 0, 0, last], port⟩, ⟨Ip.ofNumber ip, port⟩]

/-- The answer to a question: only a host is asked for by name, and no addresses are an error. -/
def answer (q : Query) (names : NameService) : Answer := do
  match Decimal.read? 0xFFFF (utf8 q.port) with
  | none => .error (.invalidPort q.port)
  | some n =>
    let port := UInt16.ofNat n
    let addresses ← match q.host with
      | some host => names host port
      | none => .ok (ownAddresses q.passive port)
    if addresses.isEmpty then .error .noAddresses else .ok addresses

end Query

end Squitter
