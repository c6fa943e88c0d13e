import Squitter.Text.Decimal
import Squitter.Text.Utf8

/-!
# Formatted output

`Printf.print` writes arguments under a format, in which `%` begins a directive and a backslash an
escape. The format is used again as long as arguments are left; arguments that are missing are
empty. `Printf.echo` writes arguments with blanks between them.
-/

namespace Squitter.Shell.Printf

/-! ## Escapes -/

/-- A digit below eight. -/
def isOctal (b : UInt8) : Bool := 48 ≤ b ∧ b ≤ 55

/-- The byte that octal digits stand for. -/
def ofOctal (ds : Bytes) : UInt8 := ds.foldl (fun n d => n * 8 + (d - 48)) 0

/-- The byte for a letter after a backslash. -/
def letter? (b : UInt8) : Option UInt8 :=
  match Char.ofNat b.toNat with
  | 'a' => some 7
  | 'b' => some 8
  | 'f' => some 12
  | 'n' => some 10
  | 'r' => some 13
  | 't' => some 9
  | 'v' => some 11
  | '\\' => some 92
  | _ => none

/-- The bytes for an escape without its backslash, and what follows it. -/
def escape (bs : Bytes) : Bytes × Bytes :=
  match bs with
  | [] => ([92], [])
  | b :: rest =>
    if isOctal b then
      let ds := (bs.take 3).takeWhile isOctal
      ([ofOctal ds], bs.drop ds.length)
    else
      match letter? b with
      | some x => ([x], rest)
      | none => ([92, b], rest)

/-- Replace the escapes of an argument, in which octal digits follow a zero and `\c` ends all. The
flag tells that it did not. The fuel is the number of bytes. -/
def unescape : Nat → Bytes → Bytes × Bool
  | 0, _ => ([], true)
  | _ + 1, [] => ([], true)
  | _ + 1, 92 :: 99 :: _ => ([], false)
  | n + 1, 92 :: 48 :: rest =>
    let ds := (rest.take 3).takeWhile isOctal
    let (more, goesOn) := unescape n (rest.drop ds.length)
    (ofOctal ds :: more, goesOn)
  | n + 1, 92 :: rest =>
    let (front, rest) := escape rest
    let (more, goesOn) := unescape n rest
    (front ++ more, goesOn)
  | n + 1, b :: rest =>
    let (more, goesOn) := unescape n rest
    (b :: more, goesOn)

/-- Arguments with blanks between them and a line end, unless the first one is `-n`. -/
def echo (args : List Bytes) : Bytes :=
  let (args, ending) : List Bytes × Bytes := match args with
    | [45, 110] :: rest => (rest, [])
    | args => (args, [10])
  let text : Bytes := (args.intersperse [32]).flatten
  let (out, goesOn) := unescape (text.length + 1) text
  if goesOn then out ++ ending else out

/-! ## Directives -/

/-- How an argument is written. -/
structure Directive where
  left : Bool
  zeros : Bool
  plus : Bool
  blank : Bool
  alternative : Bool
  width : Nat
  precision : Option Nat
  kind : UInt8

/-- Fill a text up to the width of a directive. -/
def pad (d : Directive) (mark body : Bytes) : Bytes :=
  let missing := d.width - (mark.length + body.length)
  if d.left then mark ++ body ++ List.replicate missing 32
  else if d.zeros then mark ++ List.replicate missing 48 ++ body
  else List.replicate missing 32 ++ mark ++ body

/-- The digits of a number in a base. -/
def digits (base : Nat) (upper : Bool) (n : Nat) : Bytes :=
  (Nat.toDigits base n).map fun c =>
    UInt8.ofNat (if upper then c.toUpper else c).toNat

/-- Read a number in the forms of the shell: decimal, octal after a zero, hexadecimal after `0x`, or
the code of a character after a quote. The flag tells that all was read. -/
def number (arg : Bytes) : Int × Bool :=
  let (negative, body) : Bool × Bytes := match arg with
    | 45 :: rest => (true, rest)
    | 43 :: rest => (false, rest)
    | rest => (false, rest)
  let signed (n : Nat) : Int := if negative then -(n : Int) else n
  let value (base : Nat) (ds : Bytes) : Int × Bool :=
    let of (b : UInt8) : Nat :=
      if Decimal.isDigit b then b.toNat - 48
      else if 97 ≤ b ∧ b ≤ 102 then b.toNat - 87
      else if 65 ≤ b ∧ b ≤ 70 then b.toNat - 55
      else base
    let good := ds.takeWhile fun b => of b < base
    (signed (good.foldl (fun n b => n * base + of b) 0), good.length = ds.length ∧ good ≠ [])
  match body with
  | 39 :: b :: _ => (b.toNat, true)
  | 34 :: b :: _ => (b.toNat, true)
  | 48 :: 120 :: rest => value 16 rest
  | 48 :: 88 :: rest => value 16 rest
  | [48] => (0, true)
  | 48 :: rest => value 8 rest
  | [] => (0, arg = [])
  | rest => value 10 rest

/-- Write a whole number. -/
def writeNumber (d : Directive) (n : Int) : Bytes :=
  let (base, upper) : Nat × Bool := match Char.ofNat d.kind.toNat with
    | 'x' => (16, false)
    | 'X' => (16, true)
    | 'o' => (8, false)
    | _ => (10, false)
  let signedKind := d.kind = 100 ∨ d.kind = 105
  let size : Nat := if n < 0 ∧ ¬ signedKind then (n + UInt64.size).toNat else n.natAbs
  let ds := digits base upper size
  let ds := match d.precision with
    | some p => List.replicate (p - ds.length) 48 ++ ds
    | none => ds
  let sign : Bytes :=
    if ¬ signedKind then
      if d.alternative ∧ base = 16 ∧ size ≠ 0 then [48, if upper then 88 else 120]
      else if d.alternative ∧ base = 8 then [48]
      else []
    else if n < 0 then [45]
    else if d.plus then [43]
    else if d.blank then [32]
    else []
  pad { d with zeros := d.zeros ∧ d.precision.isNone } sign ds

/-- What printing yields so far: output, arguments that are left, complaints, and whether it goes
on. -/
structure Progress where
  out : Bytes
  args : List Bytes
  complaints : List String
  goesOn : Bool

/-- Write the next argument. -/
def Progress.write (p : Progress) (d : Directive) : Progress :=
  let arg := p.args.headD []
  let p := { p with args := p.args.tail }
  let cut (bs : Bytes) : Bytes := match d.precision with
    | some n => bs.take n
    | none => bs
  match Char.ofNat d.kind.toNat with
  | 's' => { p with out := p.out ++ pad { d with zeros := false } [] (cut arg) }
  | 'c' => { p with out := p.out ++ pad { d with zeros := false } [] (arg.take 1) }
  | 'b' =>
    let (bs, goesOn) := unescape (arg.length + 1) arg
    { p with out := p.out ++ pad { d with zeros := false } [] (cut bs), goesOn }
  | c =>
    if "diuxXo".contains c then
      let (n, good) := number arg
      let complaint := String.ofList (Utf8.lossy arg) ++ ": expected numeric value"
      { p with
        out := p.out ++ writeNumber d n
        complaints := if good then p.complaints else p.complaints ++ [complaint] }
    else
      { p with
        complaints := p.complaints ++ ["%" ++ String.ofList [c] ++ ": invalid directive"]
        goesOn := false }

/-- Read a directive without its percent sign, with what follows it. -/
def directive (bs : Bytes) : Directive × Bytes :=
  let isFlag (b : UInt8) : Bool := "-0+ #".contains (Char.ofNat b.toNat)
  let flags := bs.takeWhile isFlag
  let rest := bs.dropWhile isFlag
  let width := rest.takeWhile Decimal.isDigit
  let rest := rest.drop width.length
  let (precision, rest) : Option Nat × Bytes := match rest with
    | 46 :: rest =>
      let ds := rest.takeWhile Decimal.isDigit
      (some (Decimal.ofDigits ds), rest.drop ds.length)
    | rest => (none, rest)
  (⟨flags.contains 45, flags.contains 48, flags.contains 43, flags.contains 32, flags.contains 35,
    Decimal.ofDigits width, precision, rest.headD 0⟩, rest.tail)

/-- Go through the format once. The fuel is the number of its bytes. -/
def pass : Nat → Bytes → Progress → Progress
  | 0, _, p => p
  | _ + 1, [], p => p
  | n + 1, 92 :: rest, p =>
    let (bs, rest) := escape rest
    pass n rest { p with out := p.out ++ bs }
  | n + 1, 37 :: 37 :: rest, p => pass n rest { p with out := p.out ++ [37] }
  | n + 1, 37 :: rest, p =>
    let (d, rest) := directive rest
    let p := p.write d
    if p.goesOn then pass n rest p else p
  | n + 1, b :: rest, p => pass n rest { p with out := p.out ++ [b] }

/-- Go through the format until no arguments are left. The fuel is one more than their number. -/
def passes (format : Bytes) : Nat → Progress → Progress
  | 0, p => p
  | n + 1, p =>
    let q := pass (format.length + 1) format p
    if q.goesOn ∧ ¬ q.args.isEmpty ∧ q.args.length < p.args.length then passes format n q else q

/-- The output for arguments under a format, and what is wrong with them. -/
def print (format : Bytes) (args : List Bytes) : Bytes × List String :=
  let p := passes format (args.length + 1) ⟨[], args, [], true⟩
  (p.out, p.complaints)

end Squitter.Shell.Printf
