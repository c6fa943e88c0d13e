import Squitter.Shell.Basic
import Squitter.Text.Decimal

/-!
# Expanding words

When a command runs, its words become **fields**: variables and expressions are replaced by their
values, and what was not quoted is split at white space. A word that is empty and has no quotes
makes no field.
-/

namespace Squitter.Shell

/-! ## Arithmetic -/

namespace Sum

/-- The operators of each level, the ones that bind least first; a longer operator comes before one
that it begins with. -/
def operators (level : Nat) : List (String × (Int → Int → Int)) :=
  let truth (b : Bool) : Int := if b then 1 else 0
  match level with
  | 0 => [("==", fun a b => truth (a = b)), ("!=", fun a b => truth (a ≠ b)),
      ("<=", fun a b => truth (a ≤ b)), (">=", fun a b => truth (b ≤ a)),
      ("<", fun a b => truth (a < b)), (">", fun a b => truth (b < a))]
  | 1 => [("+", (· + ·)), ("-", (· - ·))]
  | _ => [("*", (· * ·)), ("/", Int.tdiv), ("%", Int.tmod)]

/-- The operator of a level at the front of a text. -/
def operator? (level : Nat) (cs : List Char) : Option ((Int → Int → Int) × List Char) :=
  (operators level).findSome? fun (text, f) =>
    if text.toList.isPrefixOf cs then some (f, cs.drop text.length) else none

/-- Drop blanks. -/
def skip (cs : List Char) : List Char := cs.dropWhile fun c => c = ' ' ∨ c = '\t'

mutual

/-- The value of an expression of a level, with the text after it. The fuel bounds its depth. -/
def expression (value : String → Int) : Nat → Nat → List Char → Int × List Char
  | 0, _, cs => (0, cs)
  | n + 1, level, cs =>
    if 3 ≤ level then operand value n (skip cs)
    else
      let (a, rest) := expression value n (level + 1) cs
      operations value n level a (skip rest)

/-- Go on with the operators of a level. -/
def operations (value : String → Int) : Nat → Nat → Int → List Char → Int × List Char
  | 0, _, a, cs => (a, cs)
  | n + 1, level, a, cs =>
    match operator? level cs with
    | none => (a, cs)
    | some (f, rest) =>
      let (b, rest) := expression value n (level + 1) rest
      operations value n level (f a b) (skip rest)

/-- The value of a number, a variable, or an expression in parentheses. -/
def operand (value : String → Int) : Nat → List Char → Int × List Char
  | 0, cs => (0, cs)
  | _ + 1, [] => (0, [])
  | n + 1, c :: cs =>
    if c = '(' then
      let (a, rest) := expression value n 0 cs
      (a, (skip rest).drop 1)
    else if c = '-' then
      let (a, rest) := operand value n (skip cs)
      (-a, rest)
    else if c = '$' then operand value n cs
    else if c.isDigit then
      let ds := (c :: cs).takeWhile Char.isDigit
      (Decimal.ofDigits (utf8 (String.ofList ds)), (c :: cs).drop ds.length)
    else if Word.startsName c then
      let name := (c :: cs).takeWhile Word.inName
      (value (String.ofList name), (c :: cs).drop name.length)
    else (0, c :: cs)

end

/-- The value of an expression. -/
def eval (value : String → Int) (text : String) : Int :=
  (expression value (8 * text.length + 8) 0 text.toList).1

end Sum

/-- A whole number as a text. -/
def integer (n : Int) : Bytes :=
  if n < 0 then 45 :: Decimal.digits n.natAbs else Decimal.digits n.natAbs

/-- The whole number that a text stands for, if it is one. -/
def integer? (bs : Bytes) : Option Int :=
  match bs with
  | 45 :: ds => (Decimal.read? (1 <<< 63) ds).map fun n => -(n : Int)
  | ds => (Decimal.read? (1 <<< 63) ds).map fun n => (n : Int)

/-! ## Fields -/

/-- White space that separates fields. -/
def separates (b : UInt8) : Bool := b = 32 ∨ b = 9 ∨ b = 10

/-- Fields that are finished, and the one that is not, if one was begun. -/
structure Fields where
  done : List Bytes
  current : Option Bytes

namespace Fields

/-- No fields. -/
def empty : Fields := ⟨[], none⟩

/-- Add to the current field. -/
def add (f : Fields) (bytes : Bytes) : Fields :=
  { f with current := some (f.current.getD [] ++ bytes) }

/-- Finish the current field. -/
def finish (f : Fields) : Fields := ⟨f.done ++ f.current.toList, none⟩

/-- Add what is split at white space. -/
def split (f : Fields) (bytes : Bytes) : Fields :=
  bytes.foldl (fun f b => if separates b then f.finish else f.add [b]) f

/-- Add a piece of a word. -/
def addPiece (value : String → Bytes) (f : Fields) (piece : Piece) : Fields :=
  let put (bytes : Bytes) (quoted : Bool) : Fields := if quoted then f.add bytes else f.split bytes
  let number (name : String) : Int := (integer? (value name)).getD 0
  match piece with
  | .char c _ => f.add (utf8 (String.ofList [c]))
  | .quotes => f.add []
  | .variable name quoted => put (value name) quoted
  | .output _ _ => f
  | .sum expression quoted => put (integer (Sum.eval number expression)) quoted
  | .value bytes quoted => put bytes quoted

end Fields

namespace Word

/-- The fields of a word. -/
def fields (value : String → Bytes) (w : Word) : List Bytes :=
  (w.foldl (Fields.addPiece value) .empty).finish.done

/-- The value of a word that is not split. -/
def joined (value : String → Bytes) (w : Word) : Bytes :=
  let whole : Piece → Piece
    | .variable name _ => .variable name true
    | .sum expression _ => .sum expression true
    | .value bytes _ => .value bytes true
    | piece => piece
  ((w.map whole).foldl (Fields.addPiece value) .empty).current.getD []

end Word

end Squitter.Shell
