import Squitter.Text.Blank
import Squitter.Text.Utf8

/-!
# Lines that arrive in pieces

Messages of a child arrive in pieces that may end anywhere. `Lines.take` splits the complete lines
off and keeps the rest for later. A rest that grows too long is a line as well, and so is the last
rest.
-/

namespace Squitter.Lines

/-- An unfinished line of this length is not kept. -/
def limit : Nat := 4096

/-- The complete lines of some bytes, without their line ends, and the rest. -/
def split : Bytes → List Bytes × Bytes
  | [] => ([], [])
  | b :: bytes =>
    match split bytes with
    | (lines, rest) =>
      if b = 10 then ([] :: lines, rest)
      else
        match lines with
        | [] => ([], b :: rest)
        | line :: lines => ((b :: line) :: lines, rest)

/-- The text of a line, with what is no text replaced and white space at its end dropped. -/
def text (line : Bytes) : String :=
  String.ofList (Text.trimRight (Utf8.lossy line))

/-- The lines of some bytes and what is kept for later; the flag says that nothing more comes. -/
def take (bytes : Bytes) (last : Bool) : List String × Bytes :=
  let (lines, rest) := split bytes
  if (last ∧ rest ≠ []) ∨ limit ≤ rest.length then ((lines ++ [rest]).map text, [])
  else (lines.map text, rest)

end Squitter.Lines
