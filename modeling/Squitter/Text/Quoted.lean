import Squitter.Text.Printable

/-!
# Quoted text

Messages show foreign text between double quotes (`quote`), so that blanks, control characters and
characters that do not show by themselves can be seen.
-/

namespace Squitter.Text

/-- The lower-case hexadecimal digits of `n` without leading zeros. -/
def hexDigits (n : Nat) : List Char :=
  Nat.toDigits 16 n

/-- How a character is written between quotes. -/
def quoteChar (c : Char) : List Char :=
  match c with
  | '"' => ['\\', '"']
  | '\\' => ['\\', '\\']
  | '\n' => ['\\', 'n']
  | '\r' => ['\\', 'r']
  | '\t' => ['\\', 't']
  | c =>
    if c.toNat = 0 then ['\\', '0']
    else if isPrintable c then [c]
    else ['\\', 'u', '\x7b'] ++ hexDigits c.toNat ++ ['\x7d']

/-- A text between double quotes. -/
def quote (text : String) : String :=
  String.ofList ('"' :: text.toList.flatMap quoteChar ++ ['"'])

example : quote "a\"\n\x1b" = "\"a\\\"\\n\\u\x7b1b\x7d\"" := by decide +kernel

end Squitter.Text
