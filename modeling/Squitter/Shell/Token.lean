import Squitter.Shell.Basic

/-!
# Tokens of the shell language

`Token.scan` cuts a command into words, operators and redirections. Blanks separate tokens, a number
sign before a word begins a comment, and quotes and backslashes take away the meaning of what they
enclose. Within double quotes variables and commands keep theirs.
-/

namespace Squitter.Shell

/-- A token. -/
inductive Token
  | word (w : Word)
  | operator (text : String)
  /-- A redirection, with the descriptor that is written before it. -/
  | redirect (fd : Option Nat) (text : String)
deriving DecidableEq

namespace Token

/-! ## Characters -/

/-- The quote in which nothing has a meaning. -/
def singleQuote : Char := Char.ofNat 0x27

/-- The quote in which variables have a meaning. -/
def doubleQuote : Char := Char.ofNat 0x22

/-- The quote of commands. -/
def backQuote : Char := Char.ofNat 0x60

/-- A space or tab. -/
def isBlank (c : Char) : Bool := c = ' ' ∨ c = '\t'

/-- A character that ends a word. -/
def endsWord (c : Char) : Bool := isBlank c ∨ "\n;&|<>()".contains c

/-! ## Words -/

/-- Text up to the parenthesis that closes it, and what follows; `depth` counts parentheses that are
open, `quote` is the quote that is. -/
def enclosed (depth : Nat) (quote : Option Char) (done : List Char) :
    List Char → Option (List Char × List Char)
  | [] => none
  | '\\' :: c :: cs =>
    if quote = some singleQuote ∧ c = singleQuote then enclosed depth none (c :: '\\' :: done) cs
    else enclosed depth quote (c :: '\\' :: done) cs
  | c :: cs =>
    if quote = some c then enclosed depth none (c :: done) cs
    else if quote.isSome then enclosed depth quote (c :: done) cs
    else if c = singleQuote ∨ c = doubleQuote then enclosed depth (some c) (c :: done) cs
    else if c = '(' then enclosed (depth + 1) quote (c :: done) cs
    else if c = ')' then
      match depth with
      | 0 => some (done.reverse, cs)
      | depth + 1 => enclosed depth quote (c :: done) cs
    else enclosed depth quote (c :: done) cs

/-- Text up to a character, which is dropped, and what follows. -/
def upTo? (c : Char) (cs : List Char) : Option (List Char × List Char) :=
  match cs.dropWhile (· ≠ c) with
  | [] => none
  | _ :: rest => some (cs.takeWhile (· ≠ c), rest)

/-- The piece that a dollar sign begins, with what follows it. -/
def dollar (quoted : Bool) (cs : List Char) : Except Fault (Piece × List Char) :=
  match cs with
  | '(' :: '(' :: rest =>
    match enclosed 0 none [] rest with
    | some (text, ')' :: rest) => .ok (.sum (String.ofList text) quoted, rest)
    | _ => .error .unterminatedQuote
  | '(' :: rest =>
    match enclosed 0 none [] rest with
    | some (text, rest) => .ok (.output (String.ofList text) quoted, rest)
    | none => .error .unterminatedQuote
  | '\x7b' :: rest =>
    match upTo? '\x7d' rest with
    | some (name, rest) => .ok (.variable (String.ofList name) quoted, rest)
    | none => .error .unterminatedQuote
  | c :: rest =>
    if Word.startsName c then
      .ok (.variable (String.ofList (c :: rest.takeWhile Word.inName)) quoted,
        rest.dropWhile Word.inName)
    else if "?$!#-@*".contains c ∨ c.isDigit then
      .ok (.variable (String.ofList [c]) quoted, rest)
    else .ok (.char '$' quoted, c :: rest)
  | [] => .ok (.char '$' quoted, [])

/-- The command between back quotes, with what follows it. -/
def backQuoted (quoted : Bool) (cs : List Char) : Except Fault (Piece × List Char) :=
  match upTo? backQuote cs with
  | some (text, rest) => .ok (.output (String.ofList text) quoted, rest)
  | none => .error .unterminatedQuote

/-- The pieces up to the double quote that ends them. The fuel is the number of characters. -/
def doubleQuoted : Nat → List Char → Except Fault (Word × List Char)
  | 0, _ => .error .unterminatedQuote
  | _ + 1, [] => .error .unterminatedQuote
  | n + 1, c :: cs =>
    if c = doubleQuote then .ok ([], cs)
    else do
      let (piece, rest) ←
        if c = '$' then dollar true cs
        else if c = backQuote then backQuoted true cs
        else
          match c, cs with
          | '\\', d :: rest =>
            if d = '$' ∨ d = '\\' ∨ d = doubleQuote ∨ d = backQuote then
              .ok (.char d true, rest)
            else if d = '\n' then .ok (.quotes, rest)
            else .ok (.char c true, cs)
          | _, _ => .ok (.char c true, cs)
      let (pieces, rest) ← doubleQuoted n rest
      return (piece :: pieces, rest)

/-- The pieces of a word up to its end. The fuel is the number of characters. -/
def pieces : Nat → List Char → Except Fault (Word × List Char)
  | 0, cs => .ok ([], cs)
  | _ + 1, [] => .ok ([], [])
  | n + 1, c :: cs =>
    if endsWord c then .ok ([], c :: cs)
    else do
      let (front, rest) ←
        if c = singleQuote then
          match upTo? singleQuote cs with
          | some (text, rest) => .ok (Piece.quotes :: text.map (.char · true), rest)
          | none => .error .unterminatedQuote
        else if c = doubleQuote then do
          let (inside, rest) ← doubleQuoted n cs
          return (Piece.quotes :: inside, rest)
        else if c = '$' then do
          let (piece, rest) ← dollar false cs
          return ([piece], rest)
        else if c = backQuote then do
          let (piece, rest) ← backQuoted false cs
          return ([piece], rest)
        else
          match c, cs with
          | '\\', '\n' :: rest => .ok ([], rest)
          | '\\', d :: rest => .ok ([.char d true], rest)
          | _, _ => .ok ([.char c false], cs)
      let (more, rest) ← pieces n rest
      return (front ++ more, rest)

/-! ## Tokens -/

/-- The redirection at the front of a text. -/
def redirection? (cs : List Char) : Option (String × List Char) :=
  match cs with
  | '>' :: '>' :: rest => some (">>", rest)
  | '>' :: '&' :: rest => some (">&", rest)
  | '>' :: '|' :: rest => some (">", rest)
  | '>' :: rest => some (">", rest)
  | '<' :: '&' :: rest => some ("<&", rest)
  | '<' :: rest => some ("<", rest)
  | _ => none

/-- The operator at the front of a text. -/
def operator? (cs : List Char) : Option (String × List Char) :=
  match cs with
  | '&' :: '&' :: rest => some ("&&", rest)
  | '|' :: '|' :: rest => some ("||", rest)
  | ';' :: ';' :: rest => some (";;", rest)
  | c :: rest => if "\n;&|()".contains c then some (String.ofList [c], rest) else none
  | [] => none

/-- A digit directly before a redirection, with that redirection. -/
def numbered? (cs : List Char) : Option (Nat × String × List Char) :=
  match cs with
  | d :: rest =>
    if d.isDigit then (redirection? rest).map fun (text, rest) => (d.toNat - 48, text, rest)
    else none
  | [] => none

/-- The tokens of a text. The fuel is the number of characters. -/
def scanFrom : Nat → List Char → Except Fault (List Token)
  | 0, _ => .ok []
  | _ + 1, [] => .ok []
  | n + 1, c :: cs =>
    if isBlank c then scanFrom n cs
    else if c = '#' then scanFrom n (cs.dropWhile (· ≠ '\n'))
    else
      match numbered? (c :: cs), redirection? (c :: cs), operator? (c :: cs) with
      | some (fd, text, rest), _, _ => do return .redirect (some fd) text :: (← scanFrom n rest)
      | none, some (text, rest), _ => do return .redirect none text :: (← scanFrom n rest)
      | none, none, some (text, rest) => do return .operator text :: (← scanFrom n rest)
      | none, none, none => do
        let (w, rest) ← pieces (cs.length + 1) (c :: cs)
        return .word w :: (← scanFrom n rest)

/-- The tokens of a command. -/
def scan (text : String) : Except Fault (List Token) :=
  scanFrom (text.length + 1) text.toList

end Token

end Squitter.Shell
