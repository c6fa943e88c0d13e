import Squitter.Bytes
import Squitter.Endpoint

/-!
# Commands of a shell

A child is given as a **command** (`Command`) in a small shell language: simple commands with
redirections, joined by `;`, `&&`, `||`, `|` and `&`, grouped, and in branches and loops. The words
of a simple command are made of **pieces** (`Piece`), of which some stand for themselves and some
for what is known only when the command runs.
-/

namespace Squitter.Shell

/-- A part of a word. What is quoted is not split into several words. -/
inductive Piece
  | char (c : Char) (quoted : Bool)
  /-- A pair of quotes, which makes a word even if nothing is in it. -/
  | quotes
  | variable (name : String) (quoted : Bool)
  /-- What a command writes. -/
  | output (command : String) (quoted : Bool)
  /-- The value of an arithmetic expression. -/
  | sum (expression : String) (quoted : Bool)
  /-- What a command has written. -/
  | value (bytes : Bytes) (quoted : Bool)
deriving DecidableEq

/-- A word. -/
abbrev Word := List Piece

namespace Word

/-- The text of a word of which nothing is quoted and all stands for itself. -/
def plain? : Word → Option String
  | [] => some ""
  | .char c false :: w => (plain? w).map fun s => String.ofList (c :: s.toList)
  | _ => none

/-- A letter or an underscore. -/
def startsName (c : Char) : Bool := c.isAlpha ∨ c = '_'

/-- Characters of a name. -/
def inName (c : Char) : Bool := c.isAlphanum ∨ c = '_'

/-- A text that can name a variable. -/
def isName (name : List Char) : Bool :=
  match name with
  | [] => false
  | c :: cs => startsName c ∧ cs.all inName

/-- The name before the first equals sign, and what is after it. -/
def cutName : Word → Option (List Char × Word)
  | .char '=' false :: w => some ([], w)
  | .char c false :: w => (cutName w).map fun (name, value) => (c :: name, value)
  | _ => none

/-- The name and value of a word that assigns to a variable. -/
def assignment? (w : Word) : Option (String × Word) :=
  match cutName w with
  | some (name, value) => if isName name then some (String.ofList name, value) else none
  | none => none

/-- The first command in a word of which the output is needed. -/
def firstOutput? (w : Word) : Option String :=
  w.findSome? fun
    | .output command _ => some command
    | _ => none

/-- Put what a command has written in place of the first one. -/
def fill (bytes : Bytes) : Word → Word
  | [] => []
  | .output _ quoted :: w => .value bytes quoted :: w
  | piece :: w => piece :: fill bytes w

/-- Fill the first of some words that needs it. -/
def fillFirst (bytes : Bytes) : List Word → List Word
  | [] => []
  | w :: ws => if (firstOutput? w).isSome then fill bytes w :: ws else w :: fillFirst bytes ws

end Word

/-- What a redirection does with a file descriptor. -/
inductive Redirect
  | file (fd : Nat) (mode : FileMode) (path : Word)
  /-- A second descriptor for what another one refers to, or none. -/
  | copy (fd : Nat) (source : Word)
deriving DecidableEq

/-- A command. -/
inductive Command
  | nothing
  | simple (assignments : List (String × Word)) (words : List Word) (redirects : List Redirect)
  | redirected (body : Command) (redirects : List Redirect)
  | subshell (body : Command)
  | background (body : Command)
  | pipe (source sink : Command)
  | sequence (first second : Command)
  /-- The second is run if the first succeeds. -/
  | both (first second : Command)
  /-- The second is run if the first fails. -/
  | either (first second : Command)
  | negated (body : Command)
  | conditional (test yes no : Command)
  /-- The body is run as long as the test succeeds, or until it does. -/
  | loop (untilTrue : Bool) (test body : Command)
  | each (name : String) (values : List Word) (body : Command)
deriving DecidableEq

/-- Why a command cannot be read. -/
inductive Fault
  | unterminatedQuote
  | unexpected (what : String) (wanted : Option String)
deriving DecidableEq

/-- The wording of a fault. -/
def Fault.message : Fault → String
  | unterminatedQuote => "Syntax error: Unterminated quoted string"
  | unexpected what none => "Syntax error: " ++ what ++ " unexpected"
  | unexpected what (some wanted) =>
    "Syntax error: " ++ what ++ " unexpected (expecting " ++ wanted ++ ")"

end Squitter.Shell
