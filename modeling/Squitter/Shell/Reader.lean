import Squitter.Shell.Token

/-!
# Reading commands

`Command.parse` reads a command from its text. The operators bind in the usual order: `|` before
`&&` and `||`, which bind alike, before `;` and `&`. Words such as `if` and `\x7b` have their
meaning only where a command can begin.
-/

namespace Squitter.Shell

namespace Token

/-- Words that end a list of commands. -/
def closers : List String := ["\x7d", "then", "elif", "else", "fi", "do", "done", "esac"]

/-- A name in quotes, as faults have it. -/
def quote (name : String) : String := "\"" ++ name ++ "\""

/-- The text of a token that is a plain word. -/
def plain? : Token → Option String
  | .word w => Word.plain? w
  | _ => none

/-- What faults call the token at the front. -/
def describe : List Token → String
  | [] => "end of file"
  | .operator text :: _ => if text = "\n" then "newline" else quote text
  | .redirect .. :: _ => "redirection"
  | t :: _ =>
    match t.plain? with
    | some name => if closers.contains name then quote name else "word"
    | none => "word"

/-- The fault that a token is out of place. -/
def misplaced {α : Type} (ts : List Token) (wanted : Option String) : Except Fault α :=
  .error (.unexpected (describe ts) wanted)

/-- Drop line ends. -/
def skipLines : List Token → List Token
  | .operator "\n" :: ts => skipLines ts
  | ts => ts

/-- A list of commands ends here. -/
def atEnd : List Token → Bool
  | [] => true
  | .operator text :: _ => text = ")" ∨ text = ";;"
  | t :: _ => t.plain?.any closers.contains

/-- Read a certain word. -/
def expect (name : String) (ts : List Token) : Except Fault (List Token) :=
  match ts with
  | t :: rest => if t.plain? = some name then .ok rest else misplaced ts (some (quote name))
  | [] => misplaced ts (some (quote name))

end Token

namespace Redirect

/-- The redirection for its sign and word; without a descriptor the sign tells which is meant. -/
def ofToken (fd : Option Nat) (text : String) (w : Word) : Redirect :=
  match text with
  | "<" => .file (fd.getD 0) .read w
  | ">>" => .file (fd.getD 1) .append w
  | "<&" => .copy (fd.getD 0) w
  | ">&" => .copy (fd.getD 1) w
  | _ => .file (fd.getD 1) .write w

/-- Read redirections. -/
def parseAll : List Token → Except Fault (List Redirect × List Token)
  | .redirect fd text :: .word w :: ts => do
    let (rs, ts) ← parseAll ts
    return (ofToken fd text w :: rs, ts)
  | .redirect .. :: ts => Token.misplaced ts none
  | ts => .ok ([], ts)

end Redirect

namespace Command

open Token (expect misplaced skipLines)

/-- Read a simple command, of which some parts were read. -/
def parseSimple (assignments : List (String × Word)) (words : List Word)
    (redirects : List Redirect) : List Token → Except Fault (Command × List Token)
  | .redirect fd text :: .word w :: ts =>
    parseSimple assignments words (redirects ++ [.ofToken fd text w]) ts
  | .redirect .. :: ts => misplaced ts none
  | .word w :: ts =>
    match words, Word.assignment? w with
    | [], some a => parseSimple (assignments ++ [a]) [] redirects ts
    | _, _ => parseSimple assignments (words ++ [w]) redirects ts
  | ts => .ok (.simple assignments words redirects, ts)

/-- Read words up to something else. -/
def parseWords : List Token → List Word × List Token
  | .word w :: ts =>
    let (ws, ts) := parseWords ts
    (w :: ws, ts)
  | ts => ([], ts)

/-- Add the redirections that follow a group. -/
def withRedirects (body : Command) (ts : List Token) : Except Fault (Command × List Token) := do
  let (rs, ts) ← Redirect.parseAll ts
  return (if rs.isEmpty then body else .redirected body rs, ts)

mutual

/-- Read a list of commands. The fuel bounds how deep commands are nested and how long lists are. -/
def parseList : Nat → List Token → Except Fault (Command × List Token)
  | 0, ts => misplaced ts none
  | n + 1, ts => do
    let ts := skipLines ts
    if Token.atEnd ts then return (.nothing, ts)
    let (c, rest) ← parseChain n ts
    match rest with
    | .operator ";" :: rest =>
      let (d, rest) ← parseList n rest
      return (.sequence c d, rest)
    | .operator "\n" :: rest =>
      let (d, rest) ← parseList n rest
      return (.sequence c d, rest)
    | .operator "&" :: rest =>
      let (d, rest) ← parseList n rest
      return (.sequence (.background c) d, rest)
    | rest => return (c, rest)

/-- Read commands joined by `&&` and `||`. -/
def parseChain : Nat → List Token → Except Fault (Command × List Token)
  | 0, ts => misplaced ts none
  | n + 1, ts => do
    let (c, rest) ← parsePipe n ts
    parseLinks n c rest

/-- Read what is joined to a command. -/
def parseLinks : Nat → Command → List Token → Except Fault (Command × List Token)
  | 0, _, ts => misplaced ts none
  | n + 1, c, ts =>
    match ts with
    | .operator "&&" :: rest => do
      let (d, rest) ← parsePipe n (skipLines rest)
      parseLinks n (.both c d) rest
    | .operator "||" :: rest => do
      let (d, rest) ← parsePipe n (skipLines rest)
      parseLinks n (.either c d) rest
    | ts => .ok (c, ts)

/-- Read commands joined by `|`, which may be negated. -/
def parsePipe : Nat → List Token → Except Fault (Command × List Token)
  | 0, ts => misplaced ts none
  | n + 1, ts =>
    match ts with
    | [] => misplaced ts none
    | t :: rest =>
      if t.plain? = some "!" then do
        let (c, rest) ← parsePipe n rest
        return (.negated c, rest)
      else do
        let (c, rest) ← parseOne n ts
        match rest with
        | .operator "|" :: rest =>
          let (d, rest) ← parsePipe n (skipLines rest)
          return (.pipe c d, rest)
        | rest => return (c, rest)

/-- Read one command. -/
def parseOne : Nat → List Token → Except Fault (Command × List Token)
  | 0, ts => misplaced ts none
  | n + 1, ts =>
    match ts with
    | .operator "(" :: rest => do
      let (body, rest) ← parseList n rest
      match rest with
      | .operator ")" :: rest => withRedirects (.subshell body) rest
      | rest => misplaced rest (some (Token.quote ")"))
    | .operator _ :: _ => misplaced ts none
    | [] => misplaced ts none
    | t :: rest =>
      match t.plain? with
      | some "\x7b" => do
        let (body, rest) ← parseList n rest
        withRedirects body (← expect "\x7d" rest)
      | some "if" => do
        let (c, rest) ← parseBranch n rest
        withRedirects c rest
      | some "while" => do
        let (c, rest) ← parseLoop n false rest
        withRedirects c rest
      | some "until" => do
        let (c, rest) ← parseLoop n true rest
        withRedirects c rest
      | some "for" => do
        let (c, rest) ← parseEach n rest
        withRedirects c rest
      | some name =>
        if Token.closers.contains name then misplaced ts none else parseSimple [] [] [] ts
      | none => parseSimple [] [] [] ts

/-- Read the rest of a branch, after its first word. -/
def parseBranch : Nat → List Token → Except Fault (Command × List Token)
  | 0, ts => misplaced ts none
  | n + 1, ts => do
    let (test, rest) ← parseList n ts
    let (yes, rest) ← parseList n (← expect "then" rest)
    match rest with
    | [] => misplaced rest (some (Token.quote "fi"))
    | t :: after =>
      match t.plain? with
      | some "elif" =>
        let (no, rest) ← parseBranch n after
        return (.conditional test yes no, rest)
      | some "else" =>
        let (no, rest) ← parseList n after
        return (.conditional test yes no, ← expect "fi" rest)
      | _ => return (.conditional test yes .nothing, ← expect "fi" rest)

/-- Read the rest of a loop, after its first word. -/
def parseLoop : Nat → Bool → List Token → Except Fault (Command × List Token)
  | 0, _, ts => misplaced ts none
  | n + 1, untilTrue, ts => do
    let (test, rest) ← parseList n ts
    let (body, rest) ← parseList n (← expect "do" rest)
    return (.loop untilTrue test body, ← expect "done" rest)

/-- Read the rest of a loop over values, after its first word. -/
def parseEach : Nat → List Token → Except Fault (Command × List Token)
  | 0, ts => misplaced ts none
  | n + 1, ts =>
    match ts with
    | [] => misplaced ts none
    | t :: rest =>
      match t.plain? with
      | none => misplaced ts none
      | some name => do
        let rest ← expect "in" (skipLines rest)
        let (values, rest) := parseWords rest
        let rest := match rest with
          | .operator ";" :: rest => rest
          | rest => rest
        let (body, rest) ← parseList n (← expect "do" (skipLines rest))
        return (.each name values body, ← expect "done" rest)

end

/-- Read a command. -/
def parse (text : String) : Except Fault Command := do
  let ts ← Token.scan text
  let (c, rest) ← parseList (8 * ts.length + 8) ts
  if rest.isEmpty then return c else misplaced rest none

end Command

end Squitter.Shell
