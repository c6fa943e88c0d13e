import Squitter.Machine.Processes
import Squitter.Shell.Printf

/-!
# Programs of a machine

What the shell and the programs that it can run do. A program that takes time leaves tasks for its
process; the others do their work at once. `invoke` runs a program by its name.
-/

namespace Squitter.Machine

open Shell (Process Task Command)

/-- An argument as a text. -/
def text (arg : Bytes) : String := String.ofList (Utf8.lossy arg)

/-! ## Conditions -/

/-- A condition on a file. -/
def fileCondition (m : Machine) (letter : Char) (path : String) : Bool :=
  let node : Option Node := (m.files.nodeAt? path).map (·.2)
  match letter, node with
  | 'h', _ => (m.files.linkAt? path).isSome
  | 'L', _ => (m.files.linkAt? path).isSome
  | _, none => false
  | 'f', some (.file _) => true
  | 'f', some _ => false
  | 'd', some (.directory _) => true
  | 'd', some _ => false
  | 's', some (.file data) => ¬ data.isEmpty
  | 'c', some .null => true
  | 'c', some _ => false
  | 'x', some (.directory _) => true
  | 'x', some _ => false
  | c, some _ => "erw".contains c

/-- A condition with one argument. -/
def condition1 (m : Machine) (operator arg : String) : Bool :=
  match operator.toList with
  | ['-', 'n'] => arg ≠ ""
  | ['-', 'z'] => arg = ""
  | ['-', c] => m.fileCondition c arg
  | _ => false

/-- A condition with two arguments. -/
def condition2 (a operator b : String) : Bool :=
  let n (s : String) : Int := (Shell.integer? (utf8 s)).getD 0
  match operator with
  | "=" => a = b
  | "==" => a = b
  | "!=" => a ≠ b
  | "-eq" => n a = n b
  | "-ne" => n a ≠ n b
  | "-lt" => n a < n b
  | "-le" => n a ≤ n b
  | "-gt" => n b < n a
  | "-ge" => n b ≤ n a
  | _ => false

/-- Whether a condition holds. -/
def condition (m : Machine) : List String → Bool
  | [] => false
  | [a] => a ≠ ""
  | "!" :: args => ¬ m.condition args
  | [operator, a] => m.condition1 operator a
  | [a, operator, b] => condition2 a operator b
  | operator :: a :: joint :: rest =>
    match joint with
    | "-a" => m.condition1 operator a ∧ m.condition rest
    | "-o" => m.condition1 operator a ∨ m.condition rest
    | _ =>
      match rest with
      | "-a" :: rest => condition2 operator a joint ∧ m.condition rest
      | "-o" :: rest => condition2 operator a joint ∨ m.condition rest
      | _ => false

/-! ## Copying -/

/-- A number among the arguments; what is none counts as zero. -/
def count (arg : String) : Nat := (Decimal.read? (1 <<< 63) (utf8 arg)).getD 0

/-- The amount for an option and its value. -/
def amount? (letter : Char) (value : String) : Option Shell.Amount :=
  if letter = 'n' then some (.lines (count value))
  else if letter = 'c' then some (.bytes (count value))
  else none

/-- Read the options of a program that copies the front of its input. -/
def frontOptions (amount : Shell.Amount) : List String → Shell.Amount × List String
  | [] => (amount, [])
  | [arg] =>
    match arg.toList with
    | '-' :: c :: cs =>
      if c.isDigit then (.lines (count (String.ofList (c :: cs))), [])
      else ((amount? c (String.ofList cs)).getD amount, [])
    | _ => (amount, [arg])
  | arg :: next :: rest =>
    match arg.toList with
    | ['-', c] =>
      if c.isDigit then frontOptions (.lines (count (String.ofList [c]))) (next :: rest)
      else frontOptions ((amount? c next).getD amount) rest
    | '-' :: c :: cs =>
      if c.isDigit then frontOptions (.lines (count (String.ofList (c :: cs)))) (next :: rest)
      else frontOptions ((amount? c (String.ofList cs)).getD amount) (next :: rest)
    | _ => (amount, arg :: next :: rest)

/-- The tasks to copy files to the output, of which `-` is the input, and what goes wrong. -/
def copyFiles (m : Machine) (program : String) (amount : Shell.Amount) (files : List String) :
    List Task × List String :=
  if files.isEmpty then ([.copy amount [1]], [])
  else
    files.foldl
      (fun (tasks, wrong) file =>
        if file = "-" then (tasks ++ [.copy amount [1]], wrong)
        else
          match m.files.nodeAt? file with
          | some (_, .file data) => (tasks ++ [.write 1 (amount.take data).1 false], wrong)
          | some (_, .directory _) =>
            (tasks, wrong ++ [program ++ ": " ++ file ++ ": Is a directory"])
          | some _ => (tasks, wrong)
          | none => (tasks, wrong ++ [program ++ ": " ++ file ++ ": No such file or directory"]))
      ([], [])

/-! ## Files -/

/-- Create a file or directory that is not there. -/
def createAt (m : Machine) (path : String) (node : Node) : Option Machine :=
  match m.files.locate true path with
  | .ok ⟨parent, name, none⟩ => some { m with files := (m.files.create parent name node).2 }
  | _ => none

/-- Remove a file. -/
def removeAt (m : Machine) (path : String) : Option Machine :=
  match m.files.locate false path with
  | .ok ⟨parent, name, some n⟩ =>
    match m.files.nodes.get? n with
    | some (.directory _) => none
    | _ => some { m with files := m.files.unlink ⟨parent, name, some n⟩ }
  | _ => none

/-! ## Signals and traps -/

/-- The signal that the options of a program name, and the rest of its arguments. -/
def signalOption : List String → Option Nat × List String
  | "-s" :: name :: rest => (signal? name, rest)
  | option :: rest =>
    match option.toList with
    | '-' :: '-' :: [] => (some 15, rest)
    | '-' :: name => (signal? (String.ofList name), rest)
    | _ => (some 15, option :: rest)
  | [] => (some 15, [])

/-- Send a signal to a process, or to a group if the number is not positive. -/
def signalTarget (m : Machine) (p : Process) (signal : Nat) (target : String) : Option Machine :=
  match Shell.integer? (utf8 target) with
  | some (.ofNat 0) => some (m.signalGroup p.group signal)
  | some (.ofNat id) =>
    if id = busProcess ∨ ¬ m.hasEnded id then some (signalProcess signal m id) else none
  | some (.negSucc n) =>
    if (m.groupMembers (n + 1)).isEmpty then none else some (m.signalGroup (n + 1) signal)
  | none => if target = "%1" then p.lastJob.map (signalProcess signal m) else none

/-- Set traps; a trap is taken away by `-`. -/
def setTraps (p : Process) : List String → Process
  | [] => p
  | command :: signals =>
    signals.foldl
      (fun p name =>
        match signal? name with
        | some n =>
          let others := p.traps.filter (·.1 ≠ n)
          { p with traps := if command = "-" then others else (n, command) :: others }
        | none => p)
      p

/-! ## Running a program -/

/-- Milliseconds of a number of seconds with decimals. -/
def milliseconds (arg : String) : Nat :=
  let (whole, fraction) := (cut? '.' arg).getD (arg, "")
  let thousandths := ((fraction.toList ++ ['0', '0', '0']).take 3).filter Char.isDigit
  let number (cs : List Char) : Nat := Decimal.ofDigits (utf8 (String.ofList cs))
  1000 * number (whole.toList.filter Char.isDigit) + number thousandths

/-- The numbers from `a` to `b` as lines. -/
def sequenceLines (a b : Nat) : Bytes :=
  (List.range (b + 1 - a)).flatMap fun i => Decimal.digits (a + i) ++ [10]

/-- The name of a program without the directory that programs are in. -/
def programName (name : String) : String :=
  ["/bin/", "/usr/bin/"].foldl
    (fun name dir => if name.startsWith dir then (name.drop dir.length).toString else name) name

/-- Run a program with arguments. The flag tells that the shell's own commands can be run, which
write as the shell does. -/
def invoke (m : Machine) (id : Nat) (p : Process) (inShell : Bool) (name : String)
    (args : List Bytes) : Machine :=
  let texts := args.map text
  let ended (status : Nat) : Machine := m.setProcess id (p.withStatus status)
  let does (tasks : List Task) : Machine := m.setProcess id ((p.push tasks).withStatus 0)
  let all (work : Machine → String → Option Machine) (names : List String) : Machine :=
    let (m, good) := names.foldl
      (fun (m, good) name =>
        match work m name with
        | some m => (m, good)
        | none => (m, false))
      (m, true)
    m.setProcess id (p.withStatus (if good then 0 else 1))
  match programName name with
  | ":" => ended 0
  | "true" => ended 0
  | "false" => ended 1
  | "cd" => ended 0
  | "set" => ended 0
  | "umask" => ended 0
  | "export" => ended 0
  | "echo" => does [.write 1 (Shell.Printf.echo args) inShell]
  | "printf" =>
    match args with
    | [] => (m.complainInShell p "printf: usage: printf format [arg ...]").setProcess id
        (p.withStatus 2)
    | format :: args =>
      let (out, wrong) := Shell.Printf.print format args
      let m := wrong.foldl (fun m w => m.complainInShell p ("printf: " ++ w)) m
      m.setProcess id
        ((p.push [.write 1 out inShell]).withStatus (if wrong.isEmpty then 0 else 1))
  | "cat" =>
    let (tasks, wrong) := m.copyFiles "cat" .all (texts.filter fun s => s ≠ "-u")
    let m := wrong.foldl (fun m w => m.complain p w) m
    m.setProcess id ((p.push tasks).withStatus (if wrong.isEmpty then 0 else 1))
  | "head" =>
    let (amount, files) := frontOptions (.lines 10) texts
    let (tasks, wrong) := m.copyFiles "head" amount files
    let m := wrong.foldl (fun m w => m.complain p w) m
    m.setProcess id ((p.push tasks).withStatus (if wrong.isEmpty then 0 else 1))
  | "tee" =>
    let append := texts.contains "-a"
    let mode : FileMode := if append then .append else .write
    let files := texts.filter fun s => ¬ s.startsWith "-"
    let redirects := files.zipIdx.map fun (file, i) =>
      Shell.Redirect.file (10 + i) mode (file.toList.map (.char · true))
    let (_, p, m) := m.redirectFor p redirects
    m.setProcess id
      ((p.push [.copy .all (1 :: files.zipIdx.map fun (_, i) => 10 + i)]).withStatus 0)
  | "sleep" => does [.sleep (m.clock + (texts.map milliseconds).foldl (· + ·) 0)]
  | "yes" =>
    does [.writeForever
      ((args.intersperse [32]).flatten ++ if args = [] then [121, 10] else [10])]
  | "seq" =>
    does [.write 1 (match texts.map count with
      | [b] => sequenceLines 1 b
      | [a, b] => sequenceLines a b
      | _ => []) inShell]
  | "pwd" => does [.write 1 (utf8 "/\n") inShell]
  | "test" => ended (if m.condition texts then 0 else 1)
  | "[" => ended (if m.condition texts.dropLast then 0 else 1)
  | "touch" =>
    all (fun m name => if (m.files.nodeAt? name).isSome then some m
      else m.createAt name (.file [])) texts
  | "mkdir" => all (fun m name => m.createAt name (.directory []))
      (texts.filter fun s => ¬ s.startsWith "-")
  | "rm" =>
    let forced := texts.any (·.startsWith "-f")
    all (fun m name => (m.removeAt name).or (if forced then some m else none))
      (texts.filter fun s => ¬ s.startsWith "-")
  | "exit" =>
    let status := (texts.head?.bind fun s => Decimal.read? (1 <<< 31) (utf8 s)).getD p.status
    let (p, m) := m.dropTasks p
    m.setProcess id (p.withStatus (status % 256))
  | "break" => m.setProcess id (p.leaveLoop false)
  | "continue" => m.setProcess id (p.leaveLoop true)
  | "read" => does [.readLine (texts.filter fun s => ¬ s.startsWith "-") (texts.contains "-r") []]
  | "wait" =>
    match texts.head?.bind fun s => Decimal.read? (1 <<< 31) (utf8 s) with
    | some job => does [.await job]
    | none => does [.awaitAll]
  | "trap" => m.setProcess id ((setTraps p texts).withStatus 0)
  | "kill" =>
    match signalOption texts with
    | (none, _) => ended 2
    | (some signal, targets) =>
      targets.foldl
        (fun m target =>
          match m.signalTarget p signal target with
          | some m => m
          | none =>
            (m.complainInShell p "kill: No such process").setProcess id (p.withStatus 1))
        (ended 0)
  | "sh" =>
    match texts with
    | "-c" :: command :: _ =>
      match Command.parse command with
      | .ok c => does [.run (if inShell then .subshell c else c)]
      | .error fault => (m.complainInShell p fault.message).setProcess id (p.withStatus 2)
    | _ => ended 0
  | _ =>
    (m.complainInShell p (name ++ ": not found")).setProcess id (p.withStatus 127)

end Squitter.Machine
