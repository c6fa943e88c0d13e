import Squitter.Machine.Basic
import Squitter.Shell.Reader
import Squitter.Text.Utf8

/-!
# Processes of a machine

Processes hold channels through their file descriptors. A new process shares those of the process it
comes from; a process that ends gives its own back, and its parent is told. Signals end a process
unless it has a trap for them.
-/

namespace Squitter.Machine

open Shell (Process Task Word Redirect Command)

/-! ## Starting and ending -/

/-- Number of the bus among the processes. -/
def busProcess : Nat := 1

/-- Have a process in a certain state. -/
def setProcess (m : Machine) (id : Nat) (p : Process) : Machine :=
  { m with processes := m.processes.insert id p }

/-- The bus gets a signal. -/
def raise (m : Machine) (signal : Signal) : Machine :=
  if m.hears ∧ signal ∉ m.signals then { m with signals := m.signals ++ [signal] } else m

/-- Hold channels once more. -/
def holdAll (m : Machine) (channels : List Nat) : Machine := channels.foldl hold m

/-- Give channels back. -/
def releaseAll (m : Machine) (channels : List Nat) : Machine := channels.foldl release m

/-- Start a process. -/
def start (m : Machine) (p : Process) : Nat × Machine :=
  (m.nextProcess,
    { (m.holdAll p.fds.values).setProcess m.nextProcess p with nextProcess := m.nextProcess + 1 })

/-- Start a process that comes from another one, with file descriptors and tasks of its own. -/
def fork (m : Machine) (id : Nat) (p : Process) (fds : Table Nat) (tasks : List Task) :
    Nat × Machine :=
  m.start { p with
    parent := id
    fds
    tasks
    traps := p.traps.filter (·.2 = "")
    lastJob := none }

/-- A process ends with a status. -/
def finish (m : Machine) (id status : Nat) : Machine :=
  match m.processes.get? id with
  | none => m
  | some p =>
    match p.ended with
    | some _ => m
    | none =>
      let m := (m.setProcess id
        { p with fds := .empty, tasks := [], ended := some status }).releaseAll
        p.held
      if p.parent = busProcess then m.raise .child else m

/-- Drop all tasks of a process that is not the machine's yet. -/
def dropTasks (m : Machine) (p : Process) : Process × Machine :=
  ({ p with tasks := [] }, m.releaseAll (p.tasks.flatMap Task.held))

/-- A process has ended. -/
def hasEnded (m : Machine) (id : Nat) : Bool :=
  match m.processes.get? id with
  | some p => p.ended.isSome
  | none => true

/-! ## Signals -/

/-- Names and numbers of signals. -/
def signalNumbers : List (String × Nat) :=
  [("EXIT", 0), ("HUP", 1), ("INT", 2), ("QUIT", 3), ("ABRT", 6), ("KILL", 9), ("USR1", 10),
    ("SEGV", 11), ("USR2", 12), ("PIPE", 13), ("ALRM", 14), ("TERM", 15), ("CHLD", 17),
    ("CONT", 18), ("STOP", 19), ("WINCH", 28)]

/-- The signal with a name or number. -/
def signal? (text : String) : Option Nat :=
  let name := if text.startsWith "SIG" then (text.drop 3).toString else text
  (signalNumbers.lookup name).or (Decimal.read? 64 (utf8 text))

/-- Signals that do nothing unless there is a trap. -/
def isHarmless (signal : Nat) : Bool := signal = 0 ∨ signal = 17 ∨ signal = 18 ∨ signal = 28

/-- Send a signal to a process. A trap is run at once; a program that the process waits for ends. -/
def signalProcess (signal : Nat) (m : Machine) (id : Nat) : Machine :=
  if id = busProcess then
    match signal with
    | 2 => m.raise .interrupt
    | 15 => m.raise .terminate
    | 17 => m.raise .child
    | _ => m
  else
    match m.processes.get? id with
    | none => m
    | some p =>
      if p.ended.isSome then m
      else
        match p.traps.lookup signal with
        | some "" => m
        | some command =>
          match Command.parse command with
          | .ok c => m.setProcess id (p.dropProgram.push [.run c])
          | .error _ => m.setProcess id p.dropProgram
        | none => if isHarmless signal then m else m.finish id (128 + signal)

/-- The processes of a group. -/
def groupMembers (m : Machine) (group : Nat) : List Nat :=
  (m.processes.entries.filter fun e => e.2.group = group ∧ e.2.ended.isNone).map (·.1)

/-- Send a signal to all processes of a group. -/
def signalGroup (m : Machine) (group signal : Nat) : Machine :=
  (m.groupMembers group).foldl (signalProcess signal) m

/-! ## File descriptors -/

/-- Have a file descriptor refer to a channel, which was held for it, or to none. -/
def setFd (m : Machine) (p : Process) (fd : Nat) (channel : Option Nat) : Process × Machine :=
  let m := match p.fds.get? fd with
    | some c => m.release c
    | none => m
  match channel with
  | some c => ({ p with fds := p.fds.insert fd c }, m)
  | none => ({ p with fds := p.fds.erase fd }, m)

/-- How a process opens files: links are followed. -/
def shellMode (mode : FileMode) : Files.OpenMode :=
  { Files.OpenMode.ofFileMode mode false with follow := true }

/-- Write a message of a process. -/
def complain (m : Machine) (p : Process) (text : String) : Machine :=
  match p.fds.get? 2 with
  | some c => (m.writeAt c (utf8 (text ++ "\n"))).2
  | none => m

/-- Write a message of the shell. -/
def complainInShell (m : Machine) (p : Process) (text : String) : Machine :=
  m.complain p ("/bin/sh: 1: " ++ text)

/-- What the shell calls the failure to open a file. -/
def openFailure (mode : FileMode) (path : String) (e : IoError) : String :=
  let cause := match e with
    | .noSuchEntry => if mode = .read then "No such file" else "Directory nonexistent"
    | .isDirectory => "Is a directory"
    | .notDirectory => "Not a directory"
    | .tooManyLinks => "Too many levels of symbolic links"
    | _ => "Permission denied"
  (if mode = .read then "cannot open " else "cannot create ") ++ path ++ ": " ++ cause

/-- Do redirections, up to the first that fails; the result has a message then. -/
def redirect (m : Machine) (p : Process) : List Redirect → Option String × Process × Machine
  | [] => (none, p, m)
  | .file fd mode path :: rs =>
    let name := String.ofList (Utf8.lossy (Word.joined p.value path))
    match m.openPath name (shellMode mode) with
    | (.error e, m) => (some (openFailure mode name e), p, m)
    | (.ok c, m) =>
      let (p, m) := m.setFd p fd (some c)
      redirect m p rs
  | .copy fd source :: rs =>
    let name := String.ofList (Utf8.lossy (Word.joined p.value source))
    if name = "-" then
      let (p, m) := m.setFd p fd none
      redirect m p rs
    else
      match (Decimal.read? 9 (utf8 name)).bind p.fds.get? with
      | none => (some (name ++ ": Bad file descriptor"), p, m)
      | some c =>
        let (p, m) := (m.hold c).setFd p fd (some c)
        redirect m p rs

/-- Do redirections that are undone after the next tasks. -/
def redirectFor (m : Machine) (p : Process) (rs : List Redirect) :
    Option String × Process × Machine :=
  if rs.isEmpty then (none, p, m)
  else
    let m := m.holdAll p.fds.values
    redirect m (p.push [.restore p.fds]) rs

end Squitter.Machine
