import Squitter.Shell.Expansion
import Squitter.Table

/-!
# Processes

A **process** (`Process`) runs commands. What it has still to do is a list of **tasks** (`Task`), of
which the first is done next; some tasks have to wait for input, for room for output, for another
process, or for time to pass.
-/

namespace Squitter.Shell

/-- How much a program copies. -/
inductive Amount
  | all
  | bytes (n : Nat)
  | lines (n : Nat)
deriving DecidableEq

namespace Amount

/-- The front of some bytes that has a number of lines, and how many lines are missing. -/
def takeLines : Nat → Bytes → Bytes × Nat
  | 0, _ => ([], 0)
  | n, [] => ([], n)
  | n + 1, b :: rest =>
    let (front, missing) := takeLines (if b = 10 then n else n + 1) rest
    (b :: front, missing)
termination_by _ text => text.length

/-- What is copied of some bytes, and how much is to be copied after them. -/
def take (text : Bytes) : Amount → Bytes × Amount
  | .all => (text, .all)
  | .bytes n => (text.take n, .bytes (n - text.length))
  | .lines n =>
    let (front, missing) := takeLines n text
    (front, .lines missing)

/-- Nothing more is to be copied. -/
def isDone : Amount → Bool
  | .all => false
  | .bytes n => n = 0
  | .lines n => n = 0

end Amount

/-- Something that a process has to do. -/
inductive Task
  | run (c : Command)
  /-- Run a command if the last one succeeded, or if it failed. -/
  | check (succeeded : Bool) (c : Command)
  | invert
  | choose (yes no : Command)
  /-- Go through a loop. -/
  | loop (untilTrue : Bool) (test body : Command)
  /-- Go on with a loop whose test was run. -/
  | decide (untilTrue : Bool) (test body : Command)
  | next (name : String) (values : List Bytes) (body : Command)
  /-- Have the file descriptors of before. -/
  | restore (fds : Table Nat)
  | await (process : Nat)
  | awaitAll
  /-- Read what a process writes, until a command can be run that needs it. -/
  | gather (channel process : Nat) (got : Bytes) (c : Command)
  /-- Write; the flag tells that the shell itself does it. -/
  | write (fd : Nat) (bytes : Bytes) (inShell : Bool)
  | copy (amount : Amount) (fds : List Nat)
  | sleep (wakeAt : Nat)
  | readLine (names : List String) (raw : Bool) (got : Bytes)
  | writeForever (line : Bytes)

namespace Task

/-- The channels that a task holds. -/
def held : Task → List Nat
  | restore fds => fds.values
  | gather channel _ _ _ => [channel]
  | _ => []

/-- The task is one of a program that the shell waits for. -/
def isProgram : Task → Bool
  | write _ _ inShell => ¬ inShell
  | copy _ _ => true
  | sleep _ => true
  | writeForever _ => true
  | _ => false

/-- The task begins a round of a loop. -/
def beginsRound : Task → Bool
  | loop _ _ _ => true
  | next _ _ _ => true
  | _ => false

end Task

/-- A process. -/
structure Process where
  parent : Nat
  /-- Signals can be sent to all processes of a group. -/
  group : Nat
  /-- Number of the shell that the process is part of. -/
  shell : Nat
  fds : Table Nat
  bindings : List (String × Bytes)
  tasks : List Task
  /-- Status of the last command. -/
  status : Nat
  /-- What is run when a signal comes, or at the end; nothing if it is ignored. -/
  traps : List (Nat × String)
  lastJob : Option Nat
  /-- The status with which it ended. -/
  ended : Option Nat

namespace Process

/-- The value of a variable. -/
def value (p : Process) (name : String) : Bytes :=
  match name with
  | "?" => Decimal.digits p.status
  | "$" => Decimal.digits p.shell
  | "!" => (p.lastJob.map Decimal.digits).getD []
  | "#" => Decimal.digits 0
  | "0" => utf8 "/bin/sh"
  | _ => (p.bindings.lookup name).getD []

/-- Assign to a variable. -/
def assign (p : Process) (name : String) (bytes : Bytes) : Process :=
  { p with bindings := (name, bytes) :: p.bindings.filter (·.1 ≠ name) }

/-- Do tasks before all others. -/
def push (p : Process) (tasks : List Task) : Process := { p with tasks := tasks ++ p.tasks }

/-- Have a status. -/
def withStatus (p : Process) (status : Nat) : Process := { p with status }

/-- Drop what is left of the program that is running. -/
def dropProgram (p : Process) : Process := { p with tasks := p.tasks.dropWhile Task.isProgram }

/-- The channels that a process holds. -/
def held (p : Process) : List Nat := p.fds.values ++ p.tasks.flatMap Task.held

/-- When a sleeping process wakes up. -/
def wakeAt? (p : Process) : Option Nat :=
  match p.ended, p.tasks with
  | none, .sleep t :: _ => some t
  | _, _ => none

/-- Leave the innermost loop, or only its round. What changed the file descriptors is undone. -/
def leaveLoop (p : Process) (onlyRound : Bool) : Process :=
  let inside := p.tasks.takeWhile fun t => ¬ t.beginsRound
  let outside := p.tasks.drop inside.length
  let undone := inside.filter fun
    | .restore _ => true
    | _ => false
  { p with tasks := undone ++ if onlyRound then outside else outside.drop 1, status := 0 }

/-- Split a line over variables; the last one gets the rest of it. -/
def assignLine (p : Process) : List String → Bytes → Process
  | [], _ => p
  | [name], line =>
    let trimmed := (line.dropWhile separates).reverse.dropWhile separates
    p.assign name trimmed.reverse
  | name :: names, line =>
    let line := line.dropWhile separates
    (p.assign name (line.takeWhile (¬ separates ·))).assignLine names
      (line.dropWhile (¬ separates ·))

end Process

end Squitter.Shell
