import Squitter.Machine.Programs

/-!
# Running processes

Each process does its tasks one after the other; a task that has to wait is tried again later. A
round gives every process a number of steps, and `work` goes through rounds until all processes
wait, so what they do takes no time.
-/

namespace Squitter.Machine

open Shell (Process Task Command Word)

/-! ## Commands -/

/-- Begin a simple command. -/
def runSimple (m : Machine) (id : Nat) (p : Process) (assignments : List (String × Word))
    (words : List Word) (redirects : List Shell.Redirect) : Machine :=
  match words.flatMap (Word.fields p.value) with
  | [] =>
    let p := assignments.foldl (fun p (name, w) => p.assign name (Word.joined p.value w)) p
    let kept := assignments.any fun (_, w) => w.any fun
      | .value _ _ => true
      | _ => false
    let (wrong, p, m) := m.redirectFor p redirects
    match wrong with
    | some message => (m.complainInShell p message).setProcess id (p.withStatus 2)
    | none => m.setProcess id (p.withStatus (if kept then p.status else 0))
  | name :: args =>
    if text name = "exec" then
      let (wrong, p, m) := m.redirect p redirects
      match wrong, args with
      | some message, _ =>
        let (p, m) := (m.complainInShell p message).dropTasks p
        m.setProcess id (p.withStatus 2)
      | none, [] => m.setProcess id (p.withStatus 0)
      | none, program :: args =>
        let (p, m) := m.dropTasks p
        m.invoke id { p with traps := p.traps.filter (·.2 = "") } false (text program) args
    else
      let (wrong, p, m) := m.redirectFor p redirects
      match wrong with
      | some message => (m.complainInShell p message).setProcess id (p.withStatus 2)
      | none => m.invoke id p true (text name) args

/-- Start a process for a command of which the output is needed, and gather it. -/
def runForOutput (m : Machine) (id : Nat) (p : Process) (command : String) (c : Command) :
    Machine :=
  match Command.parse command with
  | .error fault => (m.complainInShell p fault.message).setProcess id (p.withStatus 2)
  | .ok inner =>
    let ((near, far), m) := m.socketPair
    let (child, m) := m.fork id p (p.fds.insert 1 far) [.run inner]
    (m.release far).setProcess id (p.push [.gather near child [] c])

/-- Begin a command. -/
def runCommand (m : Machine) (id : Nat) (p : Process) : Command → Machine
  | .nothing => m.setProcess id p
  | .simple assignments words redirects =>
    let needed := (words ++ assignments.map (·.2)).findSome? Word.firstOutput?
    match needed with
    | some command => m.runForOutput id p command (.simple assignments words redirects)
    | none => m.runSimple id p assignments words redirects
  | .redirected body redirects =>
    let (wrong, p, m) := m.redirectFor p redirects
    match wrong with
    | some message => (m.complainInShell p message).setProcess id (p.withStatus 2)
    | none => m.setProcess id (p.push [.run body])
  | .subshell body =>
    let (child, m) := m.fork id p p.fds [.run body]
    m.setProcess id (p.push [.await child])
  | .background body =>
    let (input, m) := m.openPath "/dev/null" (shellMode .read)
    let fds := match input with
      | .ok c => p.fds.insert 0 c
      | .error _ => p.fds.erase 0
    let (child, m) := m.fork id p fds [.run body]
    let m := match input with
      | .ok c => m.release c
      | .error _ => m
    m.setProcess id { p with lastJob := some child, status := 0 }
  | .pipe source sink =>
    let ((near, far), m) := m.socketPair
    let (first, m) := m.fork id p (p.fds.insert 1 far) [.run source]
    let (second, m) := m.fork id p (p.fds.insert 0 near) [.run sink]
    ((m.release near).release far).setProcess id (p.push [.await first, .await second])
  | .sequence first second => m.setProcess id (p.push [.run first, .run second])
  | .both first second => m.setProcess id (p.push [.run first, .check true second])
  | .either first second => m.setProcess id (p.push [.run first, .check false second])
  | .negated body => m.setProcess id (p.push [.run body, .invert])
  | .conditional test yes no => m.setProcess id (p.push [.run test, .choose yes no])
  | .loop untilTrue test body => m.setProcess id (p.push [.loop untilTrue test body])
  | .each name values body =>
    match values.findSome? Word.firstOutput? with
    | some command => m.runForOutput id p command (.each name values body)
    | none =>
      m.setProcess id (p.push [.next name (values.flatMap (Word.fields p.value)) body])

/-- A command in which the output of an inner command has taken its place. -/
def filled (bytes : Bytes) : Command → Command
  | .simple assignments words redirects =>
    if words.any fun w => (Word.firstOutput? w).isSome then
      .simple assignments (Word.fillFirst bytes words) redirects
    else
      let values := Word.fillFirst bytes (assignments.map (·.2))
      .simple ((assignments.map (·.1)).zip values) words redirects
  | .each name values body => .each name (Word.fillFirst bytes values) body
  | c => c

/-! ## Tasks -/

/-- Write to a file descriptor. To write where nobody reads ends a program, or the shell itself. -/
def stepWrite (m : Machine) (id : Nat) (p : Process) (fd : Nat) (bytes : Bytes) (inShell : Bool) :
    Option Machine :=
  match p.fds.get? fd with
  | none => some (m.setProcess id (p.withStatus 1))
  | some c =>
    if bytes.isEmpty then some (m.setProcess id p)
    else if m.isFull c then none
    else
      match m.writeAt c bytes with
      | (.ok n, m) =>
        let rest := bytes.drop n
        some (m.setProcess id (if rest.isEmpty then p else p.push [.write fd rest inShell]))
      | (.error .badDescriptor, m) => some (m.setProcess id (p.withStatus 1))
      | (.error _, m) =>
        if inShell then some ((m.setProcess id p).finish id 141)
        else some (m.setProcess id (p.dropProgram.withStatus 141))

/-- Copy what can be read from the input. -/
def stepCopy (m : Machine) (id : Nat) (p : Process) (amount : Shell.Amount) (fds : List Nat) :
    Option Machine :=
  if amount.isDone then some (m.setProcess id p)
  else
    match p.fds.get? 0 with
    | none => some (m.setProcess id (p.withStatus 1))
    | some c =>
      match m.arrivalsAt c with
      | .data bytes :: _ =>
        let (front, amount) := amount.take bytes
        let used := if (m.socket? c).isSome then bytes.length else front.length
        let writes := fds.map fun fd => Task.write fd front false
        some ((m.tookAt c used).setProcess id (p.push (writes ++ [.copy amount fds])))
      | .wouldBlock :: _ => none
      | .failed _ :: _ => some (m.setProcess id (p.withStatus 1))
      | _ => some (m.setProcess id p)

/-- Read a line from the input. -/
def stepReadLine (m : Machine) (id : Nat) (p : Process) (names : List String) (raw : Bool)
    (got : Bytes) : Option Machine :=
  let assigned (line : Bytes) (status : Nat) : Process :=
    let plain := if raw then line else line.filter (· ≠ 92)
    (p.assignLine names plain).withStatus status
  match p.fds.get? 0 with
  | none => some (m.setProcess id (assigned got 1))
  | some c =>
    match m.arrivalsAt c with
    | .data bytes :: _ =>
      let front := bytes.takeWhile (· ≠ 10)
      if front.length < bytes.length then
        some ((m.tookAt c (front.length + 1)).setProcess id (assigned (got ++ front) 0))
      else
        some ((m.tookAt c bytes.length).setProcess id
          (p.push [.readLine names raw (got ++ bytes)]))
    | .wouldBlock :: _ => none
    | _ => some (m.setProcess id (assigned got 1))

/-- Gather the output of a process that is then waited for. -/
def stepGather (m : Machine) (id : Nat) (p : Process) (channel child : Nat) (got : Bytes)
    (c : Command) : Option Machine :=
  match m.arrivalsAt channel with
  | .data bytes :: _ =>
    some ((m.tookAt channel bytes.length).setProcess id
      (p.push [.gather channel child (got ++ bytes) c]))
  | .wouldBlock :: _ => none
  | _ =>
    match (m.processes.get? child).bind (·.ended) with
    | none => if m.hasEnded child then some (m.setProcess id p) else none
    | some status =>
      let output := (got.reverse.dropWhile (· = 10)).reverse
      let m := { m.release channel with processes := m.processes.erase child }
      some (m.setProcess id ((p.push [.run (filled output c)]).withStatus status))

/-- Do a task, unless it has to wait. -/
def stepTask (m : Machine) (id : Nat) (p : Process) : Task → Option Machine
  | .run c => some (m.runCommand id p c)
  | .check succeeded c =>
    some (m.setProcess id (if (p.status = 0) = succeeded then p.push [.run c] else p))
  | .invert => some (m.setProcess id (p.withStatus (if p.status = 0 then 1 else 0)))
  | .choose yes no => some (m.setProcess id (p.push [.run (if p.status = 0 then yes else no)]))
  | .loop untilTrue test body =>
    some (m.setProcess id (p.push [.run test, .decide untilTrue test body]))
  | .decide untilTrue test body =>
    some (m.setProcess id
      (if (p.status = 0) = ¬ untilTrue then p.push [.run body, .loop untilTrue test body]
      else p.withStatus 0))
  | .next _ [] _ => some (m.setProcess id p)
  | .next name (value :: values) body =>
    some (m.setProcess id ((p.assign name value).push [.run body, .next name values body]))
  | .restore fds => some ((m.releaseAll p.fds.values).setProcess id { p with fds })
  | .await child =>
    match m.processes.get? child with
    | none => some (m.setProcess id (p.withStatus 127))
    | some q =>
      q.ended.map fun status =>
        { m with processes := m.processes.erase child }.setProcess id (p.withStatus status)
  | .awaitAll =>
    if m.processes.values.any fun q => q.parent = id ∧ q.ended.isNone then none
    else some (m.setProcess id (p.withStatus 0))
  | .gather channel child got c => m.stepGather id p channel child got c
  | .write fd bytes inShell => m.stepWrite id p fd bytes inShell
  | .copy amount fds => m.stepCopy id p amount fds
  | .sleep wakeAt => if wakeAt ≤ m.clock then some (m.setProcess id p) else none
  | .readLine names raw got => m.stepReadLine id p names raw got
  | .writeForever line =>
    some (m.setProcess id (p.push [.write 1 line false, .writeForever line]))

/-! ## Scheduling -/

/-- A process without tasks ends, after its last trap. -/
def stepEnd (m : Machine) (id : Nat) (p : Process) : Machine :=
  match p.traps.lookup 0 with
  | none => m.finish id p.status
  | some command =>
    let p := { p with traps := p.traps.filter (·.1 ≠ 0) }
    match Command.parse command with
    | .ok c => m.setProcess id (p.push [.run c])
    | .error _ => m.finish id p.status

/-- One step of a process, unless it has ended or has to wait. -/
def step (m : Machine) (id : Nat) : Option Machine :=
  match m.processes.get? id with
  | none => none
  | some p =>
    if p.ended.isSome then none
    else
      match p.tasks with
      | [] => some (m.stepEnd id p)
      | t :: tasks => m.stepTask id { p with tasks } t

/-- Steps of a process, at most `n`; the flag tells that there was one. -/
def steps (id : Nat) : Nat → Machine → Bool × Machine
  | 0, m => (false, m)
  | n + 1, m =>
    match m.step id with
    | none => (false, m)
    | some m => (true, (steps id n m).2)

/-- How many steps a process makes in a round. -/
def roundSteps : Nat := 32

/-- Let every process make its steps; the flag tells that there were any. -/
def round (m : Machine) : Bool × Machine :=
  m.processes.keys.foldl
    (fun (any, m) id =>
      let (moved, m) := steps id roundSteps m
      (any || moved, m))
    (false, m)

/-- How many rounds there are at most at one time. -/
def roundLimit : Nat := 200

/-- Rounds until no process moves, at most `n`. -/
def rounds : Nat → Machine → Machine
  | 0, m => m
  | n + 1, m =>
    let (moved, m) := m.round
    if moved then rounds n m else m

/-- Let the processes work. -/
def work (m : Machine) : Machine := rounds roundLimit m

/-- When the first of the sleeping processes wakes up. -/
def nextWake? (m : Machine) : Option Nat :=
  (m.processes.values.filterMap Process.wakeAt?).min?

/-! ## Children of the bus -/

/-- Start a shell for a command, which reads and writes one channel and writes messages to another
one. Both were held for it. -/
def startShell (m : Machine) (command : String) (channel messages : Nat) : Nat × Machine :=
  let id := m.nextProcess
  let fds := ((Table.empty.insert 0 channel).insert 1 channel).insert 2 messages
  let p : Process := {
    parent := busProcess
    group := id
    shell := id
    fds
    bindings := [("PPID", Decimal.digits busProcess), ("HOME", utf8 "/"), ("PWD", utf8 "/")]
    tasks := []
    status := 0
    traps := []
    lastJob := none
    ended := none }
  let (m, p) := match Command.parse command with
    | .ok c => (m, p.push [.run c])
    | .error fault => (m.complainInShell p fault.message, p.withStatus 2)
  let (id, m) := m.start p
  (id, (m.release channel).release messages)

end Squitter.Machine
