import Squitter.Machine.Interfaces
import Squitter.Session

/-!
# Trying a bus

A **trial** (`Trial`) is a bus on a machine together with somebody at that machine who changes
files in a directory, connects to the bus or lets it connect, and waits for what the bus does.
Ports and connections have names.
-/

namespace Squitter

/-- A bus on a machine, and the ports, listeners and connections of the one who tries it. -/
structure Trial where
  station : Station Machine
  ports : List (String × Nat)
  listeners : List (String × Nat)
  connections : List (String × Nat)

namespace Trial

/-- The directory of the trial. -/
def directory : String := "/w"

/-- The path of a file of the directory. -/
def path (name : String) : String := directory ++ "/" ++ name

/-- A machine with the directory. -/
def machine : Machine :=
  let m := Machine.boot false
  (m.createAt directory (.directory [])).getD m

/-- A trial that begins. -/
def fresh (settings : Settings) (server : Server) : Trial :=
  ⟨.fresh settings server machine, [], [], []⟩

/-- The machine. -/
def host (t : Trial) : Machine := t.station.host

/-- Replace the machine. -/
def withHost (t : Trial) (m : Machine) : Trial := { t with station := t.station.withHost m }

/-! ## Time -/

/-- Let the bus turn a number of times. -/
def turn : Nat → Trial → Trial
  | 0, t => t
  | n + 1, t => turn n { t with station := Bus.handler.turn (some 0) t.station }

/-- How many turns the bus gets to deal with what happened. -/
def settleTurns : Nat := 12

/-- Let the bus deal with what happened. -/
def settle (t : Trial) : Trial := t.turn settleTurns

/-- Let the bus turn while time passes, until something holds, a number of times at most. Before
each turn something is done. -/
def await (holds : Trial → Bool) (before : Trial → Trial) : Nat → Trial → Bool × Trial
  | 0, t => (holds t, t)
  | n + 1, t =>
    if holds t then (true, t)
    else
      let t := (before t).turn 1
      if holds t then (true, t)
      else await holds before n (t.withHost (t.host.pass 5))

/-! ## Endpoints -/

/-- Fill in the names in the value of an option: `$name` is a port, `@` is the directory, and the
path of a file is in the directory. -/
def fillIn (t : Trial) (option value : String) : String :=
  let value := t.ports.foldl (fun v (name, p) => v.replace ("$" ++ name) (Decimal.text p)) value
  let value := value.replace "@" directory
  if option = "file-read" then path value
  else if option.startsWith "file-" then
    match cut? '=' value with
    | some (format, name) => format ++ "=" ++ path name
    | none => value
  else value

/-- Add the endpoint of an option. -/
def addEndpoint (t : Trial) (option value : String) : Except ConfigError Trial := do
  let e ← Endpoint.parse option (t.fillIn option value)
  return { t with station := t.station.addEndpoint e }

/-- Let the bus turn while it has something to do, a number of times at most. -/
def run (t : Trial) (limit : Nat) : Nat × Trial :=
  let (turns, station) := Bus.handler.run (some 0) limit t.station
  (turns, { t with station })

/-- The bus has told something that begins with a text. -/
def isTold (t : Trial) (text : String) : Bool :=
  t.station.state.notices.any fun n => text.isPrefixOf n.message

/-- Let the bus turn until it has told each of some texts, with or without being told each time that
a child may have ended. -/
def awaitTold (t : Trial) (texts : List String) (childEnded : Bool) : Bool × Trial :=
  let before (t : Trial) : Trial :=
    if childEnded then { t with station := t.station.onSignal .child } else t
  t.await (fun t => texts.all t.isTold) before 2000

/-! ## Files -/

/-- What the directory holds: the content of each file, and nothing for a directory. -/
def listing (t : Trial) : List (String × Option Bytes) :=
  match t.host.files.nodeAt? directory with
  | some (_, .directory entries) => entries.map fun (name, _) =>
    match t.host.files.nodeAt? (path name) with
    | some (_, .directory _) => (name, none)
    | some (_, .file data) => (name, some data)
    | _ => (name, some [])
  | _ => []

/-- Open a file of the directory, write to it and close it. -/
def write (t : Trial) (name : String) (append : Bool) (data : Bytes) : Bool × Trial :=
  let mode : Files.OpenMode := ⟨false, true, true, ¬ append, append, true⟩
  match t.host.openPath (path name) mode with
  | (.error _, m) => (false, t.withHost m)
  | (.ok c, m) => (true, t.withHost ((m.writeAt c data).2.release c))

/-- Put a node into the directory under a new name. -/
def create (t : Trial) (name : String) (node : Node) : Bool × Trial :=
  match t.host.files.locate false (path name) with
  | .ok ⟨parent, name, none⟩ =>
    (true, t.withHost { t.host with files := (t.host.files.create parent name node).2 })
  | _ => (false, t)

/-- Remove a file of the directory. -/
def remove (t : Trial) (name : String) : Bool × Trial :=
  match t.host.files.locate false (path name) with
  | .ok ⟨parent, name, some n⟩ =>
    match t.host.files.nodes.get? n with
    | some (.directory _) => (false, t)
    | _ =>
      (true, t.withHost { t.host with files := t.host.files.unlink ⟨parent, name, some n⟩ })
  | _ => (false, t)

/-- Let the bus turn until a file has a number of bytes. -/
def awaitFile (t : Trial) (name : String) (size : Nat) : Bool × Trial :=
  t.await (fun t => match t.host.files.contentAt? (path name) with
    | some data => size ≤ data.length
    | none => false) id 200

/-! ## Connections -/

/-- The port with a name, a new one if it has none. -/
def port (t : Trial) (name : String) : Nat × Trial :=
  match t.ports.lookup name with
  | some p => (p, t)
  | none =>
    let p := 40001 + t.ports.length
    (p, { t with ports := t.ports ++ [(name, p)] })

/-- The address of a port of this machine. -/
def loopback (port : Nat) : Address := ⟨Ip.ofNumber 0x7F000001, .ofNat port⟩

/-- Listen on the port with a name. -/
def listen (t : Trial) (name : String) : Trial :=
  let (p, t) := t.port name
  match t.host.listenOn (loopback p) with
  | (.ok c, m) => { t.withHost m with listeners := (name, c) :: t.listeners }
  | (.error _, m) => t.withHost m

/-- Listen no longer; the answer tells whether the name was known. -/
def unlisten (t : Trial) (name : String) : Bool × Trial :=
  match t.listeners.lookup name with
  | some c =>
    (true, { t.withHost (t.host.release c) with
      listeners := t.listeners.filter (·.1 ≠ name) })
  | none => ((t.ports.lookup name).isSome, t)

/-- Give a name to a connection. -/
def addConnection (t : Trial) (name : String) (c : Nat) : Trial :=
  { t with connections := (name, c) :: t.connections }

/-- Wait until the bus connects to a listener. -/
def accept (t : Trial) (listener name : String) : Bool × Trial :=
  match t.listeners.lookup listener with
  | none => (false, t.settle)
  | some c =>
    let waits (t : Trial) : Bool := match t.host.channels.get? c with
      | some ⟨.listener _ (_ :: _), _⟩ => true
      | _ => false
    let t := (t.await waits id 200).2
    match t.host.acceptAll c with
    | (near :: _, m) => (true, ((t.withHost m).addConnection name near).settle)
    | ([], m) => (false, t.withHost m)

/-- Connect to a port, once the bus listens there. -/
def connect (t : Trial) (server name : String) : Bool × Trial :=
  let (p, t) := t.port server
  let attempt (t : Trial) : Except IoError Nat × Machine := t.host.connectTo (loopback p)
  let t := (t.await (fun t => (attempt t).1.toOption.isSome) id 40).2
  match attempt t with
  | (.ok c, m) => (true, ((t.withHost m).addConnection name c).settle)
  | (.error _, m) => (false, t.withHost m)

/-- Write to a connection, if there is one of the name. -/
def send (t : Trial) (name : String) (data : Bytes) : Option Bool × Trial :=
  match t.connections.lookup name with
  | none => (none, t.settle)
  | some c =>
    let (r, m) := t.host.writeAt c data
    (some r.toOption.isSome, (t.withHost m).settle)

/-- Stop writing to a connection, if there is one of the name. -/
def stopSending (t : Trial) (name : String) : Option Bool × Trial :=
  match t.connections.lookup name with
  | none => (none, t.settle)
  | some c => (some true, (t.withHost (t.host.shutdown c)).settle)

/-- Close a connection, if there is one of the name. -/
def hangUp (t : Trial) (name : String) : Bool × Trial :=
  match t.connections.lookup name with
  | none => (false, t.settle)
  | some c =>
    let t := (t.withHost (t.host.release c)).settle
    (true, { t with connections := t.connections.filter (·.1 ≠ name) })

/-- Read what arrived on a connection and whether it has ended, if there is one of the name. -/
def receive (t : Trial) (name : String) : Option (Bytes × Bool) × Trial :=
  let t := t.settle
  match t.connections.lookup name with
  | none => (none, t)
  | some c =>
    match t.host.socket? c with
    | none => (some ([], true), t)
    | some s => (some (s.inbox, s.ended), t.withHost (t.host.tookAt c s.inbox.length))

/-! ## Sessions -/

/-- What is left of a session on a machine: its outcome, and what went to its standard output. -/
structure Session where
  outcome : Outcome
  output : Bytes

/-- How many turns a session has at most. -/
def sessionTurns : Nat := 20000

/-- A session on a new machine, with all of its input there from the start and nothing after it. -/
def session (arguments : List String) (maxHops : Option String) (input : Bytes) : Session :=
  let (m, far) := machine.withInput input
  let (outcome, m) := (Plan.make arguments maxHops).carryOut sessionTurns m
  let written := ((m.socket? far).map (·.inbox)).getD []
  ⟨outcome, utf8 outcome.printed ++ written⟩

end Trial

end Squitter
