import Squitter.Machine.Names
import Squitter.Machine.Scheduler

/-!
# The machine as the bus sees it

The interfaces of `Squitter.Host` on a machine. The processes of the
machine work while the bus waits.
-/

namespace Squitter.Machine

/-! ## Streams -/

/-- Identity of what a channel leads to. Files and connections are numbered apart; the null device
has no identity. -/
def identityOf (m : Machine) (c : Nat) : Option Nat :=
  match m.channels.get? c with
  | some ⟨.file f, _⟩ =>
    match m.files.nodes.get? f.node with
    | some .null => none
    | _ => some (2 * f.node)
  | _ => some (2 * c + 1)

/-- A stream on a channel that the bus holds. -/
def stream (m : Machine) (c : Nat) : Stream × Machine :=
  let (handle, m) := m.newHandle c
  let (socket, regular) := match m.channels.get? c with
    | some ⟨.socket _, _⟩ => (true, false)
    | some ⟨.file f, _⟩ =>
      match m.files.nodes.get? f.node with
      | some (.file _) => (false, true)
      | _ => (false, false)
    | _ => (false, false)
  (⟨handle, m.identityOf c, socket, regular⟩, m)

/-- The channel behind a handle; number 0 is never one. -/
def channelOf (m : Machine) (handle : Nat) : Nat :=
  (m.handles.get? handle).getD 0

/-- A second stream on the same channel. -/
def duplicate (s : Stream) (m : Machine) : Except IoError Stream × Machine :=
  match m.handles.get? s.handle with
  | none => (.error .badDescriptor, m)
  | some c =>
    let (handle, m) := (m.hold c).newHandle c
    (.ok { s with handle }, m)

instance : Streams Machine where
  arrivals s m := m.arrivalsAt (m.channelOf s.handle)
  took s n m := m.tookAt (m.channelOf s.handle) n
  write s bytes m := m.writeAt (m.channelOf s.handle) bytes
  shutdownWrite s m := if s.socket then m.shutdown (m.channelOf s.handle) else m
  duplicate := duplicate
  close s m := m.closeHandle s.handle

/-! ## Chance -/

/-- The next of a sequence of numbers that look random. -/
def draw (m : Machine) : UInt64 × Machine :=
  let x := m.chance * 6364136223846793005 + 1442695040888963407
  (x ^^^ (x >>> 29), { m with chance := x })

/-- An identity of the random kind. -/
def drawId (m : Machine) : Uuid × Machine :=
  let (a, m) := m.draw
  let (b, m) := m.draw
  let bytes := Bytes.bigEndian 8 a.toNat ++ Bytes.bigEndian 8 b.toNat
  let marked := (bytes.set 6 (bytes[6]! &&& 0x0F ||| 0x40)).set 8 (bytes[8]! &&& 0x3F ||| 0x80)
  ((Uuid.ofBytes? marked).getD .nil, m)

/-! ## Files -/

/-- A stream for one of the standard channels, which are no sockets to their user. -/
def standard (c : Nat) (m : Machine) : Except IoError Stream × Machine :=
  if m.channels.contains c then
    let (s, m) := (m.hold c).stream c
    (.ok { s with socket := false }, m)
  else (.error .badDescriptor, m)

/-! ## The network -/

/-- An address that leads to this machine. -/
def isLocal (a : Address) : Bool :=
  match a.ip with
  | .v4 octets => octets[0]? = some 127 ∨ a.ip = Ip.ofNumber 0
  | .v6 _ => a.ip = Ip.ofGroups [] ∨ a.ip = Ip.ofGroups [0, 0, 0, 0, 0, 0, 0, 1]

/-- The channel that listens on a port, with those who wait there. -/
def listener? (m : Machine) (port : UInt16) : Option (Nat × List Nat) :=
  m.channels.entries.findSome? fun (c, ch) =>
    match ch.kind with
    | .listener p waiting => if p = port then some (c, waiting) else none
    | _ => none

/-- Connect to a port of this machine: the channel of the side that connects. -/
def connectTo (m : Machine) (a : Address) : Except IoError Nat × Machine :=
  if ¬ m.online ∨ ¬ isLocal a then (.error .networkUnreachable, m)
  else
    match m.listener? a.port with
    | none => (.error .connectionRefused, m)
    | some (l, waiting) =>
      let ((near, far), m) := m.socketPair
      (.ok near, (m.setKind l (.listener a.port (waiting ++ [far]))).touch l)

/-- Listen on a port of this machine. -/
def listenOn (m : Machine) (a : Address) : Except IoError Nat × Machine :=
  if ¬ m.online ∨ ¬ isLocal a then (.error .addressUnavailable, m)
  else if (m.listener? a.port).isSome then (.error .addressInUse, m)
  else
    let (c, m) := m.newChannel (.listener a.port [])
    (.ok c, m)

/-- Those who wait at a listener. -/
def acceptAll (m : Machine) (c : Nat) : List Nat × Machine :=
  match m.channels.get? c with
  | some ⟨.listener port waiting, _⟩ => (waiting, m.setKind c (.listener port []))
  | _ => ([], m)

/-- Streams on channels that the bus holds. -/
def streams (m : Machine) : List Nat → List Stream × Machine
  | [] => ([], m)
  | c :: cs =>
    let (s, m) := m.stream c
    let (ss, m) := m.streams cs
    (s :: ss, m)

/-- A channel as a stream, if there is one. -/
def asStream : Except IoError Nat × Machine → Except IoError Stream × Machine
  | (.error e, m) => (.error e, m)
  | (.ok c, m) =>
    let (s, m) := m.stream c
    (.ok s, m)

/-- Let the workers of the resolver work. -/
def resolve (m : Machine) : Machine :=
  let rung := m.resolver.round.round.round.round
  let lookups := m.channels.entries.filterMap fun (c, ch) =>
    match ch.kind with
    | .lookup ticket => if rung.wakes ticket ∧ ¬ m.resolver.wakes ticket then some c else none
    | _ => none
  lookups.foldl touch { m with resolver := rung }

/-! ## Waiting -/

/-- Time passes, in which the processes work. -/
def pass (m : Machine) (time : Nat) : Machine :=
  work { m with clock := m.clock + time, looks := 0 }

/-- How often the bus can look before the processes have had time to work. -/
def looksPerTime : Nat := 64

/-- See what is ready, which takes hardly any time. -/
def look (m : Machine) : Polled × Machine :=
  let m := if looksPerTime ≤ m.looks then m.pass 1 else { m with looks := m.looks + 1 }
  m.resolve.collect

/-- How long to wait at most before something happens: to the limit, or until a process wakes up. -/
def patience (m : Machine) (limit : Option Nat) : Nat :=
  (limit.toList ++ (m.nextWake?.map (· - m.clock)).toList).min?.getD 0

/-- Nothing is ready. -/
def isQuiet (polled : Polled) : Bool := polled.ready.isEmpty ∧ polled.signals.isEmpty

/-- Wait for something to happen, or for a time. -/
def wait (limit : Option Nat) (m : Machine) : Polled × Machine :=
  let (polled, m) := m.look
  if isQuiet polled ∧ limit ≠ some 0 then
    let (polled, m) := look (m.pass 1)
    if isQuiet polled then look (m.pass (m.patience (limit.map (· - 1)))) else (polled, m)
  else (polled, m)

instance : Poller Machine where
  now m := m.clock
  watch handle interest token m := m.watchAt (m.channelOf handle) interest token
  unwatch token m := m.unwatchToken token
  poll := wait
  hearSignals m := { m with hears := true }

/-! ## Children -/

/-- Run a command in a shell. A text with a zero character cannot be given to one. -/
def spawn (command : String) (m : Machine) : Except IoError Spawned × Machine :=
  if command.contains (Char.ofNat 0) then (.error .nulInName, m)
  else
    let ((near, far), m) := m.socketPair
    let ((nearMessages, farMessages), m) := m.socketPair
    let (child, m) := m.startShell command far farMessages
    let (stream, m) := m.stream near
    let (messages, m) := m.stream nearMessages
    (.ok ⟨child, stream, messages⟩, m)

/-! ## Everything -/

instance : Host Machine where
  freshId := drawId
  random bound m :=
    let (x, m) := m.draw
    (x % bound, m)
  openFile path mode alsoRead m := asStream (m.openPath path (.ofFileMode mode alsoRead))
  openStdin m := m.standard m.stdin
  openStdout m := m.standard m.stdout
  lookup q m :=
    let (ticket, resolver) := m.resolver.ask q
    let (c, m) := { m with resolver }.newChannel (.lookup ticket)
    let (s, m) := m.stream c
    (.ok s, m)
  answer s m :=
    match m.channels.get? (m.channelOf s.handle) with
    | some ⟨.lookup ticket, _⟩ =>
      match m.resolver.take ticket with
      | (.answer a, resolver) => (.answered a, { m with resolver })
      | (.pending, resolver) => (.pending, { m with resolver })
      | (.over, resolver) => (.answered (.error .unknownHost), { m with resolver })
    | _ => (.answered (.error .badDescriptor), m)
  connect a m :=
    match asStream (m.connectTo a) with
    | (.ok s, m) => (.ok (s, false), m)
    | (.error e, m) => (.error e, m)
  connected s m :=
    match m.socket? (m.channelOf s.handle) with
    | some e => (if e.gone then .error .connectionReset else .ok (), m)
    | none => (.error .notConnected, m)
  listen a m := asStream (m.listenOn a)
  accept s m :=
    let (cs, m) := m.acceptAll (m.channelOf s.handle)
    m.streams cs
  spawn := spawn
  hasEnded child m :=
    if m.hasEnded child then (.ok true, { m with processes := m.processes.erase child })
    else (.ok false, m)
  terminate child m := m.signalGroup child 15
  kill child m := m.signalGroup child 9

/-! ## A new machine -/

/-- A machine with no file but the null device. Its standard input and output are connections of
which the bus has one end; what holds the other end is not part of the machine. -/
def boot (online : Bool) : Machine :=
  let (dev, files) := Files.empty.create 0 "dev" (.directory [])
  let m : Machine := {
    files := (files.create dev "null" .null).2
    channels := .empty
    nextChannel := 1
    handles := .empty
    nextHandle := 0
    watches := .empty
    touched := []
    signals := []
    hears := false
    processes := .empty
    nextProcess := busProcess + 1
    looks := 0
    clock := 0
    chance := 0
    resolver := .start 4
    online
    stdin := 0
    stdout := 0 }
  let ((stdin, _), m) := m.socketPair
  let ((stdout, _), m) := m.socketPair
  { m with stdin, stdout }

/-- Add a file to a machine, with the directories above it. -/
def addFile (m : Machine) (path : String) (data : Bytes) : Machine :=
  let names := Files.parts path
  let add (acc : Machine × String) (name : String) : Machine × String :=
    let dir := acc.2 ++ "/" ++ name
    ((acc.1.createAt dir (.directory [])).getD acc.1, dir)
  let m := (names.dropLast.foldl add (m, "")).1
  (m.createAt path (.file data)).getD m

/-- Put all input into the standard input, and tell where the standard output can be read. -/
def withInput (m : Machine) (input : Bytes) : Machine × Nat :=
  match m.socket? m.stdin, m.socket? m.stdout with
  | some i, some o => (((m.writeAt i.peer input).2.shutdown i.peer), o.peer)
  | _, _ => (m, 0)

end Squitter.Machine
