import Squitter.Host
import Squitter.Machine.Files
import Squitter.Resolver
import Squitter.Shell.Process

/-!
# A computer in memory

A **machine** (`Machine`) is a computer on which the bus can run without a real one: files, sockets,
processes and a clock, all in one value. Whatever is open is a **channel**, held by handles of the
bus and by the processes it started; a channel that nobody holds any more is closed.

Watching works by edges: a watched channel is reported once when something new happens to it.
-/

namespace Squitter

/-! ## Channels -/

/-- An open file and the place in it where it is read and written. -/
structure OpenFile where
  node : Nat
  offset : Nat
  mode : Files.OpenMode

/-- One end of a connection. -/
structure Socket where
  peer : Nat
  /-- What arrived and was not read. -/
  inbox : Bytes
  /-- Nothing more will arrive. -/
  ended : Bool
  /-- The other end is closed. -/
  gone : Bool
  /-- The other end was closed before it had read all. -/
  reset : Bool
  /-- Writing was stopped at this end. -/
  shut : Bool

/-- What a channel leads to. -/
inductive Channel.Kind
  | file (f : OpenFile)
  | socket (s : Socket)
  /-- Connections to the port that were not accepted yet, by the channel of this side. -/
  | listener (port : UInt16) (waiting : List Nat)
  /-- A lookup that is not finished, or is. -/
  | lookup (ticket : Nat)

/-- Something open, with the number of its holders. -/
structure Channel where
  kind : Channel.Kind
  holders : Nat

/-- What a token watches. -/
structure Watch where
  channel : Nat
  interest : Interest

/-! ## Machines -/

/-- The state of the machine. The clock is in milliseconds. -/
structure Machine where
  files : Files
  channels : Table Channel
  nextChannel : Nat
  handles : Table Nat
  nextHandle : Nat
  watches : Table Watch
  /-- Tokens to which something happened, the first first. -/
  touched : List Nat
  /-- Signals for the bus that were not reported yet. -/
  signals : List Signal
  /-- Signals for the bus are reported. -/
  hears : Bool
  processes : Table Shell.Process
  nextProcess : Nat
  /-- How often the bus looked at what is ready since the processes worked. -/
  looks : Nat
  clock : Nat
  chance : UInt64
  resolver : Resolver
  /-- The network can be used. -/
  online : Bool
  stdin : Nat
  stdout : Nat

namespace Machine

/-! ## Holding channels -/

/-- Something happened to a channel. -/
def touch (m : Machine) (c : Nat) : Machine :=
  let tokens := (m.watches.entries.filter fun e => e.2.channel = c).map (·.1)
  { m with touched := m.touched ++ tokens.filter (· ∉ m.touched) }

/-- Replace what a channel leads to. -/
def setKind (m : Machine) (c : Nat) (kind : Channel.Kind) : Machine :=
  { m with channels := m.channels.modify c fun ch => { ch with kind } }

/-- The socket at a channel. -/
def socket? (m : Machine) (c : Nat) : Option Socket :=
  match m.channels.get? c with
  | some ⟨.socket s, _⟩ => some s
  | _ => none

/-- A new channel with one holder. -/
def newChannel (m : Machine) (kind : Channel.Kind) : Nat × Machine :=
  (m.nextChannel,
    { m with
      channels := m.channels.insert m.nextChannel ⟨kind, 1⟩
      nextChannel := m.nextChannel + 1 })

/-- One more holder. -/
def hold (m : Machine) (c : Nat) : Machine :=
  { m with channels := m.channels.modify c fun ch => { ch with holders := ch.holders + 1 } }

/-- The other end of a socket is closed. -/
def hangUp (m : Machine) (c : Nat) (unread : Bool) : Machine :=
  match m.socket? c with
  | some s =>
    (m.setKind c (.socket
      { s with ended := true, gone := true, reset := s.reset ∨ unread })).touch c
  | none => m

/-- One holder less; without holders the channel is closed. -/
def release (m : Machine) (c : Nat) : Machine :=
  match m.channels.get? c with
  | none => m
  | some ch =>
    if 1 < ch.holders then
      { m with channels := m.channels.insert c { ch with holders := ch.holders - 1 } }
    else
      let m := { m with channels := m.channels.erase c }
      match ch.kind with
      | .socket s => m.hangUp s.peer (¬ s.inbox.isEmpty)
      | .listener _ waiting => waiting.foldl (fun m w =>
          match m.socket? w with
          | some s => ({ m with channels := m.channels.erase w }).hangUp s.peer true
          | none => m) m
      | .lookup ticket => { m with resolver := m.resolver.drop ticket }
      | .file _ => m

/-- A handle of the bus on a channel that it holds. -/
def newHandle (m : Machine) (c : Nat) : Nat × Machine :=
  (m.nextHandle,
    { m with handles := m.handles.insert m.nextHandle c, nextHandle := m.nextHandle + 1 })

/-- Give a handle back. -/
def closeHandle (m : Machine) (h : Nat) : Machine :=
  match m.handles.get? h with
  | some c => { m with handles := m.handles.erase h }.release c
  | none => m

/-! ## Sockets -/

/-- The two ends of a new connection. -/
def socketPair (m : Machine) : (Nat × Nat) × Machine :=
  let fresh (peer : Nat) : Socket := ⟨peer, [], false, false, false, false⟩
  let (a, m) := m.newChannel (.socket (fresh (m.nextChannel + 1)))
  let (b, m) := m.newChannel (.socket (fresh a))
  ((a, b), m)

/-- Write to a socket. -/
def send (m : Machine) (s : Socket) (bytes : Bytes) : Except IoError Nat × Machine :=
  if s.reset then (.error .connectionReset, m)
  else if s.shut ∨ s.gone then (.error .brokenPipe, m)
  else
    match m.socket? s.peer with
    | some p =>
      if bytes.isEmpty then (.ok 0, m)
      else
        (.ok bytes.length,
          (m.setKind s.peer (.socket { p with inbox := p.inbox ++ bytes })).touch s.peer)
    | none => (.error .brokenPipe, m)

/-- Stop writing to a socket. -/
def shutdown (m : Machine) (c : Nat) : Machine :=
  match m.socket? c with
  | some s =>
    let m := m.setKind c (.socket { s with shut := true })
    match m.socket? s.peer with
    | some p => (m.setKind s.peer (.socket { p with ended := true })).touch s.peer
    | none => m
  | none => m

/-- How much may wait to be read before a process has to wait with writing. -/
def capacity : Nat := 212992

/-- So much waits to be read at the other end of a channel that a process has to wait. -/
def isFull (m : Machine) (c : Nat) : Bool :=
  match (m.socket? c).bind fun s => m.socket? s.peer with
  | some p => capacity ≤ p.inbox.length
  | none => false

/-! ## Reading and writing -/

/-- What attempts to read a channel would meet. -/
def arrivalsAt (m : Machine) (c : Nat) : List Arrival :=
  match m.channels.get? c with
  | none => [.failed .badDescriptor]
  | some ch =>
    match ch.kind with
    | .file f =>
      if ¬ f.mode.reads then [.failed .badDescriptor]
      else
        match m.files.nodes.get? f.node with
        | some (.file data) =>
          let rest := data.drop f.offset
          [if rest.isEmpty then .endOfStream else .data rest]
        | some (.directory _) => [.failed .isDirectory]
        | _ => [.endOfStream]
    | .socket s =>
      (if s.inbox.isEmpty then [] else [.data s.inbox]) ++
        [if s.reset then .failed .connectionReset
        else if s.ended then .endOfStream else .wouldBlock]
    | _ => [.failed .badDescriptor]

/-- Some of the bytes that arrived were read. -/
def tookAt (m : Machine) (c n : Nat) : Machine :=
  match m.channels.get? c with
  | some ⟨.file f, _⟩ => m.setKind c (.file { f with offset := f.offset + n })
  | some ⟨.socket s, _⟩ => m.setKind c (.socket { s with inbox := s.inbox.drop n })
  | _ => m

/-- Write to a channel. -/
def writeAt (m : Machine) (c : Nat) (bytes : Bytes) : Except IoError Nat × Machine :=
  match m.channels.get? c with
  | some ⟨.file f, _⟩ =>
    if ¬ f.mode.writes then (.error .badDescriptor, m)
    else
      match m.files.nodes.get? f.node with
      | some (.file data) =>
        let offset := if f.mode.append then data.length else f.offset
        let m := { m with files := m.files.setNode f.node (.file (Files.splice data offset bytes)) }
        (.ok bytes.length, m.setKind c (.file { f with offset := offset + bytes.length }))
      | _ => (.ok bytes.length, m)
  | some ⟨.socket s, _⟩ => m.send s bytes
  | _ => (.error .badDescriptor, m)

/-- Open a file. -/
def openPath (m : Machine) (path : String) (mode : Files.OpenMode) :
    Except IoError Nat × Machine :=
  match m.files.openNode path mode with
  | .error e => (.error e, m)
  | .ok (node, files) =>
    let (c, m) := { m with files }.newChannel (.file ⟨node, 0, mode⟩)
    (.ok c, m)

/-! ## Watching -/

/-- What a channel is ready for. -/
def readinessOf (m : Machine) (w : Watch) : Option Readiness :=
  match m.channels.get? w.channel with
  | some ⟨.socket s, _⟩ =>
    let r : Readiness := ⟨w.interest = .readable ∧ (¬ s.inbox.isEmpty ∨ s.ended),
      w.interest = .writable ∧ ¬ s.gone, s.reset, s.gone ∨ (w.interest = .readable ∧ s.ended)⟩
    if r.readable ∨ r.writable ∨ r.error ∨ r.closed then some r else none
  | some ⟨.listener _ waiting, _⟩ =>
    if waiting.isEmpty then none else some ⟨true, false, false, false⟩
  | some ⟨.lookup ticket, _⟩ =>
    if m.resolver.wakes ticket then some ⟨true, false, false, false⟩ else none
  | _ => none

/-- Begin to watch a channel. Files and directories cannot be watched. -/
def watchAt (m : Machine) (c : Nat) (interest : Interest) (token : Nat) :
    Except IoError Bool × Machine :=
  match m.channels.get? c with
  | none => (.error .badDescriptor, m)
  | some ⟨.file _, _⟩ => (.ok false, m)
  | some _ =>
    let w : Watch := ⟨c, interest⟩
    let touched := if (m.readinessOf w).isSome then m.touched ++ [token] else m.touched
    (.ok true, { m with watches := m.watches.insert token w, touched })

/-- Watch no longer. -/
def unwatchToken (m : Machine) (token : Nat) : Machine :=
  { m with watches := m.watches.erase token, touched := m.touched.filter (· ≠ token) }

/-- What was touched and is ready, and the signals that came. -/
def collect (m : Machine) : Polled × Machine :=
  let ready := m.touched.filterMap fun token => do
    let w ← m.watches.get? token
    let r ← m.readinessOf w
    return (token, r)
  (⟨ready, m.signals⟩, { m with touched := [], signals := [] })

end Machine

end Squitter
