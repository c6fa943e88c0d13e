import Squitter.Host

/-!
# Transports

A **transport** (`Transport`) is an endpoint at work: it provides the streams of the endpoint and
replaces them when they are gone. Outgoing connections, listeners and children go through phases and
are **idle** while they wait to try again. A file has no phases; it is open or waits to be opened.
-/

namespace Squitter

/-- Phases of a connection to another host. -/
inductive Outgoing
  | idle
  | resolving (lookup : Stream) (token : Nat)
  /-- A connection was begun; there are other addresses to try. -/
  | connecting (stream : Stream) (others : List Address) (token : Nat)
  | connected
deriving DecidableEq

/-- Phases of listening. -/
inductive Incoming
  | idle
  | resolving (lookup : Stream) (token : Nat)
  | listening (listener : Stream) (token : Nat)
deriving DecidableEq

/-- Phases of a child. -/
inductive ChildPhase
  | idle
  | running (child : Nat)
  /-- It was asked to end and did not yet, however often that was found. -/
  | stopping (child : Nat) (polls : Nat)
deriving DecidableEq

/-- The messages of a child: their stream, and the line that is not finished. -/
structure Messages where
  stream : Stream
  token : Nat
  unfinished : Bytes
deriving DecidableEq

/-- What is opened as a file. -/
inductive Source
  | path (path : String) (mode : FileMode)
  | stdin
  | stdout
deriving DecidableEq

/-- How a transport provides streams. -/
inductive Mechanism
  | outgoing (host port : String) (phase : Outgoing)
  | incoming (host : Option String) (port : String) (phase : Incoming)
  | child (command : String) (phase : ChildPhase) (messages : Option Messages)
  /-- The flag says that the file is opened again when it is closed. -/
  | file (source : Source) (reopens : Bool)
deriving DecidableEq

/-- An endpoint at work. -/
structure Transport where
  role : Role
  /-- Attempts that failed since the last success. -/
  attempt : UInt32
  mechanism : Mechanism
deriving DecidableEq

namespace Mechanism

/-- Waiting to try again. -/
def rest : Mechanism → Mechanism
  | outgoing host port _ => outgoing host port .idle
  | incoming host port _ => incoming host port .idle
  | child command _ messages => child command .idle messages
  | file source reopens => file source reopens

/-- The mechanism for a target, before its first attempt. -/
def ofTarget : Target → Mechanism
  | .connect host port => outgoing host port .idle
  | .listen host port => incoming host port .idle
  | .exec command => child command .idle none
  | .file path mode => file (.path path mode) true
  | .stdin => file .stdin false
  | .stdout => file .stdout false

/-- It is the standard output. -/
def isStdout : Mechanism → Bool
  | file .stdout _ => true
  | _ => false

end Mechanism

namespace Transport

/-- The transport of an endpoint, before its first attempt. -/
def ofEndpoint (e : Endpoint) : Transport := ⟨e.role, 0, .ofTarget e.target⟩

/-- One attempt more, up to the largest number. -/
def nextAttempt (n : UInt32) : UInt32 := if n = 0xFFFFFFFF then n else n + 1

end Transport

end Squitter
