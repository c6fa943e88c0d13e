import Squitter.Address
import Squitter.Endpoint

/-!
# What the bus runs on

The bus uses the computer it runs on through three interfaces: byte streams that are read and
written without waiting (`Streams`), waiting for streams to become ready (`Poller`), and the rest
(`Host`): opening files and connections, running commands, looking up names, chance. Each operation
is a function on the state `σ` of the computer, of which nothing else is assumed, so what is proved
about the bus holds whatever the computer answers.
-/

namespace Squitter

/-! ## Streams -/

/-- An open byte stream. Streams with the same identity are the same file or connection. -/
structure Stream where
  handle : Nat
  identity : Option Nat
  socket : Bool
  /-- A regular file: it is always ready, and its end is where it ends now. -/
  regular : Bool
deriving DecidableEq

/-- What one attempt to read meets. -/
inductive Arrival
  /-- Bytes that can be read at once. -/
  | data (bytes : Bytes)
  | wouldBlock
  | interrupted
  | endOfStream
  | failed (e : IoError)
deriving DecidableEq

/-- Reading and writing. -/
class Streams (σ : Type) where
  /-- What attempts to read would meet one after the other. -/
  arrivals : Stream → σ → List Arrival
  /-- Some of the bytes that arrived were read. -/
  took : Stream → Nat → σ → σ
  /-- Write bytes, of which the stream takes some number from the front. -/
  write : Stream → Bytes → σ → Except IoError Nat × σ
  /-- Stop writing. -/
  shutdownWrite : Stream → σ → σ
  /-- A second stream on the same file or connection. -/
  duplicate : Stream → σ → Except IoError Stream × σ
  close : Stream → σ → σ

/-- Write all of some bytes, in as many writes as it takes. -/
def writeAll {σ : Type} [Streams σ] (s : Stream) (bytes : Bytes) (host : σ) :
    Except IoError Unit × σ :=
  if _h : bytes = [] then (.ok (), host)
  else
    match Streams.write s bytes host with
    | (.error e, host) => (.error e, host)
    | (.ok n, host) =>
      if _hn : n = 0 then (.error .writeZero, host) else writeAll s (bytes.drop n) host
termination_by bytes.length
decreasing_by
  have := List.length_pos_iff.2 _h
  simp only [List.length_drop]
  omega

/-! ## Readiness -/

/-- What to watch a stream for. -/
inductive Interest
  | readable
  | writable
deriving DecidableEq

/-- What a stream is ready for. -/
structure Readiness where
  readable : Bool
  writable : Bool
  error : Bool
  closed : Bool
deriving DecidableEq

/-- The readiness of what cannot be watched. -/
def Readiness.always : Readiness := ⟨true, true, false, false⟩

/-- A message of the computer to the program. -/
inductive Signal
  | interrupt
  | terminate
  /-- A child ended. -/
  | child
deriving DecidableEq

/-- What waiting yields: which of the watched became ready, and signals. -/
structure Polled where
  ready : List (Nat × Readiness)
  signals : List Signal

/-- Watching and waiting. Times are in milliseconds. -/
class Poller (σ : Type) where
  now : σ → Nat
  /-- Watch what a handle refers to under a number. The answer `false` says that it cannot be
  watched because it is always ready. -/
  watch : Nat → Interest → Nat → σ → Except IoError Bool × σ
  unwatch : Nat → σ → σ
  /-- Wait until something becomes ready, or for the given time. -/
  poll : Option Nat → σ → Polled × σ
  /-- From now on have signals reported; before, none are. -/
  hearSignals : σ → σ

/-! ## Everything else -/

/-- A command that was started: its number, the stream to its input and output, and the stream of
its messages. -/
structure Spawned where
  child : Nat
  stream : Stream
  messages : Stream

/-- What asking for the answer of a lookup yields. -/
inductive Lookup
  | pending
  | answered (addresses : Except IoError (List Address))

/-- The computer. -/
class Host (σ : Type) extends Streams σ, Poller σ where
  /-- An identity that nobody else has. -/
  freshId : σ → Uuid × σ
  /-- A random number below a bound. -/
  random : UInt64 → σ → UInt64 × σ
  /-- Open a file; the flag says that it is also read. -/
  openFile : String → FileMode → Bool → σ → Except IoError Stream × σ
  openStdin : σ → Except IoError Stream × σ
  openStdout : σ → Except IoError Stream × σ
  /-- Start a lookup, whose stream becomes readable when there is an answer. -/
  lookup : Query → σ → Except IoError Stream × σ
  answer : Stream → σ → Lookup × σ
  /-- Begin to connect; the flag tells whether that is already done. A stream that is not connected
  yet becomes writable when it is. -/
  connect : Address → σ → Except IoError (Stream × Bool) × σ
  /-- How a connection that was begun came out. -/
  connected : Stream → σ → Except IoError Unit × σ
  /-- Listen on an address; the stream becomes readable when somebody connects. -/
  listen : Address → σ → Except IoError Stream × σ
  /-- Accept all who have connected. -/
  accept : Stream → σ → List Stream × σ
  spawn : String → σ → Except IoError Spawned × σ
  /-- Find out whether a child has ended. -/
  hasEnded : Nat → σ → Except IoError Bool × σ
  /-- Ask a child and all it has started to end. -/
  terminate : Nat → σ → σ
  /-- Make a child and all it has started end. -/
  kill : Nat → σ → σ

end Squitter
