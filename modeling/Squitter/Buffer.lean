import Squitter.Bytes

/-!
# Receive buffers

A **buffer** (`Buffer`) holds the bytes that were read from a stream and not yet consumed. Its
storage has a fixed capacity; the bytes lie in it from `start` on. Reading fills the free space
behind them. Only when there is none are the bytes moved to the front of the storage, so that their
place seldom changes.
-/

namespace Squitter

/-- Unconsumed bytes in a storage of fixed capacity. -/
structure Buffer where
  capacity : Nat
  start : Nat
  data : Bytes
deriving DecidableEq

namespace Buffer

/-- Capacity of the buffers of connections: room for the longest header and a frame after it. -/
def usualCapacity : Nat := 1024

/-- A buffer without bytes. -/
def empty (capacity : Nat) : Buffer := ⟨capacity, 0, []⟩

/-- No bytes are buffered. -/
def isEmpty (b : Buffer) : Bool := b.data.isEmpty

/-- No space is free, wherever the bytes lie. -/
def isFull (b : Buffer) : Bool := b.data.length = b.capacity

/-- The buffer with its bytes moved to the front, if there is no space behind them. -/
def compact (b : Buffer) : Buffer :=
  if b.start + b.data.length = b.capacity then { b with start := 0 } else b

/-- Bytes that the next read may take. -/
def room (b : Buffer) : Nat :=
  b.compact.capacity - (b.compact.start + b.data.length)

/-- Append bytes that fit into the free space. -/
def append (b : Buffer) (bytes : Bytes) : Buffer :=
  { b.compact with data := b.data ++ bytes }

/-- Read once from a source with the given bytes available. A full buffer reads nothing (`none`);
otherwise the result is the number of bytes taken. -/
def fill (b : Buffer) (available : Bytes) : Option Nat × Buffer :=
  if b.isFull then (none, b)
  else
    let taken := available.take b.room
    (some taken.length, b.append taken)

/-- Drop bytes from the front, if there are as many. -/
def consume? (b : Buffer) (n : Nat) : Option Buffer :=
  if b.data.length < n then none
  else
    let rest := b.data.drop n
    some { b with start := if rest.isEmpty then 0 else b.start + n, data := rest }

/-- Drop all bytes. -/
def clear (b : Buffer) : Buffer :=
  { b with start := 0, data := [] }

end Buffer

end Squitter
