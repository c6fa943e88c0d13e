import Squitter.Bus.Peers
import Squitter.Text.Lines

/-!
# Children

A child runs a command with a stream to its input and output, and what it writes as messages is told
line by line. When it ends, the peers on its stream are closed and it is run again after a delay.
-/

namespace Squitter.Station

variable {σ : Type} [Host σ]

/-- A child that was asked to end is forced to after this many looks. -/
def looksBeforeKill : Nat := 50

/-! ## Messages -/

/-- Replace the stream of a child's messages. -/
def setMessages (s : Station σ) (id : Nat) (messages : Option Messages) : Station σ :=
  match s.transport? id with
  | some ⟨role, attempt, .child command phase _⟩ =>
    s.setTransport id ⟨role, attempt, .child command phase messages⟩
  | _ => s

/-- Stop watching the messages of a child. -/
def dropMessages (s : Station σ) (id : Nat) (m : Messages) : Station σ :=
  ((s.unregister m.token).discard m.stream).setMessages id none

/-- Watch the messages of a child, in place of those of the child before it. -/
def watchMessages (s : Station σ) (id : Nat) (old : Option Messages) (stream : Stream) :
    Station σ :=
  let s := match old with
    | some m => s.dropMessages id m
    | none => s
  match s.register stream .readable (.messages id) with
  | (.error _, s) => s.discard stream
  | (.ok token, s) => s.setMessages id (some ⟨stream, token, []⟩)

/-- The messages of a child are ready. -/
def messagesReady (s : Station σ) (id : Nat) : Station σ :=
  match s.transport? id with
  | some ⟨_, _, .child _ _ (some m)⟩ =>
    let ((bytes, ending), s) := s.readAll m.stream
    let (lines, unfinished) := Lines.take (m.unfinished ++ bytes) ending.isSome
    let s := s.tell (lines.map .childOutput)
    if ending.isSome then s.dropMessages id m
    else s.setMessages id (some { m with unfinished })
  | _ => s

/-! ## Running and reaping -/

/-- Run the command of a child. -/
def spawnChild (s : Station σ) (id : Nat) : Station σ :=
  match s.transport? id with
  | some ⟨role, _, .child command _ messages⟩ =>
    match Host.spawn command s.host with
    | (.error _, host) => (s.withHost host).retryLater id
    | (.ok spawned, host) =>
      let s := (s.withHost host).setTransport id
        ⟨role, 0, .child command (.running spawned.child) messages⟩
      let s := s.watchMessages id messages spawned.messages
      match s.attach spawned.stream role (some id) with
      | (.error _, s) => s.ownerClosed id
      | (.ok (), s) => s
  | _ => s

/-- See whether a child has ended. A child that ended by itself closes the peers on its stream; a
child that was asked to end is looked at again until it has. -/
def reapChild (s : Station σ) (id : Nat) : Station σ :=
  match s.transport? id with
  | some ⟨_, _, .child _ (.running child) _⟩ =>
    let (ended, s) := s.hasEnded child
    if ended then
      let (any, s) := (s.setChildPhase id .idle).closeOwned id .childEnded
      if any then s else s.retryLater id
    else s
  | some ⟨_, _, .child _ (.stopping child polls) _⟩ =>
    let (ended, s) := s.hasEnded child
    if ended then s.retryLater id
    else
      let s := if polls = looksBeforeKill then s.withHost (Host.kill child s.host) else s
      (s.setChildPhase id (.stopping child (polls + 1))).schedule reapInterval (.reap id)
  | _ => s

/-- A child has ended: see which. -/
def reapAll (s : Station σ) : Station σ :=
  s.state.transports.keys.foldl reapChild s

end Squitter.Station
