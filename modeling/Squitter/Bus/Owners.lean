import Squitter.Bus.Basic

/-!
# When a transport's stream is gone

The transport that provided a stream is told when the last peer on it is gone. A connection is made
again after a while. A child is asked to end first and run again once it has. A file is opened
again, unless its end means that the input is used up; then the transport is gone as well.
-/

namespace Squitter.Station

variable {σ : Type} [Host σ]

/-- How often a child that was asked to end is looked at, in milliseconds. -/
def reapInterval : Nat := 100

/-- Replace the phase of a child. -/
def setChildPhase (s : Station σ) (id : Nat) (phase : ChildPhase) : Station σ :=
  match s.transport? id with
  | some ⟨role, attempt, .child command _ messages⟩ =>
    s.setTransport id ⟨role, attempt, .child command phase messages⟩
  | _ => s

/-- A child that was found to have ended. -/
def hasEnded (s : Station σ) (child : Nat) : Bool × Station σ :=
  match Host.hasEnded child s.host with
  | (.ok ended, host) => (ended, s.withHost host)
  | (.error _, host) => (false, s.withHost host)

/-- The stream of a child is gone: a running child is asked to end. -/
def childClosed (s : Station σ) (id : Nat) (phase : ChildPhase) : Station σ :=
  match phase with
  | .running child =>
    let (ended, s) := (s.withHost (Host.terminate child s.host)).hasEnded child
    if ended then s.retryLater id
    else (s.setChildPhase id (.stopping child 0)).schedule reapInterval (.reap id)
  | .idle => s.retryLater id
  | .stopping .. => s

/-- The stream of a file is gone, or it could not be opened. -/
def fileClosed (s : Station σ) (id : Nat) (t : Transport) (reopens : Bool) : Station σ :=
  if reopens then s.retryLater id
  else s.withBus fun b =>
    { b with transports := b.transports.erase id, flow := b.flow.remove t.role }

/-- The stream that a transport provided is gone. -/
def ownerClosed (s : Station σ) (id : Nat) : Station σ :=
  match s.transport? id with
  | none => s
  | some t =>
    match t.mechanism with
    | .outgoing .. => s.retryLater id
    | .incoming .. => s
    | .child _ phase _ => s.childClosed id phase
    | .file _ reopens => s.fileClosed id t reopens

end Squitter.Station
