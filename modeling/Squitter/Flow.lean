import Squitter.Endpoint

/-!
# Flow

Packets flow as long as some endpoint brings them in and some endpoint takes them out. **The flow**
(`Flow`) counts the endpoints by direction; it is live while neither side is empty.
-/

namespace Squitter

/-- Number of endpoints by direction. -/
structure Flow where
  receive : Nat
  send : Nat
  sendReceive : Nat
deriving DecidableEq

namespace Flow

/-- No endpoints. -/
def empty : Flow := ⟨0, 0, 0⟩

/-- Count an endpoint in. -/
def add (f : Flow) : Role → Flow
  | .receive => { f with receive := f.receive + 1 }
  | .send _ => { f with send := f.send + 1 }
  | .sendReceive _ => { f with sendReceive := f.sendReceive + 1 }

/-- Count an endpoint out. A count of zero stays zero. -/
def remove (f : Flow) : Role → Flow
  | .receive => { f with receive := f.receive - 1 }
  | .send _ => { f with send := f.send - 1 }
  | .sendReceive _ => { f with sendReceive := f.sendReceive - 1 }

/-- Number of endpoints that bring packets in. -/
def inputs (f : Flow) : Nat := f.receive + f.sendReceive

/-- Number of endpoints that take packets out. -/
def outputs (f : Flow) : Nat := f.send + f.sendReceive

/-- There are inputs and outputs. -/
def isLive (f : Flow) : Bool := 0 < f.inputs ∧ 0 < f.outputs

end Flow

end Squitter
