import Squitter.Table

/-!
# Bridges

A stream that both sends and receives becomes two peers, its **halves**. A **bridge** (`Bridge`)
ties them together until both are released; only then the owner of the stream is told. Halves that
share a socket are coupled: when one goes, the other has to follow.
-/

namespace Squitter

/-- The two uses of a stream. -/
inductive Half
  | send
  | receive
deriving DecidableEq, Repr

/-- A stream with two halves, of which `held` are not yet released. -/
structure Bridge (ω : Type) where
  held : Nat
  owner : Option ω
  send : Nat
  receive : Nat
  coupled : Bool
deriving DecidableEq

/-- The half on the other side of a bridge, with its peer. -/
def Bridge.partner {ω : Type} (b : Bridge ω) : Half → Half × Nat
  | .send => (.receive, b.receive)
  | .receive => (.send, b.send)

/-- What becomes of a bridge when a half is released. -/
inductive Release (ω : Type)
  /-- The other half is still there; a coupled one is named. -/
  | remaining (partner : Option (Half × Nat))
  /-- Both halves are gone. -/
  | finished (owner : Option ω)
deriving DecidableEq

/-- The bridges that have not finished. -/
structure Bridges (ω : Type) where
  table : Table (Bridge ω)
  next : Nat

namespace Bridges

variable {ω : Type}

/-- No bridges. -/
def empty : Bridges ω := ⟨.empty, 0⟩

instance : Inhabited (Bridges ω) := ⟨empty⟩

/-- A number for a new bridge, whose peers refer to it before it exists. -/
def allocate (bs : Bridges ω) : Nat × Bridges ω :=
  (bs.next, { bs with next := bs.next + 1 })

/-- Build a bridge between two peers. -/
def build (bs : Bridges ω) (id : Nat) (owner : Option ω) (send receive : Nat) (coupled : Bool) :
    Bridges ω :=
  { bs with table := bs.table.insert id ⟨2, owner, send, receive, coupled⟩ }

/-- The owner of the stream under a bridge. -/
def owner? (bs : Bridges ω) (id : Nat) : Option ω :=
  (bs.table.get? id).bind (·.owner)

/-- Release a half of a bridge; with its second release the bridge finishes. A bridge that is not
there has nothing to release. -/
def release (bs : Bridges ω) (id : Nat) (half : Half) : Option (Release ω) × Bridges ω :=
  match bs.table.get? id with
  | none => (none, bs)
  | some b =>
    if b.held ≤ 1 then (some (.finished b.owner), { bs with table := bs.table.erase id })
    else
      let partner := if b.coupled then some (b.partner half) else none
      (some (.remaining partner),
        { bs with table := bs.table.insert id { b with held := b.held - 1 } })

end Bridges

/-! ## Who is told -/

/-- Who is told that a peer is gone. -/
inductive Tether (ω : Type)
  /-- Nobody waits for it. -/
  | loose
  | owner (o : ω)
  | bridge (id : Nat)
deriving DecidableEq

/-- The tether of a peer whose stream has this owner. -/
def Tether.ofOwner {ω : Type} : Option ω → Tether ω
  | none => .loose
  | some o => .owner o

end Squitter
