import Squitter.Bus.Loop
import Squitter.Proofs.Peers.Closing

/-!
# Changes in which no transport comes or goes

A transport is of a **kind** (`Transport.kind`): the endpoint that it is at work for, and whether it
is final, that is, a file that is not opened again. A change of the station **retains** its
transports (`Station.Retains`) if the same are there as before, of the same kinds, and the flow is
as it was. Almost all that a bus does is such a change: transports go from one phase to another,
streams are attached and peers taken away. What is not is to add an endpoint, to open a file, and to
tell a transport that is final that its stream is gone.

Closing a peer retains all transports until an owner is told (`exists_retains_closing`).
-/

namespace Squitter

/-! ## Kinds of transports -/

/-- The target of which a file is opened. -/
def Source.target : Source → Target
  | .path name mode => .file name mode
  | stdin => .stdin
  | stdout => .stdout

namespace Mechanism

/-- The target that streams are provided for. -/
def target : Mechanism → Target
  | outgoing host port _ => .connect host port
  | incoming host port _ => .listen host port
  | child command _ _ => .exec command
  | file source _ => source.target

/-- It is a file that is not opened again. -/
def isFinal : Mechanism → Bool
  | file _ reopens => !reopens
  | _ => false

theorem isFinal_iff (m : Mechanism) : m.isFinal = true ↔ ∃ source, m = .file source false := by
  cases m with
  | file source reopens =>
    cases reopens with
    | false => exact ⟨fun _ => ⟨source, rfl⟩, fun _ => rfl⟩
    | true => exact ⟨nofun, nofun⟩
  | _ => exact ⟨nofun, nofun⟩

end Mechanism

namespace Transport

/-- The endpoint that is at work. -/
def endpoint (t : Transport) : Endpoint := ⟨t.role, t.mechanism.target⟩

/-- What phases do not change. -/
def kind (t : Transport) : Endpoint × Bool := (t.endpoint, t.mechanism.isFinal)

theorem endpoint_ofEndpoint (e : Endpoint) : (ofEndpoint e).endpoint = e := by
  obtain ⟨role, target⟩ := e
  cases target <;> rfl

/-- A transport that waits to try again is of the kind it was. -/
theorem kind_rest (t : Transport) (attempt : UInt32) :
    kind { t with attempt := attempt, mechanism := t.mechanism.rest } = t.kind := by
  obtain ⟨role, failed, mechanism⟩ := t
  cases mechanism <;> rfl

end Transport

namespace Station

variable {σ : Type} {s s' s'' : Station σ}

/-! ## Retaining -/

/-- The same transports are there, of the same kinds. -/
structure Retains (s s' : Station σ) : Prop where
  nextId : s.state.nextId ≤ s'.state.nextId
  flow : s'.state.flow = s.state.flow
  kinds : ∀ id, (s'.transport? id).map Transport.kind = (s.transport? id).map Transport.kind

theorem Retains.refl (s : Station σ) : Retains s s := ⟨Nat.le_refl _, rfl, fun _ => rfl⟩

theorem Retains.trans (h : Retains s s') (h' : Retains s' s'') : Retains s s'' where
  nextId := Nat.le_trans h.nextId h'.nextId
  flow := h'.flow.trans h.flow
  kinds id := (h'.kinds id).trans (h.kinds id)

theorem Retains.endpoints (h : Retains s s') (id : Nat) :
    (s'.transport? id).map Transport.endpoint = (s.transport? id).map Transport.endpoint := by
  have hfst := congrArg (Option.map Prod.fst) (h.kinds id)
  rwa [Option.map_map, Option.map_map] at hfst

/-- Nothing about the transports has changed. -/
theorem Retains.of_bus (hid : s.state.nextId ≤ s'.state.nextId)
    (hflow : s'.state.flow = s.state.flow) (ht : s'.state.transports = s.state.transports) :
    Retains s s' where
  nextId := hid
  flow := hflow
  kinds id := by rw [transport?, transport?, ht]

theorem Retains.of_state (h : s'.state = s.state) : Retains s s' :=
  .of_bus (Nat.le_of_eq (by rw [h])) (by rw [h]) (by rw [h])

/-- What is said of a transport stays true when it is replaced by one of which the same is said. -/
theorem map_transport?_setTransport {α : Type} {f : Transport → α} {id : Nat} {t t' : Transport}
    (h : s.transport? id = some t) (hsame : f t' = f t) (i : Nat) :
    ((s.setTransport id t').transport? i).map f = (s.transport? i).map f := by
  have hget : (s.setTransport id t').transport? i =
      if i = id then some t' else s.transport? i := Table.get?_insert ..
  rw [hget]
  split
  · rename_i heq
    rw [heq, h, Option.map_some, Option.map_some, hsame]
  · rfl

/-- A transport stays of its kind. -/
theorem retains_setTransport {id : Nat} {t t' : Transport} (h : s.transport? id = some t)
    (hkind : t'.kind = t.kind) : Retains s (s.setTransport id t') where
  nextId := Nat.le_refl _
  flow := rfl
  kinds := map_transport?_setTransport h hkind

theorem retains_withHost (s : Station σ) (host : σ) : Retains s (s.withHost host) := .of_state rfl

theorem retains_setChildPhase (s : Station σ) (id : Nat) (phase : ChildPhase) :
    Retains s (s.setChildPhase id phase) := by
  unfold setChildPhase
  split
  · rename_i h
    exact retains_setTransport h rfl
  · exact .refl s

variable [Host σ]

theorem retains_schedule (s : Station σ) (delay : Nat) (work : Work) :
    Retains s (s.schedule delay work) :=
  .of_state rfl

theorem retains_hasEnded (s : Station σ) (child : Nat) : Retains s (s.hasEnded child).2 := by
  unfold hasEnded
  split
  · exact .of_state rfl
  · exact .of_state rfl

theorem retains_delay (s : Station σ) (attempt : UInt32) : Retains s (s.delay attempt).2 := by
  unfold delay
  simp only
  split
  · exact .refl s
  · exact .of_state rfl

theorem retains_retryLater (s : Station σ) (id : Nat) : Retains s (s.retryLater id) := by
  unfold retryLater
  split
  · exact .refl s
  · rename_i h
    exact (retains_setTransport h (Transport.kind_rest _ _)).trans
      ((retains_delay _ _).trans (retains_schedule _ _ _))

theorem retains_childClosed (s : Station σ) (id : Nat) (phase : ChildPhase) :
    Retains s (s.childClosed id phase) := by
  cases phase with
  | idle => exact retains_retryLater s id
  | stopping child polls => exact .refl s
  | running child =>
    refine ((retains_withHost s (Host.terminate child s.host)).trans
      (retains_hasEnded _ child)).trans ?_
    unfold childClosed
    simp only
    split
    · exact retains_retryLater _ id
    · exact (retains_setChildPhase _ id _).trans (retains_schedule _ _ _)

/-- A transport goes only if it is final. -/
theorem retains_ownerClosed {id : Nat}
    (h : ∀ t, s.transport? id = some t → t.mechanism.isFinal = false) :
    Retains s (s.ownerClosed id) := by
  unfold ownerClosed
  split
  · exact .refl s
  · rename_i t ht
    split
    · exact retains_retryLater s id
    · exact .refl s
    · exact retains_childClosed s id _
    · rename_i source reopens hfile
      have hreopens := h t ht
      rw [hfile] at hreopens
      cases reopens with
      | false => cases hreopens
      | true => exact retains_retryLater s id

/-! ## Attaching -/

end Station

end Squitter
