import Squitter.Bus.Loop

/-!
# Peers and what is watched

The peers of a bus are in two tables, but what matters of a peer is the same in both (`Peer`): whom
it is tied to, and the token under which its stream is watched, if it is. A token that belongs to no
peer is **spare** (`Station.Spare`); those are the ones that transports remember.

A change of the station is **steady** (`Station.Steady`) if it touches neither peers nor bridges nor
what is registered for peers, and tells the user of no peer that it was closed (`Station.reasons`).
Most of what the bus does is only **aside** (`Station.Aside`): it is steady, leaves the transports
as they are, and no sender fails in it.
-/

namespace Squitter

/-! ## Halves -/

/-- The half on the other side. -/
def Half.other : Half → Half
  | send => receive
  | receive => send

@[simp] theorem Half.other_other (half : Half) : half.other.other = half := by
  cases half <;> rfl

theorem Half.other_ne (half : Half) : half.other ≠ half := by
  cases half <;> decide

theorem Half.eq_other_of_ne {half half' : Half} (h : half' ≠ half) : half' = half.other := by
  cases half <;> cases half' <;> first | rfl | exact absurd rfl h

/-- The route of a peer. -/
def Half.route : Half → Nat → Route
  | send, id => .send id
  | receive, id => .receive id

theorem Half.route_eq_iff {half half' : Half} {id id' : Nat} :
    half.route id = half'.route id' ↔ (half, id) = (half', id') := by
  cases half <;> cases half' <;> simp [route]

/-- The peer on one side of a bridge. -/
def Bridge.peer {ω : Type} (b : Bridge ω) : Half → Nat
  | .send => b.send
  | .receive => b.receive

theorem Bridge.partner_eq {ω : Type} (b : Bridge ω) (half : Half) :
    b.partner half = (half.other, b.peer half.other) := by
  cases half <;> rfl

/-! ## Tokens -/

/-- The tokens that a transport remembers. -/
def Mechanism.tokens : Mechanism → List Nat
  | outgoing _ _ (.resolving _ token) => [token]
  | outgoing _ _ (.connecting _ _ token) => [token]
  | outgoing _ _ .idle => []
  | outgoing _ _ .connected => []
  | incoming _ _ (.resolving _ token) => [token]
  | incoming _ _ (.listening _ token) => [token]
  | incoming _ _ .idle => []
  | child _ _ messages => messages.toList.map (·.token)
  | file _ _ => []

namespace Reactor

variable {ρ ω σ : Type} [Poller σ]

/-- Only tokens that were given out are registered. -/
def Bounded (r : Reactor ρ ω) : Prop := ∀ token, r.nextToken ≤ token → r.route? token = none

/-- A token was given out and a route is registered under it. -/
structure Adds (r r' : Reactor ρ ω) (token : Nat) (route : ρ) : Prop where
  le : r.nextToken ≤ token
  lt : token < r'.nextToken
  route? : ∀ t, r'.route? t = if t = token then some route else r.route? t

/-- **All that trying to register can do.** -/
theorem tryRegister_cases (r : Reactor ρ ω) (handle : Nat) (interest : Interest) (route : ρ)
    (host : σ) :
    (∃ e host', r.tryRegister handle interest route host =
      (.error e, { r with nextToken := r.nextToken + 1 }, host')) ∨
    (∃ host', r.tryRegister handle interest route host =
      (.ok none, { r with nextToken := r.nextToken + 1 }, host')) ∨
    ∃ r' host', r.tryRegister handle interest route host = (.ok (some r.nextToken), r', host') ∧
      r.Adds r' r.nextToken route := by
  rcases h : Poller.watch handle interest r.nextToken host with ⟨e | _ | _, host'⟩
  · exact .inl ⟨e, host', by simp only [tryRegister, h]⟩
  · exact .inr (.inl ⟨host', by simp only [tryRegister, h]⟩)
  · refine .inr (.inr ⟨_, host', by simp only [tryRegister, h]; rfl, Nat.le_refl _,
      Nat.lt_succ_self _, fun t => ?_⟩)
    simp only [route?, Table.get?_insert]
    split <;> rfl

/-- **All that registering can do.** -/
theorem register_cases {r : Reactor ρ ω} (hr : r.Bounded) (handle : Nat) (interest : Interest)
    (route : ρ) (host : σ) :
    (∃ e host', r.register handle interest route host =
      (.error e, { r with nextToken := r.nextToken + 1 }, host')) ∨
    ∃ token r' host', r.register handle interest route host = (.ok token, r', host') ∧
      r.Adds r' token route := by
  rcases tryRegister_cases r handle interest route host with
    ⟨e, host', h⟩ | ⟨host', h⟩ | ⟨r', host', h, hadds⟩
  · exact .inl ⟨e, host', by rw [register, h]⟩
  · refine .inr ⟨r.nextToken + 1, _, host', by rw [register, h], Nat.le_succ _, Nat.lt_succ_self _,
      fun t => ?_⟩
    simp only [route?, Table.get?_insert]
    by_cases ht : t = r.nextToken + 1
    · have hnone := hr t (ht ▸ Nat.le_succ _)
      simp only [route?, Option.or_eq_none_iff] at hnone
      rw [if_pos ht, if_pos ht, hnone.1]
      rfl
    · rw [if_neg ht, if_neg ht]
  · exact .inr ⟨r.nextToken, r', host', by rw [register, h], hadds⟩

theorem route?_unregister (r : Reactor ρ ω) (token : Nat) (host : σ) (t : Nat) :
    (r.unregister token host).1.route? t = if t = token then none else r.route? t := by
  simp only [unregister, route?, Table.get?_erase]
  split <;> rfl

end Reactor

/-- Why a peer was closed, if that is what the notice tells. -/
def Notice.closed? : Notice → Option Reason
  | detected _ => none
  | connected _ _ => none
  | closed why => some why
  | childOutput _ => none

/-- What the bus has to know of a peer. -/
structure Peer where
  tether : Tether Nat
  token : Option Nat

namespace Station

variable {σ : Type}

/-! ## Views -/

/-- The peer under a number. -/
def peer? (s : Station σ) : Half → Nat → Option Peer
  | .receive, id => (s.state.receivers.get? id).map fun r => ⟨r.tether, some r.token⟩
  | .send, id => (s.state.fanout.senders.get? id).map fun p => ⟨p.tether, p.token⟩

/-- Whom the peer under a number is tied to. -/
def tether? (s : Station σ) (half : Half) (id : Nat) : Option (Tether Nat) :=
  (s.peer? half id).map (·.tether)

/-- The bridge under a number. -/
def bridge? (s : Station σ) (b : Nat) : Option (Bridge Nat) := s.state.bridges.table.get? b

/-- What is registered under a token. -/
def route? (s : Station σ) (token : Nat) : Option Route := s.reactor.route? token

theorem hasPeer_eq (s : Station σ) (half : Half) (id : Nat) :
    s.hasPeer half id = (s.peer? half id).isSome := by
  cases half <;> simp [hasPeer, peer?, Table.contains]

/-- A token that was given out, but for no peer. -/
def Spare (s : Station σ) (token : Nat) : Prop :=
  token < s.reactor.nextToken ∧ ∀ (half : Half) id, s.route? token ≠ some (half.route id)

/-- The sender under a number has failed. -/
def Failing (s : Station σ) (id : Nat) : Prop :=
  ∃ p, s.state.fanout.senders.get? id = some p ∧ p.failed = true

/-- For what reasons peers were closed so far, as the user was told. -/
def reasons (s : Station σ) : List Reason := s.state.notices.filterMap Notice.closed?

/-! ## Steady changes -/

/-- Peers, bridges and what is registered for peers are the same as before, and of no peer the user
is told that it was closed. -/
structure Steady (s s' : Station σ) : Prop where
  peers : ∀ half id, s'.peer? half id = s.peer? half id
  bridges : ∀ b, s'.bridge? b = s.bridge? b
  nextBridge : s.state.bridges.next ≤ s'.state.bridges.next
  nextId : s.state.nextId ≤ s'.state.nextId
  nextToken : s.reactor.nextToken ≤ s'.reactor.nextToken
  bounded : s.reactor.Bounded → s'.reactor.Bounded
  routes : ∀ token (half : Half) id,
    s'.route? token = some (half.route id) ↔ s.route? token = some (half.route id)
  reasons : s'.reasons = s.reasons

/-- A steady change that has nothing to do with transports and in which no sender fails. -/
structure Aside (s s' : Station σ) : Prop extends Steady s s' where
  transports : s'.state.transports = s.state.transports
  failing : ∀ id, s'.Failing id → s.Failing id
  failures : s'.state.fanout.failures = s.state.fanout.failures

variable {s s' s'' : Station σ}

theorem Steady.refl (s : Station σ) : Steady s s :=
  ⟨fun _ _ => rfl, fun _ => rfl, Nat.le_refl _, Nat.le_refl _, Nat.le_refl _, id, fun _ _ _ => .rfl,
    rfl⟩

theorem Steady.trans (h : Steady s s') (h' : Steady s' s'') : Steady s s'' where
  peers half id := (h'.peers half id).trans (h.peers half id)
  bridges b := (h'.bridges b).trans (h.bridges b)
  nextBridge := Nat.le_trans h.nextBridge h'.nextBridge
  nextId := Nat.le_trans h.nextId h'.nextId
  nextToken := Nat.le_trans h.nextToken h'.nextToken
  bounded hb := h'.bounded (h.bounded hb)
  routes token half id := (h'.routes token half id).trans (h.routes token half id)
  reasons := h'.reasons.trans h.reasons

theorem Steady.spare (h : Steady s s') {token : Nat} (hs : s.Spare token) : s'.Spare token :=
  ⟨Nat.lt_of_lt_of_le hs.1 h.nextToken, fun half id heq =>
    hs.2 half id ((h.routes token half id).1 heq)⟩

/-- A change of the bus beside its tables. -/
theorem Steady.of_bus (hreceivers : s'.state.receivers = s.state.receivers)
    (hsenders : s'.state.fanout.senders = s.state.fanout.senders)
    (hbridges : s'.state.bridges = s.state.bridges) (hid : s.state.nextId ≤ s'.state.nextId)
    (hreasons : s'.reasons = s.reasons) (hreactor : s'.reactor = s.reactor) : Steady s s' where
  peers half id := by
    cases half
    · simp only [peer?, hsenders]
    · simp only [peer?, hreceivers]
  bridges b := by rw [bridge?, hbridges, bridge?]
  nextBridge := Nat.le_of_eq (by rw [hbridges])
  nextId := hid
  nextToken := Nat.le_of_eq (by rw [hreactor])
  bounded hb := by rw [hreactor]; exact hb
  routes token half id := by rw [route?, hreactor, route?]
  reasons := hreasons

theorem Aside.refl (s : Station σ) : Aside s s := ⟨.refl s, rfl, fun _ => id, rfl⟩

theorem Aside.trans (h : Aside s s') (h' : Aside s' s'') : Aside s s'' where
  toSteady := h.toSteady.trans h'.toSteady
  transports := h'.transports.trans h.transports
  failing id hid := h.failing id (h'.failing id hid)
  failures := h'.failures.trans h.failures

/-- A change of the bus beside its tables, and of the computer. -/
theorem Aside.of_bus (hreceivers : s'.state.receivers = s.state.receivers)
    (hsenders : s'.state.fanout.senders = s.state.fanout.senders)
    (hfailures : s'.state.fanout.failures = s.state.fanout.failures)
    (hbridges : s'.state.bridges = s.state.bridges)
    (htransports : s'.state.transports = s.state.transports)
    (hid : s.state.nextId ≤ s'.state.nextId) (hreasons : s'.reasons = s.reasons)
    (hreactor : s'.reactor = s.reactor) : Aside s s' where
  toSteady := .of_bus hreceivers hsenders hbridges hid hreasons hreactor
  transports := htransports
  failing id h := by rwa [Failing, hsenders] at h
  failures := hfailures

/-- A change of the reactor and the computer. -/
theorem Aside.of_reactor (hstate : s'.state = s.state)
    (htoken : s.reactor.nextToken ≤ s'.reactor.nextToken)
    (hbounded : s.reactor.Bounded → s'.reactor.Bounded)
    (hroutes : ∀ token (half : Half) id,
      s'.route? token = some (half.route id) ↔ s.route? token = some (half.route id)) :
    Aside s s' where
  peers half id := by cases half <;> simp only [peer?, hstate]
  bridges b := by rw [bridge?, hstate, bridge?]
  nextBridge := Nat.le_of_eq (by rw [hstate])
  nextId := Nat.le_of_eq (by rw [hstate])
  nextToken := htoken
  bounded := hbounded
  routes := hroutes
  reasons := by rw [Station.reasons, hstate, Station.reasons]
  transports := by rw [hstate]
  failing id h := by rwa [Failing, hstate] at h
  failures := by rw [hstate]

/-! ## What is aside -/

theorem aside_withHost (s : Station σ) (host : σ) : Aside s (s.withHost host) :=
  .of_bus rfl rfl rfl rfl rfl (Nat.le_refl _) rfl rfl

theorem reasons_append (s : Station σ) {notices : List Notice}
    (h : ∀ n ∈ notices, n.closed? = none) :
    (s.state.notices ++ notices).filterMap Notice.closed? = s.reasons := by
  rw [List.filterMap_append, List.filterMap_eq_nil_iff.2 h, List.append_nil, reasons]

/-- Something is told, but not that a peer was closed. -/
theorem aside_tell (s : Station σ) {notices : List Notice} (h : ∀ n ∈ notices, n.closed? = none) :
    Aside s (s.tell notices) :=
  .of_bus rfl rfl rfl rfl rfl (Nat.le_refl _) (s.reasons_append h) rfl

theorem aside_takeId (s : Station σ) : Aside s s.takeId.2 :=
  .of_bus rfl rfl rfl rfl rfl (Nat.le_succ _) rfl rfl

theorem aside_withFlow (s : Station σ) (flow : Flow) :
    Aside s (s.withBus fun b => { b with flow }) :=
  .of_bus rfl rfl rfl rfl rfl (Nat.le_refl _) rfl rfl

theorem aside_discard [Streams σ] (s : Station σ) (stream : Stream) : Aside s (s.discard stream) :=
  aside_withHost s _

theorem aside_schedule [Poller σ] (s : Station σ) (delay : Nat) (work : Work) :
    Aside s (s.schedule delay work) :=
  .of_reactor rfl (Nat.le_refl _) id fun _ _ _ => .rfl

/-- A token was used up. -/
theorem aside_nextToken (s : Station σ) (host : σ) :
    Aside s (s.withReactor { s.reactor with nextToken := s.reactor.nextToken + 1 } host) :=
  .of_reactor rfl (Nat.le_succ _)
    (fun hb token h => hb token (Nat.le_trans (Nat.le_succ _) h)) fun _ _ _ => .rfl

theorem aside_unregister [Poller σ] {s : Station σ} {token : Nat} (h : s.Spare token) :
    Aside s (s.unregister token) := by
  have hroute (t : Nat) : (s.unregister token).route? t = if t = token then none else s.route? t :=
    Reactor.route?_unregister s.reactor token s.host t
  refine .of_reactor rfl (Nat.le_refl _) (fun hb t ht => ?_) fun t half id => ?_
  · have hnone := hroute t
    rw [route?, route?, hb t ht, ite_self] at hnone
    exact hnone
  · rw [hroute]
    by_cases ht : t = token
    · rw [if_pos ht, ht]
      exact ⟨nofun, fun h' => absurd h' (h.2 half id)⟩
    · rw [if_neg ht]

/-- Something was registered that is not for a peer. -/
theorem aside_adds {r : Reactor Route Work} {token : Nat} {route : Route} (s : Station σ) (host : σ)
    (h : s.reactor.Adds r token route) (hroute : ∀ (half : Half) id, route ≠ half.route id)
    (hb : s.reactor.Bounded) : Aside s (s.withReactor r host) := by
  have hlt : s.reactor.nextToken ≤ r.nextToken := Nat.le_of_lt (Nat.lt_of_le_of_lt h.le h.lt)
  refine .of_reactor rfl hlt (fun _ t ht => ?_) fun t half id => ?_
  · have hne : t ≠ token := Nat.ne_of_gt (Nat.lt_of_lt_of_le h.lt ht)
    show r.route? t = none
    rw [h.route?, if_neg hne]
    exact hb t (Nat.le_trans hlt ht)
  · show r.route? t = _ ↔ s.reactor.route? t = _
    rw [h.route?]
    by_cases ht : t = token
    · rw [if_pos ht, ht, hb token h.le]
      exact ⟨fun h' => absurd (Option.some.inj h') (hroute half id), nofun⟩
    · rw [if_neg ht]

/-- **All that registering for a transport can do**: there is a spare token, or none. -/
theorem register_spare_cases [Poller σ] (hb : s.reactor.Bounded) (stream : Stream)
    (interest : Interest) (route : Route) (hroute : ∀ (half : Half) id, route ≠ half.route id) :
    (∃ e s', s.register stream interest route = (.error e, s') ∧ Aside s s') ∨
    ∃ token s', s.register stream interest route = (.ok token, s') ∧ Aside s s' ∧
      s'.Spare token := by
  rcases Reactor.register_cases hb stream.handle interest route s.host with
    ⟨e, host, h⟩ | ⟨token, r, host, h, hadds⟩
  · exact .inl ⟨e, _, by rw [register, h], aside_nextToken s host⟩
  · refine .inr ⟨token, _, by rw [register, h], aside_adds s host hadds hroute hb, hadds.lt, ?_⟩
    intro half id heq
    have hsome : r.route? token = some (half.route id) := heq
    rw [hadds.route?, if_pos rfl] at hsome
    exact hroute half id (Option.some.inj hsome)

end Station
end Squitter
