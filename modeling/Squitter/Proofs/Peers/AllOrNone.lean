import Squitter.Proofs.Peers.Ownership

/-!
# Attaching is all or none

Attaching a stream takes several steps, and most of them can fail. What a station **holds**
(`Station.Holdings`) is what such a failure could leave half done: peers, bridges, what is
registered, how many inputs and outputs there are, transports, and pending work. An **obstacle**
(`Station.Obstacle`) is a step that failed: the greeting has no encoding or is not written, the
stream has no duplicate, or it cannot be watched.

**The result** (`attach_all_or_none`). Attaching meets an obstacle and leaves the holdings as they
were, or there is a station in between, at which all of the greeting is written and nothing is added
yet, and from there on exactly the peers of the role are added (`Station.Admits`): each under a
number and a token that were not in use, and two of them with a bridge that refers to both.

All this takes is that numbers that are still to come are not in use (`Station.Vacant`).
They never are (`vacant_run`).
-/

namespace Squitter

/-- What is inserted under a new number and erased again leaves no trace. -/
theorem Table.erase_insert {α : Type} {t : Table α} {k : Nat} (h : t.get? k = none) (a : α) :
    (t.insert k a).erase k = t := by
  refine ext_get? fun i => ?_
  rw [get?_erase, get?_insert]
  by_cases hi : i = k
  · rw [if_pos hi, hi, h]
  · rw [if_neg hi, if_neg hi]

namespace Station

variable {σ : Type}

/-! ## Holdings -/

/-- What a station holds. -/
structure Holdings where
  receivers : Table Receiver
  senders : Table Sender
  bridges : Table (Bridge Nat)
  watched : Table Route
  alwaysReady : Table Route
  flow : Flow
  transports : Table Transport
  timers : Timers Work

/-- What the station holds. -/
def holdings (s : Station σ) : Holdings :=
  ⟨s.state.receivers, s.state.fanout.senders, s.state.bridges.table, s.reactor.watched,
    s.reactor.alwaysReady, s.state.flow, s.state.transports, s.reactor.timers⟩

namespace Holdings

variable (h : Holdings)

/-- One more receiver. -/
def withReceiver (id : Nat) (r : Receiver) : Holdings :=
  { h with receivers := h.receivers.insert id r }

/-- One more sender. -/
def withSender (id : Nat) (p : Sender) : Holdings :=
  { h with senders := h.senders.insert id p }

/-- One more bridge. -/
def withBridge (b : Nat) (B : Bridge Nat) : Holdings :=
  { h with bridges := h.bridges.insert b B }

/-- Nothing is registered under the token. -/
def Free (token : Nat) : Prop :=
  h.watched.get? token = none ∧ h.alwaysReady.get? token = none

/-- A route is watched under a token that was free, or none is. -/
inductive Watches (route : Route) : Option Nat → Holdings → Prop
  | watched {token : Nat} (hfree : h.Free token) :
    Watches route (some token) { h with watched := h.watched.insert token route }
  | none : Watches route none h

/-- A route is registered under a token that was free. -/
inductive Registers (route : Route) (token : Nat) : Holdings → Prop
  | watched (hfree : h.Free token) :
    Registers route token { h with watched := h.watched.insert token route }
  | always (hfree : h.Free token) :
    Registers route token { h with alwaysReady := h.alwaysReady.insert token route }

theorem Watches.eq_of_none {h h' : Holdings} {route : Route}
    (hwatches : h.Watches route Option.none h') : h' = h := by
  cases hwatches
  rfl

theorem Watches.registers {h h' : Holdings} {route : Route} {token : Nat}
    (hwatches : h.Watches route (some token) h') : h.Registers route token h' := by
  cases hwatches with
  | watched hfree => exact .watched hfree

/-- A receiver was added that is registered, and nothing else. -/
def AddsReceiver (id : Nat) (stream : Stream) (tether : Tether Nat) (h' : Holdings) : Prop :=
  h.receivers.get? id = none ∧ ∃ source token h₁, h.Registers (.receive id) token h₁ ∧
    h' = h₁.withReceiver id (.fresh source stream token tether)

/-- A sender was added that is watched, if it has a token, and nothing else. -/
def AddsSender (id : Nat) (stream : Stream) (format : Format) (tether : Tether Nat)
    (token : Option Nat) (h' : Holdings) : Prop :=
  h.senders.get? id = none ∧ ∃ h₁, h.Watches (.send id) token h₁ ∧
    h' = h₁.withSender id { Sender.fresh stream format tether with token }

/-- A sender that is not watched, a receiver, and the bridge that refers to both were
added, and nothing else. -/
def AddsBoth (stream half : Stream) (format : Format) (owner : Option Nat) (h' : Holdings) : Prop :=
  ∃ b send receive h₁ h₂, h.bridges.get? b = none ∧
    h.AddsSender send half format (.bridge b) none h₁ ∧
    h₁.AddsReceiver receive stream (.bridge b) h₂ ∧
    h' = h₂.withBridge b ⟨2, owner, send, receive, stream.socket⟩

end Holdings

/-- What is added for a stream of each role. The standard output is not watched. -/
def Admits [Host σ] (s : Station σ) (stream : Stream) (role : Role) (owner : Option Nat)
    (h : Holdings) : Prop :=
  match role with
  | .receive => ∃ id, s.holdings.AddsReceiver id stream (.ofOwner owner) h
  | .send format => ∃ id token, (s.isStdout owner = true → token = none) ∧
      s.holdings.AddsSender id stream format (.ofOwner owner) token h
  | .sendReceive format => ∃ half, (Streams.duplicate stream s.host).1 = .ok half ∧
      s.holdings.AddsBoth stream half format owner h

/-! ## Numbers that are still to come -/

/-- Numbers and tokens that are still to come are not in use. -/
structure Vacant (s : Station σ) : Prop where
  receivers : ∀ id, s.state.nextId ≤ id → s.holdings.receivers.get? id = none
  senders : ∀ id, s.state.nextId ≤ id → s.holdings.senders.get? id = none
  bridges : ∀ b, s.state.bridges.next ≤ b → s.holdings.bridges.get? b = none
  tokens : ∀ token, s.reactor.nextToken ≤ token → s.holdings.Free token

/-- Numbers were used up, but the holdings are the same. -/
structure Alike (s s' : Station σ) : Prop where
  holdings : s'.holdings = s.holdings
  nextId : s.state.nextId ≤ s'.state.nextId
  nextBridge : s.state.bridges.next ≤ s'.state.bridges.next
  nextToken : s.reactor.nextToken ≤ s'.reactor.nextToken

variable {s s' s'' : Station σ}

theorem Alike.trans (h : Alike s s') (h' : Alike s' s'') : Alike s s'' :=
  ⟨h'.holdings.trans h.holdings, Nat.le_trans h.nextId h'.nextId,
    Nat.le_trans h.nextBridge h'.nextBridge, Nat.le_trans h.nextToken h'.nextToken⟩

theorem Alike.vacant (h : Alike s s') (hs : s.Vacant) : s'.Vacant where
  receivers id hid := by
    rw [h.holdings]
    exact hs.receivers id (Nat.le_trans h.nextId hid)
  senders id hid := by
    rw [h.holdings]
    exact hs.senders id (Nat.le_trans h.nextId hid)
  bridges b hb := by
    rw [h.holdings]
    exact hs.bridges b (Nat.le_trans h.nextBridge hb)
  tokens token htoken := by
    rw [h.holdings]
    exact hs.tokens token (Nat.le_trans h.nextToken htoken)

theorem alike_discard [Streams σ] (s : Station σ) (stream : Stream) : Alike s (s.discard stream) :=
  ⟨rfl, Nat.le_refl _, Nat.le_refl _, Nat.le_refl _⟩

theorem alike_takeId (s : Station σ) : Alike s s.takeId.2 :=
  ⟨rfl, Nat.le_succ _, Nat.le_refl _, Nat.le_refl _⟩

theorem alike_nextToken (s : Station σ) (host : σ) :
    Alike s (s.withReactor { s.reactor with nextToken := s.reactor.nextToken + 1 } host) :=
  ⟨rfl, Nat.le_refl _, Nat.le_refl _, Nat.le_succ _⟩

/-- A number was given out for a bridge, whether or not the bridge comes about. -/
def bridging (s : Station σ) (host : σ) : Station σ :=
  (s.withHost host).withBus fun b => { b with bridges := s.state.bridges.allocate.2 }

theorem alike_bridging (s : Station σ) (host : σ) : Alike s (s.bridging host) :=
  ⟨rfl, Nat.le_refl _, Nat.le_succ _, Nat.le_refl _⟩

theorem Sound.vacant (h : s.Sound) : s.Vacant where
  receivers id hid := Option.map_eq_none_iff.1 (h.numbered .receive id hid)
  senders id hid := Option.map_eq_none_iff.1 (h.numbered .send id hid)
  bridges b hb := by
    cases hB : s.bridge? b with
    | none => exact hB
    | some B => exact absurd (h.below b B hB).1 (Nat.not_lt.2 hb)
  tokens token htoken := Option.or_eq_none_iff.1 (h.bounded token htoken)

/-- **Numbers that are still to come are never in use.** -/
theorem vacant_run [Host σ] (settings : Settings) (server : Server) (host : σ)
    (acts : List (Act σ)) : ((fresh settings server host).run acts).Vacant := by
  have hsound := sound_fresh settings server host
  obtain ⟨hs, hcourse, -⟩ := course_run hsound ⟨rfl, fun _ ⟨_, h, _⟩ => by cases h⟩ acts
  exact (hcourse.sound hsound).vacant

/-! ## What is written -/

/-- All of some bytes was written, in one write after the other. -/
inductive Written [Streams σ] (stream : Stream) : Bytes → σ → σ → Prop
  | done (host : σ) : Written stream [] host host
  | write {bytes : Bytes} {n : Nat} {host host' host'' : σ}
    (hwrite : Streams.write stream bytes host = (.ok n, host')) (hpos : 0 < n)
    (hrest : Written stream (bytes.drop n) host' host'') : Written stream bytes host host''

theorem written_of_writeAll [Streams σ] {stream : Stream} {bytes : Bytes} {host host' : σ}
    (h : writeAll stream bytes host = (.ok (), host')) : Written stream bytes host host' := by
  fun_induction writeAll stream bytes host with
  | case1 =>
    cases h
    exact .done _
  | case2 => cases h
  | case3 => cases h
  | case4 bytes host hne n host₁ hwrite hn ih => exact .write hwrite (Nat.pos_of_ne_zero hn) (ih h)

/-! ## Obstacles -/

/-- What a stream of a format starts with. -/
def greeting? [Poller σ] (s : Station σ) (format : Format) : Except Error Bytes :=
  (s.state.fanout.greeting format s.state.server (Poller.now s.host)).1

/-- A stream could not be watched. -/
def Unwatched (σ : Type) [Poller σ] (stream : Stream) (e : IoError) : Prop :=
  ∃ token, ∃ host : σ, (Poller.watch stream.handle .readable token host).1 = .error e

/-- A step that failed, with its error. -/
inductive Obstacle [Host σ] (s : Station σ) (stream : Stream) (role : Role) : Error → Prop
  | encoding {format : Format} {e : Error} (hrole : role.sendFormat? = some format)
    (hgreeting : s.greeting? format = .error e) : Obstacle s stream role e
  | writing {format : Format} {bytes : Bytes} {e : IoError} (hrole : role.sendFormat? = some format)
    (hgreeting : s.greeting? format = .ok bytes)
    (hwrite : (writeAll stream bytes s.host).1 = .error e) : Obstacle s stream role (.io e)
  | duplicating {e : IoError} {host : σ} (h : (Streams.duplicate stream host).1 = .error e) :
    Obstacle s stream role (.io e)
  | watching {e : IoError} (h : Unwatched σ stream e) : Obstacle s stream role (.io e)

/-! ## Greeting -/

variable [Host σ]

/-- All of the greeting was written, and the holdings are as they were. -/
structure Greeted (s s' : Station σ) (stream : Stream) (role : Role) : Prop extends Alike s s' where
  unwritten : role.sendFormat? = none → s' = s
  written : ∀ format, role.sendFormat? = some format →
    ∃ bytes, s.greeting? format = .ok bytes ∧ Written stream bytes s.host s'.host

/-- The encoder of a format is remembered, and the computer changed. -/
def greeted (s : Station σ) (format : Format) (host : σ) : Station σ :=
  (s.withBus fun b => { b with
    fanout := (s.state.fanout.greeting format s.state.server (Poller.now s.host)).2 }).withHost host

theorem alike_greeted (s : Station σ) (format : Format) (host : σ) :
    Alike s (s.greeted format host) :=
  ⟨rfl, Nat.le_refl _, Nat.le_refl _, Nat.le_refl _⟩

theorem greet_of_format {role : Role} {format : Format} (h : role.sendFormat? = some format)
    (s : Station σ) (stream : Stream) : s.greet stream role =
      match s.greeting? format with
      | .error e => (.error e, s.greeted format s.host)
      | .ok bytes => ((writeAll stream bytes s.host).1.mapError .io,
          s.greeted format (writeAll stream bytes s.host).2) := by
  rw [greet, h]
  rfl

/-- **All that greeting can do.** -/
theorem greet_cases (s : Station σ) (stream : Stream) (role : Role) :
    (∃ e s', s.greet stream role = (.error e, s') ∧ Obstacle s stream role e ∧ Alike s s') ∨
      ∃ s', s.greet stream role = (.ok (), s') ∧ Greeted s s' stream role := by
  cases hrole : role.sendFormat? with
  | none =>
    refine .inr ⟨s, by rw [greet, hrole], ⟨rfl, Nat.le_refl _, Nat.le_refl _, Nat.le_refl _⟩,
      fun _ => rfl, ?_⟩
    intro format hformat
    cases hrole.symm.trans hformat
  | some format =>
    rw [greet_of_format hrole]
    cases hgreeting : s.greeting? format with
    | error e => exact .inl ⟨e, _, rfl, .encoding hrole hgreeting, alike_greeted s format s.host⟩
    | ok bytes =>
      rcases hwrite : writeAll stream bytes s.host with ⟨e | u, host⟩
      · exact .inl ⟨.io e, s.greeted format host, by simp only [hwrite]; rfl,
          .writing hrole hgreeting (congrArg Prod.fst hwrite), alike_greeted s format host⟩
      · refine .inr ⟨s.greeted format host, by simp only [hwrite]; rfl, alike_greeted s format host,
          fun hnone => (Option.some_ne_none format (hrole.symm.trans hnone)).elim,
          fun format' hformat => ?_⟩
        cases hrole.symm.trans hformat
        exact ⟨bytes, hgreeting, written_of_writeAll hwrite⟩

/-! ## Registering -/

/-- **All that trying to register can do** to the holdings. -/
theorem tryRegister_holdings (hs : s.Vacant) (stream : Stream) (route : Route) :
    (∃ e r host, s.reactor.tryRegister stream.handle .readable route s.host = (.error e, r, host) ∧
      Unwatched σ stream e ∧ Alike s (s.withReactor r host)) ∨
    ∃ token r host, s.reactor.tryRegister stream.handle .readable route s.host =
      (.ok token, r, host) ∧ r.nextToken = s.reactor.nextToken + 1 ∧
        s.holdings.Watches route token (s.withReactor r host).holdings := by
  rcases h : Poller.watch stream.handle .readable s.reactor.nextToken s.host with ⟨e | _ | _, host⟩
  · exact .inl ⟨e, { s.reactor with nextToken := s.reactor.nextToken + 1 }, host,
      by simp only [Reactor.tryRegister, h], ⟨_, _, congrArg Prod.fst h⟩, alike_nextToken s host⟩
  · exact .inr ⟨none, { s.reactor with nextToken := s.reactor.nextToken + 1 }, host,
      by simp only [Reactor.tryRegister, h], rfl, .none⟩
  · exact .inr ⟨some s.reactor.nextToken, { s.reactor with
      nextToken := s.reactor.nextToken + 1
      watched := s.reactor.watched.insert s.reactor.nextToken route }, host,
      by simp only [Reactor.tryRegister, h], rfl, .watched (hs.tokens _ (Nat.le_refl _))⟩

/-- **All that registering can do** to the holdings. -/
theorem register_holdings (hs : s.Vacant) (stream : Stream) (route : Route) :
    (∃ e s', s.register stream .readable route = (.error e, s') ∧ Unwatched σ stream e ∧
      Alike s s') ∨
    ∃ token s', s.register stream .readable route = (.ok token, s') ∧ s'.state = s.state ∧
      s.holdings.Registers route token s'.holdings := by
  rcases tryRegister_holdings hs stream route with ⟨e, r, host, h, hwatch, halike⟩ |
    ⟨_ | token, r, host, h, hnext, hwatches⟩
  · exact .inl ⟨e, s.withReactor r host, by simp only [register, Reactor.register, h], hwatch,
      halike⟩
  · refine .inr ⟨r.nextToken, s.withReactor { r with
      nextToken := r.nextToken + 1, alwaysReady := r.alwaysReady.insert r.nextToken route } host,
      by simp only [register, Reactor.register, h], rfl, ?_⟩
    have hfree := hs.tokens r.nextToken (hnext ▸ Nat.le_succ _)
    rw [← hwatches.eq_of_none] at hfree ⊢
    exact .always hfree
  · exact .inr ⟨token, s.withReactor r host, by simp only [register, Reactor.register, h], rfl,
      hwatches.registers⟩

/-! ## Adding peers -/

/-- **All that adding a receiver can do** to the holdings. -/
theorem addReceiver_holdings (hs : s.Vacant) (stream : Stream) (tether : Tether Nat) :
    (∃ e s', s.addReceiver stream tether = (.error (.io e), s') ∧
      Unwatched σ stream e ∧ Alike s s') ∨
    ∃ s', s.addReceiver stream tether = (.ok s.state.nextId, s') ∧
      s.holdings.AddsReceiver s.state.nextId stream tether s'.holdings := by
  have halike := alike_takeId s
  rcases register_holdings (halike.vacant hs) stream (.receive s.state.nextId) with
    ⟨e, s', h, hwatch, halike'⟩ | ⟨token, s', h, -, hregisters⟩
  · refine .inl ⟨e, s'.discard stream, ?_, hwatch,
      halike.trans (halike'.trans (alike_discard s' stream))⟩
    simp only [addReceiver, takeId] at h ⊢
    simp only [h]
  · refine .inr ⟨(s'.withHost (Host.freshId s'.host).2).withBus fun b => { b with
      receivers := b.receivers.insert s.state.nextId
        (.fresh (Host.freshId s'.host).1 stream token tether) }, ?_,
      hs.receivers _ (Nat.le_refl _), _, token, s'.holdings, hregisters, rfl⟩
    simp only [addReceiver, takeId] at h ⊢
    simp only [h]

/-- A sender that is not watched is added without fail. -/
theorem addSender_unwatched (hs : s.Vacant) (stream : Stream) (format : Format)
    (tether : Tether Nat) :
    ∃ s', s.addSender stream format tether false = (.ok s.state.nextId, s') ∧
      s.holdings.AddsSender s.state.nextId stream format tether none s'.holdings ∧ s'.Vacant := by
  refine ⟨_, rfl, ⟨hs.senders _ (Nat.le_refl _), s.holdings, .none, rfl⟩, ?_⟩
  refine ⟨fun id hid => hs.receivers id (Nat.le_of_succ_le hid), fun id hid => ?_, hs.bridges,
    hs.tokens⟩
  exact (Table.get?_insert _ _ _ _).trans
    ((if_neg (Nat.ne_of_gt hid)).trans (hs.senders id (Nat.le_of_succ_le hid)))

/-- **All that adding a sender can do** to the holdings. -/
theorem addSender_holdings (hs : s.Vacant) (stream : Stream) (format : Format)
    (tether : Tether Nat) (watch : Bool) :
    (∃ e s', s.addSender stream format tether watch = (.error (.io e), s') ∧
      Unwatched σ stream e ∧ Alike s s') ∨
    ∃ token s', s.addSender stream format tether watch = (.ok s.state.nextId, s') ∧
      (watch = false → token = none) ∧
      s.holdings.AddsSender s.state.nextId stream format tether token s'.holdings := by
  cases watch with
  | false =>
    obtain ⟨s', h, hadds, -⟩ := addSender_unwatched hs stream format tether
    exact .inr ⟨none, s', h, fun _ => rfl, hadds⟩
  | true =>
    have halike := alike_takeId s
    have hnew := hs.senders s.state.nextId (Nat.le_refl _)
    rcases tryRegister_holdings (halike.vacant hs) stream (.send s.state.nextId) with
      ⟨e, r, host, h, hwatch, halike'⟩ | ⟨token, r, host, h, -, hwatches⟩
    · refine .inl ⟨e, (s.takeId.2.withReactor r host).discard stream, ?_, hwatch,
        halike.trans (halike'.trans (alike_discard _ stream))⟩
      simp only [addSender, takeId, if_true] at h ⊢
      simp only [h]
    · refine .inr ⟨token, (s.takeId.2.withReactor r host).withBus fun b => { b with
        fanout := b.fanout.insert s.state.nextId { Sender.fresh stream format tether with token } },
        ?_, fun hunwatched => Bool.noConfusion hunwatched, hnew,
        (s.takeId.2.withReactor r host).holdings, ?_, rfl⟩
      · simp only [addSender, takeId, if_true] at h ⊢
        simp only [h]
      · exact halike.holdings ▸ hwatches

/-- A sender that was added without being watched is taken back. -/
theorem Holdings.AddsSender.undo {h h' : Holdings} {id : Nat} {stream : Stream} {format : Format}
    {tether : Tether Nat} (hadds : h.AddsSender id stream format tether none h') :
    { h' with senders := h'.senders.erase id } = h := by
  obtain ⟨hnew, h₁, hwatches, rfl⟩ := hadds
  cases hwatches
  simp only [withSender, Table.erase_insert hnew]

/-- With a duplicate, adding both halves is adding one and then the other. -/
theorem addBoth_of_duplicate {stream half : Stream} {host : σ}
    (h : Streams.duplicate stream s.host = (.ok half, host)) (format : Format)
    (owner : Option Nat) :
    s.addBoth stream format owner =
      match (s.bridging host).addSender half format (.bridge s.state.bridges.next) false with
      | (.error e, s') => (.error e, s'.discard stream)
      | (.ok send, s') =>
        match s'.addReceiver stream (.bridge s.state.bridges.next) with
        | (.error e, s') =>
          (.error e, (s'.withBus fun b => { b with fanout := b.fanout.remove send }).discard half)
        | (.ok receive, s') => (.ok (), s'.withBus fun b => { b with
          bridges := b.bridges.build s.state.bridges.next owner send receive stream.socket }) := by
  rw [addBoth, h]
  rfl

/-- **All that adding both halves of a stream can do** to the holdings. If the receiver cannot be
added, the sender is taken away again. -/
theorem addBoth_holdings (hs : s.Vacant) (stream : Stream) (format : Format) (owner : Option Nat) :
    (∃ e s', s.addBoth stream format owner = (.error (.io e), s') ∧
      ((∃ host : σ, (Streams.duplicate stream host).1 = .error e) ∨ Unwatched σ stream e) ∧
      s'.holdings = s.holdings) ∨
    ∃ half s', s.addBoth stream format owner = (.ok (), s') ∧
      (Streams.duplicate stream s.host).1 = .ok half ∧
      s.holdings.AddsBoth stream half format owner s'.holdings := by
  rcases hdup : Streams.duplicate stream s.host with ⟨e | half, host⟩
  · exact .inl ⟨e, (s.withHost host).discard stream, by rw [addBoth, hdup],
      .inl ⟨_, congrArg Prod.fst hdup⟩, rfl⟩
  · obtain ⟨s₁, hsend, hsender, hs₁⟩ := addSender_unwatched ((alike_bridging s host).vacant hs) half
      format (.bridge s.state.bridges.next)
    rw [addBoth_of_duplicate hdup, hsend]
    rcases addReceiver_holdings hs₁ stream (.bridge s.state.bridges.next) with
      ⟨e, s₂, hreceive, hwatch, halike⟩ | ⟨s₂, hreceive, hreceiver⟩
    · refine .inl ⟨e, _, by simp only [hreceive]; rfl, .inr hwatch, ?_⟩
      refine Eq.trans ?_ hsender.undo
      rw [← halike.holdings]
      rfl
    · refine .inr ⟨half, _, by simp only [hreceive]; rfl, rfl, ?_⟩
      exact ⟨_, _, _, s₁.holdings, s₂.holdings, hs.bridges _ (Nat.le_refl _), hsender,
        hreceiver, rfl⟩

/-! ## Attaching -/

/-- Add the peers of a stream whose greeting is written. -/
def enroll (s : Station σ) (stream : Stream) (role : Role) (owner : Option Nat) :
    Except Error Unit × Station σ :=
  match role with
  | .receive =>
    let (r, s) := s.addReceiver stream (.ofOwner owner)
    (r.map fun _ => (), s)
  | .send format =>
    let (r, s) := s.addSender stream format (.ofOwner owner) (¬ s.isStdout owner)
    (r.map fun _ => (), s)
  | .sendReceive format => s.addBoth stream format owner

theorem attach_eq (s : Station σ) (stream : Stream) (role : Role) (owner : Option Nat) :
    s.attach stream role owner =
      match s.greet stream role with
      | (.error e, s') => (.error e, s'.discard stream)
      | (.ok (), s') => s'.enroll stream role owner :=
  rfl

/-- **All that adding the peers of a stream can do** to the holdings. -/
theorem enroll_holdings (hs : s.Vacant) (stream : Stream) (role : Role) (owner : Option Nat) :
    (∃ e s', s.enroll stream role owner = (.error (.io e), s') ∧
      ((∃ host : σ, (Streams.duplicate stream host).1 = .error e) ∨ Unwatched σ stream e) ∧
      s'.holdings = s.holdings) ∨
    ∃ s', s.enroll stream role owner = (.ok (), s') ∧ s.Admits stream role owner s'.holdings := by
  cases role with
  | receive =>
    rcases addReceiver_holdings hs stream (.ofOwner owner) with
      ⟨e, s', h, hwatch, halike⟩ | ⟨s', h, hadds⟩
    · exact .inl ⟨e, s', by simp only [enroll, h]; rfl, .inr hwatch, halike.holdings⟩
    · exact .inr ⟨s', by simp only [enroll, h]; rfl, _, hadds⟩
  | send format =>
    rcases addSender_holdings hs stream format (.ofOwner owner) (¬ s.isStdout owner) with
      ⟨e, s', h, hwatch, halike⟩ | ⟨token, s', h, htoken, hadds⟩
    · exact .inl ⟨e, s', by simp only [enroll, h]; rfl, .inr hwatch, halike.holdings⟩
    · refine .inr ⟨s', by simp only [enroll, h]; rfl, _, token, fun hstdout => htoken ?_, hadds⟩
      simpa using hstdout
  | sendReceive format =>
    rcases addBoth_holdings hs stream format owner with
      ⟨e, s', h, hwhy, hheld⟩ | ⟨half, s', h, hadds⟩
    · exact .inl ⟨e, s', h, hwhy, hheld⟩
    · exact .inr ⟨s', h, half, hadds⟩

/-- **Attaching is all or none.** It meets an obstacle and the holdings are as they
were, or the greeting is written in full while they still are, and then exactly the
peers of the role are added. -/
theorem attach_all_or_none (hs : s.Vacant) (stream : Stream) (role : Role) (owner : Option Nat) :
    (∃ e s', s.attach stream role owner = (.error e, s') ∧ Obstacle s stream role e ∧
      s'.holdings = s.holdings) ∨
    ∃ s₁ s', s.greet stream role = (.ok (), s₁) ∧ Greeted s s₁ stream role ∧
      s.attach stream role owner = s₁.enroll stream role owner ∧
      s₁.enroll stream role owner = (.ok (), s') ∧ s₁.Admits stream role owner s'.holdings := by
  rw [attach_eq]
  rcases greet_cases s stream role with ⟨e, s₁, hgreet, hwhy, halike⟩ | ⟨s₁, hgreet, hgreeted⟩
  · rw [hgreet]
    exact .inl ⟨e, _, rfl, hwhy, halike.holdings⟩
  · rw [hgreet]
    rcases enroll_holdings (hgreeted.vacant hs) stream role owner with
      ⟨e, s', h, ⟨host, hdup⟩ | hwatch, hheld⟩ | ⟨s', h, hadmits⟩
    · exact .inl ⟨.io e, s', h, .duplicating hdup, hheld.trans hgreeted.holdings⟩
    · exact .inl ⟨.io e, s', h, .watching hwatch, hheld.trans hgreeted.holdings⟩
    · exact .inr ⟨s₁, s', rfl, hgreeted, rfl, h, hadmits⟩

/-- On a computer whose standard input is open and whose standard output has a sender, both halves
of the input are added; on a handle that is not open nothing is. -/
theorem attach_stdin_both :
    let s := (fresh .usual ⟨.nil, Server.usualVersion⟩ (Host.openStdin (Machine.boot false)).2).run
      [.endpoint ⟨.send .raw, .stdout⟩]
    (∃ s₁ s', Greeted s s₁ ⟨0, some 3, false, false⟩ (.sendReceive .stats) ∧
      s.attach ⟨0, some 3, false, false⟩ (.sendReceive .stats) none = (.ok (), s') ∧
      s₁.Admits ⟨0, some 3, false, false⟩ (.sendReceive .stats) none s'.holdings) ∧
    ∃ e s', s.attach ⟨9, some 3, false, false⟩ (.sendReceive .raw) none = (.error e, s') ∧
      s'.holdings = s.holdings := by
  intro s
  have hs := vacant_run .usual ⟨.nil, Server.usualVersion⟩ (Host.openStdin (Machine.boot false)).2
    [.endpoint ⟨.send .raw, .stdout⟩]
  refine ⟨?_, ?_⟩
  · rcases attach_all_or_none hs ⟨0, some 3, false, false⟩ (.sendReceive .stats) none with
      ⟨e, s', h, -⟩ | ⟨s₁, s', -, hgreeted, h, h', hadmits⟩
    · have hok : (s.attach ⟨0, some 3, false, false⟩ (.sendReceive .stats) none).1.isOk = true := by
        decide +kernel
      rw [h] at hok
      cases hok
    · exact ⟨s₁, s', hgreeted, h.trans h', hadmits⟩
  · rcases attach_all_or_none hs ⟨9, some 3, false, false⟩ (.sendReceive .raw) none with
      ⟨e, s', h, -, hheld⟩ | ⟨s₁, s', -, -, h, h', -⟩
    · exact ⟨e, s', h, hheld⟩
    · have hok : (s.attach ⟨9, some 3, false, false⟩ (.sendReceive .raw) none).1.isOk = false := by
        decide +kernel
      rw [h, h'] at hok
      cases hok

end Station
end Squitter
