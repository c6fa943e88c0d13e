import Squitter.Proofs.Peers.Severing

/-!
# New peers

A new peer comes under a number that was not in use, and so does the token under which it is watched
(`Station.Gains`). So what had a number before is as it was (`Station.Grows`), and one stream more
is open, under a new key (`Station.Gets`): that of the peer (`Gains.gets`), or that of the bridge
between two of them (`Doubles.gets`).
-/

namespace Squitter.Station

variable {σ : Type}

/-! ## A new peer -/

/-- There is one peer more, under the next number, and what is registered for it. -/
structure Gains (s s' : Station σ) (half : Half) (id : Nat) (P : Peer) : Prop where
  number : id = s.state.nextId
  peers : ∀ h i, s'.peer? h i = if (h, i) = (half, id) then some P else s.peer? h i
  routes : ∀ t, s'.route? t = if P.token = some t then some (half.route id) else s.route? t
  token : ∀ t, P.token = some t → s.reactor.nextToken ≤ t ∧ t < s'.reactor.nextToken
  bridges : s'.state.bridges = s.state.bridges
  transports : s'.state.transports = s.state.transports
  nextId : s'.state.nextId = id + 1
  nextToken : s.reactor.nextToken ≤ s'.reactor.nextToken
  failing : ∀ i, s'.Failing i → s.Failing i
  failures : s'.state.fanout.failures = s.state.fanout.failures
  reasons : s'.reasons = s.reasons

variable {s s' : Station σ} {half : Half} {id : Nat} {P : Peer}

theorem Gains.tether (h : Gains s s' half id P) (half' : Half) (id' : Nat) :
    s'.tether? half' id' =
      if (half', id') = (half, id) then some P.tether else s.tether? half' id' := by
  rw [tether?, h.peers]
  split <;> rfl

/-- What is registered for peers before a new one comes is registered under other tokens. -/
theorem Gains.token_ne (h : Gains s s' half id P) (hs : s.Tidy) {t : Nat} {route : Route}
    (hroute : s.route? t = some route) : P.token ≠ some t := by
  intro htoken
  have hnone : s.route? t = none := hs.bounded t (h.token t htoken).1
  rw [hnone] at hroute
  cases hroute

/-- Everything is still in its place when a peer comes. -/
theorem Gains.tidy (h : Gains s s' half id P) (hs : s.Tidy) : s'.Tidy where
  watched half' id' token := by
    rw [h.routes, h.peers]
    by_cases heq : (half', id') = (half, id)
    · obtain ⟨rfl, rfl⟩ := Prod.mk.inj heq
      rw [if_pos rfl]
      by_cases htoken : P.token = some token
      · rw [if_pos htoken]
        exact ⟨fun _ => rfl, fun _ => ⟨P, rfl, htoken⟩⟩
      · rw [if_neg htoken, ← hs.watched half' id' token,
          hs.numbered half' id' (Nat.le_of_eq h.number.symm)]
        constructor
        · rintro ⟨P', hP', htoken'⟩
          exact absurd (by rw [Option.some.inj hP', htoken']) htoken
        · rintro ⟨P', ⟨⟩, -⟩
    · rw [if_neg heq]
      by_cases htoken : P.token = some token
      · rw [if_pos htoken, hs.watched half' id' token]
        exact ⟨fun hroute => absurd htoken (h.token_ne hs hroute),
          fun hroute => absurd (Half.route_eq_iff.1 (Option.some.inj hroute)).symm heq⟩
      · rw [if_neg htoken, hs.watched half' id' token]
  numbered half' id' hid := by
    have hlt : id < id' := by
      rw [h.nextId] at hid
      exact hid
    rw [h.peers, if_neg fun heq => Nat.ne_of_gt hlt (Prod.mk.inj heq).2]
    exact hs.numbered half' id' (Nat.le_of_lt (h.number ▸ hlt))
  bounded token hle := by
    have hne : P.token ≠ some token := fun htoken =>
      Nat.not_lt_of_le hle (h.token token htoken).2
    exact (h.routes token).trans
      ((if_neg hne).trans (hs.bounded token (Nat.le_trans h.nextToken hle)))
  spare i t ht token htoken := by
    have hspare := hs.spare i t (by rwa [transport?, ← h.transports]) token htoken
    have hne : P.token ≠ some token := fun htoken' =>
      Nat.not_lt_of_le (h.token token htoken').1 hspare.1
    refine ⟨Nat.lt_of_lt_of_le hspare.1 h.nextToken, fun half' id' hroute => hspare.2 half' id' ?_⟩
    rwa [h.routes, if_neg hne] at hroute

/-! ## What had a number before -/

/-- Peers and bridges that had a number before are as they were. -/
structure Grows (s s' : Station σ) : Prop where
  peers : ∀ half id, id < s.state.nextId → s'.peer? half id = s.peer? half id
  bridges : ∀ b < s.state.bridges.next, s'.bridge? b = s.bridge? b
  nextId : s.state.nextId ≤ s'.state.nextId
  nextBridge : s.state.bridges.next ≤ s'.state.bridges.next
  failing : ∀ i, s'.Failing i → s.Failing i
  failures : s'.state.fanout.failures = s.state.fanout.failures
  reasons : s'.reasons = s.reasons

theorem Grows.tether (h : Grows s s') {half : Half} {id : Nat} (hid : id < s.state.nextId) :
    s'.tether? half id = s.tether? half id := by
  rw [tether?, h.peers half id hid, tether?]

/-- Bridges and peers belong together if the new ones do. -/
theorem Grows.paired (h : Grows s s') (hs : s.Paired)
    (hjoined : ∀ b B, s.state.bridges.next ≤ b → s'.bridge? b = some B →
      s'.Joins b B ∧ b < s'.state.bridges.next ∧ ∀ half, B.peer half < s'.state.nextId)
    (hbridged : ∀ b half id, s.state.nextId ≤ id → s'.On b half id →
      ∃ B, s'.bridge? b = some B ∧ B.peer half = id) : s'.Paired where
  joined b B hB := by
    by_cases hb : s.state.bridges.next ≤ b
    · exact (hjoined b B hb hB).1
    · rw [h.bridges b (Nat.lt_of_not_le hb)] at hB
      have hpeers := (hs.below b B hB).2
      have hjoins := hs.joined b B hB
      unfold Joins On at hjoins ⊢
      simp only [h.tether (hpeers _), h.peers _ _ (hpeers _)]
      exact hjoins
  bridged b half id hon := by
    by_cases hid : s.state.nextId ≤ id
    · exact hbridged b half id hid hon
    · rw [On, h.tether (Nat.lt_of_not_le hid)] at hon
      obtain ⟨B, hB, hpeer⟩ := hs.bridged b half id hon
      exact ⟨B, (h.bridges b (hs.below b B hB).1).trans hB, hpeer⟩
  below b B hB := by
    by_cases hb : s.state.bridges.next ≤ b
    · exact (hjoined b B hb hB).2
    · rw [h.bridges b (Nat.lt_of_not_le hb)] at hB
      obtain ⟨hlt, hpeers⟩ := hs.below b B hB
      exact ⟨Nat.lt_of_lt_of_le hlt h.nextBridge,
        fun half => Nat.lt_of_lt_of_le (hpeers half) h.nextId⟩

/-! ## A new stream -/

/-- One stream more is open, under a key that was not in use. -/
structure Gets (s s' : Station σ) (key : Key) (owner : Option Nat) : Prop where
  sound : s'.Sound
  fresh : ¬ key.Used s
  opens : ∀ k o, s'.Open k o ↔ (k, o) = (key, owner) ∨ s.Open k o
  nextId : s.state.nextId ≤ s'.state.nextId
  nextBridge : s.state.bridges.next ≤ s'.state.bridges.next
  failing : ∀ i, s'.Failing i → s.Failing i
  failures : s'.state.fanout.failures = s.state.fanout.failures
  reasons : s'.reasons = s.reasons

theorem Gets.of_aside {s'' : Station σ} {key : Key} {owner : Option Nat} (h : Gets s' s'' key owner)
    (h' : Aside s s') : Gets s s'' key owner where
  sound := h.sound
  fresh hused := h.fresh (hused.mono h'.nextId h'.nextBridge)
  opens k o := by rw [h.opens, h'.open_iff]
  nextId := Nat.le_trans h'.nextId h.nextId
  nextBridge := Nat.le_trans h'.nextBridge h.nextBridge
  failing i hi := h'.failing i (h.failing i hi)
  failures := h.failures.trans h'.failures
  reasons := h.reasons.trans h'.reasons

theorem Grows.gets {key : Key} {owner : Option Nat} (h : Grows s s') (hs : s.Sound) (hs' : s'.Sound)
    (hfresh : ¬ key.Used s) (hnew : ∀ k o, ¬ k.Used s → (s'.Open k o ↔ (k, o) = (key, owner))) :
    Gets s s' key owner where
  sound := hs'
  fresh := hfresh
  opens k o := by
    by_cases hused : k.Used s
    · have hsame : s'.Open k o ↔ s.Open k o := by
        cases k with
        | single half id => rw [open_single, open_single, h.tether hused]
        | double b => rw [hs'.open_double, hs.open_double, h.bridges b hused]
      rw [hsame]
      exact ⟨.inr, fun h' => h'.resolve_left fun heq => hfresh ((Prod.mk.inj heq).1 ▸ hused)⟩
    · rw [hnew k o hused]
      exact ⟨.inl, fun h' => h'.resolve_right fun hopen => hused (hs.used_of_open hopen)⟩
  nextId := h.nextId
  nextBridge := h.nextBridge
  failing := h.failing
  failures := h.failures
  reasons := h.reasons

/-- A peer that comes without a bridge has a stream of its own. -/
theorem Gains.gets (h : Gains s s' half id P) (hs : s.Sound) {owner : Option Nat}
    (htether : P.tether = .ofOwner owner) : Gets s s' (.single half id) owner := by
  have hbridge (b : Nat) : s'.bridge? b = s.bridge? b := by rw [bridge?, h.bridges, bridge?]
  have hgrows : Grows s s' :=
    { peers := fun half' id' hid => by
        rw [h.peers, if_neg fun heq => ?_]
        exact Nat.ne_of_lt (h.number ▸ hid) (Prod.mk.inj heq).2
      bridges := fun b _ => hbridge b
      nextId := by rw [h.nextId, ← h.number]; exact Nat.le_succ id
      nextBridge := Nat.le_of_eq (by rw [h.bridges])
      failing := h.failing
      failures := h.failures
      reasons := h.reasons }
  have hnone {half' : Half} {id' : Nat} (hid : s.state.nextId ≤ id') :
      s.tether? half' id' = none := by
    rw [tether?, hs.numbered half' id' hid]
    rfl
  have hpaired : s'.Paired := by
    refine hgrows.paired hs.toPaired (fun b B hb hB => ?_) fun b half' id' hid hon => ?_
    · rw [hbridge] at hB
      exact absurd (hs.below b B hB).1 (Nat.not_lt_of_le hb)
    · rw [On, h.tether, hnone hid] at hon
      split at hon
      · rw [htether] at hon
        exact absurd (Option.some.inj hon) (ofOwner_ne_bridge owner b)
      · cases hon
  have hsound : s'.Sound := { h.tidy hs.toTidy, hpaired with }
  refine hgrows.gets hs hsound (fun hused => Nat.ne_of_lt hused h.number) fun k o hused => ?_
  cases k with
  | single half' id' =>
    rw [open_single, h.tether, hnone (Nat.le_of_not_lt hused)]
    by_cases heq : (half', id') = (half, id)
    · obtain ⟨rfl, rfl⟩ := Prod.mk.inj heq
      rw [if_pos rfl, htether]
      refine ⟨fun h' => ?_, fun h' => ?_⟩
      · rw [ofOwner_injective (Option.some.inj h')]
      · rw [(Prod.mk.inj h').2]
    · rw [if_neg heq]
      constructor
      · rintro ⟨⟩
      · rintro ⟨⟩
        exact absurd rfl heq
  | double b =>
    rw [hsound.open_double]
    simp only [hbridge]
    constructor
    · rintro ⟨B, hB, -⟩
      exact absurd (hs.below b B hB).1 hused
    · rintro ⟨⟩

/-- There are two peers more and a bridge between them. -/
structure Doubles (s s' : Station σ) (b : Nat) (B : Bridge Nat) : Prop where
  number : b = s.state.bridges.next
  held : B.held = 2
  ids : ∀ half, s.state.nextId ≤ B.peer half ∧ B.peer half < s'.state.nextId
  tether : ∀ half id,
    s'.tether? half id = if id = B.peer half then some (.bridge b) else s.tether? half id
  peers : ∀ half id, id ≠ B.peer half → s'.peer? half id = s.peer? half id
  bridges : ∀ b', s'.bridge? b' = if b' = b then some B else s.bridge? b'
  nextId : s.state.nextId ≤ s'.state.nextId
  nextBridge : s'.state.bridges.next = b + 1
  failing : ∀ i, s'.Failing i → s.Failing i
  failures : s'.state.fanout.failures = s.state.fanout.failures
  reasons : s'.reasons = s.reasons

section

variable {b : Nat} {B : Bridge Nat}

theorem Doubles.grows (h : Doubles s s' b B) : Grows s s' where
  peers half id hid := h.peers half id (Nat.ne_of_lt (Nat.lt_of_lt_of_le hid (h.ids half).1))
  bridges b' hb := by rw [h.bridges, if_neg (Nat.ne_of_lt (h.number ▸ hb))]
  nextId := h.nextId
  nextBridge := by rw [h.nextBridge, ← h.number]; exact Nat.le_succ b
  failing := h.failing
  failures := h.failures
  reasons := h.reasons

theorem Doubles.paired (h : Doubles s s' b B) (hs : s.Sound) : s'.Paired := by
  refine h.grows.paired hs.toPaired (fun b' B' hb hB => ?_) fun b' half id hid hon => ?_
  · rw [h.bridges] at hB
    by_cases heq : b' = b
    · rw [if_pos heq] at hB
      cases hB
      rw [heq]
      exact ⟨.inl ⟨h.held, fun half => (h.tether half _).trans (if_pos rfl)⟩,
        h.nextBridge ▸ Nat.lt_succ_self b, fun half => (h.ids half).2⟩
    · rw [if_neg heq] at hB
      exact absurd (hs.below b' B' hB).1 (Nat.not_lt_of_le hb)
  · rw [On, h.tether, tether?, hs.numbered half id hid] at hon
    by_cases heq : id = B.peer half
    · rw [if_pos heq] at hon
      cases hon
      exact ⟨B, (h.bridges b).trans (if_pos rfl), heq.symm⟩
    · rw [if_neg heq] at hon
      cases hon

/-- Two peers that come with a bridge between them are a stream. -/
theorem Doubles.gets (h : Doubles s s' b B) (hs : s.Sound) (htidy : s'.Tidy) :
    Gets s s' (.double b) B.owner := by
  have hsound : s'.Sound := { htidy, h.paired hs with }
  refine h.grows.gets hs hsound (fun hused => Nat.ne_of_lt hused h.number) fun k o hused => ?_
  cases k with
  | single half id =>
    rw [open_single, h.tether, tether?, hs.numbered half id (Nat.le_of_not_lt hused)]
    constructor
    · intro h'
      split at h'
      · exact absurd (Option.some.inj h').symm (ofOwner_ne_bridge o b)
      · cases h'
    · rintro ⟨⟩
  | double b' =>
    rw [hsound.open_double]
    simp only [h.bridges]
    by_cases heq : b' = b
    · rw [if_pos heq, heq]
      constructor
      · rintro ⟨B', ⟨⟩, howner⟩
        rw [howner]
      · exact fun h' => ⟨B, rfl, (Prod.mk.inj h').2.symm⟩
    · rw [if_neg heq]
      constructor
      · rintro ⟨B', hB', -⟩
        exact absurd (hs.below b' B' hB').1 hused
      · exact fun h' => absurd (Key.double.inj (Prod.mk.inj h').1) heq

end

/-- Build a bridge between two peers. -/
def span (s : Station σ) (b : Nat) (owner : Option Nat) (send receive : Nat) (coupled : Bool) :
    Station σ :=
  s.withBus fun bus => { bus with bridges := bus.bridges.build b owner send receive coupled }

/-- A sender and a receiver come one after the other, then the bridge between them. -/
theorem doubles_span {s₁ s₂ s₃ : Station σ} {b send receive : Nat} {P P' : Peer}
    (hs₁ : Aside s s₁) (hb : b = s.state.bridges.next) (hnext : s₁.state.bridges.next = b + 1)
    (h : Gains s₁ s₂ .send send P) (htether : P.tether = .bridge b)
    (h' : Gains s₂ s₃ .receive receive P') (htether' : P'.tether = .bridge b)
    (owner : Option Nat) (coupled : Bool) :
    Doubles s (s₃.span b owner send receive coupled) b ⟨2, owner, send, receive, coupled⟩ := by
  have htable : s₃.state.bridges = s₁.state.bridges := h'.bridges.trans h.bridges
  have hsend : s.state.nextId ≤ send := h.number ▸ hs₁.nextId
  have hreceive : receive = send + 1 := h'.number.trans h.nextId
  have hnextId : (s₃.span b owner send receive coupled).state.nextId = receive + 1 := h'.nextId
  have hpeer (half : Half) (id : Nat) : (s₃.span b owner send receive coupled).peer? half id =
      if (half, id) = (.receive, receive) then some P'
      else if (half, id) = (.send, send) then some P else s.peer? half id := by
    rw [← hs₁.peers, ← h.peers, ← h'.peers]
    cases half <;> rfl
  refine ⟨hb, rfl, fun half => ?_, fun half id => ?_, fun half id hid => ?_, fun b' => ?_, by omega,
    ?_, fun i hi => hs₁.failing i (h.failing i (h'.failing i hi)), ?_, ?_⟩
  · rw [hnextId]
    cases half
    · exact ⟨hsend, by show send < _; omega⟩
    · exact ⟨by show _ ≤ receive; omega, Nat.lt_succ_self receive⟩
  · rw [tether?, hpeer, tether?]
    by_cases heq : id = Bridge.peer ⟨2, owner, send, receive, coupled⟩ half
    · rw [if_pos heq]
      cases half
      · have hid : id = send := heq
        rw [hid, if_neg (by rintro ⟨⟩), if_pos rfl, Option.map_some, htether]
      · have hid : id = receive := heq
        rw [hid, if_pos rfl, Option.map_some, htether']
    · rw [if_neg heq, if_neg, if_neg]
      · rintro ⟨⟩
        exact heq rfl
      · rintro ⟨⟩
        exact heq rfl
  · rw [hpeer, if_neg, if_neg]
    · rintro ⟨⟩
      exact hid rfl
    · rintro ⟨⟩
      exact hid rfl
  · have hold : s₁.bridge? b' = s.bridge? b' := hs₁.bridges b'
    rw [bridge?, ← htable] at hold
    rw [← hold]
    exact Table.get?_insert _ _ _ _
  · rw [← hnext, ← htable]
    rfl
  · exact h'.failures.trans (h.failures.trans hs₁.failures)
  · exact h'.reasons.trans (h.reasons.trans hs₁.reasons)

end Squitter.Station
