import Squitter.Proofs.Peers.Arriving

/-!
# Attaching streams

Attaching either fails and is only aside, which leaves no peers behind, or it opens one stream
(`attach_cases`). The peers are added one by one (`addReceiver_cases`, `addSender_cases`); for two
of them the number of their bridge comes first, and the bridge last (`addBoth_cases`).
-/

namespace Squitter.Station

variable {σ : Type} {s s' : Station σ}

/-! ## A number for a bridge, and a sender taken back -/

/-- A number was given out for a bridge. -/
theorem aside_allocate (s : Station σ) :
    Aside s (s.withBus fun b => { b with bridges := s.state.bridges.allocate.2 }) where
  toSteady :=
    ⟨fun half _ => by cases half <;> rfl, fun _ => rfl, Nat.le_succ _, Nat.le_refl _, Nat.le_refl _,
      id, fun _ _ _ => .rfl, rfl⟩
  transports := rfl
  failing _ := id
  failures := rfl

/-- A sender that is not watched comes and is taken away again. -/
theorem Gains.undo {s'' : Station σ} {id : Nat} {tether : Tether Nat}
    (h : Gains s s' .send id ⟨tether, none⟩) (h' : Aside s' s'') (hs : s.Tidy) :
    Aside s (s''.withBus fun b => { b with fanout := b.fanout.remove id }) where
  peers half i := by
    have hold : s''.peer? half i = _ := (h'.peers half i).trans (h.peers half i)
    cases half with
    | receive => exact hold
    | send =>
      refine (get?_erase_map s''.state.fanout.senders id i _).trans ?_
      by_cases hi : i = id
      · rw [if_pos hi, hi, hs.numbered .send id (Nat.le_of_eq h.number.symm)]
      · rw [if_neg hi]
        exact hold.trans (if_neg fun heq => hi (Prod.mk.inj heq).2)
  bridges b := (h'.bridges b).trans (by rw [bridge?, h.bridges, bridge?])
  nextBridge := Nat.le_trans (Nat.le_of_eq (by rw [h.bridges])) h'.nextBridge
  nextId := by
    have hle := h'.nextId
    rw [h.nextId, h.number] at hle
    exact Nat.le_of_succ_le hle
  nextToken := Nat.le_trans h.nextToken h'.nextToken
  bounded hb := h'.bounded fun t ht => (h.routes t).trans (hb t (Nat.le_trans h.nextToken ht))
  routes t half i :=
    (h'.routes t half i).trans (by rw [h.routes, if_neg (Option.some_ne_none t).symm])
  transports := h'.transports.trans h.transports
  failing i hi := by
    obtain ⟨p, hp, hfailed⟩ := hi
    have hget := (Table.get?_erase s''.state.fanout.senders id i).symm.trans hp
    by_cases heq : i = id
    · rw [if_pos heq] at hget
      cases hget
    · rw [if_neg heq] at hget
      exact h.failing i (h'.failing i ⟨p, hget, hfailed⟩)
  failures := h'.failures.trans h.failures
  reasons := h'.reasons.trans h.reasons

/-! ## Adding one peer -/

theorem get?_insert_map {α β : Type} (t : Table α) (k i : Nat) (a : α) (g : α → β) :
    ((t.insert k a).get? i).map g = if i = k then some (g a) else (t.get? i).map g := by
  rw [Table.get?_insert]
  split <;> rfl

/-- A sender is added that was not there, and what is registered for it. -/
theorem gains_sender (r : Reactor Route Work) (host : σ) (p : Sender) (hfresh : p.failed = false)
    (hnext : s.reactor.nextToken ≤ r.nextToken)
    (hroutes : ∀ t, r.route? t =
      if p.token = some t then some (.send s.state.nextId) else s.reactor.route? t)
    (htoken : ∀ t, p.token = some t → s.reactor.nextToken ≤ t ∧ t < r.nextToken) :
    Gains s ((s.takeId.2.withReactor r host).withBus fun b =>
      { b with fanout := b.fanout.insert s.state.nextId p }) .send s.state.nextId
      ⟨p.tether, p.token⟩ where
  number := rfl
  peers half id := by
    cases half with
    | receive => rfl
    | send =>
      refine (get?_insert_map s.state.fanout.senders _ id _ _).trans ?_
      simp only [Prod.mk.injEq, true_and, peer?]
  routes := hroutes
  token := htoken
  bridges := rfl
  transports := rfl
  nextId := rfl
  nextToken := hnext
  failing := by
    rintro i ⟨p', hp', hfailed⟩
    have hget := (Table.get?_insert s.state.fanout.senders s.state.nextId i p).symm.trans hp'
    by_cases hi : i = s.state.nextId
    · rw [if_pos hi] at hget
      cases hget
      rw [hfresh] at hfailed
      cases hfailed
    · rw [if_neg hi] at hget
      exact ⟨p', hget, hfailed⟩
  failures := rfl
  reasons := rfl

variable [Host σ]

/-- **All that adding a receiver can do.** -/
theorem addReceiver_cases (hb : s.reactor.Bounded) (stream : Stream) (tether : Tether Nat) :
    (∃ e s', s.addReceiver stream tether = (.error e, s') ∧ Aside s s') ∨
    ∃ token s', s.addReceiver stream tether = (.ok s.state.nextId, s') ∧
      Gains s s' .receive s.state.nextId ⟨tether, some token⟩ := by
  rcases Reactor.register_cases hb stream.handle .readable (.receive s.state.nextId) s.host with
    ⟨e, host, h⟩ | ⟨token, r, host, h, hadds⟩
  · refine .inl ⟨.io e, _, by simp only [addReceiver, register, takeId, withBus, h]; rfl, ?_⟩
    exact (aside_takeId s).trans ((aside_nextToken _ host).trans (aside_discard _ stream))
  · refine .inr ⟨token, _, by simp only [addReceiver, register, takeId, withBus, h]; rfl, ?_⟩
    refine ⟨rfl, fun half id => ?_, fun t => ?_, fun t ht => ?_, rfl, rfl, rfl,
      Nat.le_of_lt (Nat.lt_of_le_of_lt hadds.le hadds.lt), fun i => id, rfl, rfl⟩
    · cases half with
      | send => rfl
      | receive =>
        refine (get?_insert_map s.state.receivers _ id _ _).trans ?_
        simp only [Prod.mk.injEq, true_and, Receiver.fresh]
        rfl
    · refine (hadds.route? t).trans ?_
      simp only [Option.some.injEq, eq_comm]
      rfl
    · cases ht
      exact ⟨hadds.le, hadds.lt⟩

/-- **All that adding a sender can do.** -/
theorem addSender_cases (s : Station σ) (stream : Stream) (format : Format) (tether : Tether Nat)
    (watch : Bool) :
    (∃ e s', s.addSender stream format tether watch = (.error e, s') ∧ Aside s s') ∨
    ∃ token s', s.addSender stream format tether watch = (.ok s.state.nextId, s') ∧
      Gains s s' .send s.state.nextId ⟨tether, token⟩ ∧ (watch = false → token = none) := by
  cases watch with
  | false =>
    refine .inr ⟨none, _, by
      simp only [addSender, takeId, withBus, Bool.false_eq_true, if_false]
      rfl, ?_, fun _ => rfl⟩
    exact gains_sender s.reactor s.host (Sender.fresh stream format tether) rfl (Nat.le_refl _)
      (fun t => rfl) fun t ht => by cases ht
  | true =>
    rcases Reactor.tryRegister_cases s.reactor stream.handle .readable (.send s.state.nextId)
      s.host with ⟨e, host, h⟩ | ⟨host, h⟩ | ⟨r, host, h, hadds⟩
    · refine .inl ⟨.io e, _, by simp only [addSender, takeId, withBus, h, if_true]; rfl, ?_⟩
      exact (aside_takeId s).trans ((aside_nextToken _ host).trans (aside_discard _ stream))
    · refine .inr ⟨none, _, by simp only [addSender, takeId, withBus, h, if_true]; rfl, ?_,
        fun hwatch => by cases hwatch⟩
      exact gains_sender { s.reactor with nextToken := s.reactor.nextToken + 1 } host
        (Sender.fresh stream format tether) rfl (Nat.le_succ _) (fun t => rfl)
        fun t ht => by cases ht
    · refine .inr ⟨some s.reactor.nextToken, _,
        by simp only [addSender, takeId, withBus, h, if_true]; rfl, ?_,
        fun hwatch => by cases hwatch⟩
      refine gains_sender r host
        { Sender.fresh stream format tether with token := some s.reactor.nextToken } rfl
        (Nat.le_of_lt (Nat.lt_of_le_of_lt hadds.le hadds.lt)) (fun t => ?_) fun t ht => ?_
      · refine (hadds.route? t).trans ?_
        simp only [Option.some.injEq, eq_comm]
      · cases ht
        exact ⟨hadds.le, hadds.lt⟩

/-! ## Adding both halves -/

/-- **All that adding both halves of a stream can do.** -/
theorem addBoth_cases (hs : s.Sound) (stream : Stream) (format : Format) (owner : Option Nat) :
    (∃ e s', s.addBoth stream format owner = (.error e, s') ∧ Aside s s') ∨
    ∃ s', s.addBoth stream format owner = (.ok (), s') ∧
      Gets s s' (.double s.state.bridges.next) owner := by
  rcases hdup : Streams.duplicate stream s.host with ⟨e | half, host⟩
  · exact .inl ⟨.io e, _, by simp only [addBoth, hdup],
      (aside_withHost s host).trans (aside_discard _ stream)⟩
  · have hs₁ := (aside_withHost s host).trans (aside_allocate _)
    have hsound₁ := hs₁.keeps.sound hs
    rcases addSender_cases
        (s.withHost host |>.withBus fun b => { b with bridges := s.state.bridges.allocate.2 })
        half format (.bridge s.state.bridges.next) false with
      ⟨e, s₂, h₂, hs₂⟩ | ⟨token, s₂, h₂, hs₂, htoken⟩
    · refine .inl ⟨e, _, ?_, (hs₁.trans hs₂).trans (aside_discard _ stream)⟩
      rw [addBoth, hdup]
      simp only [Bridges.allocate] at h₂ ⊢
      simp only [h₂]
    · obtain rfl := htoken rfl
      rcases addReceiver_cases (hs₂.tidy hsound₁.toTidy).bounded stream
        (.bridge s.state.bridges.next) with ⟨e, s₃, h₃, hs₃⟩ | ⟨token, s₃, h₃, hs₃⟩
      · refine .inl ⟨e, _, ?_,
          hs₁.trans ((hs₂.undo hs₃ hsound₁.toTidy).trans (aside_discard _ half))⟩
        rw [addBoth, hdup]
        simp only [Bridges.allocate] at h₂ ⊢
        simp only [h₂, h₃]
      · refine .inr
          ⟨s₃.span s.state.bridges.next owner s.state.nextId s₂.state.nextId stream.socket, ?_, ?_⟩
        · rw [addBoth, hdup]
          simp only [Bridges.allocate] at h₂ ⊢
          simp only [h₂, h₃]
          rfl
        · exact (doubles_span hs₁ rfl rfl hs₂ rfl hs₃ rfl owner stream.socket).gets hs
            ((hs₃.tidy (hs₂.tidy hsound₁.toTidy)).withBridges _)

/-! ## Attaching -/

/-- What a stream starts with is written without any change to the peers. -/
theorem aside_greet (s : Station σ) (stream : Stream) (role : Role) :
    Aside s (s.greet stream role).2 := by
  unfold greet
  split
  · exact .refl s
  · simp only
    split
    · exact .of_bus rfl rfl rfl rfl rfl (Nat.le_refl _) rfl rfl
    · exact .of_bus rfl rfl rfl rfl rfl (Nat.le_refl _) rfl rfl

/-- The key of the next stream with a role. -/
def newKey (s : Station σ) : Role → Key
  | .receive => .single .receive s.state.nextId
  | .send _ => .single .send s.state.nextId
  | .sendReceive _ => .double s.state.bridges.next

theorem newKey_greet (s : Station σ) (stream : Stream) (role : Role) :
    (s.greet stream role).2.newKey role = s.newKey role := by
  unfold greet
  split
  · rfl
  · simp only
    split <;> cases role <;> rfl

/-- **All that attaching a stream can do**: it fails and leaves no peers behind, or the stream is
open. -/
theorem attach_cases (hs : s.Sound) (stream : Stream) (role : Role) (owner : Option Nat) :
    (∃ e s', s.attach stream role owner = (.error e, s') ∧ Aside s s') ∨
    ∃ s', s.attach stream role owner = (.ok (), s') ∧ Gets s s' (s.newKey role) owner := by
  have hgreet := aside_greet s stream role
  have hkey := newKey_greet s stream role
  rcases h : s.greet stream role with ⟨e | _, s₁⟩
  · rw [h] at hgreet
    exact .inl ⟨e, _, by simp only [attach, h], hgreet.trans (aside_discard _ stream)⟩
  rw [h] at hgreet hkey
  have hs₁ := hgreet.keeps.sound hs
  rw [← hkey]
  cases role with
  | receive =>
    rcases addReceiver_cases hs₁.bounded stream (.ofOwner owner) with
      ⟨e, s', h', hs'⟩ | ⟨token, s', h', hs'⟩
    · exact .inl ⟨e, s', by simp only [attach, h, h']; rfl, hgreet.trans hs'⟩
    · exact .inr ⟨s', by simp only [attach, h, h']; rfl, (hs'.gets hs₁ rfl).of_aside hgreet⟩
  | send format =>
    rcases addSender_cases s₁ stream format (.ofOwner owner) (¬ s₁.isStdout owner) with
      ⟨e, s', h', hs'⟩ | ⟨token, s', h', hs', -⟩
    · exact .inl ⟨e, s', by simp only [attach, h, h']; rfl, hgreet.trans hs'⟩
    · exact .inr ⟨s', by simp only [attach, h, h']; rfl, (hs'.gets hs₁ rfl).of_aside hgreet⟩
  | sendReceive format =>
    rcases addBoth_cases hs₁ stream format owner with ⟨e, s', h', hs'⟩ | ⟨s', h', hs'⟩
    · exact .inl ⟨e, s', by simp only [attach, h, h'], hgreet.trans hs'⟩
    · exact .inr ⟨s', by simp only [attach, h, h'], hs'.of_aside hgreet⟩

end Squitter.Station
