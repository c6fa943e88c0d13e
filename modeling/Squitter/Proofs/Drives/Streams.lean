import Squitter.Proofs.Drives.Resting

/-!
# Streams that drive transports

Attaching and closing touch neither transports nor pending work nor what is watched for transports
(`calm_attach`, `exists_calm_closing`). So attaching a stream makes it the drive of its owner
(`attach_drive_cases`), and closing a peer leaves all transports unmoved, unless it ends the stream
of one; then this one is stranded for a moment, and told (`close_drive_cases`).
-/

namespace Squitter.Station

variable {σ : Type} {s s' : Station σ} {i : Nat} {d : Drive} {t : Transport}

/-! ## Streams and their owners -/

theorem Paired.owner_unique (hs : s.Paired) {key : Key} {owner owner' : Option Nat}
    (h : s.Open key owner) (h' : s.Open key owner') : owner = owner' := by
  cases key with
  | single half id =>
    exact ofOwner_injective (Option.some.inj ((open_single.1 h).symm.trans (open_single.1 h')))
  | double b =>
    obtain ⟨B, hB, rfl⟩ := hs.open_double.1 h
    obtain ⟨B', hB', rfl⟩ := hs.open_double.1 h'
    rw [hB] at hB'
    cases hB'
    rfl

/-- A stranded transport streams when a stream is attached for it. -/
theorem settles_attached {key : Key} (h : s.Stranded i t)
    (hstatus : t.mechanism.status = .streaming ∨
      ∃ reopens, t.mechanism.status = .file reopens) (hcalm : Calm s s')
    (hopens : ∀ k o, s'.Open k o ↔ (k, o) = (key, some i) ∨ s.Open k o) : Settles s s' i := by
  refine ⟨fun j hj => hcalm.unmoved fun k => ?_, ?_⟩
  · rw [hopens]
    exact or_iff_right fun heq => hj (Option.some.inj (Prod.mk.inj heq).2)
  · have hhas := hcalm.has (some key) (fun k => ?_) h.has
    · refine driven_of_wants ((hcalm.transport? i).trans h.transport) ?_ hhas
      rcases hstatus with hstatus | ⟨reopens, hstatus⟩ <;> rw [hstatus]
      · exact ⟨key, rfl⟩
      · exact .inl ⟨key, rfl⟩
    · rw [hopens, h.has.stream]
      exact ⟨fun heq => heq.elim (fun heq => by rw [(Prod.mk.inj heq).1]) nofun,
        fun heq => .inl (by rw [Option.some.inj heq])⟩

/-- What is registered for a peer is not for a transport. -/
theorem calm_adds {r : Reactor Route Work} {token : Nat} {route : Route} (s : Station σ) (host : σ)
    (h : s.reactor.Adds r token route) (hroute : route.transport? = none) (hb : s.reactor.Bounded)
    (htimers : r.timers = s.reactor.timers) : Calm s (s.withReactor r host) where
  transports := rfl
  timers := htimers
  routes t route' hroute' := by
    show r.route? t = _ ↔ s.reactor.route? t = _
    rw [h.route?]
    by_cases ht : t = token
    · rw [if_pos ht, ht, hb token h.le]
      refine ⟨fun heq => ?_, nofun⟩
      cases heq
      exact absurd hroute hroute'
    · rw [if_neg ht]

theorem calm_withBridges (s : Station σ) (bridges : Bridges Nat) :
    Calm s (s.withBus fun b => { b with bridges }) := ⟨rfl, rfl, fun _ _ _ => .rfl⟩

variable [Host σ]

/-! ## Attaching -/

theorem calm_register (hb : s.reactor.Bounded) (stream : Stream) (interest : Interest)
    (route : Route)
    (hroute : route.transport? = none) : Calm s (s.register stream interest route).2 := by
  have htimers := timers_register s.reactor stream.handle interest route s.host
  rcases Reactor.register_cases hb stream.handle interest route s.host with
    ⟨e, host, h⟩ | ⟨token, r, host, h, hadds⟩
  · rw [register, h]
    exact ⟨rfl, rfl, fun _ _ _ => .rfl⟩
  · rw [h] at htimers
    rw [register, h]
    exact calm_adds s host hadds hroute hb htimers

theorem calm_tryRegister (hb : s.reactor.Bounded) (handle : Nat) (interest : Interest)
    (route : Route) (hroute : route.transport? = none) :
    Calm s (s.withReactor (s.reactor.tryRegister handle interest route s.host).2.1
      (s.reactor.tryRegister handle interest route s.host).2.2) := by
  have htimers := timers_tryRegister s.reactor handle interest route s.host
  rcases Reactor.tryRegister_cases s.reactor handle interest route s.host with
    ⟨e, host, h⟩ | ⟨host, h⟩ | ⟨r, host, h, hadds⟩
  · rw [h]
    exact ⟨rfl, rfl, fun _ _ _ => .rfl⟩
  · rw [h]
    exact ⟨rfl, rfl, fun _ _ _ => .rfl⟩
  · rw [h] at htimers
    rw [h]
    exact calm_adds s host hadds hroute hb htimers

theorem calm_addReceiver (hb : s.reactor.Bounded) (stream : Stream) (tether : Tether Nat) :
    Calm s (s.addReceiver stream tether).2 := by
  have hregister := (still_takeId s).toCalm.trans
    (calm_register (s := s.takeId.2) hb stream .readable (.receive s.takeId.1) rfl)
  simp only [addReceiver]
  rcases h : s.takeId.2.register stream .readable (.receive s.takeId.1) with ⟨e | token, s'⟩ <;>
    rw [h] at hregister
  · exact hregister.trans (still_discard s' stream).toCalm
  · exact hregister.trans ⟨rfl, rfl, fun _ _ _ => .rfl⟩

theorem calm_addSender (hb : s.reactor.Bounded) (stream : Stream) (format : Format)
    (tether : Tether Nat) (watch : Bool) :
    Calm s (s.addSender stream format tether watch).2 := by
  have hregister := (still_takeId s).toCalm.trans
    (calm_tryRegister (s := s.takeId.2) hb stream.handle .readable (.send s.takeId.1) rfl)
  cases watch with
  | false => exact ⟨rfl, rfl, fun _ _ _ => .rfl⟩
  | true =>
    simp only [addSender, if_true]
    rcases h : s.takeId.2.reactor.tryRegister stream.handle .readable (.send s.takeId.1)
      s.takeId.2.host with ⟨e | token, r, host⟩ <;> rw [h] at hregister
    · exact hregister.trans (still_discard _ stream).toCalm
    · exact hregister.trans ⟨rfl, rfl, fun _ _ _ => .rfl⟩

theorem calm_addBoth (hb : s.reactor.Bounded) (stream : Stream) (format : Format)
    (owner : Option Nat) : Calm s (s.addBoth stream format owner).2 := by
  rcases hdup : Streams.duplicate stream s.host with ⟨e | half, host⟩
  · rw [addBoth, hdup]
    exact ((still_withHost s host).trans (still_discard _ stream)).toCalm
  · have hnew := (still_withHost s host).toCalm.trans
      (calm_withBridges (s.withHost host) s.state.bridges.allocate.2)
    generalize hs₁ : ((s.withHost host).withBus fun b =>
      { b with bridges := s.state.bridges.allocate.2 }) = s₁ at hnew
    have hb₁ : s₁.reactor.Bounded := hs₁ ▸ hb
    have hsender := calm_addSender hb₁ half format (.bridge s.state.bridges.allocate.1) false
    -- the sender is not watched, so the reactor stays the same until the receiver comes
    have hreactor :
        (s₁.addSender half format (.bridge s.state.bridges.allocate.1) false).2.reactor =
        s₁.reactor := rfl
    simp only [addBoth, hdup, hs₁]
    rcases h₂ : s₁.addSender half format (.bridge s.state.bridges.allocate.1) false with
      ⟨e | send, s₂⟩ <;> rw [h₂] at hsender hreactor
    · exact (hnew.trans hsender).trans (still_discard s₂ stream).toCalm
    · have hreceiver := calm_addReceiver (s := s₂) (hreactor ▸ hb₁) stream
        (.bridge s.state.bridges.allocate.1)
      rcases h₃ : s₂.addReceiver stream (.bridge s.state.bridges.allocate.1) with
        ⟨e | receive, s₃⟩ <;> rw [h₃] at hreceiver <;> simp only [h₃]
      · exact ((hnew.trans hsender).trans hreceiver).trans ⟨rfl, rfl, fun _ _ _ => .rfl⟩
      · exact ((hnew.trans hsender).trans hreceiver).trans ⟨rfl, rfl, fun _ _ _ => .rfl⟩

theorem calm_greet (s : Station σ) (stream : Stream) (role : Role) :
    Calm s (s.greet stream role).2 := by
  unfold greet
  split
  · exact .refl s
  · simp only
    split <;> exact ⟨rfl, rfl, fun _ _ _ => .rfl⟩

/-- Attaching a stream has to do with peers only. -/
theorem calm_attach (hs : s.Sound) (stream : Stream) (role : Role) (owner : Option Nat) :
    Calm s (s.attach stream role owner).2 := by
  have hgreet := calm_greet s stream role
  have hsound := (aside_greet s stream role).keeps.sound hs
  unfold attach
  rcases h : s.greet stream role with ⟨e | _, s₁⟩ <;> rw [h] at hgreet hsound
  · exact hgreet.trans (still_discard s₁ stream).toCalm
  · cases role with
    | receive => exact hgreet.trans (calm_addReceiver hsound.bounded stream _)
    | send format => exact hgreet.trans (calm_addSender hsound.bounded stream format _ _)
    | sendReceive format => exact hgreet.trans (calm_addBoth hsound.bounded stream format owner)

/-- **What attaching a stream drives**: nothing, if it fails or nobody owns the stream, and else its
owner. -/
theorem attach_drive_cases (hs : s.Sound) (stream : Stream) (role : Role) (owner : Option Nat) :
    (∃ e s', s.attach stream role owner = (.error e, s') ∧ s'.Sound ∧ Still s s') ∨
    ∃ s' key, s.attach stream role owner = (.ok (), s') ∧ s'.Sound ∧ Calm s s' ∧
      ∀ k o, s'.Open k o ↔ (k, o) = (key, owner) ∨ s.Open k o := by
  have hcalm := calm_attach hs stream role owner
  rcases attach_cases hs stream role owner with ⟨e, s', h, haside⟩ | ⟨s', h, hgets⟩ <;>
    rw [h] at hcalm
  · exact .inl ⟨e, s', h, haside.keeps.sound hs, hcalm, haside.open_iff⟩
  · exact .inr ⟨s', _, h, hgets.sound, hcalm, hgets.opens⟩

/-- A stream that nobody owns drives no transport. -/
theorem unmoved_attach_none (hs : s.Sound) (stream : Stream) (role : Role) (i : Nat) :
    Unmoved s (s.attach stream role none).2 i := by
  rcases attach_drive_cases hs stream role none with
    ⟨e, s', h, -, hstill⟩ | ⟨s', key, h, -, hcalm, hopens⟩ <;> rw [h]
  · exact hstill.unmoved i
  · refine hcalm.unmoved fun k => ?_
    rw [hopens]
    exact or_iff_right fun heq => Option.some_ne_none i (Prod.mk.inj heq).2

/-! ## Closing -/

theorem timers_take {half : Half} {id : Nat} {why : Reason} {tether : Tether Nat}
    (h : s.take half id why = some (tether, s')) : s'.reactor.timers = s.reactor.timers := by
  cases half with
  | receive =>
    simp only [take] at h
    split at h
    · cases h
    · cases h
      rfl
  | send =>
    simp only [take] at h
    split at h
    · cases h
    · rename_i p _
      cases htoken : p.token <;> rw [htoken] at h <;> cases h <;> rfl

/-- Taking a peer away has to do with peers only. -/
theorem calm_take (hs : s.Tidy) {half : Half} {id : Nat} {why : Reason} {tether : Tether Nat}
    (h : s.take half id why = some (tether, s')) : Calm s s' ∧ s'.Tidy := by
  rcases take_cases s half id why with ⟨-, hnone⟩ | ⟨P, s'', hP, htake, hloses, -⟩
  · rw [hnone] at h
    cases h
  · rw [htake] at h
    cases h
    refine ⟨⟨hloses.transports, timers_take htake, fun t route hroute => ?_⟩, hloses.tidy hP hs⟩
    rw [hloses.routes]
    by_cases htoken : P.token = some t
    · rw [if_pos htoken, (hs.watched half id t).1 ⟨P, hP, htoken⟩]
      refine ⟨nofun, fun heq => ?_⟩
      cases heq
      exact absurd (half.transport?_route id) hroute
    · rw [if_neg htoken]

/-- Until the owner of its stream is told, closing a peer has to do with peers only. -/
theorem exists_calm_closing (hs : s.Tidy) (half : Half) (id : Nat) (why : Reason) :
    ∃ s', Calm s s' ∧
      (s.closing half id why).station = s'.notify (s.closing half id why).told := by
  fun_induction closing s half id why with
  | case1 s half id why h => exact ⟨s, .refl s, rfl⟩
  | case2 s half id why s' h => exact ⟨s', (calm_take hs h).1, rfl⟩
  | case3 s half id why o s' h => exact ⟨s', (calm_take hs h).1, rfl⟩
  | case4 s half id why b s' h bridges s'' other partner c hr ih =>
    obtain ⟨hcalm, htidy⟩ := calm_take hs h
    obtain ⟨s₁, hcalm₁, hstation⟩ := ih (htidy.withBridges bridges)
    exact ⟨s₁, (hcalm.trans (calm_withBridges s' bridges)).trans hcalm₁, hstation⟩
  | case5 s half id why b s' h bridges s'' o hr =>
    exact ⟨s'', (calm_take hs h).1.trans (calm_withBridges s' bridges), rfl⟩
  | case6 s half id why b s' h released bridges hr s'' hremaining hfinished =>
    exact ⟨s'', (calm_take hs h).1.trans (calm_withBridges s' bridges), rfl⟩

/-- **What closing a peer does to the drives**: nothing, or the stream of a transport has ended
and the transport is told. -/
theorem close_drive_cases (hs : s.Sound) (half : Half) (id : Nat) (why : Reason) :
    (∀ i, Unmoved s (s.close half id why) i) ∨
    ∃ i key s', s.stream? half id = some (key, some i) ∧ s.close half id why = s'.ownerClosed i ∧
      Leaves s s' i ∧ s'.transport? i = s.transport? i ∧
      ∀ d, s.Has i d → s'.Has i { d with stream := none } := by
  obtain ⟨s', hcalm, hstation⟩ := exists_calm_closing hs.toTidy half id why
  have hclose := station_closing s half id why
  rw [hstation] at hclose
  have hunmoved (hsame : ∀ key i, s'.Open key (some i) ↔ s.Open key (some i))
      (hnone : (s.closing half id why).told = none) (i : Nat) :
      Unmoved s (s.close half id why) i := by
    rw [hnone] at hclose
    rw [← hclose]
    exact hcalm.unmoved fun key => hsame key i
  rcases closing_cases hs half id why with ⟨-, h⟩ |
    ⟨key, owner, s₁, taken, hstream, -, -, ⟨hsevers, h⟩ | ⟨hsevers, calls, -, h⟩⟩
  · rw [h] at hstation hunmoved
    obtain rfl : s = s' := hstation
    exact .inl (hunmoved (fun _ _ => .rfl) rfl)
  · rw [h] at hstation hunmoved
    obtain rfl : s₁ = s' := hstation
    refine .inl (hunmoved (fun k i => ?_) rfl)
    rw [hsevers.opens]
    exact and_iff_right (Option.some_ne_none k).symm
  · have hopens (k : Key) (o : Option Nat) : s'.Open k o ↔ key ≠ k ∧ s.Open k o := by
      have hnotify := (keeps_notify s₁ owner).open_iff k o
      rw [h] at hstation
      have hstation' : s₁.notify owner = s'.notify owner := hstation
      rw [hstation', (keeps_notify s' owner).open_iff, hsevers.opens] at hnotify
      rw [hnotify]
      simp only [ne_eq, Option.some.injEq]
    have hopen : s.Open key owner := ⟨half, id, hstream⟩
    rw [h] at hclose hunmoved
    cases owner with
    | none =>
      refine .inl (hunmoved (fun k i => ?_) rfl)
      rw [hopens]
      refine and_iff_right_of_imp fun hk heq => ?_
      exact Option.some_ne_none i (hs.owner_unique (heq ▸ hk) hopen)
    | some o =>
      refine .inr ⟨o, key, s', hstream, hclose.symm, fun j hj => hcalm.unmoved fun k => ?_,
        hcalm.transport? o, fun d hd => hcalm.has none (fun k => ?_) hd⟩
      · rw [hopens]
        refine and_iff_right_of_imp fun hk heq => hj ?_
        exact Option.some.inj (hs.owner_unique (heq ▸ hk) hopen)
      · rw [hopens, hd.stream]
        refine ⟨fun ⟨hne, hk⟩ => absurd ?_ hne, nofun⟩
        exact Option.some.inj (((hd.stream key).1 hopen).symm.trans hk)

end Squitter.Station
