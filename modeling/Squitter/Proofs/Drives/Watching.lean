import Squitter.Proofs.Drives.Views

/-!
# Watching for transports

What is watched for a transport is registered under a token that was free
(`Station.Watches`), so that it drives this transport and no other one (`Watches.leaves`).
When it is not watched any more, nothing is left under its route, since each transport has
one token at a time for it (`Has.unwatch`).
-/

namespace Squitter.Station

variable {σ : Type} {s s' : Station σ} {i : Nat} {d : Drive}

/-! ## A new token -/

/-- Something is watched for a transport under a token that was free. -/
structure Watches (s s' : Station σ) (token : Nat) (route : Route) : Prop where
  transports : s'.state.transports = s.state.transports
  timers : s'.reactor.timers = s.reactor.timers
  routes : ∀ t, s'.route? t = if t = token then some route else s.route? t
  free : s.route? token = none
  opens : ∀ key owner, s'.Open key owner ↔ s.Open key owner

theorem Watches.routes_iff {token : Nat} {route route' : Route} (h : Watches s s' token route)
    (hne : route' ≠ route) (t : Nat) : s'.route? t = some route' ↔ s.route? t = some route' := by
  rw [h.routes]
  by_cases ht : t = token
  · rw [if_pos ht, ht, h.free]
    exact ⟨fun heq => absurd (Option.some.inj heq).symm hne, nofun⟩
  · rw [if_neg ht]

theorem Watches.transport? {token : Nat} {route : Route} (h : Watches s s' token route) (i : Nat) :
    s'.transport? i = s.transport? i := by
  rw [Station.transport?, h.transports, Station.transport?]

theorem Watches.leaves {token : Nat} {route : Route} (h : Watches s s' token route)
    (hroute : route.transport? = some i) : Leaves s s' i := by
  have hne {j : Nat} (hj : j ≠ i) {route' : Route} (hroute' : route'.transport? = some j) :
      route' ≠ route := by
    rintro rfl
    exact hj (Option.some.inj (hroute'.symm.trans hroute))
  exact fun j hj => ⟨h.transport? j, fun d hd => {
    retries := by rw [h.timers, hd.retries]
    watch := fun t => (h.routes_iff (hne hj rfl) t).trans (hd.watch t)
    messages := fun t => (h.routes_iff (hne hj rfl) t).trans (hd.messages t)
    stream := fun key => (h.opens key (some j)).trans (hd.stream key)
    looks := by rw [h.timers]; exact hd.looks }⟩

/-- A token is new for a route under which nothing was watched. -/
theorem Watches.routes_of_none {token : Nat} {route : Route} (h : Watches s s' token route)
    (hnone : ∀ t, s.route? t ≠ some route) (t : Nat) :
    s'.route? t = some route ↔ some token = some t := by
  rw [h.routes]
  by_cases ht : t = token
  · rw [if_pos ht, ht]
    exact ⟨fun _ => rfl, fun _ => rfl⟩
  · rw [if_neg ht]
    exact ⟨fun hroute => absurd hroute (hnone t), fun heq => absurd (Option.some.inj heq).symm ht⟩

theorem Watches.has_watch {token : Nat} (h : Watches s s' token (.transport i)) (hd : s.Has i d)
    (hwatch : d.watch = none) : s'.Has i { d with watch := some token } where
  retries := by rw [h.timers, hd.retries]
  watch := h.routes_of_none fun t hroute => by
    rw [hd.watch, hwatch] at hroute
    cases hroute
  messages t := (h.routes_iff (by rintro ⟨⟩) t).trans (hd.messages t)
  stream key := (h.opens key (some i)).trans (hd.stream key)
  looks := by rw [h.timers]; exact hd.looks

theorem Watches.has_messages {token : Nat} (h : Watches s s' token (.messages i)) (hd : s.Has i d)
    (hmessages : d.messages = none) : s'.Has i { d with messages := some token } where
  retries := by rw [h.timers, hd.retries]
  watch t := (h.routes_iff (by rintro ⟨⟩) t).trans (hd.watch t)
  messages := h.routes_of_none fun t hroute => by
    rw [hd.messages, hmessages] at hroute
    cases hroute
  stream key := (h.opens key (some i)).trans (hd.stream key)
  looks := by rw [h.timers]; exact hd.looks

/-! ## What the reactor does -/

variable [Poller σ]

theorem timers_tryRegister (r : Reactor Route Work) (handle : Nat) (interest : Interest)
    (route : Route) (host : σ) :
    (r.tryRegister handle interest route host).2.1.timers = r.timers := by
  rcases h : Poller.watch handle interest r.nextToken host with ⟨e | _ | _, host'⟩ <;>
    simp only [Reactor.tryRegister, h]

theorem timers_register (r : Reactor Route Work) (handle : Nat) (interest : Interest)
    (route : Route) (host : σ) : (r.register handle interest route host).2.1.timers = r.timers := by
  rcases h : Poller.watch handle interest r.nextToken host with ⟨e | _ | _, host'⟩ <;>
    simp only [Reactor.register, Reactor.tryRegister, h]

/-- **All that watching for a transport can do.** -/
theorem register_watch_cases (hb : s.reactor.Bounded) (stream : Stream) (interest : Interest)
    (route : Route) (hroute : route.transport? = some i) :
    (∃ e s', s.register stream interest route = (.error e, s') ∧ Aside s s' ∧ Still s s') ∨
    ∃ token s', s.register stream interest route = (.ok token, s') ∧ Aside s s' ∧ s'.Spare token ∧
      Watches s s' token route := by
  have hpeer (half : Half) (id : Nat) : route ≠ half.route id := by
    rintro rfl
    rw [half.transport?_route id] at hroute
    cases hroute
  have htimers := timers_register s.reactor stream.handle interest route s.host
  rcases Reactor.register_cases hb stream.handle interest route s.host with
    ⟨e, host, h⟩ | ⟨token, r, host, h, hadds⟩
  · exact .inl ⟨e, _, by rw [register, h], aside_nextToken s host,
      .of_reactor rfl rfl fun _ => rfl⟩
  · have haside := aside_adds s host hadds hpeer hb
    rw [h] at htimers
    refine .inr ⟨token, _, by rw [register, h], haside, ⟨hadds.lt, fun half id heq => ?_⟩,
      ⟨rfl, htimers, hadds.route?, hb token hadds.le, haside.open_iff⟩⟩
    have hsome : r.route? token = some (half.route id) := heq
    rw [hadds.route?, if_pos rfl] at hsome
    exact hpeer half id (Option.some.inj hsome)

/-! ## Watching no longer -/

theorem route?_unregister (s : Station σ) (token t : Nat) :
    (s.unregister token).route? t = if t = token then none else s.route? t :=
  Reactor.route?_unregister s.reactor token s.host t

theorem routes_unregister {token : Nat} {route : Route} (hroute : s.route? token ≠ some route)
    (t : Nat) : (s.unregister token).route? t = some route ↔ s.route? t = some route := by
  rw [route?_unregister]
  by_cases ht : t = token
  · rw [if_pos ht, ht]
    exact ⟨nofun, fun heq => absurd heq hroute⟩
  · rw [if_neg ht]

/-- Nothing is watched any more for a route that had only one token. -/
theorem routes_unregister_only {token : Nat} {route : Route}
    (honly : ∀ t, s.route? t = some route ↔ some token = some t) (t : Nat) :
    (s.unregister token).route? t = some route ↔ none = some t := by
  rw [route?_unregister]
  by_cases ht : t = token
  · rw [if_pos ht]
    exact ⟨nofun, nofun⟩
  · rw [if_neg ht, honly]
    exact ⟨fun heq => absurd (Option.some.inj heq).symm ht, nofun⟩

/-- A token of a transport is none of a peer. -/
theorem Has.aside_unregister (h : s.Has i d) (hb : s.reactor.Bounded) {token : Nat}
    (htoken : d.watch = some token ∨ d.messages = some token) : Aside s (s.unregister token) := by
  obtain ⟨route, hroute, htransport⟩ : ∃ route, s.route? token = some route ∧
      route.transport? ≠ none := by
    rcases htoken with htoken | htoken
    · exact ⟨_, (h.watch token).2 htoken, nofun⟩
    · exact ⟨_, (h.messages token).2 htoken, nofun⟩
  refine Station.aside_unregister ⟨Nat.lt_of_not_le fun hle => ?_, fun half id heq => ?_⟩
  · have hnone : s.route? token = none := hb token hle
    rw [hnone] at hroute
    cases hroute
  · rw [heq] at hroute
    cases hroute
    exact htransport (half.transport?_route id)

theorem Has.leaves_unregister (h : s.Has i d) (hb : s.reactor.Bounded) {token : Nat}
    (htoken : d.watch = some token ∨ d.messages = some token) :
    Leaves s (s.unregister token) i := by
  have hopens := (h.aside_unregister hb htoken).open_iff
  have hne {j : Nat} (hj : j ≠ i) {route : Route} (hroute : route.transport? = some j) :
      s.route? token ≠ some route := by
    intro heq
    rcases htoken with htoken | htoken
    · rw [(h.watch token).2 htoken] at heq
      cases heq
      exact hj (Option.some.inj hroute).symm
    · rw [(h.messages token).2 htoken] at heq
      cases heq
      exact hj (Option.some.inj hroute).symm
  exact fun j hj => ⟨rfl, fun d hd => {
    retries := hd.retries
    watch := fun t => (routes_unregister (hne hj rfl) t).trans (hd.watch t)
    messages := fun t => (routes_unregister (hne hj rfl) t).trans (hd.messages t)
    stream := fun key => (hopens key (some j)).trans (hd.stream key)
    looks := hd.looks }⟩

theorem Has.unwatch (h : s.Has i d) (hb : s.reactor.Bounded) {token : Nat}
    (htoken : d.watch = some token) : (s.unregister token).Has i { d with watch := none } where
  retries := h.retries
  watch := routes_unregister_only fun t => htoken ▸ h.watch t
  messages t := by
    have hroute : s.route? token ≠ some (.messages i) := by
      rw [(h.watch token).2 htoken]
      rintro ⟨⟩
    exact (routes_unregister hroute t).trans (h.messages t)
  stream key := ((h.aside_unregister hb (.inl htoken)).open_iff key (some i)).trans (h.stream key)
  looks := h.looks

theorem Has.unwatch_messages (h : s.Has i d) (hb : s.reactor.Bounded) {token : Nat}
    (htoken : d.messages = some token) :
    (s.unregister token).Has i { d with messages := none } where
  retries := h.retries
  watch t := by
    have hroute : s.route? token ≠ some (.transport i) := by
      rw [(h.messages token).2 htoken]
      rintro ⟨⟩
    exact (routes_unregister hroute t).trans (h.watch t)
  messages := routes_unregister_only fun t => htoken ▸ h.messages t
  stream key := ((h.aside_unregister hb (.inr htoken)).open_iff key (some i)).trans (h.stream key)
  looks := h.looks

end Squitter.Station
