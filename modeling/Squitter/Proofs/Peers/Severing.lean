import Squitter.Proofs.Peers.Streams

/-!
# Taking peers away

When a peer is taken away, what was registered for it goes with it (`Station.Loses`), and the user
is told why. What that means for the streams depends on the peer (`Station.Severs`): a stream with a
single peer ends (`severs_single`); of two peers that are not coupled the other one stays, and its
bridge with it (`severs_released`); and when both are gone, the stream ends and the bridge is gone
as well (`severs_double`).
-/

namespace Squitter.Station

variable {σ : Type}

/-! ## Taking a peer away -/

/-- A peer is gone, and what was registered for it. -/
structure Loses (s s' : Station σ) (half : Half) (id : Nat) (P : Peer) : Prop where
  peers : ∀ h i, s'.peer? h i = if (h, i) = (half, id) then none else s.peer? h i
  routes : ∀ t, s'.route? t = if P.token = some t then none else s.route? t
  bridges : s'.state.bridges = s.state.bridges
  transports : s'.state.transports = s.state.transports
  nextId : s'.state.nextId = s.state.nextId
  nextToken : s'.reactor.nextToken = s.reactor.nextToken
  failing : ∀ i, s'.Failing i → s.Failing i ∧ (half, id) ≠ (.send, i)
  failures : s'.state.fanout.failures = s.state.fanout.failures

theorem get?_erase_map {α β : Type} (t : Table α) (k i : Nat) (g : α → β) :
    ((t.erase k).get? i).map g = if i = k then none else (t.get? i).map g := by
  rw [Table.get?_erase]
  split <;> rfl

/-- **All that taking a peer away can do.** -/
theorem take_cases [Host σ] (s : Station σ) (half : Half) (id : Nat) (why : Reason) :
    (s.peer? half id = none ∧ s.take half id why = none) ∨
    ∃ P s', s.peer? half id = some P ∧ s.take half id why = some (P.tether, s') ∧
      Loses s s' half id P ∧ s'.reasons = s.reasons ++ [why] := by
  cases half with
  | receive =>
    cases hr : s.state.receivers.get? id with
    | none => exact .inl ⟨by simp only [peer?, hr, Option.map_none], by simp only [take, hr]⟩
    | some r =>
      refine .inr ⟨⟨r.tether, some r.token⟩, _, by simp only [peer?, hr, Option.map_some],
        by simp only [take, hr]; rfl, ?_⟩
      refine ⟨⟨fun h i => ?_, fun t => ?_, rfl, rfl, rfl, rfl, fun i hi => ⟨hi, ?_⟩, rfl⟩,
        List.filterMap_append⟩
      · cases h with
        | send => rfl
        | receive =>
          refine (get?_erase_map s.state.receivers id i _).trans ?_
          simp only [Prod.mk.injEq, true_and, peer?]
      · refine (Reactor.route?_unregister s.reactor r.token s.host t).trans ?_
        simp only [Option.some.injEq, eq_comm, route?]
      · rintro ⟨⟩
  | send =>
    cases hp : s.state.fanout.senders.get? id with
    | none => exact .inl ⟨by simp only [peer?, hp, Option.map_none], by simp only [take, hp]⟩
    | some p =>
      have hfailing (i : Nat) (sender : Sender)
          (h : (s.state.fanout.senders.erase id).get? i = some sender) :
          s.state.fanout.senders.get? i = some sender ∧ (Half.send, id) ≠ (.send, i) := by
        rw [Table.get?_erase] at h
        by_cases hi : i = id
        · rw [if_pos hi] at h
          cases h
        · rw [if_neg hi] at h
          exact ⟨h, fun heq => hi (Prod.mk.inj heq).2.symm⟩
      refine .inr ⟨⟨p.tether, p.token⟩, _, by simp only [peer?, hp, Option.map_some],
        by simp only [take, hp]; rfl, ?_⟩
      cases htoken : p.token with
      | none =>
        refine ⟨⟨fun h i => ?_, fun t => ?_, rfl, rfl, rfl, rfl, ?_, rfl⟩, List.filterMap_append⟩
        · cases h with
          | receive => rfl
          | send =>
            refine (get?_erase_map s.state.fanout.senders id i _).trans ?_
            simp only [Prod.mk.injEq, true_and, peer?]
        · rfl
        · rintro i ⟨sender, hsender, hfailed⟩
          obtain ⟨hsender, hne⟩ := hfailing i sender hsender
          exact ⟨⟨sender, hsender, hfailed⟩, hne⟩
      | some token =>
        refine ⟨⟨fun h i => ?_, fun t => ?_, rfl, rfl, rfl, rfl, ?_, rfl⟩, List.filterMap_append⟩
        · cases h with
          | receive => rfl
          | send =>
            refine (get?_erase_map s.state.fanout.senders id i _).trans ?_
            simp only [Prod.mk.injEq, true_and, peer?]
        · refine (Reactor.route?_unregister s.reactor token s.host t).trans ?_
          simp only [Option.some.injEq, eq_comm, route?]
        · rintro i ⟨sender, hsender, hfailed⟩
          obtain ⟨hsender, hne⟩ := hfailing i sender hsender
          exact ⟨⟨sender, hsender, hfailed⟩, hne⟩

variable {s s' : Station σ} {half : Half} {id : Nat} {P : Peer}

theorem Loses.peer?_eq_none (h : Loses s s' half id P) : s'.peer? half id = none := by
  rw [h.peers, if_pos rfl]

theorem Loses.peer?_of_ne (h : Loses s s' half id P) {half' : Half} {id' : Nat}
    (hne : (half', id') ≠ (half, id)) : s'.peer? half' id' = s.peer? half' id' := by
  rw [h.peers, if_neg hne]

/-- Nobody comes when a peer goes. -/
theorem Loses.gone (h : Loses s s' half id P) {half' : Half} {id' : Nat}
    (hnone : s.peer? half' id' = none) : s'.peer? half' id' = none := by
  rw [h.peers, hnone, ite_self]

/-- Everything stays in its place when a peer goes. -/
theorem Loses.tidy (h : Loses s s' half id P) (hP : s.peer? half id = some P) (hs : s.Tidy) :
    s'.Tidy where
  watched half' id' token := by
    rw [h.routes]
    by_cases heq : (half', id') = (half, id)
    · obtain ⟨rfl, rfl⟩ := Prod.mk.inj heq
      rw [h.peer?_eq_none]
      refine ⟨?_, fun hroute => ?_⟩
      · rintro ⟨P', ⟨⟩, -⟩
      split at hroute
      · cases hroute
      · rename_i hne
        obtain ⟨P', hP', htoken⟩ := (hs.watched half' id' token).2 hroute
        rw [hP] at hP'
        cases hP'
        exact absurd htoken hne
    · rw [h.peer?_of_ne heq, hs.watched half' id' token]
      by_cases htoken : P.token = some token
      · have hroute := (hs.watched half id token).1 ⟨P, hP, htoken⟩
        rw [if_pos htoken, hroute]
        refine ⟨fun h' => absurd (Half.route_eq_iff.1 (Option.some.inj h')).symm heq, ?_⟩
        rintro ⟨⟩
      · rw [if_neg htoken]
  numbered half' id' hid := h.gone (hs.numbered half' id' (h.nextId ▸ hid))
  bounded token htoken := by
    have hroute := h.routes token
    have hnone : s.route? token = none := hs.bounded token (h.nextToken ▸ htoken)
    rw [hnone, ite_self] at hroute
    exact hroute
  spare i t ht token htoken := by
    have hspare := hs.spare i t (by rwa [transport?, ← h.transports]) token htoken
    refine ⟨h.nextToken ▸ hspare.1, fun half' id' hroute => hspare.2 half' id' ?_⟩
    rw [h.routes] at hroute
    split at hroute
    · cases hroute
    · exact hroute

theorem Loses.on_iff (h : Loses s s' half id P) (b : Nat) (half' : Half) (id' : Nat) :
    s'.On b half' id' ↔ (half', id') ≠ (half, id) ∧ s.On b half' id' := by
  unfold On tether?
  rw [h.peers]
  by_cases heq : (half', id') = (half, id)
  · rw [if_pos heq]
    refine ⟨?_, fun h' => absurd heq h'.1⟩
    rintro ⟨⟩
  · rw [if_neg heq]
    exact ⟨fun h' => ⟨heq, h'⟩, And.right⟩

/-! ## Streams that end -/

/-- Bridges and peers still belong together when one bridge is gone with all peers on it. -/
theorem Paired.of_ended (hs : s.Paired) (ended : Option Nat)
    (hbridge : ∀ b, s'.bridge? b = if ended = some b then none else s.bridge? b)
    (hon : ∀ b half id, s'.On b half id ↔ ended ≠ some b ∧ s.On b half id)
    (hgone : ∀ half id, s.peer? half id = none → s'.peer? half id = none)
    (hid : s'.state.nextId = s.state.nextId)
    (hnext : s'.state.bridges.next = s.state.bridges.next) : s'.Paired where
  joined b B hB := by
    rw [hbridge] at hB
    by_cases hended : ended = some b
    · rw [if_pos hended] at hB
      cases hB
    · rw [if_neg hended] at hB
      rcases hs.joined b B hB with ⟨hheld, hall⟩ | ⟨hheld, hcoupled, half, hhalf, hother⟩
      · exact .inl ⟨hheld, fun half => (hon b half _).2 ⟨hended, hall half⟩⟩
      · exact .inr ⟨hheld, hcoupled, half, (hon b half _).2 ⟨hended, hhalf⟩, hgone _ _ hother⟩
  bridged b half id h := by
    obtain ⟨hended, h⟩ := (hon b half id).1 h
    obtain ⟨B, hB, hpeer⟩ := hs.bridged b half id h
    exact ⟨B, by rw [hbridge, if_neg hended, hB], hpeer⟩
  below b B hB := by
    rw [hbridge] at hB
    by_cases hended : ended = some b
    · rw [if_pos hended] at hB
      cases hB
    · rw [if_neg hended] at hB
      rw [hnext, hid]
      exact hs.below b B hB

/-- Peers are gone and perhaps, as the last of them, those of one stream; the rest is as before. -/
structure Severs (s s' : Station σ) (ended : Option Key) : Prop where
  sound : s'.Sound
  opens : ∀ key owner, s'.Open key owner ↔ ended ≠ some key ∧ s.Open key owner
  gone : ∀ half id, s.peer? half id = none → s'.peer? half id = none
  nextId : s.state.nextId ≤ s'.state.nextId
  nextBridge : s.state.bridges.next ≤ s'.state.bridges.next
  failing : ∀ i, s'.Failing i → s.Failing i
  failures : s'.state.fanout.failures = s.state.fanout.failures

/-- A stream with a single peer ends with it. -/
theorem severs_single (hs : s.Sound) (hP : s.peer? half id = some P) (h : Loses s s' half id P)
    {owner : Option Nat} (htether : P.tether = .ofOwner owner) :
    Severs s s' (some (.single half id)) := by
  have hside (b : Nat) : ¬ s.On b half id := by
    intro hon
    rw [On, tether?, hP, Option.map_some, htether] at hon
    exact ofOwner_ne_bridge owner b (Option.some.inj hon)
  have hbridge (b : Nat) : s'.bridge? b = s.bridge? b := by rw [bridge?, h.bridges, bridge?]
  have hpaired : s'.Paired := by
    refine hs.toPaired.of_ended none hbridge (fun b half' id' => ?_) (fun _ _ => h.gone)
      h.nextId (congrArg _ h.bridges)
    rw [h.on_iff]
    constructor
    · rintro ⟨-, hon⟩
      exact ⟨(Option.some_ne_none b).symm, hon⟩
    · rintro ⟨-, hon⟩
      refine ⟨fun heq => ?_, hon⟩
      obtain ⟨rfl, rfl⟩ := Prod.mk.inj heq
      exact hside b hon
  have hsound : s'.Sound := { h.tidy hP hs.toTidy, hpaired with }
  refine ⟨hsound, fun key owner' => ?_, fun _ _ => h.gone, Nat.le_of_eq h.nextId.symm,
    Nat.le_of_eq (congrArg _ h.bridges.symm), fun i hi => (h.failing i hi).1,
    h.failures⟩
  cases key with
  | single half' id' =>
    rw [open_single, open_single, tether?, tether?, h.peers]
    by_cases heq : (half', id') = (half, id)
    · obtain ⟨rfl, rfl⟩ := Prod.mk.inj heq
      rw [if_pos rfl]
      refine ⟨?_, fun h' => absurd rfl h'.1⟩
      rintro ⟨⟩
    · rw [if_neg heq]
      refine ⟨fun h' => ⟨fun hkey => heq ?_, h'⟩, And.right⟩
      cases hkey
      rfl
  | double b =>
    rw [hsound.open_double, hs.open_double]
    simp only [hbridge]
    refine ⟨fun h' => ⟨?_, h'⟩, And.right⟩
    rintro ⟨⟩

/-! ## Streams with two peers -/

/-- The peer of a bridge that holds one reference is the only one on it. -/
theorem Joins.other_eq_none {b : Nat} {B : Bridge Nat} (h : s.Joins b B) (hheld : B.held = 1)
    (hon : s.On b half (B.peer half)) : s.peer? half.other (B.peer half.other) = none := by
  rcases h with ⟨htwo, -⟩ | ⟨-, -, half', -, hnone⟩
  · omega
  · by_cases heq : half' = half
    · exact heq ▸ hnone
    · obtain rfl := Half.eq_other_of_ne heq
      rw [Half.other_other] at hnone
      rw [On, tether?, hnone] at hon
      cases hon

@[simp] theorem peer_held (B : Bridge Nat) (n : Nat) (half : Half) :
    { B with held := n }.peer half = B.peer half := by
  cases half <;> rfl

/-- Release the half of a bridge. -/
def letGo (s : Station σ) (b : Nat) (half : Half) : Station σ :=
  s.withBus fun bus => { bus with bridges := (s.state.bridges.release b half).2 }

section

variable {b : Nat} {B : Bridge Nat}

theorem release_of_two (hB : s.bridge? b = some B) (hheld : B.held = 2) (half : Half) :
    s.state.bridges.release b half =
      (some (.remaining (if B.coupled then some (half.other, B.peer half.other) else none)),
        ⟨s.state.bridges.table.insert b { B with held := 1 }, s.state.bridges.next⟩) := by
  have hget : s.state.bridges.table.get? b = some B := hB
  simp only [Bridges.release, hget, hheld, B.partner_eq]
  rfl

theorem release_of_one (hB : s.bridge? b = some B) (hheld : B.held = 1) (half : Half) :
    s.state.bridges.release b half =
      (some (.finished B.owner), ⟨s.state.bridges.table.erase b, s.state.bridges.next⟩) := by
  have hget : s.state.bridges.table.get? b = some B := hB
  simp only [Bridges.release, hget, hheld]
  rfl

theorem bridge?_letGo_of_two (hB : s.bridge? b = some B) (hheld : B.held = 2) (half : Half)
    (b' : Nat) : (s.letGo b half).bridge? b' =
      if b' = b then some { B with held := 1 } else s.bridge? b' := by
  rw [letGo, release_of_two hB hheld]
  exact Table.get?_insert _ _ _ _

theorem bridge?_letGo_of_one (hB : s.bridge? b = some B) (hheld : B.held = 1) (half : Half)
    (b' : Nat) : (s.letGo b half).bridge? b' = if b' = b then none else s.bridge? b' := by
  rw [letGo, release_of_one hB hheld]
  exact Table.get?_erase _ _ _

theorem next_letGo (s : Station σ) (b : Nat) (half : Half) :
    (s.letGo b half).state.bridges.next = s.state.bridges.next := by
  show (s.state.bridges.release b half).2.next = _
  unfold Bridges.release
  split
  · rfl
  · split <;> rfl

theorem Tidy.letGo (hs : s.Tidy) (b : Nat) (half : Half) : (s.letGo b half).Tidy :=
  hs.withBridges _

theorem Loses.bridge? (h : Loses s s' half id P) (b : Nat) : s'.bridge? b = s.bridge? b := by
  rw [Station.bridge?, h.bridges, Station.bridge?]

/-- A peer that is on a bridge is on no other one. -/
theorem On.eq {b' : Nat} (h : s.On b half id) (h' : s.On b' half id) : b' = b :=
  Tether.bridge.inj (Option.some.inj (h'.symm.trans h))

/-- When the peer of one bridge goes, those of the others stay. -/
theorem Loses.on_of_ne (h : Loses s s' half id P) (hon : s.On b half id) {b' : Nat} (hb : b' ≠ b)
    {half' : Half} {id' : Nat} (hon' : s.On b' half' id') : s'.On b' half' id' := by
  refine (h.on_iff b' half' id').2 ⟨fun heq => hb ?_, hon'⟩
  obtain ⟨rfl, rfl⟩ := Prod.mk.inj heq
  exact hon.eq hon'

/-- A bridge without coupling goes on with one peer. -/
theorem paired_letGo (hs : s.Paired) (h : Loses s s' half (B.peer half) P)
    (hB : s.bridge? b = some B)
    (htwo : B.held = 2) (hall : ∀ half', s.On b half' (B.peer half'))
    (hcoupled : B.coupled = false) :
    (s'.letGo b half).Paired where
  joined b' B' hB' := by
    rw [bridge?_letGo_of_two ((h.bridge? b).trans hB) htwo] at hB'
    by_cases hb : b' = b
    · rw [if_pos hb] at hB'
      cases hB'
      refine .inr ⟨rfl, hcoupled, half.other, ?_, ?_⟩
      · rw [peer_held, hb]
        exact (h.on_iff b _ _).2 ⟨fun heq => half.other_ne (Prod.mk.inj heq).1, hall half.other⟩
      · rw [peer_held, Half.other_other]
        exact h.peer?_eq_none
    · rw [if_neg hb, h.bridge?] at hB'
      rcases hs.joined b' B' hB' with ⟨hheld, hall'⟩ | ⟨hheld, hc, half', hon', hnone⟩
      · exact .inl ⟨hheld, fun half' => h.on_of_ne (hall half) hb (hall' half')⟩
      · exact .inr ⟨hheld, hc, half', h.on_of_ne (hall half) hb hon', h.gone hnone⟩
  bridged b' half' id' hon' := by
    obtain ⟨B', hB', hpeer⟩ := hs.bridged b' half' id' ((h.on_iff b' half' id').1 hon').2
    rw [bridge?_letGo_of_two ((h.bridge? b).trans hB) htwo, h.bridge?]
    by_cases hb : b' = b
    · rw [hb, hB] at hB'
      cases hB'
      exact ⟨_, if_pos hb, (peer_held _ _ _).trans hpeer⟩
    · exact ⟨B', (if_neg hb).trans hB', hpeer⟩
  below b' B' hB' := by
    rw [next_letGo, h.bridges]
    show _ ∧ ∀ half', B'.peer half' < s'.state.nextId
    rw [h.nextId]
    rw [bridge?_letGo_of_two ((h.bridge? b).trans hB) htwo] at hB'
    by_cases hb : b' = b
    · rw [if_pos hb] at hB'
      cases hB'
      simp only [peer_held, hb]
      exact hs.below b B hB
    · rw [if_neg hb, h.bridge?] at hB'
      exact hs.below b' B' hB'

/-- **One of two peers that are not coupled is gone**: the stream stays open. -/
theorem severs_released (hs : s.Sound) (hP : s.peer? half (B.peer half) = some P)
    (h : Loses s s' half (B.peer half) P) (hB : s.bridge? b = some B) (htwo : B.held = 2)
    (hall : ∀ half', s.On b half' (B.peer half')) (hcoupled : B.coupled = false) :
    Severs s (s'.letGo b half) none := by
  have hsound : (s'.letGo b half).Sound :=
    { (h.tidy hP hs.toTidy).letGo b half, paired_letGo hs.toPaired h hB htwo hall hcoupled with }
  refine ⟨hsound, fun key owner => ?_, fun _ _ => h.gone, Nat.le_of_eq h.nextId.symm,
    Nat.le_of_eq ((next_letGo s' b half).trans (congrArg _ h.bridges)).symm,
    fun i hi => (h.failing i hi).1, h.failures⟩
  rw [and_iff_right (Option.some_ne_none key).symm]
  cases key with
  | single half' id' =>
    rw [open_single, open_single]
    by_cases heq : (half', id') = (half, B.peer half)
    · obtain ⟨rfl, rfl⟩ := Prod.mk.inj heq
      have hnone : (s'.letGo b half').tether? half' (B.peer half') = none :=
        congrArg (Option.map _) h.peer?_eq_none
      have hbridge : s.tether? half' (B.peer half') = some (.bridge b) := hall half'
      rw [hnone, hbridge]
      refine ⟨?_, fun h' => absurd (Option.some.inj h').symm (ofOwner_ne_bridge owner b)⟩
      rintro ⟨⟩
    · have hsame : (s'.letGo b half).tether? half' id' = s.tether? half' id' :=
        congrArg (Option.map _) (h.peer?_of_ne heq)
      rw [hsame]
  | double b' =>
    rw [hsound.open_double, hs.open_double]
    simp only [bridge?_letGo_of_two ((h.bridge? b).trans hB) htwo, h.bridge?]
    by_cases hb : b' = b
    · rw [hb, if_pos rfl, hB]
      simp only [Option.some.injEq, exists_eq_left']
    · rw [if_neg hb]

/-- **Both peers of a bridge are gone**, and the bridge with them: the stream has ended. -/
theorem severs_double (hs : s.Sound) (htidy : s'.Tidy)
    (hpeers : ∀ half id, s'.peer? half id = if s.tether? half id = some (.bridge b) then none
      else s.peer? half id)
    (hbridge : ∀ b', s'.bridge? b' = if b' = b then none else s.bridge? b')
    (hid : s'.state.nextId = s.state.nextId) (hnext : s'.state.bridges.next = s.state.bridges.next)
    (hfailing : ∀ i, s'.Failing i → s.Failing i)
    (hfailures : s'.state.fanout.failures = s.state.fanout.failures) :
    Severs s s' (some (.double b)) := by
  have hgone (half : Half) (id : Nat) (hnone : s.peer? half id = none) :
      s'.peer? half id = none := by
    rw [hpeers, hnone, ite_self]
  have htether (half : Half) (id : Nat) : s'.tether? half id =
      if s.tether? half id = some (.bridge b) then none else s.tether? half id := by
    rw [tether?, hpeers]
    split <;> rfl
  have hpaired : s'.Paired := by
    refine hs.toPaired.of_ended (some b) (fun b' => ?_) (fun b' half id => ?_) hgone hid hnext
    · rw [hbridge]
      simp only [Option.some.injEq, eq_comm]
    · rw [On, On, htether]
      by_cases hon : s.tether? half id = some (.bridge b)
      · rw [if_pos hon, hon]
        constructor
        · rintro ⟨⟩
        · rintro ⟨hne, heq⟩
          exact absurd (congrArg some (Tether.bridge.inj (Option.some.inj heq))) hne
      · rw [if_neg hon]
        refine ⟨fun heq => ⟨fun hb => hon ?_, heq⟩, And.right⟩
        rw [heq, Option.some.inj hb]
  have hsound : s'.Sound := { htidy, hpaired with }
  refine ⟨hsound, fun key owner => ?_, hgone, Nat.le_of_eq hid.symm, Nat.le_of_eq hnext.symm,
    hfailing, hfailures⟩
  cases key with
  | single half id =>
    rw [open_single, open_single, htether]
    by_cases hon : s.tether? half id = some (.bridge b)
    · rw [if_pos hon, hon]
      refine ⟨?_, fun h => absurd (Option.some.inj h.2).symm (ofOwner_ne_bridge owner b)⟩
      rintro ⟨⟩
    · rw [if_neg hon]
      refine ⟨fun h => ⟨?_, h⟩, And.right⟩
      rintro ⟨⟩
  | double b' =>
    rw [hsound.open_double, hs.open_double]
    simp only [hbridge]
    by_cases hb : b' = b
    · rw [hb, if_pos rfl]
      refine ⟨?_, fun h => absurd rfl h.1⟩
      rintro ⟨B', ⟨⟩, -⟩
    · rw [if_neg hb]
      exact ⟨fun h => ⟨fun heq => hb (Key.double.inj (Option.some.inj heq)).symm, h⟩, And.right⟩

end

end Squitter.Station
