import Squitter.Proofs.Peers.Severing

/-!
# Closing peers

`closing` does what `close` does and reports on it: which peers were taken away, which owner was
told, and how many peers were looked at. That closing ends needs no soundness, since each call has
fewer peers. On a sound station it takes at most two calls (`closing_cases`): it takes the peer away
and, if that was the last one of its stream, then tells the owner of the stream.
-/

namespace Squitter.Station

variable {σ : Type}

/-! ## The last peer of a stream -/

section

variable {s s' s'' : Station σ} {half : Half} {b : Nat} {B : Bridge Nat}

/-- Nobody is on a bridge except its two peers. -/
theorem Paired.eq_of_on (hs : s.Paired) {id : Nat} (hB : s.bridge? b = some B)
    (hon : s.On b half id) :
    B.peer half = id := by
  obtain ⟨B', hB', hpeer⟩ := hs.bridged b half id hon
  rw [hB] at hB'
  cases hB'
  exact hpeer

theorem Severs.keeps {ended : Option Key} (h : Severs s s' ended) (h' : Keeps s' s'') :
    Severs s s'' ended where
  sound := h'.sound h.sound
  opens key owner := (h'.open_iff key owner).trans (h.opens key owner)
  gone half id hnone := (h'.peers half id).trans (h.gone half id hnone)
  nextId := Nat.le_trans h.nextId h'.nextId
  nextBridge := Nat.le_trans h.nextBridge h'.nextBridge
  failing i hi := h.failing i (h'.failing i hi)
  failures := h'.failures.trans h.failures

/-- The last peer of a bridge is taken away. -/
theorem severs_last {P : Peer} (hs : s.Sound) (hP : s.peer? half (B.peer half) = some P)
    (h : Loses s s' half (B.peer half) P) (hB : s.bridge? b = some B) (hheld : B.held = 1)
    (hon : s.On b half (B.peer half)) : Severs s (s'.letGo b half) (some (.double b)) := by
  have hother := (hs.joined b B hB).other_eq_none hheld hon
  refine severs_double hs ((h.tidy hP hs.toTidy).letGo b half) (fun half' id' => ?_) (fun b' => ?_)
    h.nextId ((next_letGo s' b half).trans (congrArg _ h.bridges)) (fun i hi => (h.failing i hi).1)
    h.failures
  · refine (h.peers half' id').trans ?_
    by_cases heq : (half', id') = (half, B.peer half)
    · obtain ⟨rfl, rfl⟩ := Prod.mk.inj heq
      have hbridge : s.tether? half' (B.peer half') = some (.bridge b) := hon
      rw [if_pos rfl, if_pos hbridge]
    · rw [if_neg heq, if_neg]
      intro hon'
      obtain rfl := hs.eq_of_on hB hon'
      have hhalf : half' ≠ half := fun hhalf => heq (by rw [hhalf])
      rw [Half.eq_other_of_ne hhalf, tether?, hother] at hon'
      cases hon'
  · rw [bridge?_letGo_of_one ((h.bridge? b).trans hB) hheld, h.bridge?]

/-- Both peers of a bridge are taken away, one after the other. -/
theorem severs_both {P P' : Peer} (hs : s.Sound) (hP : s.peer? half (B.peer half) = some P)
    (h : Loses s s' half (B.peer half) P) (hB : s.bridge? b = some B) (hheld : B.held = 2)
    (hall : ∀ half', s.On b half' (B.peer half'))
    (hP' : s'.peer? half.other (B.peer half.other) = some P')
    (h' : Loses (s'.letGo b half) s'' half.other (B.peer half.other) P') :
    Severs s (s''.letGo b half.other) (some (.double b)) := by
  have hB' : (s'.letGo b half).bridge? b = some { B with held := 1 } := by
    rw [bridge?_letGo_of_two ((h.bridge? b).trans hB) hheld, if_pos rfl]
  refine severs_double hs ((h'.tidy hP' ((h.tidy hP hs.toTidy).letGo b half)).letGo b _)
    (fun half' id' => ?_) (fun b' => ?_) (h'.nextId.trans h.nextId) ?_ (fun i hi => ?_)
    (h'.failures.trans h.failures)
  · refine (h'.peers half' id').trans ?_
    have hfirst : (s'.letGo b half).peer? half' id' = _ := h.peers half' id'
    rw [hfirst]
    by_cases hon : s.On b half' id'
    · have hbridge : s.tether? half' id' = some (.bridge b) := hon
      obtain rfl := hs.eq_of_on hB hon
      rw [if_pos hbridge]
      by_cases hhalf : half' = half
      · rw [hhalf, if_pos rfl, ite_self]
      · rw [Half.eq_other_of_ne hhalf, if_pos rfl]
    · have hbridge : ¬ s.tether? half' id' = some (.bridge b) := hon
      have hne (half₁ : Half) : (half', id') ≠ (half₁, B.peer half₁) := fun heq => by
        obtain ⟨rfl, rfl⟩ := Prod.mk.inj heq
        exact hon (hall half')
      rw [if_neg (hne half.other), if_neg (hne half), if_neg hbridge]
  · rw [bridge?_letGo_of_one ((h'.bridge? b).trans hB') rfl, h'.bridge?,
      bridge?_letGo_of_two ((h.bridge? b).trans hB) hheld, h.bridge?]
    by_cases hb : b' = b
    · rw [if_pos hb, if_pos hb]
    · rw [if_neg hb, if_neg hb, if_neg hb]
  · rw [next_letGo, h'.bridges, next_letGo, h.bridges]
  · exact (h.failing i (h'.failing i hi).1).1

end

variable [Host σ]

/-! ## Closing, with a report -/

/-- The outcome of closing a peer: the station afterwards, the peers that were taken away and why,
the owner that was told in the end, and how many calls it took. -/
structure Closed (σ : Type) where
  station : Station σ
  taken : List (Half × Nat × Reason)
  told : Option Nat
  calls : Nat

/-- Close a peer, and report on it. -/
def closing (s : Station σ) (half : Half) (id : Nat) (why : Reason) : Closed σ :=
  match _h : s.take half id why with
  | none => ⟨s, [], none, 1⟩
  | some (.loose, s) => ⟨s, [(half, id, why)], none, 1⟩
  | some (.owner o, s) => ⟨s.ownerClosed o, [(half, id, why)], some o, 1⟩
  | some (.bridge bridge, s') =>
    let (released, bridges) := s'.state.bridges.release bridge half
    let s'' := s'.withBus fun b => { b with bridges }
    match released with
    | some (.remaining (some (other, partner))) =>
      let c := closing s'' other partner .partnerClosed
      { c with taken := (half, id, why) :: c.taken, calls := c.calls + 1 }
    | some (.finished (some o)) => ⟨s''.ownerClosed o, [(half, id, why)], some o, 1⟩
    | _ => ⟨s'', [(half, id, why)], none, 1⟩
termination_by s.peerCount
decreasing_by
  have := peerCount_lt_of_take _h
  exact this

/-- The report is on `close`. -/
theorem station_closing (s : Station σ) (half : Half) (id : Nat) (why : Reason) :
    (s.closing half id why).station = s.close half id why := by
  fun_induction closing s half id why with
  | case1 s half id why h => rw [close, h]
  | case2 s half id why s' h => rw [close, h]
  | case3 s half id why o s' h => rw [close, h]
  | case4 s half id why b s' h bridges s'' other partner c hr ih =>
    rw [close, h]
    simp only [hr]
    exact ih
  | case5 s half id why b s' h bridges s'' o hr =>
    rw [close, h]
    simp only [hr]
    rfl
  | case6 s half id why b s' h released bridges hr s'' hremaining hfinished =>
    rw [close, h]
    simp only [hr]
    rfl

/-- Tell the owner of a stream, if it has one. -/
def notify (s : Station σ) (owner : Option Nat) : Station σ := owner.elim s s.ownerClosed

variable {s s' : Station σ} {half : Half} {id b : Nat} {why : Reason} {B : Bridge Nat}

theorem closing_of_none (h : s.take half id why = none) :
    s.closing half id why = ⟨s, [], none, 1⟩ := by
  rw [closing, h]

theorem closing_of_owner {owner : Option Nat} (h : s.take half id why = some (.ofOwner owner, s')) :
    s.closing half id why = ⟨s'.notify owner, [(half, id, why)], owner, 1⟩ := by
  cases owner <;> rw [closing, h] <;> rfl

theorem closing_of_one (h : s.take half id why = some (.bridge b, s')) (hB : s'.bridge? b = some B)
    (hheld : B.held = 1) :
    s.closing half id why =
      ⟨(s'.letGo b half).notify B.owner, [(half, id, why)], B.owner, 1⟩ := by
  rw [closing, h, letGo]
  simp only [release_of_one hB hheld]
  cases B.owner <;> rfl

theorem closing_of_uncoupled (h : s.take half id why = some (.bridge b, s'))
    (hB : s'.bridge? b = some B) (hheld : B.held = 2) (hcoupled : B.coupled = false) :
    s.closing half id why = ⟨s'.letGo b half, [(half, id, why)], none, 1⟩ := by
  rw [closing, h, letGo]
  simp only [release_of_two hB hheld, hcoupled]
  rfl

theorem closing_of_coupled (h : s.take half id why = some (.bridge b, s'))
    (hB : s'.bridge? b = some B) (hheld : B.held = 2) (hcoupled : B.coupled = true) :
    s.closing half id why =
      let c := (s'.letGo b half).closing half.other (B.peer half.other) .partnerClosed
      { c with taken := (half, id, why) :: c.taken, calls := c.calls + 1 } := by
  rw [closing, h, letGo]
  simp only [release_of_two hB hheld, hcoupled, if_true]

/-! ## What closing does to a sound station -/

theorem keeps_notify (s : Station σ) (owner : Option Nat) : Keeps s (s.notify owner) := by
  cases owner with
  | none => exact .refl s
  | some o => exact keeps_ownerClosed s o

/-- Peers were taken away, and the user was told why, in this order. -/
def Tells (s s' : Station σ) (taken : List (Half × Nat × Reason)) : Prop :=
  s'.reasons = s.reasons ++ taken.map (·.2.2)

/-- **All that closing a peer can do.** There is no such peer; or it is taken away and its stream
goes on with the other peer; or it is taken away, with the other peer if there still was one, the
stream has ended, and then its owner is told. -/
theorem closing_cases (hs : s.Sound) (half : Half) (id : Nat) (why : Reason) :
    (s.peer? half id = none ∧ s.closing half id why = ⟨s, [], none, 1⟩) ∨
    ∃ key owner s' taken, s.stream? half id = some (key, owner) ∧ s'.peer? half id = none ∧
      Tells s s' taken ∧
      ((Severs s s' none ∧ s.closing half id why = ⟨s', taken, none, 1⟩) ∨
        (Severs s s' (some key) ∧
          ∃ calls ≤ 2, s.closing half id why = ⟨s'.notify owner, taken, owner, calls⟩)) := by
  rcases take_cases s half id why with ⟨hnone, h⟩ | ⟨⟨tether, token⟩, s', hP, h, hloses, htells⟩
  · exact .inl ⟨hnone, closing_of_none h⟩
  have htether : s.tether? half id = some tether := congrArg (Option.map _) hP
  have howned (owner : Option Nat) (heq : tether = .ofOwner owner) :
      ∃ key owner s' taken, s.stream? half id = some (key, owner) ∧ s'.peer? half id = none ∧
        Tells s s' taken ∧
        ((Severs s s' none ∧ s.closing half id why = ⟨s', taken, none, 1⟩) ∨
          (Severs s s' (some key) ∧
            ∃ calls ≤ 2, s.closing half id why = ⟨s'.notify owner, taken, owner, calls⟩)) :=
    ⟨.single half id, owner, s', [(half, id, why)], stream?_ofOwner (heq ▸ htether),
      hloses.peer?_eq_none, htells,
      .inr ⟨severs_single hs hP hloses heq, 1, Nat.le_succ 1, closing_of_owner (heq ▸ h)⟩⟩
  refine .inr ?_
  cases tether with
  | loose => exact howned none rfl
  | owner o => exact howned (some o) rfl
  | bridge b =>
    obtain ⟨B, hB, rfl⟩ := hs.bridged b half id htether
    have hB' : s'.bridge? b = some B := (hloses.bridge? b).trans hB
    rcases hs.joined b B hB with ⟨hheld, hall⟩ | ⟨hheld, -⟩
    · cases hcoupled : B.coupled with
      | false =>
        exact ⟨.double b, B.owner, s'.letGo b half, [(half, B.peer half, why)],
          stream?_of_on htether hB, hloses.peer?_eq_none, htells,
          .inl ⟨severs_released hs hP hloses hB hheld hall hcoupled,
            closing_of_uncoupled h hB' hheld hcoupled⟩⟩
      | true =>
        -- the partner is still there, on the same bridge, which now holds one reference
        have hne : (half.other, B.peer half.other) ≠ (half, B.peer half) := fun heq =>
          half.other_ne (Prod.mk.inj heq).1
        obtain ⟨P', hP', htether'⟩ := peer?_of_on (hall half.other)
        have hpartner : (s'.letGo b half).peer? half.other (B.peer half.other) = some P' :=
          (hloses.peer?_of_ne hne).trans hP'
        have hone : (s'.letGo b half).bridge? b = some { B with held := 1 } := by
          rw [bridge?_letGo_of_two hB' hheld, if_pos rfl]
        rcases take_cases (s'.letGo b half) half.other (B.peer half.other) .partnerClosed with
          ⟨hnone, -⟩ | ⟨P'', s'', hP'', h', hloses', htells'⟩
        · rw [hpartner] at hnone
          cases hnone
        · rw [hpartner] at hP''
          cases hP''
          rw [htether'] at h'
          have hboth : Tells s (s''.letGo b half.other) [(half, B.peer half, why),
              (half.other, B.peer half.other, .partnerClosed)] :=
            htells'.trans ((congrArg (· ++ _) htells).trans (List.append_assoc _ _ _))
          refine ⟨.double b, B.owner, s''.letGo b half.other, _, stream?_of_on htether hB,
            hloses'.gone hloses.peer?_eq_none, hboth,
            .inr ⟨severs_both hs hP hloses hB hheld hall hpartner hloses', 2, Nat.le_refl 2, ?_⟩⟩
          rw [closing_of_coupled h hB' hheld hcoupled,
            closing_of_one h' ((hloses'.bridge? b).trans hone) rfl]
    · exact ⟨.double b, B.owner, s'.letGo b half, [(half, B.peer half, why)],
        stream?_of_on htether hB, hloses.peer?_eq_none, htells,
        .inr ⟨severs_last hs hP hloses hB hheld htether, 1, Nat.le_succ 1,
          closing_of_one h hB' hheld⟩⟩

/-- Closing a peer of a sound station takes at most two calls. -/
theorem calls_closing_le (hs : s.Sound) (half : Half) (id : Nat) (why : Reason) :
    (s.closing half id why).calls ≤ 2 := by
  rcases closing_cases hs half id why with
    ⟨-, h⟩ | ⟨key, owner, s', taken, -, -, -, ⟨-, h⟩ | ⟨-, calls, hcalls, h⟩⟩
  · rw [h]
    exact Nat.le_succ 1
  · rw [h]
    exact Nat.le_succ 1
  · rw [h]
    exact hcalls

end Squitter.Station
