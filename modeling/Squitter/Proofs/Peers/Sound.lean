import Squitter.Proofs.Peers.Views

/-!
# Sound stations

Of the peers of a **sound** station (`Station.Sound`) two things hold. Everything is in its place
(`Station.Tidy`): a peer's token is registered under its route and nothing else is registered for a
peer, numbers and tokens that are still to come are not in use, and transports remember spare
tokens only. And halves are **paired** (`Station.Paired`): a bridge that holds two references has
both its peers, one that holds a single reference has one of them and is not coupled, and a peer on
a bridge is one of its two.

Steady changes keep a station sound, as long as the transports remember spare tokens. So do the ways
in which a transport is changed: `keeps_setTransport`, `keeps_retryLater`, `keeps_ownerClosed`.
-/

namespace Squitter.Station

variable {σ : Type}

/-! ## Soundness -/

/-- Everything that is numbered or registered is in its place. -/
structure Tidy (s : Station σ) : Prop where
  watched : ∀ half id token,
    (∃ P, s.peer? half id = some P ∧ P.token = some token) ↔ s.route? token = some (half.route id)
  numbered : ∀ half id, s.state.nextId ≤ id → s.peer? half id = none
  bounded : s.reactor.Bounded
  spare : ∀ id t, s.transport? id = some t → ∀ token ∈ t.mechanism.tokens, s.Spare token

/-- The peer under a number is on a bridge. -/
def On (s : Station σ) (b : Nat) (half : Half) (id : Nat) : Prop :=
  s.tether? half id = some (.bridge b)

/-- A bridge has the peers that its references stand for. -/
def Joins (s : Station σ) (b : Nat) (B : Bridge Nat) : Prop :=
  (B.held = 2 ∧ ∀ half, s.On b half (B.peer half)) ∨
    (B.held = 1 ∧ B.coupled = false ∧
      ∃ half : Half, s.On b half (B.peer half) ∧ s.peer? half.other (B.peer half.other) = none)

/-- Bridges and the peers on them belong together. -/
structure Paired (s : Station σ) : Prop where
  joined : ∀ b B, s.bridge? b = some B → s.Joins b B
  bridged : ∀ b half id, s.On b half id → ∃ B, s.bridge? b = some B ∧ B.peer half = id
  below : ∀ b B, s.bridge? b = some B →
    b < s.state.bridges.next ∧ ∀ half, B.peer half < s.state.nextId

/-- Everything is in its place, and bridges and peers belong together. -/
structure Sound (s : Station σ) : Prop extends Tidy s, Paired s

theorem peer?_of_on {s : Station σ} {b id : Nat} {half : Half} (h : s.On b half id) :
    ∃ P, s.peer? half id = some P ∧ P.tether = .bridge b := by
  unfold On tether? at h
  obtain ⟨P, hP, htether⟩ := Option.map_eq_some_iff.1 h
  exact ⟨P, hP, htether⟩

/-- A station without endpoints is sound. -/
theorem sound_fresh (settings : Settings) (server : Server) (host : σ) :
    (fresh settings server host).Sound where
  watched half id token := by
    refine ⟨fun ⟨P, hP, _⟩ => ?_, nofun⟩
    cases half <;> cases hP
  numbered half id _ := by cases half <;> rfl
  bounded _ _ := rfl
  spare _ _ h := by cases h
  joined _ _ h := by cases h
  bridged b half id h := by cases half <;> cases h
  below _ _ h := by cases h

/-- Where peers are and what is registered for them has nothing to do with bridges. -/
theorem Tidy.withBridges {s : Station σ} (hs : s.Tidy) (bridges : Bridges Nat) :
    (s.withBus fun b => { b with bridges }).Tidy :=
  ⟨hs.watched, hs.numbered, hs.bounded, hs.spare⟩

/-! ## Changes that keep a station sound -/

/-- A steady change that keeps a station sound, and in which no sender fails. -/
structure Keeps (s s' : Station σ) : Prop extends Steady s s' where
  sound : s.Sound → s'.Sound
  failing : ∀ id, s'.Failing id → s.Failing id
  failures : s'.state.fanout.failures = s.state.fanout.failures

variable {s s' s'' : Station σ}

theorem Keeps.refl (s : Station σ) : Keeps s s := ⟨.refl s, id, fun _ => id, rfl⟩

theorem Keeps.trans (h : Keeps s s') (h' : Keeps s' s'') : Keeps s s'' where
  toSteady := h.toSteady.trans h'.toSteady
  sound hs := h'.sound (h.sound hs)
  failing id hid := h.failing id (h'.failing id hid)
  failures := h'.failures.trans h.failures

theorem Steady.tether (h : Steady s s') (half : Half) (id : Nat) :
    s'.tether? half id = s.tether? half id := by
  rw [tether?, h.peers, tether?]

theorem Steady.paired (h : Steady s s') (hs : s.Paired) : s'.Paired where
  joined b B hB := by
    have hjoins := hs.joined b B (h.bridges b ▸ hB)
    simp only [Joins, On, h.tether, h.peers] at hjoins ⊢
    exact hjoins
  bridged b half id hon := by
    rw [On, h.tether] at hon
    obtain ⟨B, hB, hpeer⟩ := hs.bridged b half id hon
    exact ⟨B, (h.bridges b).trans hB, hpeer⟩
  below b B hB := by
    obtain ⟨hb, hpeers⟩ := hs.below b B (h.bridges b ▸ hB)
    exact ⟨Nat.lt_of_lt_of_le hb h.nextBridge,
      fun half => Nat.lt_of_lt_of_le (hpeers half) h.nextId⟩

/-- **Steady changes keep a station sound**, if transports remember spare tokens. -/
theorem Steady.sound (h : Steady s s') (hs : s.Sound)
    (hspare : ∀ id t, s'.transport? id = some t → ∀ token ∈ t.mechanism.tokens, s.Spare token) :
    s'.Sound where
  watched half id token := by
    rw [h.peers, h.routes]
    exact hs.watched half id token
  numbered half id hid := by
    rw [h.peers]
    exact hs.numbered half id (Nat.le_trans h.nextId hid)
  bounded := h.bounded hs.bounded
  spare id t ht token htoken := h.spare (hspare id t ht token htoken)
  toPaired := h.paired hs.toPaired

theorem Aside.keeps (h : Aside s s') : Keeps s s' where
  toSteady := h.toSteady
  sound hs := by
    refine h.toSteady.sound hs fun id t ht => hs.spare id t ?_
    rwa [transport?, h.transports] at ht
  failing := h.failing
  failures := h.failures

/-- A change of the transports alone. -/
theorem keeps_withTransports (transports : Table Transport) (flow : Flow)
    (h : s.Sound → ∀ id t, transports.get? id = some t → ∀ token ∈ t.mechanism.tokens,
      s.Spare token) :
    Keeps s (s.withBus fun b => { b with transports, flow }) := by
  have hsteady : Steady s (s.withBus fun b => { b with transports, flow }) :=
    .of_bus rfl rfl rfl (Nat.le_refl _) rfl rfl
  exact ⟨hsteady, fun hs => hsteady.sound hs (h hs), fun _ => id, rfl⟩

/-- A transport may be replaced by one that remembers spare tokens. -/
theorem keeps_setTransport {id : Nat} {t : Transport}
    (h : s.Sound → ∀ token ∈ t.mechanism.tokens, s.Spare token) :
    Keeps s (s.setTransport id t) := by
  refine keeps_withTransports _ s.state.flow fun hs i u hu => ?_
  rw [Table.get?_insert] at hu
  by_cases hi : i = id
  · rw [if_pos hi] at hu
    cases hu
    exact h hs
  · rw [if_neg hi] at hu
    exact hs.spare i u hu

/-- A transport may be replaced by one that remembers no other tokens. -/
theorem keeps_setTransport_of_subset {id : Nat} {t u : Transport} (ht : s.transport? id = some t)
    (h : ∀ token ∈ u.mechanism.tokens, token ∈ t.mechanism.tokens) :
    Keeps s (s.setTransport id u) :=
  keeps_setTransport fun hs token htoken => hs.spare id t ht token (h token htoken)

theorem mem_tokens_of_mem_rest {m : Mechanism} {token : Nat} (h : token ∈ m.rest.tokens) :
    token ∈ m.tokens := by
  cases m with
  | child command phase messages => exact h
  | _ => cases h

theorem keeps_setChildPhase (s : Station σ) (id : Nat) (phase : ChildPhase) :
    Keeps s (s.setChildPhase id phase) := by
  unfold setChildPhase
  split
  · rename_i ht
    exact keeps_setTransport_of_subset ht fun _ htoken => htoken
  · exact .refl s

section

variable [Host σ]

theorem aside_delay (s : Station σ) (attempt : UInt32) : Aside s (s.delay attempt).2 := by
  unfold delay
  simp only
  split
  · exact .refl s
  · exact aside_withHost s _

/-- A transport may rest. -/
theorem keeps_retryLater (s : Station σ) (id : Nat) : Keeps s (s.retryLater id) := by
  unfold retryLater
  cases ht : s.transport? id with
  | none => exact .refl s
  | some t =>
    have hset := keeps_setTransport_of_subset
      (u := { t with attempt := Transport.nextAttempt t.attempt, mechanism := t.mechanism.rest }) ht
      fun _ => mem_tokens_of_mem_rest
    exact hset.trans ((aside_delay _ t.attempt).trans (aside_schedule _ _ _)).keeps

/-! ## Owners -/

theorem aside_hasEnded (s : Station σ) (child : Nat) : Aside s (s.hasEnded child).2 := by
  unfold hasEnded
  split
  · exact aside_withHost s _
  · exact aside_withHost s _

theorem keeps_childClosed (s : Station σ) (id : Nat) (phase : ChildPhase) :
    Keeps s (s.childClosed id phase) := by
  cases phase with
  | idle => exact keeps_retryLater s id
  | stopping child polls => exact .refl s
  | running child =>
    have hended := ((aside_withHost s (Host.terminate child s.host)).trans
      (aside_hasEnded _ child)).keeps
    simp only [childClosed]
    split
    · exact hended.trans (keeps_retryLater _ id)
    · exact (hended.trans (keeps_setChildPhase _ id (.stopping child 0))).trans
        (aside_schedule _ _ _).keeps

theorem keeps_fileClosed (s : Station σ) (id : Nat) (t : Transport) (reopens : Bool) :
    Keeps s (s.fileClosed id t reopens) := by
  unfold fileClosed
  split
  · exact keeps_retryLater s id
  · refine keeps_withTransports _ _ fun hs i u hu => ?_
    rw [Table.get?_erase] at hu
    by_cases hi : i = id
    · rw [if_pos hi] at hu
      cases hu
    · rw [if_neg hi] at hu
      exact hs.spare i u hu

/-- **Telling an owner keeps the station sound.** -/
theorem keeps_ownerClosed (s : Station σ) (id : Nat) : Keeps s (s.ownerClosed id) := by
  unfold ownerClosed
  cases s.transport? id with
  | none => exact .refl s
  | some t =>
    obtain ⟨role, attempt, mechanism⟩ := t
    cases mechanism with
    | outgoing host port phase => exact keeps_retryLater s id
    | incoming host port phase => exact .refl s
    | child command phase messages => exact keeps_childClosed s id phase
    | file source reopens => exact keeps_fileClosed s id _ reopens

end

end Squitter.Station
