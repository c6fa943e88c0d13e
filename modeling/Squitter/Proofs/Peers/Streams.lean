import Squitter.Proofs.Peers.Sound

/-!
# Streams

A stream has one peer or, when it both sends and receives, two of them on a bridge (`Station.Key`).
It is **open** as long as there is a peer on it (`Station.Open`), and its owner is the transport
that provided it, if somebody waits for it.
-/

namespace Squitter.Station

variable {σ : Type}

/-- What a stream is known by: its only peer, or the bridge between its two. -/
inductive Key
  | single (half : Half) (id : Nat)
  | double (bridge : Nat)
deriving DecidableEq

/-- The stream that a peer is on, and its owner. -/
def stream? (s : Station σ) (half : Half) (id : Nat) : Option (Key × Option Nat) :=
  match s.tether? half id with
  | none => none
  | some .loose => some (.single half id, none)
  | some (.owner o) => some (.single half id, some o)
  | some (.bridge b) => (s.bridge? b).map fun B => (.double b, B.owner)

/-- There is a peer on the stream. -/
def Open (s : Station σ) (key : Key) (owner : Option Nat) : Prop :=
  ∃ half id, s.stream? half id = some (key, owner)

variable {s s' : Station σ}

theorem ofOwner_ne_bridge (owner : Option Nat) (b : Nat) : Tether.ofOwner owner ≠ .bridge b := by
  cases owner <;> rintro ⟨⟩

theorem ofOwner_injective {owner owner' : Option Nat}
    (h : Tether.ofOwner owner = .ofOwner owner') : owner = owner' := by
  cases owner <;> cases owner' <;> cases h <;> rfl

theorem stream?_ofOwner {half : Half} {id : Nat} {owner : Option Nat}
    (h : s.tether? half id = some (.ofOwner owner)) :
    s.stream? half id = some (.single half id, owner) := by
  cases owner <;> rw [stream?, h] <;> rfl

theorem stream?_of_on {b id : Nat} {half : Half} {B : Bridge Nat} (h : s.On b half id)
    (hB : s.bridge? b = some B) : s.stream? half id = some (.double b, B.owner) := by
  unfold On at h
  rw [stream?, h]
  simp only [hB, Option.map_some]

/-- **All that a stream can be.** -/
theorem stream?_cases {half : Half} {id : Nat} {key : Key} {owner : Option Nat}
    (h : s.stream? half id = some (key, owner)) :
    (key = .single half id ∧ s.tether? half id = some (.ofOwner owner)) ∨
      ∃ b B, key = .double b ∧ s.On b half id ∧ s.bridge? b = some B ∧ B.owner = owner := by
  unfold stream? at h
  split at h
  · cases h
  · rename_i htether
    cases h
    exact .inl ⟨rfl, htether⟩
  · rename_i htether
    cases h
    exact .inl ⟨rfl, htether⟩
  · rename_i b htether
    obtain ⟨B, hB, heq⟩ := Option.map_eq_some_iff.1 h
    obtain ⟨hkey, howner⟩ := Prod.mk.inj heq
    exact .inr ⟨b, B, hkey.symm, htether, hB, howner⟩

theorem open_single {half : Half} {id : Nat} {owner : Option Nat} :
    s.Open (.single half id) owner ↔ s.tether? half id = some (.ofOwner owner) := by
  constructor
  · rintro ⟨half', id', h⟩
    rcases stream?_cases h with ⟨hkey, htether⟩ | ⟨b, B, hkey, -⟩
    · cases hkey
      exact htether
    · cases hkey
  · exact fun h => ⟨half, id, stream?_ofOwner h⟩

/-- A bridge that is there has a peer. -/
theorem Paired.exists_on (hs : s.Paired) {b : Nat} {B : Bridge Nat} (hB : s.bridge? b = some B) :
    ∃ half, s.On b half (B.peer half) := by
  rcases hs.joined b B hB with ⟨-, hall⟩ | ⟨-, -, half, hon, -⟩
  · exact ⟨.send, hall .send⟩
  · exact ⟨half, hon⟩

theorem Paired.open_double (hs : s.Paired) {b : Nat} {owner : Option Nat} :
    s.Open (.double b) owner ↔ ∃ B, s.bridge? b = some B ∧ B.owner = owner := by
  constructor
  · rintro ⟨half, id, h⟩
    rcases stream?_cases h with ⟨hkey, -⟩ | ⟨b', B, hkey, -, hB, howner⟩
    · cases hkey
    · cases hkey
      exact ⟨B, hB, howner⟩
  · rintro ⟨B, hB, rfl⟩
    obtain ⟨half, hon⟩ := hs.exists_on hB
    exact ⟨half, _, stream?_of_on hon hB⟩

theorem Steady.stream (h : Steady s s') (half : Half) (id : Nat) :
    s'.stream? half id = s.stream? half id := by
  simp only [stream?, h.tether, h.bridges]

/-- Steady changes leave all streams open. -/
theorem Steady.open_iff (h : Steady s s') (key : Key) (owner : Option Nat) :
    s'.Open key owner ↔ s.Open key owner := by
  simp only [Open, h.stream]

/-- A stream whose number was given out. -/
def Key.Used (s : Station σ) : Key → Prop
  | single _ id => id < s.state.nextId
  | double b => b < s.state.bridges.next

/-- Numbers are never given back. -/
theorem Key.Used.mono {key : Key} (h : key.Used s) (hid : s.state.nextId ≤ s'.state.nextId)
    (hnext : s.state.bridges.next ≤ s'.state.bridges.next) : key.Used s' := by
  cases key with
  | single half id => exact Nat.lt_of_lt_of_le h hid
  | double b => exact Nat.lt_of_lt_of_le h hnext

/-- Only streams whose numbers were given out are open. -/
theorem Sound.used_of_open (hs : s.Sound) {key : Key} {owner : Option Nat} (h : s.Open key owner) :
    key.Used s := by
  cases key with
  | single half id =>
    have htether := open_single.1 h
    refine Nat.lt_of_not_le fun hle => ?_
    rw [tether?, hs.numbered half id hle] at htether
    cases htether
  | double b =>
    obtain ⟨B, hB, -⟩ := hs.open_double.1 h
    exact (hs.below b B hB).1

end Squitter.Station
