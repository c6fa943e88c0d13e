import Squitter.Proofs.Peers.Arriving

/-!
# Streams and their owners

What happened to the streams of a station is told as a list of **happenings** (`Station.Happening`),
and accounts are kept of it (`Station.Accounted`): each stream was attached once, and its owner was
told once if it is not open any more. A new stream (`Accounted.attached`) has a key that was never
in use, and one that ends (`Accounted.ended`) was open, so its owner was not told before.
-/

namespace Squitter.Station

variable {σ : Type}

/-! ## What happens -/

/-- What a course tells. -/
inductive Happening
  /-- A stream was attached; it has an owner if somebody waits for it. -/
  | attached (key : Key) (owner : Option Nat)
  /-- A peer was closed. -/
  | closed (half : Half) (id : Nat) (why : Reason)
  /-- The owner of a stream was told that it is gone. -/
  | told (key : Key) (owner : Nat)
  /-- A transport was told that there is no stream, because none could be attached. -/
  | gaveUp (id : Nat)
  /-- Packets were passed on to the senders, some of which may have failed. -/
  | relayed
deriving DecidableEq

/-- Why a peer was closed, if that is what happened. -/
def Happening.closed? : Happening → Option Reason
  | attached _ _ => none
  | closed _ _ why => some why
  | told _ _ => none
  | gaveUp _ => none
  | relayed => none

/-- No stream is attached, and no owner is told. -/
structure Silent (hs : List Happening) : Prop where
  attached : ∀ key owner, .attached key owner ∉ hs
  told : ∀ key o, .told key o ∉ hs

theorem silent_nil : Silent [] where
  attached _ _ := List.not_mem_nil
  told _ _ := List.not_mem_nil

/-! ## Accounts -/

/-- Each stream with an owner is open from when it was attached until its owner was told, and
the owner is told once. -/
structure Accounted (hs : List Happening) (s : Station σ) : Prop where
  /-- No key is used for two streams. -/
  once : ∀ key owner, hs.count (.attached key owner) ≤ 1
  same : ∀ key owner owner', .attached key owner ∈ hs → .attached key owner' ∈ hs → owner = owner'
  used : ∀ key owner, .attached key owner ∈ hs → key.Used s
  /-- What is open was attached, and its owner was not told. -/
  waiting : ∀ key owner, s.Open key owner →
    .attached key owner ∈ hs ∧ ∀ o, .told key o ∉ hs
  /-- Of a stream that was attached and is not open any more the owner was told exactly once. -/
  told : ∀ key o, .attached key (some o) ∈ hs → ¬ s.Open key (some o) → hs.count (.told key o) = 1
  /-- Owners are told of streams that were attached for them. -/
  owed : ∀ key o, .told key o ∈ hs → .attached key (some o) ∈ hs

theorem accounted_fresh (settings : Settings) (server : Server) (host : σ) :
    Accounted [] (fresh settings server host) where
  once _ _ := Nat.zero_le 1
  same _ _ _ := nofun
  used _ _ := nofun
  waiting key owner h := by
    obtain ⟨half, id, h⟩ := h
    cases half <;> cases h
  told _ _ := nofun
  owed _ _ := nofun

variable {s s' : Station σ} {hs hs' : List Happening}

/-! ## What keeps the accounts -/

/-- Nothing happens to the streams. -/
theorem Accounted.silent (h : Accounted hs s) (hsilent : Silent hs')
    (hid : s.state.nextId ≤ s'.state.nextId) (hnext : s.state.bridges.next ≤ s'.state.bridges.next)
    (hopen : ∀ key owner, s'.Open key owner ↔ s.Open key owner) : Accounted (hs ++ hs') s' := by
  obtain ⟨hattached, htold⟩ := hsilent
  have hmem {x : Happening} (hx : x ∉ hs') : x ∈ hs ++ hs' ↔ x ∈ hs := by
    rw [List.mem_append, or_iff_left hx]
  have hcount {x : Happening} (hx : x ∉ hs') : (hs ++ hs').count x = hs.count x := by
    rw [List.count_append, List.count_eq_zero.2 hx, Nat.add_zero]
  constructor
  · intro key owner
    rw [hcount (hattached key owner)]
    exact h.once key owner
  · intro key owner owner'
    rw [hmem (hattached key owner), hmem (hattached key owner')]
    exact h.same key owner owner'
  · intro key owner
    rw [hmem (hattached key owner)]
    exact fun hx => (h.used key owner hx).mono hid hnext
  · intro key owner
    rw [hopen, hmem (hattached key owner)]
    exact fun hx => ⟨(h.waiting key owner hx).1, fun o => by
      rw [hmem (htold key o)]
      exact (h.waiting key owner hx).2 o⟩
  · intro key o
    rw [hmem (hattached key (some o)), hopen, hcount (htold key o)]
    exact h.told key o
  · intro key o
    rw [hmem (htold key o), hmem (hattached key (some o))]
    exact h.owed key o

/-- A stream is attached under a key that nobody has used. -/
theorem Accounted.attached {key : Key} {owner : Option Nat} (h : Accounted hs s)
    (hgets : Gets s s' key owner) : Accounted (hs ++ [.attached key owner]) s' := by
  have hnew (owner' : Option Nat) : .attached key owner' ∉ hs := fun hx =>
    hgets.fresh (h.used key owner' hx)
  have htold (k : Key) (o : Nat) : .told k o ∈ hs ++ [.attached key owner] ↔ .told k o ∈ hs := by
    rw [List.mem_append, or_iff_left fun hx => by cases List.mem_singleton.1 hx]
  have hmem (k : Key) (o : Option Nat) : .attached k o ∈ hs ++ [.attached key owner] ↔
      .attached k o ∈ hs ∨ (k, o) = (key, owner) := by
    rw [List.mem_append, List.mem_singleton, Happening.attached.injEq, Prod.mk.injEq]
  constructor
  · intro k o
    rw [List.count_append]
    by_cases hk : k = key
    · rw [hk, List.count_eq_zero.2 (hnew o), Nat.zero_add]
      exact List.count_le_length
    · rw [List.count_eq_zero.2 fun hx => hk (Happening.attached.inj (List.mem_singleton.1 hx)).1]
      exact h.once k o
  · intro k o o'
    rw [hmem, hmem]
    rintro (hx | hx) (hx' | hx')
    · exact h.same k o o' hx hx'
    · cases hx'
      exact absurd hx (hnew o)
    · cases hx
      exact absurd hx' (hnew o')
    · cases hx
      cases hx'
      rfl
  · intro k o
    rw [hmem]
    rintro (hx | hx)
    · exact (h.used k o hx).mono hgets.nextId hgets.nextBridge
    · exact hgets.sound.used_of_open ((hgets.opens k o).2 (.inl hx))
  · intro k o
    rw [hgets.opens, hmem]
    simp only [htold]
    rintro (hx | hx)
    · cases hx
      exact ⟨.inr rfl, fun o hx => hnew (some o) (h.owed key o hx)⟩
    · exact ⟨.inl (h.waiting k o hx).1, (h.waiting k o hx).2⟩
  · intro k o
    rw [hmem, hgets.opens, not_or, List.count_append]
    rintro hx ⟨hne, hclosed⟩
    rw [h.told k o (hx.resolve_right hne) hclosed,
      List.count_eq_zero.2 fun hx => by cases List.mem_singleton.1 hx]
  · intro k o
    rw [htold, hmem]
    exact fun hx => .inl (h.owed k o hx)

/-- A stream has ended, and its owner is told. -/
theorem Accounted.ended {key : Key} {owner : Option Nat} (h : Accounted hs s)
    (hopen : s.Open key owner) (hsevers : Severs s s' (some key)) :
    Accounted (hs ++ owner.toList.map (.told key)) s' := by
  obtain ⟨hattached, hwaiting⟩ := h.waiting key owner hopen
  have hmem (k : Key) (o : Option Nat) :
      .attached k o ∈ hs ++ owner.toList.map (.told key) ↔ .attached k o ∈ hs := by
    rw [List.mem_append, or_iff_left]
    rintro hx
    obtain ⟨_, -, hx⟩ := List.mem_map.1 hx
    cases hx
  have htold (k : Key) (o : Nat) :
      Happening.told k o ∈ owner.toList.map (.told key) ↔ k = key ∧ owner = some o := by
    cases owner with
    | none => exact ⟨nofun, fun hx => nomatch hx.2⟩
    | some o' =>
      simp only [Option.toList_some, List.map_cons, List.map_nil, List.mem_singleton,
        Happening.told.injEq, Option.some.injEq, eq_comm]
  constructor
  · intro k o
    have hzero : (owner.toList.map (Happening.told key)).count (.attached k o) = 0 :=
      List.count_eq_zero.2 fun hx => by
        obtain ⟨_, -, hx⟩ := List.mem_map.1 hx
        cases hx
    rw [List.count_append, hzero]
    exact h.once k o
  · intro k o o'
    rw [hmem, hmem]
    exact h.same k o o'
  · intro k o
    rw [hmem]
    exact fun hx => (h.used k o hx).mono hsevers.nextId hsevers.nextBridge
  · intro k o
    rw [hsevers.opens, hmem]
    rintro ⟨hne, hx⟩
    refine ⟨(h.waiting k o hx).1, fun o' hx' => ?_⟩
    rcases List.mem_append.1 hx' with hx' | hx'
    · exact (h.waiting k o hx).2 o' hx'
    · exact hne (congrArg some ((htold k o').1 hx').1.symm)
  · intro k o
    rw [hmem, hsevers.opens, List.count_append]
    intro hx hclosed
    by_cases hk : k = key
    · obtain rfl := hk
      obtain rfl := h.same k owner (some o) hattached hx
      rw [List.count_eq_zero.2 (hwaiting o), Nat.zero_add]
      exact List.count_singleton_self
    · rw [h.told k o hx fun hx' => hclosed ⟨fun heq => hk (Option.some.inj heq).symm, hx'⟩,
        List.count_eq_zero.2 fun hx' => hk ((htold k o).1 hx').1]
  · intro k o
    rw [hmem, List.mem_append, htold]
    rintro (hx | ⟨rfl, rfl⟩)
    · exact h.owed k o hx
    · exact hattached

end Squitter.Station
