import Squitter.Proofs.Drives.Children

/-!
# Closing and reaping

Whoever loses the stream that drives it is told at once, so closing peers leaves all
transports driven (`carriesOn_close`). Only a child that is found to have ended is not
driven as it should be while its peers are closed: it is idle and its stream is still open.
As this stream has peers, and all of them are on the list of those to close, the child is
told before the list ends (`carriesOn_closeOwned`), and nothing is left to do for it when it
is reaped (`carriesOn_reapChild`).
-/

namespace Squitter.Station

variable {σ : Type} {s s' s'' : Station σ} {i : Nat} {d : Drive} {t : Transport} {key : Key}

/-! ## Carrying on -/

/-- All transports are driven, and none has come. -/
structure CarriesOn (s s' : Station σ) : Prop where
  driven : ∀ j, s'.Driven j
  absent : ∀ j, s.transport? j = none → s'.transport? j = none

theorem CarriesOn.trans (h : CarriesOn s s') (h' : CarriesOn s' s'') : CarriesOn s s'' :=
  ⟨h'.driven, fun j hj => h'.absent j (h.absent j hj)⟩

theorem carriesOn_of_unmoved (hs : ∀ j, s.Driven j) (h : ∀ j, Unmoved s s' j) : CarriesOn s s' :=
  ⟨fun j => (h j).driven (hs j), fun j hj => (h j).transport.trans hj⟩

theorem Settles.absent (h : Settles s s' i) (ht : s.transport? i = some t) (j : Nat)
    (hnone : s.transport? j = none) : s'.transport? j = none := by
  refine (h.others j fun hj => ?_).transport.trans hnone
  rw [hj, ht] at hnone
  cases hnone

/-- To settle one transport is enough if the others are driven. -/
theorem Settles.carriesOn (h : Settles s s' i) (ht : s.transport? i = some t)
    (hs : ∀ j ≠ i, s.Driven j) : CarriesOn s s' where
  driven j := by
    by_cases hj : j = i
    · exact hj ▸ h.driven
    · exact (h.others j hj).driven (hs j hj)
  absent := h.absent ht

/-! ## The end of a stream -/

/-- A transport has its stream and nothing else, and is told when the stream ends. -/
def Provided (s : Station σ) (i : Nat) (t : Transport) (key : Key) : Prop :=
  s.transport? i = some t ∧ t.mechanism.Provides ∧ s.Has i (.streaming t.mechanism.messages? key)

/-- A driven transport with a stream has nothing else. -/
theorem Driven.provided (h : s.Driven i) (hopen : s.Open key (some i)) :
    ∃ t, s.Provided i t key := by
  cases ht : s.transport? i with
  | none => cases ((h.has_still ht).stream key).1 hopen
  | some t =>
    obtain ⟨d, hwants, hd⟩ := h.exists_has ht
    have hstream := (hd.stream key).1 hopen
    cases hstatus : t.mechanism.status with
    | idle =>
      rw [hstatus] at hwants
      cases hwants
      cases hstream
    | watching token =>
      rw [hstatus] at hwants
      cases hwants
      cases hstream
    | streaming =>
      rw [hstatus] at hwants
      obtain ⟨key, rfl⟩ := hwants
      cases hstream
      exact ⟨t, ht, .inl hstatus, hd⟩
    | stopping =>
      rw [hstatus] at hwants
      cases hwants
      cases hstream
    | file reopens =>
      rw [hstatus] at hwants
      rcases hwants with ⟨key, rfl⟩ | ⟨-, rfl⟩
      · cases hstream
        exact ⟨t, ht, .inr (.inl ⟨reopens, hstatus⟩), hd⟩
      · cases hstream

theorem Unmoved.provided (h : Unmoved s s' i) (hs : s.Provided i t key) : s'.Provided i t key :=
  ⟨h.transport.trans hs.1, hs.2.1, h.has _ hs.2.2⟩

theorem hasPeer_of_stream? {half : Half} {id : Nat} {owner : Option Nat}
    (h : s.stream? half id = some (key, owner)) : s.hasPeer half id = true := by
  rw [hasPeer_eq]
  cases hpeer : s.peer? half id with
  | none =>
    rw [stream?, tether?, hpeer] at h
    cases h
  | some P => rfl

theorem isOwnedBy_of_stream? {half : Half} {id : Nat}
    (h : s.stream? half id = some (key, some i)) :
    ∃ tether, s.tether? half id = some tether ∧ s.isOwnedBy tether i = true := by
  rcases stream?_cases h with ⟨-, htether⟩ | ⟨b, B, -, hon, hB, howner⟩
  · exact ⟨_, htether, decide_eq_true rfl⟩
  · refine ⟨_, hon, decide_eq_true ?_⟩
    rw [bridge?] at hB
    rw [Bridges.owner?, hB]
    exact howner

/-- The peers on streams of a transport, receivers first. -/
def owned (s : Station σ) (i : Nat) : List (Half × Nat) :=
  (s.state.receivers.entries.filter fun e => s.isOwnedBy e.2.tether i).map
      (fun e => (Half.receive, e.1)) ++
    (s.state.fanout.senders.entries.filter fun e => s.isOwnedBy e.2.tether i).map
      fun e => (Half.send, e.1)

theorem mem_owned {half : Half} {id : Nat} (h : s.stream? half id = some (key, some i)) :
    (half, id) ∈ s.owned i := by
  obtain ⟨tether, htether, howned⟩ := isOwnedBy_of_stream? h
  obtain ⟨P, hP, rfl⟩ := Option.map_eq_some_iff.1 htether
  rw [owned, List.mem_append]
  cases half with
  | receive =>
    obtain ⟨r, hr, rfl⟩ := Option.map_eq_some_iff.1 hP
    exact .inl (List.mem_map.2 ⟨(id, r),
      List.mem_filter.2 ⟨Table.mem_of_lookup hr, howned⟩, rfl⟩)
  | send =>
    obtain ⟨p, hp, rfl⟩ := Option.map_eq_some_iff.1 hP
    exact .inr (List.mem_map.2 ⟨(id, p),
      List.mem_filter.2 ⟨Table.mem_of_lookup hp, howned⟩, rfl⟩)

/-- Peers are closed one after the other, and some are left to close. A transport is driven if any
was closed; else its stream is still there, and all peers on it are left. -/
structure Ending (s₀ s : Station σ) (i : Nat) (any : Bool) (rest : List (Half × Nat)) : Prop where
  sound : s.Sound
  absent : ∀ j, s₀.transport? j = none → s.transport? j = none
  others : ∀ j ≠ i, s.Driven j
  ending : (∃ t key, s.Provided i t key ∧
      ∀ half id, s.stream? half id = some (key, some i) → (half, id) ∈ rest) ∨
    any = true ∧ s.Driven i

/-! ## Looking at a child -/

/-- A look at a child was taken from what is pending; what else drives transports is as it was. -/
theorem Has.unlook (h : s.Has i d) : s.Has i { d with looks := false } :=
  ⟨h.retries, h.watch, h.messages, h.stream, nofun⟩

/-- A transport may be looked at: it is driven, or it waits for its child to end. -/
def Lookable (s : Station σ) (i : Nat) : Prop :=
  s.Driven i ∨ ∃ t, t.mechanism.status = .stopping ∧ s.Stranded i t

theorem Lookable.stranded (h : s.Lookable i) (ht : s.transport? i = some t)
    (hstatus : t.mechanism.status = .stopping) : s.Stranded i t := by
  rcases h with hdriven | ⟨u, -, hstranded⟩
  · obtain ⟨d, hwants, hd⟩ := hdriven.exists_has ht
    rw [hstatus] at hwants
    cases hwants
    exact ⟨ht, hd.unlook⟩
  · have hu := hstranded.transport
    rw [ht] at hu
    cases hu
    exact hstranded

theorem Lookable.driven (h : s.Lookable i)
    (hstatus : ∀ t, s.transport? i = some t → t.mechanism.status ≠ .stopping) : s.Driven i :=
  h.resolve_right fun ⟨_, hstopping, hstranded⟩ => hstatus _ hstranded.transport hstopping

theorem status_eq_stopping {m : Mechanism} (h : m.status = .stopping) :
    ∃ command child polls messages, m = .child command (.stopping child polls) messages := by
  cases m with
  | outgoing host port phase => cases phase <;> cases h
  | incoming host port phase => cases phase <;> cases h
  | child command phase messages =>
    cases phase with
    | idle => cases h
    | running child => cases h
    | stopping child polls => exact ⟨command, child, polls, messages, rfl⟩
  | file source reopens => cases h

/-! ## Closing a peer -/

variable [Host σ]

/-- **What closing a peer does to the drives**: nothing, or a transport has lost its stream and is
driven again. -/
theorem close_settles_cases (hs : s.Sound) (half : Half) (id : Nat) (why : Reason) :
    (∀ i, Unmoved s (s.close half id why) i) ∨
    ∃ i key, s.stream? half id = some (key, some i) ∧
      ∀ t, s.Provided i t key → Settles s (s.close half id why) i := by
  rcases close_drive_cases hs half id why with
    hunmoved | ⟨i, key, s', hstream, hclose, hleaves, htransport, hhas⟩
  · exact .inl hunmoved
  · refine .inr ⟨i, key, hstream, fun t ⟨ht, hprovides, hd⟩ => ?_⟩
    rw [hclose]
    exact hleaves.settles (settles_ownerClosed ⟨htransport.trans ht, hhas _ hd⟩ hprovides)

/-- **Closing a peer leaves all transports driven.** -/
theorem carriesOn_close (hs : s.Sound) (hdriven : ∀ j, s.Driven j) (half : Half) (id : Nat)
    (why : Reason) : CarriesOn s (s.close half id why) := by
  rcases close_settles_cases hs half id why with hunmoved | ⟨i, key, hstream, hsettles⟩
  · exact carriesOn_of_unmoved hdriven hunmoved
  · obtain ⟨t, hprovided⟩ := (hdriven i).provided ⟨half, id, hstream⟩
    exact (hsettles t hprovided).carriesOn hprovided.1 fun j _ => hdriven j

/-! ## Peers that are left -/

/-- Closing a peer takes others away or leaves them as they are. -/
theorem peer?_close (s : Station σ) (half : Half) (id : Nat) (why : Reason) (half' : Half)
    (id' : Nat) :
    (s.close half id why).peer? half' id' = none ∨
      (s.close half id why).peer? half' id' = s.peer? half' id' := by
  have htake {s s' : Station σ} {half : Half} {id : Nat} {why : Reason} {tether : Tether Nat}
      (h : s.take half id why = some (tether, s')) :
      s'.peer? half' id' = none ∨ s'.peer? half' id' = s.peer? half' id' := by
    rcases take_cases s half id why with ⟨-, hnone⟩ | ⟨P, s'', -, htake, hloses, -⟩
    · rw [hnone] at h
      cases h
    · rw [htake] at h
      cases h
      rw [hloses.peers]
      split
      · exact .inl rfl
      · exact .inr rfl
  rw [← station_closing]
  fun_induction closing s half id why with
  | case1 s half id why h => exact .inr rfl
  | case2 s half id why s' h => exact htake h
  | case3 s half id why o s' h =>
    rw [(keeps_ownerClosed s' o).peers]
    exact htake h
  | case4 s half id why b s' h bridges s'' other partner c hr ih =>
    have hbridges : s''.peer? half' id' = s'.peer? half' id' := by cases half' <;> rfl
    rcases ih with hnone | hsame
    · exact .inl hnone
    · exact (htake h).imp (fun hnone => hsame.trans (hbridges.trans hnone))
        fun hsame' => hsame.trans (hbridges.trans hsame')
  | case5 s half id why b s' h bridges s'' o hr =>
    have hbridges : s''.peer? half' id' = s'.peer? half' id' := by cases half' <;> rfl
    rw [(keeps_ownerClosed s'' o).peers, hbridges]
    exact htake h
  | case6 s half id why b s' h released bridges hr s'' hremaining hfinished =>
    have hbridges : s''.peer? half' id' = s'.peer? half' id' := by cases half' <;> rfl
    rw [hbridges]
    exact htake h

theorem open_of_close (hs : s.Sound) {half : Half} {id : Nat} {why : Reason} {owner : Option Nat}
    (h : (s.close half id why).Open key owner) : s.Open key owner := by
  rcases close_cases hs half id why with
    ⟨-, hclose, -⟩ | ⟨key', owner', taken, -, -, -, ⟨hsevers, -⟩ | ⟨hsevers, -⟩⟩
  · rwa [hclose] at h
  · exact ((hsevers.opens key owner).1 h).2
  · exact ((hsevers.opens key owner).1 h).2

/-- A peer that is left is on the stream on which it was. -/
theorem stream?_of_close (hs : s.Sound) {half half' : Half} {id id' : Nat} {why : Reason}
    {owner : Option Nat} (h : (s.close half id why).stream? half' id' = some (key, owner)) :
    s.stream? half' id' = some (key, owner) := by
  have htether : (s.close half id why).tether? half' id' = s.tether? half' id' := by
    rcases peer?_close s half id why half' id' with hnone | hsame
    · rw [stream?, tether?, hnone] at h
      cases h
    · rw [tether?, hsame, tether?]
  have hopen := open_of_close hs ⟨half', id', h⟩
  rcases stream?_cases h with ⟨rfl, hsingle⟩ | ⟨b, B, rfl, hon, -, -⟩
  · exact stream?_ofOwner (htether.symm.trans hsingle)
  · have hon' : s.On b half' id' := htether.symm.trans hon
    obtain ⟨B', hB', -⟩ := hs.bridged b half' id' hon'
    have hstream := stream?_of_on hon' hB'
    rwa [hs.owner_unique hopen ⟨half', id', hstream⟩]

/-! ## Closing all peers of a child that has ended -/

theorem Ending.close {s₀ : Station σ} {half : Half} {id : Nat} {any : Bool}
    {rest : List (Half × Nat)} (h : Ending s₀ s i any ((half, id) :: rest)) (why : Reason) :
    Ending s₀ (s.close half id why) i (any || s.hasPeer half id) rest := by
  have hsound := (leads_close s half id why).sound h.sound
  have hgone := (failing_close h.sound half id why).2.2
  -- as long as the transport is unmoved, the peers that are left are fewer by the one that was
  -- closed
  have hending (hunmoved : Unmoved s (s.close half id why) i) :
      (∃ t key, (s.close half id why).Provided i t key ∧ ∀ half' id',
        (s.close half id why).stream? half' id' = some (key, some i) → (half', id') ∈ rest) ∨
      (any || s.hasPeer half id) = true ∧ (s.close half id why).Driven i := by
    rcases h.ending with ⟨t, key, hprovided, hrest⟩ | ⟨hany, hdriven⟩
    · refine .inl ⟨t, key, hunmoved.provided hprovided, fun half' id' hstream => ?_⟩
      refine (List.mem_cons.1 (hrest half' id' (stream?_of_close h.sound hstream))).resolve_left ?_
      rintro ⟨⟩
      rw [stream?, tether?, hgone] at hstream
      cases hstream
    · exact .inr ⟨Bool.or_eq_true_iff.2 (.inl hany), hunmoved.driven hdriven⟩
  rcases close_settles_cases h.sound half id why with hunmoved | ⟨j, key, hstream, hsettles⟩
  · exact ⟨hsound, fun j hj => (hunmoved j).transport.trans (h.absent j hj),
      fun j hj => (hunmoved j).driven (h.others j hj), hending (hunmoved i)⟩
  · by_cases hj : j = i
    · subst hj
      obtain ⟨t, hprovided⟩ : ∃ t, s.Provided j t key := by
        rcases h.ending with ⟨t, key', hprovided, -⟩ | ⟨-, hdriven⟩
        · have hkey := (hprovided.2.2.stream key).1 ⟨half, id, hstream⟩
          exact ⟨t, Option.some.inj hkey ▸ hprovided⟩
        · exact hdriven.provided ⟨half, id, hstream⟩
      have hsettles' := hsettles t hprovided
      exact ⟨hsound, fun k hk => hsettles'.absent hprovided.1 k (h.absent k hk),
        fun k hk => (hsettles'.others k hk).driven (h.others k hk),
        .inr ⟨Bool.or_eq_true_iff.2 (.inr (hasPeer_of_stream? hstream)), hsettles'.driven⟩⟩
    · obtain ⟨t, hprovided⟩ := (h.others j hj).provided ⟨half, id, hstream⟩
      have hsettles' := hsettles t hprovided
      refine ⟨hsound, fun k hk => hsettles'.absent hprovided.1 k (h.absent k hk), fun k hk => ?_,
        hending (hsettles'.others i fun hi => hj hi.symm)⟩
      by_cases hkj : k = j
      · exact hkj ▸ hsettles'.driven
      · exact (hsettles'.others k hkj).driven (h.others k hk)

/-- Close peers one after the other, and note whether any was there. -/
def closeEach (s : Station σ) (any : Bool) (peers : List (Half × Nat)) (why : Reason) :
    Bool × Station σ :=
  peers.foldl (fun (any, s) (half, id) => (any || s.hasPeer half id, s.close half id why)) (any, s)

/-- What closing a list of peers does: each is closed, and it is known whether any was there. -/
theorem ending_closeEach {s₀ : Station σ} {any : Bool} {rest : List (Half × Nat)}
    (h : Ending s₀ s i any rest) (why : Reason) :
    Ending s₀ (s.closeEach any rest why).2 i (s.closeEach any rest why).1 [] := by
  induction rest generalizing any s with
  | nil => exact h
  | cons peer rest ih => exact ih (h.close why)

/-- **When all peers of a transport are closed, it has been told**, if it waited for that. -/
theorem carriesOn_closeOwned (hs : s.Sound) (hothers : ∀ j ≠ i, s.Driven j)
    (hprovided : s.Provided i t key) (why : Reason) :
    (s.closeOwned i why).1 = true ∧ CarriesOn s (s.closeOwned i why).2 := by
  have hbegin : Ending s s i false (s.owned i) :=
    ⟨hs, fun _ hj => hj, hothers, .inl ⟨t, key, hprovided, fun _ _ => mem_owned⟩⟩
  have hend : Ending s (s.closeOwned i why).2 i (s.closeOwned i why).1 [] :=
    ending_closeEach hbegin why
  obtain ⟨hany, hdriven⟩ : (s.closeOwned i why).1 = true ∧ (s.closeOwned i why).2.Driven i := by
    rcases hend.ending with ⟨t, key, hprovided, hnone⟩ | hend
    · obtain ⟨half, id, hstream⟩ := (hprovided.2.2.stream key).2 rfl
      cases hnone half id hstream
    · exact hend
  refine ⟨hany, fun j => ?_, hend.absent⟩
  by_cases hj : j = i
  · exact hj ▸ hdriven
  · exact hend.others j hj

/-! ## Reaping -/

/-- **When a child is looked at**, all transports are driven afterwards. -/
theorem carriesOn_reapChild (hs : s.Sound) (hothers : ∀ j ≠ i, s.Driven j) (hi : s.Lookable i) :
    CarriesOn s (s.reapChild i) := by
  unfold reapChild
  split
  · rename_i role attempt command child messages ht
    have hdriven (j : Nat) : s.Driven j := by
      by_cases hj : j = i
      · refine hj ▸ hi.driven fun t ht' => ?_
        rw [ht] at ht'
        cases ht'
        nofun
      · exact hothers j hj
    have hended := still_hasEnded s child
    have haside := aside_hasEnded s child
    rcases hresult : s.hasEnded child with ⟨ended, s'⟩
    rw [hresult] at hended haside
    simp only
    have hcalm := carriesOn_of_unmoved hdriven hended.unmoved
    split
    · have ht' := (hended.unmoved i).transport.trans ht
      have hleaves := leaves_setChildPhase s' i .idle
      have hidle : s'.setChildPhase i .idle =
          s'.setTransport i ⟨role, attempt, .child command .idle messages⟩ := by
        rw [setChildPhase, ht']
      obtain ⟨d, ⟨key, rfl⟩, hd⟩ := (hcalm.driven i).exists_has ht'
      have hprovided : (s'.setChildPhase i .idle).Provided i
          ⟨role, attempt, .child command .idle messages⟩ key := by
        rw [hidle]
        exact ⟨by rw [transport?_setTransport, if_pos rfl], .inr (.inr ⟨command, messages, rfl⟩),
          hd.setTransport i _⟩
      have hsound := (keeps_setChildPhase s' i .idle).sound (haside.keeps.sound hs)
      obtain ⟨hany, hcarries⟩ := carriesOn_closeOwned hsound
        (fun j hj => (hleaves j hj).driven (hcalm.driven j)) hprovided .childEnded
      rw [if_pos hany]
      refine ⟨hcarries.driven, fun j hj => hcarries.absent j ?_⟩
      refine (hleaves j fun heq => ?_).transport.trans (hcalm.absent j hj)
      rw [heq, ht] at hj
      cases hj
    · exact hcalm
  · rename_i role attempt command child polls messages ht
    have hstranded := hi.stranded ht rfl
    have hended := still_hasEnded s child
    rcases hresult : s.hasEnded child with ⟨ended, s'⟩
    rw [hresult] at hended
    simp only
    refine Settles.carriesOn (hended.settles ?_) ht hothers
    have hstranded' := hended.stranded hstranded
    split
    · exact settles_retryLater hstranded' nofun
    · split
      · have hkill := still_withHost s' (Host.kill child s'.host)
        exact hkill.settles (settles_stopping (hkill.stranded hstranded') child (polls + 1))
      · exact settles_stopping hstranded' child (polls + 1)
  · rename_i hrunning hstopping
    refine carriesOn_of_unmoved (fun j => ?_) fun j => .refl s j
    by_cases hj : j = i
    · refine hj ▸ hi.driven fun t ht hstatus => ?_
      obtain ⟨role, attempt, mechanism⟩ := t
      obtain ⟨command, child, polls, messages, rfl⟩ := status_eq_stopping hstatus
      exact hstopping _ _ _ _ _ _ ht
    · exact hothers j hj

/-- **When some child has ended**, all of them are looked at. -/
theorem carriesOn_reapAll (hs : s.Sound) (hdriven : ∀ j, s.Driven j) : CarriesOn s s.reapAll := by
  unfold reapAll
  generalize s.state.transports.keys = keys
  induction keys generalizing s with
  | nil => exact carriesOn_of_unmoved hdriven fun j => .refl s j
  | cons i keys ih =>
    have hreap := carriesOn_reapChild hs (fun j _ => hdriven j) (.inl (hdriven i))
    exact hreap.trans (ih ((leads_reapChild s i).sound hs) hreap.driven)

end Squitter.Station
