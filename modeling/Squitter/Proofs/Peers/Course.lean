import Squitter.Proofs.Peers.Accounts
import Squitter.Proofs.Peers.Attaching
import Squitter.Proofs.Peers.Closing

/-!
# The course of a station

A **course** (`Station.Course`) leads from one state of a station to another and lists what
happened on the way: which streams were attached, which peers were closed, and which owners were
told that their streams are gone. Its steps are the ways in which the bus changes its peers, and
changes that leave the peers alone. No closing can pass for such a change, since the user is told
of each (`reasons_course`).

**The result** (`accounted_course`). Over every course of a station that began without endpoints,
each stream with an owner is open from when it was attached until its owner was told, and the owner
was told exactly once for each stream that is not open any more.

What carries this over the steps is that a stream is attached under a key that was never in use
(`Gets.fresh`), and that closing tells an owner exactly if it takes the last peer of a stream away
(`close_cases`).
-/

namespace Squitter.Station

variable {σ : Type}

/-! ## Failed senders -/

/-- All failed senders are among the failures that were not yet reported. -/
def Flagged (s : Station σ) : Prop := ∀ id, s.Failing id → id ∈ s.state.fanout.failures

/-- No sender has failed, and no failure waits to be reported. -/
def Settled (s : Station σ) : Prop := s.state.fanout.failures = [] ∧ ∀ id, ¬ s.Failing id

theorem settled_fresh (settings : Settings) (server : Server) (host : σ) :
    (fresh settings server host).Settled :=
  ⟨rfl, fun _ ⟨_, h, _⟩ => by cases h⟩

/-- Whoever is not there has not failed. -/
theorem not_failing_of_none {s : Station σ} {id : Nat} (h : s.peer? .send id = none) :
    ¬ s.Failing id := by
  rintro ⟨p, hp, -⟩
  rw [peer?, hp] at h
  cases h

/-- Take the failures that were not yet reported off the list. -/
def takeFailures (s : Station σ) : Station σ :=
  s.withBus fun b => { b with fanout := b.fanout.takeFailures.2 }

theorem steady_takeFailures (s : Station σ) : Steady s s.takeFailures :=
  .of_bus rfl rfl rfl (Nat.le_refl _) rfl rfl

variable [Host σ]

/-! ## Steps -/

/-- Peers are taken away. -/
def departures (taken : List (Half × Nat × Reason)) : List Happening :=
  taken.map fun t => .closed t.1 t.2.1 t.2.2

/-- What happens when a peer is closed: peers are taken away, and then the
owner of the stream is told. -/
def report (s : Station σ) (half : Half) (id : Nat) (why : Reason) : List Happening :=
  departures (s.closing half id why).taken ++
    match s.stream? half id, (s.closing half id why).told with
    | some (key, _), some o => [.told key o]
    | _, _ => []

/-- One step of a course, with what happens in it. -/
inductive Step : Station σ → List Happening → Station σ → Prop
  | quiet {s s' : Station σ} (h : Keeps s s') : Step s [] s'
  | reported (s : Station σ) : Step s [] s.takeFailures
  | relayed {s s' : Station σ} (h : Steady s s')
      (htransports : s'.state.transports = s.state.transports) (hflagged : s.Flagged → s'.Flagged) :
      Step s [.relayed] s'
  | gaveUp (s : Station σ) (id : Nat) : Step s [.gaveUp id] (s.ownerClosed id)
  | attached {s s' : Station σ} {stream : Stream} {role : Role} {owner : Option Nat}
      (h : s.attach stream role owner = (.ok (), s')) :
      Step s [.attached (s.newKey role) owner] s'
  | closed (s : Station σ) (half : Half) (id : Nat) (why : Reason) :
      Step s (s.report half id why) (s.close half id why)

/-- Steps one after the other, with what happened in them, the earliest first. -/
inductive Course : Station σ → List Happening → Station σ → Prop
  | refl (s : Station σ) : Course s [] s
  | step {s s' s'' : Station σ} {hs hs' : List Happening} (h : Course s hs s')
    (h' : Step s' hs' s'') :
      Course s (hs ++ hs') s''

variable {s s' s'' : Station σ} {hs hs' : List Happening}

theorem Course.trans (h : Course s hs s') (h' : Course s' hs' s'') : Course s (hs ++ hs') s'' := by
  induction h' with
  | refl => rwa [List.append_nil]
  | step _ hstep ih =>
    rw [← List.append_assoc]
    exact ih.step hstep

theorem Step.course (h : Step s hs s') : Course s hs s' := (Course.refl s).step h

/-! ## What one step does to the streams -/

theorem mem_departures {taken : List (Half × Nat × Reason)} {x : Happening}
    (hx : x ∈ departures taken) : ∃ half id why, x = .closed half id why := by
  obtain ⟨t, -, rfl⟩ := List.mem_map.1 hx
  exact ⟨t.1, t.2.1, t.2.2, rfl⟩

theorem silent_departures (taken : List (Half × Nat × Reason)) : Silent (departures taken) where
  attached key owner hx := by
    obtain ⟨half, id, why, ⟨⟩⟩ := mem_departures hx
  told key o hx := by
    obtain ⟨half, id, why, ⟨⟩⟩ := mem_departures hx

theorem filterMap_departures (taken : List (Half × Nat × Reason)) :
    (departures taken).filterMap Happening.closed? = taken.map (·.2.2) := by
  rw [departures, List.filterMap_map, ← List.filterMap_eq_map]
  rfl

/-- **All that closing a peer can do**, with what happens in it. -/
theorem close_cases (h : s.Sound) (half : Half) (id : Nat) (why : Reason) :
    (s.peer? half id = none ∧ s.close half id why = s ∧ s.report half id why = []) ∨
    ∃ key owner taken, s.stream? half id = some (key, owner) ∧
      (s.close half id why).peer? half id = none ∧ Tells s (s.close half id why) taken ∧
      ((Severs s (s.close half id why) none ∧ s.report half id why = departures taken) ∨
        (Severs s (s.close half id why) (some key) ∧
          s.report half id why = departures taken ++ owner.toList.map (.told key))) := by
  have hclose := station_closing s half id why
  rcases closing_cases h half id why with ⟨hnone, h'⟩ |
    ⟨key, owner, s', taken, hstream, hgone, htells, ⟨hsevers, h'⟩ | ⟨hsevers, calls, -, h'⟩⟩
  · rw [h'] at hclose
    have hreport : s.report half id why = [] := by
      rw [report, h']
      split
      · rename_i htold
        cases htold
      · rfl
    exact .inl ⟨hnone, hclose.symm, hreport⟩
  · rw [h'] at hclose
    obtain rfl : s' = s.close half id why := hclose
    refine .inr ⟨key, owner, taken, hstream, hgone, htells, .inl ⟨hsevers, ?_⟩⟩
    rw [report, hstream, h']
    exact List.append_nil _
  · rw [h'] at hclose
    have hnotify := keeps_notify s' owner
    have hsame : s'.notify owner = s.close half id why := hclose
    rw [hsame] at hnotify
    refine .inr ⟨key, owner, taken, hstream, (hnotify.peers half id).trans hgone,
      hnotify.reasons.trans htells, .inr ⟨hsevers.keeps hnotify, ?_⟩⟩
    rw [report, hstream, h']
    cases owner <;> rfl

/-- **All that a step can do to the streams** of a sound station: nothing, or one stream is
attached, or one stream ends and its owner is told. -/
theorem Step.cases (h : Step s hs s') (hsound : s.Sound) :
    s'.Sound ∧ s.state.nextId ≤ s'.state.nextId ∧ s.state.bridges.next ≤ s'.state.bridges.next ∧
    s'.reasons = s.reasons ++ hs.filterMap Happening.closed? ∧
    ((Silent hs ∧ ∀ key owner, s'.Open key owner ↔ s.Open key owner) ∨
      (∃ key owner, hs = [.attached key owner] ∧ Gets s s' key owner) ∨
      ∃ key owner taken, hs = departures taken ++ owner.toList.map (.told key) ∧ s.Open key owner ∧
        Severs s s' (some key)) := by
  have hquiet : s.reasons = s.reasons ++ [] := (List.append_nil _).symm
  cases h with
  | quiet h =>
    exact ⟨h.sound hsound, h.nextId, h.nextBridge, h.reasons.trans hquiet,
      .inl ⟨silent_nil, h.open_iff⟩⟩
  | reported =>
    have h := steady_takeFailures s
    exact ⟨h.sound hsound hsound.spare, h.nextId, h.nextBridge, h.reasons.trans hquiet,
      .inl ⟨silent_nil, h.open_iff⟩⟩
  | relayed h htransports hflagged =>
    refine ⟨h.sound hsound fun id t ht => hsound.spare id t ?_, h.nextId, h.nextBridge,
      h.reasons.trans hquiet, .inl ⟨⟨fun _ _ hmem => ?_, fun _ _ hmem => ?_⟩, h.open_iff⟩⟩
    · rwa [transport?, htransports] at ht
    · cases List.mem_singleton.1 hmem
    · cases List.mem_singleton.1 hmem
  | gaveUp id =>
    have h := keeps_ownerClosed s id
    refine ⟨h.sound hsound, h.nextId, h.nextBridge, h.reasons.trans hquiet,
      .inl ⟨⟨fun _ _ hmem => ?_, fun _ _ hmem => ?_⟩, h.open_iff⟩⟩
    · cases List.mem_singleton.1 hmem
    · cases List.mem_singleton.1 hmem
  | attached h =>
    rename_i stream role owner
    rcases attach_cases hsound stream role owner with ⟨e, s'', h', -⟩ | ⟨s'', h', hgets⟩
    · rw [h] at h'
      cases h'
    · rw [h] at h'
      cases h'
      exact ⟨hgets.sound, hgets.nextId, hgets.nextBridge, hgets.reasons.trans hquiet,
        .inr (.inl ⟨_, owner, rfl, hgets⟩)⟩
  | closed half id why =>
    rcases close_cases hsound half id why with ⟨-, hclose, hreport⟩ |
      ⟨key, owner, taken, hstream, -, htells, ⟨hsevers, hreport⟩ | ⟨hsevers, hreport⟩⟩
    · rw [hclose, hreport]
      exact ⟨hsound, Nat.le_refl _, Nat.le_refl _, hquiet, .inl ⟨silent_nil, fun _ _ => .rfl⟩⟩
    · rw [hreport]
      refine ⟨hsevers.sound, hsevers.nextId, hsevers.nextBridge, ?_,
        .inl ⟨silent_departures taken, fun k o => ?_⟩⟩
      · rw [filterMap_departures]
        exact htells
      · rw [hsevers.opens]
        exact and_iff_right (Option.some_ne_none k).symm
    · rw [hreport]
      refine ⟨hsevers.sound, hsevers.nextId, hsevers.nextBridge, ?_,
        .inr (.inr ⟨key, owner, taken, rfl, ⟨half, id, hstream⟩, hsevers⟩)⟩
      have htold : (owner.toList.map (Happening.told key)).filterMap Happening.closed? = [] := by
        cases owner <;> rfl
      rw [List.filterMap_append, filterMap_departures, htold, List.append_nil]
      exact htells

theorem Course.sound (h : Course s hs s') (hsound : s.Sound) : s'.Sound := by
  induction h with
  | refl => exact hsound
  | step _ hstep ih => exact (hstep.cases ih).1

/-! ## Runs of steps -/

/-- **The user is told of all peers that are closed**, and of no others. -/
theorem reasons_course (h : Course s hs s') (hsound : s.Sound) :
    s'.reasons = s.reasons ++ hs.filterMap Happening.closed? := by
  induction h with
  | refl => exact (List.append_nil _).symm
  | step hcourse hstep ih =>
    obtain ⟨-, -, -, hreasons, -⟩ := hstep.cases (hcourse.sound hsound)
    rw [hreasons, ih, List.filterMap_append, List.append_assoc]

theorem Accounted.step (h : Accounted hs s) (hstep : Step s hs' s') (hsound : s.Sound) :
    Accounted (hs ++ hs') s' := by
  obtain ⟨-, hid, hnext, -, ⟨hsilent, hopen⟩ | ⟨key, owner, rfl, hgets⟩ |
    ⟨key, owner, taken, rfl, hopen, hsevers⟩⟩ := hstep.cases hsound
  · exact h.silent hsilent hid hnext hopen
  · exact h.attached hgets
  · have hgone : Accounted (hs ++ departures taken) s :=
      h.silent (silent_departures taken) (Nat.le_refl _) (Nat.le_refl _) fun _ _ => .rfl
    rw [← List.append_assoc]
    exact hgone.ended hopen hsevers

/-- **Owners are told once of each stream**, when it ends, over every course from the beginning. -/
theorem accounted_course {settings : Settings} {server : Server} {host : σ}
    (h : Course (fresh settings server host) hs s) : Accounted hs s := by
  induction h with
  | refl => exact accounted_fresh settings server host
  | step hcourse hstep ih => exact ih.step hstep (hcourse.sound (sound_fresh settings server host))

end Squitter.Station
