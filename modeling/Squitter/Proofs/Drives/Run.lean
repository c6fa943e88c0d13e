import Mathlib.Logic.ExistsUnique
import Squitter.Proofs.Drives.Reaping
import Squitter.Proofs.Peers.Ownership

/-!
# Exactly one thing drives a transport

Each act of a bus (`Station.Act`) leaves all transports driven (`carriesOn_act`): what is ready or
due belongs to one transport, which is settled again before the act ends. A retry that is due
strands its transport, so the attempt that it makes is the only one; and a listener, a lookup or a
connection is watched under the one token that its transport remembers.

**The result** (`uniquely_driven_run`). After every run of acts, a transport is idle exactly if one
retry is pending for it, something is registered for it exactly under the token that it remembers,
and it has one open stream exactly if it is connected or its child runs. So none is stuck, and none
is opened, connected or spawned twice at once.
-/

namespace Squitter

/-! ## What a status wants -/

namespace Status.Wants

open Station

variable {status : Status} {messages : Option Nat} {d : Drive}

theorem retries_eq (h : status.Wants messages d) (hfile : ∀ reopens, status ≠ .file reopens) :
    d.retries = if status = .idle then 1 else 0 := by
  cases status with
  | idle => exact h ▸ rfl
  | watching token => exact h ▸ rfl
  | streaming =>
    obtain ⟨key, rfl⟩ := h
    rfl
  | stopping => exact h ▸ rfl
  | file reopens => exact absurd rfl (hfile reopens)

theorem watch_iff (h : status.Wants messages d) (token : Nat) :
    d.watch = some token ↔ status = .watching token := by
  cases status with
  | idle =>
    cases h
    exact ⟨nofun, nofun⟩
  | watching token' =>
    cases h
    exact ⟨fun heq => by rw [Option.some.inj heq], fun heq => by rw [Status.watching.inj heq]; rfl⟩
  | streaming =>
    obtain ⟨key, rfl⟩ := h
    exact ⟨nofun, nofun⟩
  | stopping =>
    cases h
    exact ⟨nofun, nofun⟩
  | file reopens => rcases h with ⟨key, rfl⟩ | ⟨-, rfl⟩ <;> exact ⟨nofun, nofun⟩

theorem stream_iff (h : status.Wants messages d) (hfile : ∀ reopens, status ≠ .file reopens) :
    status = .streaming ↔ ∃ key, d.stream = some key := by
  cases status with
  | idle =>
    cases h
    exact ⟨nofun, nofun⟩
  | watching token =>
    cases h
    exact ⟨nofun, nofun⟩
  | streaming =>
    obtain ⟨key, rfl⟩ := h
    exact ⟨fun _ => ⟨key, rfl⟩, fun _ => rfl⟩
  | stopping =>
    cases h
    exact ⟨nofun, nofun⟩
  | file reopens => exact absurd rfl (hfile reopens)

theorem looks_iff (h : status.Wants messages d) : d.looks = true ↔ status = .stopping := by
  cases status with
  | idle =>
    cases h
    exact ⟨nofun, nofun⟩
  | watching token =>
    cases h
    exact ⟨nofun, nofun⟩
  | streaming =>
    obtain ⟨key, rfl⟩ := h
    exact ⟨nofun, nofun⟩
  | stopping =>
    cases h
    exact ⟨fun _ => rfl, fun _ => rfl⟩
  | file reopens => rcases h with ⟨key, rfl⟩ | ⟨-, rfl⟩ <;> exact ⟨nofun, nofun⟩

/-- If a retry is pending, nothing else is. -/
theorem eq_retrying (h : status.Wants messages d) (hretries : d.retries ≠ 0) :
    d = .retrying messages ∧ (status = .idle ∨ ∃ reopens, status = .file reopens) := by
  cases status with
  | idle => exact ⟨h, .inl rfl⟩
  | watching token =>
    cases h
    exact absurd rfl hretries
  | streaming =>
    obtain ⟨key, rfl⟩ := h
    exact absurd rfl hretries
  | stopping =>
    cases h
    exact absurd rfl hretries
  | file reopens =>
    rcases h with ⟨key, rfl⟩ | ⟨-, rfl⟩
    · exact absurd rfl hretries
    · exact ⟨rfl, .inr ⟨reopens, rfl⟩⟩

end Status.Wants

namespace Station

variable {σ : Type} {s s' s'' : Station σ} {i : Nat} {d : Drive} {t : Transport}

/-! ## What the drives say -/

/-- Between callbacks, exactly one thing drives each transport. -/
structure UniquelyDriven (s : Station σ) : Prop where
  /-- A connection, a listener or a child is idle exactly if one retry is
  pending, and else none is. -/
  idle : ∀ i t, s.transport? i = some t → (∀ reopens, t.mechanism.status ≠ .file reopens) →
    (t.mechanism.status = .idle ↔ s.reactor.timers.pending (.retry i) = 1) ∧
      (t.mechanism.status ≠ .idle → s.reactor.timers.pending (.retry i) = 0)
  /-- While a host is looked up, a connection is being made or a listener listens, there is exactly
  one registration under the route of the transport, and else there is none. -/
  registered : ∀ i t token, s.transport? i = some t →
    (s.reactor.route? token = some (.transport i) ↔ t.mechanism.status = .watching token)
  /-- A connection is there, or a child runs, exactly if one stream is open for it. -/
  streaming : ∀ i t, s.transport? i = some t → (∀ reopens, t.mechanism.status ≠ .file reopens) →
    (t.mechanism.status = .streaming ↔ ∃! key, s.Open key (some i))
  /-- No transport has two streams. -/
  single : ∀ i key key', s.Open key (some i) → s.Open key' (some i) → key = key'
  /-- A file that is opened again has one retry pending exactly if no stream of it is open, and else
  none is pending. -/
  file : ∀ i t, s.transport? i = some t → t.mechanism.status = .file true →
    (s.reactor.timers.pending (.retry i) = 1 ↔ ∀ key, ¬ s.Open key (some i)) ∧
      ((∃ key, s.Open key (some i)) → s.reactor.timers.pending (.retry i) = 0)
  /-- A file that is not opened again is there as long as its stream is open. -/
  lastFile : ∀ i t, s.transport? i = some t → t.mechanism.status = .file false →
    s.reactor.timers.pending (.retry i) = 0 ∧ ∃ key, s.Open key (some i)
  /-- A child that was asked to end is looked at. -/
  stopping : ∀ i t, s.transport? i = some t → t.mechanism.status = .stopping →
    0 < s.reactor.timers.pending (.reap i)
  /-- Nothing is left of a transport that is gone. -/
  gone : ∀ i, s.transport? i = none → s.reactor.timers.pending (.retry i) = 0 ∧
    ∀ token, s.reactor.route? token ≠ some (.transport i) ∧
      s.reactor.route? token ≠ some (.messages i) ∧ ∀ key, ¬ s.Open key (some i)

/-- A stream that drives a transport is the only one that is open for it. -/
theorem Has.existsUnique_open (h : s.Has i d) :
    (∃! key, s.Open key (some i)) ↔ ∃ key, d.stream = some key := by
  constructor
  · rintro ⟨key, hopen, -⟩
    exact ⟨key, (h.stream key).1 hopen⟩
  · rintro ⟨key, hkey⟩
    exact ⟨key, (h.stream key).2 hkey, fun key' hopen =>
      Option.some.inj (((h.stream key').1 hopen).symm.trans hkey)⟩

/-- **Transports that are driven are uniquely driven.** -/
theorem uniquelyDriven (h : ∀ i, s.Driven i) : s.UniquelyDriven where
  idle i t ht hfile := by
    obtain ⟨d, hwants, hd⟩ := (h i).exists_has ht
    rw [hd.retries, hwants.retries_eq hfile]
    by_cases hidle : t.mechanism.status = .idle
    · rw [if_pos hidle]
      exact ⟨⟨fun _ => rfl, fun _ => hidle⟩, fun hne => absurd hidle hne⟩
    · rw [if_neg hidle]
      exact ⟨⟨fun heq => absurd heq hidle, nofun⟩, fun _ => rfl⟩
  registered i t token ht := by
    obtain ⟨d, hwants, hd⟩ := (h i).exists_has ht
    exact (hd.watch token).trans (hwants.watch_iff token)
  streaming i t ht hfile := by
    obtain ⟨d, hwants, hd⟩ := (h i).exists_has ht
    exact (hwants.stream_iff hfile).trans hd.existsUnique_open.symm
  single i key key' hopen hopen' := by
    obtain ⟨t, -, -, hd⟩ := (h i).provided hopen
    exact Option.some.inj ((hd.stream key').1 hopen')
  file i t ht hstatus := by
    obtain ⟨d, hwants, hd⟩ := (h i).exists_has ht
    rw [hstatus] at hwants
    rw [hd.retries]
    rcases hwants with ⟨key, rfl⟩ | ⟨-, rfl⟩
    · exact ⟨⟨nofun, fun hnone => absurd ((hd.stream key).2 rfl) (hnone key)⟩, fun _ => rfl⟩
    · exact ⟨⟨fun _ key hopen => (by cases (hd.stream key).1 hopen), fun _ => rfl⟩,
        fun ⟨key, hopen⟩ => (by cases (hd.stream key).1 hopen)⟩
  lastFile i t ht hstatus := by
    obtain ⟨d, hwants, hd⟩ := (h i).exists_has ht
    rw [hstatus] at hwants
    rw [hd.retries]
    rcases hwants with ⟨key, rfl⟩ | ⟨hreopens, -⟩
    · exact ⟨rfl, key, (hd.stream key).2 rfl⟩
    · cases hreopens
  stopping i t ht hstatus := by
    obtain ⟨d, hwants, hd⟩ := (h i).exists_has ht
    rw [hstatus] at hwants
    cases hwants
    exact hd.looks rfl
  gone i hnone := by
    have hd := (h i).has_still hnone
    refine ⟨hd.retries, fun token => ⟨fun hroute => ?_, fun hroute => ?_, fun key hopen => ?_⟩⟩
    · cases (hd.watch token).1 hroute
    · cases (hd.messages token).1 hroute
    · cases (hd.stream key).1 hopen

/-! ## Work that is due -/

/-- Other work is pending. -/
def withTimers (s : Station σ) (timers : Timers Work) : Station σ :=
  { s with reactor := { s.reactor with timers } }

section

variable {now : Nat} {work : Work} {timers : Timers Work}

theorem unmoved_popped (h : s.reactor.timers.pop? now = some (work, timers)) {j : Nat}
    (hretry : work ≠ .retry j) (hreap : work ≠ .reap j) :
    Unmoved s (s.withTimers timers) j := by
  refine ⟨rfl, fun d hd => ⟨?_, hd.watch, hd.messages, hd.stream, fun hlooks => ?_⟩⟩
  · have hpending := s.reactor.timers.pending_of_pop? h (.retry j)
    rw [if_neg hretry] at hpending
    exact hpending.symm.trans hd.retries
  · have hpending := s.reactor.timers.pending_of_pop? h (.reap j)
    rw [if_neg hreap] at hpending
    exact Nat.lt_of_lt_of_eq (hd.looks hlooks) hpending

/-- **A retry that is due was the only thing that drove its transport.** -/
theorem stranded_popped (h : s.reactor.timers.pop? now = some (.retry i, timers))
    (hs : s.Driven i) :
    ∃ t, (s.withTimers timers).Stranded i t ∧
      (t.mechanism.status = .idle ∨ ∃ reopens, t.mechanism.status = .file reopens) := by
  have hpending := s.reactor.timers.pending_of_pop? h (.retry i)
  rw [if_pos rfl] at hpending
  cases ht : s.transport? i with
  | none =>
    have hnone := (hs.has_still ht).retries
    rw [hpending] at hnone
    cases hnone
  | some t =>
    obtain ⟨d, hwants, hd⟩ := hs.exists_has ht
    have hretries := hd.retries
    rw [hpending] at hretries
    obtain ⟨rfl, hstatus⟩ := hwants.eq_retrying (hretries ▸ Nat.succ_ne_zero _)
    refine ⟨t, ⟨ht, Nat.succ.inj hretries, hd.watch, hd.messages, hd.stream, nofun⟩, hstatus⟩

theorem lookable_popped (h : s.reactor.timers.pop? now = some (.reap i, timers))
    (hs : s.Driven i) : (s.withTimers timers).Lookable i := by
  have hpending := s.reactor.timers.pending_of_pop? h (.retry i)
  rw [if_neg (by rintro ⟨⟩)] at hpending
  have hhas (d : Drive) (hd : s.Has i d) :
      (s.withTimers timers).Has i { d with looks := false } :=
    ⟨hpending.symm.trans hd.retries, hd.watch, hd.messages, hd.stream, nofun⟩
  cases ht : s.transport? i with
  | none =>
    refine .inl ?_
    have hnone : (s.withTimers timers).transport? i = none := ht
    rw [Driven, hnone]
    exact hhas _ (hs.has_still ht)
  | some t =>
    obtain ⟨d, hwants, hd⟩ := hs.exists_has ht
    by_cases hstatus : t.mechanism.status = .stopping
    · rw [hstatus] at hwants
      cases hwants
      exact .inr ⟨t, hstatus, ht, hhas _ hd⟩
    · have hlooks : d.looks = false :=
        Bool.eq_false_iff.2 fun hlooks => hstatus (hwants.looks_iff.1 hlooks)
      have hd' := hhas d hd
      rw [← hlooks] at hd'
      exact .inl (driven_of_wants ht hwants hd')

end

/-! ## Attempts -/

variable [Host σ]

/-- **An attempt** settles a transport that nothing drives. -/
theorem settles_start (hs : s.Sound) (h : s.Stranded i t)
    (hstatus : t.mechanism.status = .idle ∨ ∃ reopens, t.mechanism.status = .file reopens) :
    Settles s (s.start i) i := by
  obtain ⟨role, attempt, mechanism⟩ := t
  unfold start
  rw [h.transport]
  cases mechanism with
  | outgoing host port phase =>
    cases phase with
    | idle => exact settles_resolveOutgoing hs h host port
    | _ => rcases hstatus with hstatus | ⟨reopens, hstatus⟩ <;> cases hstatus
  | incoming host port phase =>
    cases phase with
    | idle => exact settles_resolveIncoming hs h host port
    | _ => rcases hstatus with hstatus | ⟨reopens, hstatus⟩ <;> cases hstatus
  | child command phase messages =>
    cases phase with
    | idle => exact settles_spawnChild hs h
    | _ => rcases hstatus with hstatus | ⟨reopens, hstatus⟩ <;> cases hstatus
  | file source reopens => exact settles_openFile hs h

/-! ## What is ready -/

theorem carriesOn_transportReady (hs : s.Sound) (h : ∀ j, s.Driven j) (i : Nat) :
    CarriesOn s (s.transportReady i) := by
  unfold transportReady
  split
  · rename_i ht
    exact (settles_outgoingReady hs (h i) ht).carriesOn ht fun j _ => h j
  · rename_i ht
    exact (settles_incomingReady hs (h i) ht).carriesOn ht fun j _ => h j
  · exact carriesOn_of_unmoved h fun j => .refl s j

theorem carriesOn_messagesReady (hs : s.Sound) (h : ∀ j, s.Driven j) (i : Nat) :
    CarriesOn s (s.messagesReady i) := by
  have hsettles := settles_messagesReady hs (h i)
  cases ht : s.transport? i with
  | some t => exact hsettles.carriesOn ht fun j _ => h j
  | none =>
    unfold messagesReady
    rw [ht]
    exact carriesOn_of_unmoved h fun j => .refl s j

theorem carriesOn_sendReady (hs : s.Sound) (h : ∀ j, s.Driven j) (id : Nat) :
    CarriesOn s (s.sendReady id) := by
  unfold sendReady
  split
  · exact carriesOn_of_unmoved h fun j => .refl s j
  · rename_i p _
    have hread := carriesOn_of_unmoved h (still_readAll s p.stream).unmoved
    have hsound := (aside_readAll s p.stream).keeps.sound hs
    rcases hresult : s.readAll p.stream with ⟨⟨bytes, _ | why⟩, s'⟩ <;> rw [hresult] at hread hsound
    · exact hread
    · exact hread.trans (carriesOn_close hsound hread.driven .send id why)

/-- Passing on what was read drives no transport. -/
theorem carriesOn_receiveReady (hs : s.Sound) (h : ∀ j, s.Driven j) (id : Nat) :
    CarriesOn s (s.receiveReady id) := by
  unfold receiveReady
  cases hr : s.state.receivers.get? id with
  | none => exact carriesOn_of_unmoved h fun j => .refl s j
  | some r =>
    have hrelayed : Still s (s.relayed id r) := (steady_relayed hr).still rfl rfl
    have hcarries := carriesOn_of_unmoved h hrelayed.unmoved
    have hsound := ((step_relayed hr).cases hs).1
    simp only
    split
    · exact hcarries.trans (carriesOn_close hsound hcarries.driven .receive id _)
    · exact hcarries

theorem carriesOn_closeFailed (hs : s.Sound) (h : ∀ j, s.Driven j) : CarriesOn s s.closeFailed := by
  have hstill : Still s s.takeFailures := (steady_takeFailures s).still rfl rfl
  have hsound : s.takeFailures.Sound := ((Step.reported s).cases hs).1
  have hcarries := carriesOn_of_unmoved h hstill.unmoved
  have hclose (ids : List Nat) {s : Station σ} (hs : s.Sound) (h : ∀ j, s.Driven j) :
      CarriesOn s (ids.foldl (fun s id => s.close .send id .writeFailed) s) := by
    induction ids generalizing s with
    | nil => exact carriesOn_of_unmoved h fun j => .refl s j
    | cons id ids ih =>
      have hfirst := carriesOn_close hs h .send id .writeFailed
      exact hfirst.trans (ih ((leads_close s .send id .writeFailed).sound hs) hfirst.driven)
  exact hcarries.trans (hclose _ hsound hcarries.driven)

/-! ## What is due -/

theorem carriesOn_wake (hs : s.Sound) (h : ∀ j, s.Driven j) (now : Nat) :
    CarriesOn s (s.wake now) := by
  unfold wake
  split
  · exact carriesOn_of_unmoved h fun j => .refl s j
  · rename_i work timers hpop
    have haside : Aside s (s.withTimers timers) :=
      .of_reactor rfl (Nat.le_refl _) (fun hb => hb) fun _ _ _ => .rfl
    have hsound := haside.keeps.sound hs
    cases work with
    | retry i =>
      have hothers (j : Nat) (hj : j ≠ i) := (unmoved_popped hpop (j := j)
        (fun heq => hj (Work.retry.inj heq).symm) (by rintro ⟨⟩)).driven (h j)
      obtain ⟨t, hstranded, hstatus⟩ := stranded_popped hpop (h i)
      have hstart := (settles_start hsound hstranded hstatus).carriesOn hstranded.transport hothers
      have hclose := carriesOn_closeFailed ((leads_start _ i).sound hsound) hstart.driven
      exact ⟨hclose.driven, fun j hj => hclose.absent j (hstart.absent j hj)⟩
    | reap i =>
      have hothers (j : Nat) (hj : j ≠ i) := (unmoved_popped hpop (j := j)
        (by rintro ⟨⟩) (fun heq => hj (Work.reap.inj heq).symm)).driven (h j)
      have hreap := carriesOn_reapChild hsound hothers (lookable_popped hpop (h i))
      have hclose := carriesOn_closeFailed ((leads_reapChild _ i).sound hsound) hreap.driven
      exact ⟨hclose.driven, fun j hj => hclose.absent j (hreap.absent j hj)⟩

/-! ## Endpoints -/

theorem Course.nextId_le {hs : List Happening} (h : Course s hs s') (hsound : s.Sound) :
    s.state.nextId ≤ s'.state.nextId := by
  induction h with
  | refl => exact Nat.le_refl _
  | step hcourse hstep ih =>
    exact Nat.le_trans ih (hstep.cases (hcourse.sound hsound)).2.1

theorem messages?_ofTarget (target : Target) : (Mechanism.ofTarget target).messages? = none := by
  cases target <;> rfl

theorem status_ofTarget (target : Target) : (Mechanism.ofTarget target).status = .idle ∨
    ∃ reopens, (Mechanism.ofTarget target).status = .file reopens := by
  cases target with
  | connect host port => exact .inl rfl
  | listen host port => exact .inl rfl
  | exec command => exact .inl rfl
  | file path mode => exact .inr ⟨true, rfl⟩
  | stdin => exact .inr ⟨false, rfl⟩
  | stdout => exact .inr ⟨false, rfl⟩

theorem tokens_ofTarget (target : Target) : (Mechanism.ofTarget target).tokens = [] := by
  cases target <;> rfl

/-- **A new transport is driven**, and the others are as they were. -/
theorem settles_addEndpoint (hs : s.Sound) (h : ∀ j, s.Driven j)
    (hnew : s.transport? s.state.nextId = none) (e : Endpoint) :
    Settles s (s.addEndpoint e) s.state.nextId ∧
      s.state.nextId < (s.addEndpoint e).state.nextId := by
  let flow := s.state.flow.add e.role
  have hstill : Still s (s.takeId.2.withBus fun b => { b with flow }) :=
    (still_takeId s).trans (still_withFlow s.takeId.2 flow)
  have haside := (aside_takeId s).trans (aside_withFlow s.takeId.2 flow)
  have hset (s' : Station σ) : Keeps s' (s'.setTransport s.state.nextId (.ofEndpoint e)) :=
    keeps_setTransport fun _ token htoken => by
      rw [Transport.ofEndpoint, tokens_ofTarget] at htoken
      cases htoken
  have hsound := (haside.keeps.trans (hset _)).sound hs
  have hleaves := (hstill.leaves s.state.nextId).trans
    (leaves_setTransport _ s.state.nextId (.ofEndpoint e))
  have hhas := ((hstill.unmoved _).has _ ((h s.state.nextId).has_still hnew)).setTransport
    s.state.nextId (.ofEndpoint e)
  rw [← messages?_ofTarget e.target] at hhas
  have hstranded : Stranded _ s.state.nextId (.ofEndpoint e) :=
    ⟨by rw [transport?_setTransport, if_pos rfl], hhas⟩
  refine ⟨hleaves.settles (settles_start hsound hstranded (status_ofTarget e.target)), ?_⟩
  obtain ⟨_, hcourse, -⟩ := leads_start _ s.state.nextId hsound
  exact hcourse.nextId_le hsound

/-! ## Acts and runs -/

/-- All that holds between callbacks. -/
structure Steered (s : Station σ) : Prop where
  sound : s.Sound
  settled : s.Settled
  driven : ∀ j, s.Driven j
  numbered : ∀ j, s.state.nextId ≤ j → s.transport? j = none

omit [Host σ] in
theorem steered_fresh (settings : Settings) (server : Server) (host : σ) :
    (fresh settings server host).Steered where
  sound := sound_fresh settings server host
  settled := settled_fresh settings server host
  driven _ := by
    refine ⟨rfl, fun _ => ⟨nofun, nofun⟩, fun _ => ⟨nofun, nofun⟩, fun key => ⟨?_, nofun⟩, nofun⟩
    rintro ⟨half, id, hstream⟩
    cases half <;> cases hstream
  numbered _ _ := rfl

theorem Steered.act (h : s.Steered) (a : Act σ) : (s.act a).Steered := by
  obtain ⟨hs, hcourse, hsettled⟩ := course_act h.sound h.settled a
  have hnextId := hcourse.nextId_le h.sound
  have hcarries (hcarries : CarriesOn s (s.act a)) : (s.act a).Steered :=
    ⟨hcourse.sound h.sound, hsettled, hcarries.driven, fun j hj =>
      hcarries.absent j (h.numbered j (Nat.le_trans hnextId hj))⟩
  have hclosed {s' : Station σ} (hleads : Leads s s') (hcarries : CarriesOn s s') :
      CarriesOn s s'.closeFailed :=
    hcarries.trans (carriesOn_closeFailed (hleads.sound h.sound) hcarries.driven)
  have hstill {s' : Station σ} (hstill : Still s s') : CarriesOn s s' :=
    carriesOn_of_unmoved h.driven hstill.unmoved
  cases a with
  | endpoint e =>
    obtain ⟨hsettles, hlt⟩ :=
      settles_addEndpoint h.sound h.driven (h.numbered _ (Nat.le_refl _)) e
    refine ⟨hcourse.sound h.sound, hsettled, fun j => ?_, fun j hj => ?_⟩
    · by_cases hj : j = s.state.nextId
      · exact hj ▸ hsettles.driven
      · exact (hsettles.others j hj).driven (h.driven j)
    · have hlt' := Nat.lt_of_lt_of_le hlt hj
      exact (hsettles.others j (Nat.ne_of_gt hlt')).transport.trans
        (h.numbered j (Nat.le_of_lt hlt'))
  | ready route =>
    refine hcarries ?_
    cases route with
    | transport id =>
      exact hclosed (leads_transportReady s id) (carriesOn_transportReady h.sound h.driven id)
    | messages id =>
      exact hclosed (leads_messagesReady s id) (carriesOn_messagesReady h.sound h.driven id)
    | send id => exact hclosed (leads_sendReady s id) (carriesOn_sendReady h.sound h.driven id)
    | receive id =>
      have hready := carriesOn_receiveReady h.sound h.driven id
      obtain ⟨hs', hcourse', -⟩ := flagged_receiveReady h.sound
        (fun i hi => absurd hi (h.settled.2 i)) id
      exact hready.trans (carriesOn_closeFailed (hcourse'.sound h.sound) hready.driven)
  | due now => exact hcarries (carriesOn_wake h.sound h.driven now)
  | signal signal =>
    refine hcarries ?_
    cases signal with
    | interrupt => exact hstill (.of_reactor rfl rfl fun _ => rfl)
    | terminate => exact hstill (.of_reactor rfl rfl fun _ => rfl)
    | child => exact hclosed (leads_reapAll s) (carriesOn_reapAll h.sound h.driven)
  | elapse host => exact hcarries (hstill (still_withHost s host))

theorem Steered.run (h : s.Steered) (acts : List (Act σ)) : (s.run acts).Steered := by
  induction acts generalizing s with
  | nil => exact h
  | cons a acts ih => exact ih (h.act a)

/-- **Exactly one thing drives each transport** after every run of acts. -/
theorem uniquely_driven_run (settings : Settings) (server : Server) (host : σ)
    (acts : List (Act σ)) : ((fresh settings server host).run acts).UniquelyDriven :=
  uniquelyDriven ((steered_fresh settings server host).run acts).driven

end Station
end Squitter
