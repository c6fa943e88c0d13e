import Squitter.Machine.Interfaces
import Squitter.Proofs.Peers.Transports
import Squitter.Session

/-!
# Who owns the peers

A bus is used by **acts** (`Station.Act`): endpoints are added, watched streams become ready, work
is due, signals come, and all the while the computer changes. A turn of the reactor is a run of acts
(`reaches_turn`), and so is a session (`reaches_work`).

**The result** (`owned_run`). After every run of acts, bridges and peers belong together, all
that is watched for peers is watched under their tokens and routes, and no failed sender is
left (`Station.Owned`). The run is a course, and on every course from the beginning each stream
with an owner is accounted for: closing a peer tells the owner of its stream exactly if that
was the last one, in at most two calls (`Station.Closes`). No closing is left out of a course,
since the user is told of each.
-/

namespace Squitter.Station

variable {σ : Type}

/-! ## What holds between callbacks -/

/-- Peers belong to bridges, are watched, and have not failed. -/
structure Owned (s : Station σ) : Prop where
  /-- Of the two peers of a bridge as many are there as it holds references, and one that is coupled
  has both. -/
  held : ∀ b B, s.state.bridges.table.get? b = some B →
    (B.held = 2 ∧ s.hasPeer .send B.send = true ∧ s.hasPeer .receive B.receive = true) ∨
      (B.held = 1 ∧ B.coupled = false ∧ s.hasPeer .send B.send = !s.hasPeer .receive B.receive)
  /-- Those of the two that are there are tied to the bridge. -/
  tied : ∀ b B half, s.state.bridges.table.get? b = some B → s.hasPeer half (B.peer half) = true →
    s.tether? half (B.peer half) = some (.bridge b)
  receiverBridged : ∀ id r b, s.state.receivers.get? id = some r → r.tether = .bridge b →
    ∃ B, s.state.bridges.table.get? b = some B ∧ B.receive = id
  senderBridged : ∀ id p b, s.state.fanout.senders.get? id = some p → p.tether = .bridge b →
    ∃ B, s.state.bridges.table.get? b = some B ∧ B.send = id
  receiverWatched : ∀ id r, s.state.receivers.get? id = some r →
    s.reactor.route? r.token = some (.receive id)
  senderWatched : ∀ id p token, s.state.fanout.senders.get? id = some p → p.token = some token →
    s.reactor.route? token = some (.send id)
  receiverThere : ∀ id token, s.reactor.route? token = some (.receive id) →
    ∃ r, s.state.receivers.get? id = some r ∧ r.token = token
  senderThere : ∀ id token, s.reactor.route? token = some (.send id) →
    ∃ p, s.state.fanout.senders.get? id = some p ∧ p.token = some token
  alive : ∀ id p, s.state.fanout.senders.get? id = some p → p.failed = false
  reported : s.state.fanout.failures = []

variable {s : Station σ}

theorem On.hasPeer {b id : Nat} {half : Half} (h : s.On b half id) : s.hasPeer half id = true := by
  obtain ⟨P, hP, -⟩ := peer?_of_on h
  rw [hasPeer_eq, hP]
  rfl

theorem Joins.hasPeer {b : Nat} {B : Bridge Nat} (h : s.Joins b B) :
    (B.held = 2 ∧ s.hasPeer .send B.send = true ∧ s.hasPeer .receive B.receive = true) ∨
      (B.held = 1 ∧ B.coupled = false ∧
        s.hasPeer .send B.send = !s.hasPeer .receive B.receive) := by
  rcases h with ⟨hheld, hall⟩ | ⟨hheld, hcoupled, half, hon, hnone⟩
  · exact .inl ⟨hheld, (hall .send).hasPeer, (hall .receive).hasPeer⟩
  · have hthere := hon.hasPeer
    have hgone : s.hasPeer half.other (B.peer half.other) = false := by
      rw [hasPeer_eq, hnone]
      rfl
    refine .inr ⟨hheld, hcoupled, ?_⟩
    cases half with
    | send => exact hthere.trans (congrArg Bool.not hgone).symm
    | receive => exact hgone.trans (congrArg Bool.not hthere).symm

theorem Joins.on {b : Nat} {B : Bridge Nat} (h : s.Joins b B) {half : Half}
    (hthere : s.hasPeer half (B.peer half) = true) : s.On b half (B.peer half) := by
  rcases h with ⟨-, hall⟩ | ⟨-, -, half', hon, hnone⟩
  · exact hall half
  · by_cases heq : half = half'
    · exact heq ▸ hon
    · rw [hasPeer_eq, Half.eq_other_of_ne heq, hnone] at hthere
      cases hthere

/-- Sound and settled stations have all of it. -/
theorem Sound.owned (h : s.Sound) (hsettled : s.Settled) : s.Owned where
  held b B hB := (h.joined b B hB).hasPeer
  tied b B half hB hthere := (h.joined b B hB).on hthere
  receiverBridged id r b hr htether :=
    h.bridged b .receive id (by rw [On, tether?, peer?, hr, ← htether]; rfl)
  senderBridged id p b hp htether :=
    h.bridged b .send id (by rw [On, tether?, peer?, hp, ← htether]; rfl)
  receiverWatched id r hr :=
    (h.watched .receive id r.token).1 ⟨_, by rw [peer?, hr]; rfl, rfl⟩
  senderWatched id p token hp htoken :=
    (h.watched .send id token).1 ⟨_, by rw [peer?, hp]; rfl, htoken⟩
  receiverThere id token hroute := by
    obtain ⟨P, hP, htoken⟩ := (h.watched .receive id token).2 hroute
    obtain ⟨r, hr, rfl⟩ := Option.map_eq_some_iff.1 hP
    exact ⟨r, hr, Option.some.inj htoken⟩
  senderThere id token hroute := by
    obtain ⟨P, hP, htoken⟩ := (h.watched .send id token).2 hroute
    obtain ⟨p, hp, rfl⟩ := Option.map_eq_some_iff.1 hP
    exact ⟨p, hp, htoken⟩
  alive id p hp := by
    cases hfailed : p.failed with
    | false => rfl
    | true => exact absurd ⟨p, hp, hfailed⟩ (hsettled.2 id)
  reported := hsettled.1

variable [Host σ]

/-- Closing a peer ends after at most two calls, and tells the owner of its stream exactly if that
was the last peer on it. -/
structure Closes (s : Station σ) (half : Half) (id : Nat) (why : Reason) : Prop where
  station : (s.closing half id why).station = s.close half id why
  calls : (s.closing half id why).calls ≤ 2
  told : ∀ o, (s.closing half id why).told = some o ↔
    ∃ key, s.stream? half id = some (key, some o) ∧ ¬ (s.close half id why).Open key (some o)

theorem Sound.closes (h : s.Sound) (half : Half) (id : Nat) (why : Reason) :
    s.Closes half id why where
  station := station_closing s half id why
  calls := calls_closing_le h half id why
  told o := by
    rw [← station_closing]
    rcases closing_cases h half id why with ⟨hnone, h'⟩ |
      ⟨key, owner, s', taken, hstream, -, -, ⟨hsevers, h'⟩ | ⟨hsevers, calls, -, h'⟩⟩
    · rw [h', stream?, tether?, hnone]
      constructor
      · rintro ⟨⟩
      · rintro ⟨key, ⟨⟩, -⟩
    · rw [h', hstream]
      constructor
      · rintro ⟨⟩
      · rintro ⟨k, ⟨⟩, hclosed⟩
        exact absurd ((hsevers.opens key (some o)).2
          ⟨(Option.some_ne_none key).symm, half, id, hstream⟩) hclosed
    · rw [h', hstream]
      have hopens (o' : Option Nat) : ¬ (s'.notify owner).Open key o' := by
        rw [(keeps_notify s' owner).open_iff, hsevers.opens]
        exact fun hopen => hopen.1 rfl
      constructor
      · intro heq
        exact ⟨key, by rw [← heq], hopens _⟩
      · rintro ⟨k, heq, -⟩
        exact (Prod.mk.inj (Option.some.inj heq)).2

/-! ## Acts -/

/-- What can happen to a bus. -/
inductive Act (σ : Type)
  | endpoint (e : Endpoint)
  | ready (route : Route)
  /-- It is so late that the earliest work may be due. -/
  | due (now : Nat)
  | signal (signal : Signal)
  /-- The computer changes. -/
  | elapse (host : σ)

/-- Do the earliest work, if it is due. -/
def wake (s : Station σ) (now : Nat) : Station σ :=
  match s.reactor.timers.pop? now with
  | none => s
  | some (work, timers) => onDue { s with reactor := { s.reactor with timers } } work

/-- What the bus does about it. -/
def act (s : Station σ) : Act σ → Station σ
  | .endpoint e => s.addEndpoint e
  | .ready route => s.onReady route
  | .due now => s.wake now
  | .signal signal => Bus.handler.signalled s signal
  | .elapse host => s.withHost host

/-- One act after the other. -/
def run (s : Station σ) (acts : List (Act σ)) : Station σ := acts.foldl act s

/-- Acts lead from one state to the other. -/
def Reaches (s s' : Station σ) : Prop := ∃ acts, s.run acts = s'

theorem Reaches.refl (s : Station σ) : Reaches s s := ⟨[], rfl⟩

theorem reaches_act (s : Station σ) (a : Act σ) : Reaches s (s.act a) := ⟨[a], rfl⟩

theorem Reaches.trans {s s' s'' : Station σ} (h : Reaches s s') (h' : Reaches s' s'') :
    Reaches s s'' := by
  obtain ⟨acts, rfl⟩ := h
  obtain ⟨acts', rfl⟩ := h'
  exact ⟨acts ++ acts', List.foldl_append⟩

theorem reaches_foldl {α : Type} {f : Station σ → α → Station σ} (h : ∀ s a, Reaches s (f s a))
    (l : List α) (s : Station σ) : Reaches s (l.foldl f s) := by
  induction l generalizing s with
  | nil => exact .refl s
  | cons a l ih => exact (h s a).trans (ih (f s a))

theorem reaches_fire (now n : Nat) (s : Station σ) : Reaches s (Bus.handler.fire now n s) := by
  induction n generalizing s with
  | zero => exact .refl s
  | succ n ih =>
    have hdue : Reaches s (s.wake now) := reaches_act s (.due now)
    unfold wake at hdue
    unfold Handler.fire
    split
    · exact .refl s
    · rename_i h
      simp only [h] at hdue
      exact hdue.trans (ih _)

/-- **A turn is a run of acts**: the computer changes, then signals, what is
ready, and what is due. -/
theorem reaches_turn (limit : Option Nat) (s : Station σ) :
    Reaches s (Bus.handler.turn limit s) := by
  have hready (s : Station σ) (c : Nat × Route × Readiness) :
      Reaches s (Bus.handler.ready s c) := by
    unfold Handler.ready
    split
    · exact reaches_act s (.ready c.2.1)
    · exact .refl s
  unfold Handler.turn
  simp only
  generalize Poller.poll _ s.host = polled
  refine (reaches_act s (.elapse polled.2)).trans ?_
  refine
    (reaches_foldl (fun s signal => reaches_act s (.signal signal)) polled.1.signals _).trans ?_
  exact (reaches_foldl hready _ _).trans (reaches_fire _ _ _)

/-- **A session is a run of acts** from a station without endpoints. -/
theorem reaches_work (endpoints : List Endpoint) (settings : Settings) (turns : Nat) (host : σ) :
    ∃ server host', Reaches (fresh settings server host')
      ((ofEndpoints endpoints settings host).work turns) := by
  have hturns (n : Nat) (s : Station σ) : Reaches s (s.work n) := by
    unfold work
    induction n generalizing s with
    | zero => exact .refl s
    | succ n ih =>
      unfold Handler.run
      split
      · exact (reaches_turn none s).trans (ih _)
      · exact .refl s
  refine ⟨⟨(Host.freshId (Poller.hearSignals host)).1, Server.usualVersion⟩,
    (Host.freshId (Poller.hearSignals host)).2, Reaches.trans ?_ (hturns turns _)⟩
  exact reaches_foldl (fun s e => reaches_act s (.endpoint e)) endpoints _

/-! ## What acts do -/

theorem flagged_receiveReady (hsound : s.Sound) (hflagged : s.Flagged) (id : Nat) :
    ∃ hs, Course s hs (s.receiveReady id) ∧ (s.receiveReady id).Flagged := by
  unfold receiveReady
  cases hr : s.state.receivers.get? id with
  | none => exact ⟨[], .refl s, hflagged⟩
  | some r =>
    have hstep := step_relayed hr
    have hflagged' := s.flagged_relayed id r hflagged
    simp only
    split
    · rename_i why _
      exact ⟨_, hstep.course.step (.closed _ .receive id why),
        flagged_close (hstep.cases hsound).1 hflagged' .receive id why⟩
    · exact ⟨_, hstep.course, hflagged'⟩

/-- What leads on, leads on when the senders that failed are closed in the end. -/
theorem Leads.closeFailed {s' : Station σ} (h : Leads s s') : Leads s s'.closeFailed :=
  h.trans (leads_closeFailed s')

theorem Leads.course (h : Leads s s') (hsound : s.Sound) (hsettled : s.Settled) :
    ∃ hs, Course s hs s' ∧ s'.Settled := by
  obtain ⟨hs, hcourse, -⟩ := h hsound
  exact ⟨hs, hcourse, h.settled hsound hsettled⟩

/-- Senders fail only when a receiver is ready, and are closed in the same callback. -/
theorem course_receive (hsound : s.Sound) (hsettled : s.Settled) (id : Nat) :
    ∃ hs, Course s hs (s.onReady (.receive id)) ∧ (s.onReady (.receive id)).Settled := by
  obtain ⟨hs, hcourse, hflagged⟩ :=
    flagged_receiveReady hsound (fun i hi => absurd hi (hsettled.2 i)) id
  have hsound' := hcourse.sound hsound
  obtain ⟨hs', hcourse', -⟩ := leads_closeFailed _ hsound'
  exact ⟨hs ++ hs', hcourse.trans hcourse', settled_closeFailed hsound' hflagged⟩

theorem leads_wake (s : Station σ) (now : Nat) : Leads s (s.wake now) := by
  unfold wake
  split
  · exact .refl s
  · rename_i work timers _
    have htimers : Aside s { s with reactor := { s.reactor with timers } } :=
      .of_reactor rfl (Nat.le_refl _) (fun hb => hb) fun _ _ _ => .rfl
    cases work with
    | retry id => exact (htimers.leads.trans (leads_start _ id)).closeFailed
    | reap id => exact (htimers.leads.trans (leads_reapChild _ id)).closeFailed

/-- **An act takes a station on its course**, and leaves no failed sender. -/
theorem course_act (hsound : s.Sound) (hsettled : s.Settled) (a : Act σ) :
    ∃ hs, Course s hs (s.act a) ∧ (s.act a).Settled := by
  cases a with
  | endpoint e => exact (leads_addEndpoint s e).course hsound hsettled
  | ready route =>
    cases route with
    | transport id => exact (leads_transportReady s id).closeFailed.course hsound hsettled
    | messages id => exact (leads_messagesReady s id).closeFailed.course hsound hsettled
    | send id => exact (leads_sendReady s id).closeFailed.course hsound hsettled
    | receive id => exact course_receive hsound hsettled id
  | due now => exact (leads_wake s now).course hsound hsettled
  | signal signal =>
    have hstop : Aside s { s with reactor := s.reactor.stop } :=
      .of_reactor rfl (Nat.le_refl _) (fun hb => hb) fun _ _ _ => .rfl
    cases signal with
    | interrupt => exact hstop.leads.course hsound hsettled
    | terminate => exact hstop.leads.course hsound hsettled
    | child => exact (leads_reapAll s).closeFailed.course hsound hsettled
  | elapse host => exact (aside_withHost s host).leads.course hsound hsettled

theorem course_run (hsound : s.Sound) (hsettled : s.Settled) (acts : List (Act σ)) :
    ∃ hs, Course s hs (s.run acts) ∧ (s.run acts).Settled := by
  induction acts generalizing s with
  | nil => exact ⟨[], .refl s, hsettled⟩
  | cons a acts ih =>
    obtain ⟨hs, hcourse, hsettled'⟩ := course_act hsound hsettled a
    obtain ⟨hs', hcourse', hsettled''⟩ := ih (hcourse.sound hsound) hsettled'
    exact ⟨hs ++ hs', hcourse.trans hcourse', hsettled''⟩

/-- **Peers are owned** after every run of acts, and on the course of the run and every other one
each stream with an owner is accounted for, and each closing is one of which the user was told. -/
theorem owned_run (settings : Settings) (server : Server) (host : σ) (acts : List (Act σ)) :
    ((fresh settings server host).run acts).Owned ∧
      (∃ hs, Course (fresh settings server host) hs ((fresh settings server host).run acts)) ∧
      ∀ hs s, Course (fresh settings server host) hs s →
        Accounted hs s ∧ s.reasons = hs.filterMap Happening.closed? ∧
          ∀ half id why, s.Closes half id why := by
  have hsound := sound_fresh settings server host
  obtain ⟨hs, hcourse, hsettled⟩ := course_run hsound ⟨rfl, fun _ ⟨_, h, _⟩ => by cases h⟩ acts
  refine ⟨(hcourse.sound hsound).owned hsettled, ⟨hs, hcourse⟩, fun hs s h => ?_⟩
  exact ⟨accounted_course h, reasons_course h hsound, (h.sound hsound).closes⟩

/-- The standard input has one peer; when it is closed, the transport is told. -/
example : (((fresh .usual ⟨.nil, Server.usualVersion⟩ (Machine.boot false)).run
    [.endpoint ⟨.receive, .stdin⟩]).closing .receive 1 .endOfStream).told = some 0 := by
  decide +kernel

end Squitter.Station
