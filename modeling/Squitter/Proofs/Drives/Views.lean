import Squitter.Proofs.Peers.Attaching
import Squitter.Proofs.Peers.Closing

/-!
# What drives a transport

A transport goes on because of something that is to come (`Station.Drive`): a retry that is pending,
a lookup, connection or listener that is watched, a stream that will end, or a look at a child that
was asked to end. Each transport **has** one drive (`Station.Has`), and the status that it is in
says which ones are right for it (`Status.Wants`).

A transport is **driven** (`Station.Driven`) if its drive is right, and **stranded**
(`Station.Stranded`) if it has none, as happens for a moment while it is changed. To **settle** a
transport (`Station.Settles`) is to have it driven, whatever it was before, and leave all others
unmoved.
-/

namespace Squitter

/-! ## Pending work -/

namespace Timers

variable {ω : Type} [DecidableEq ω] {t t' : Timers ω} {now : Nat} {work : ω}

/-- How often a piece of work is pending. -/
def pending (t : Timers ω) (work : ω) : Nat := (t.entries.map (·.2)).count work

omit [DecidableEq ω] in
theorem perm_place (deadline : Nat) (work : ω) (es : List (Nat × ω)) :
    (place deadline work es).Perm ((deadline, work) :: es) := by
  fun_induction place deadline work es with
  | case1 => exact .refl _
  | case2 e rest _ ih => exact (ih.cons e).trans (.swap _ _ _)
  | case3 => exact .refl _

theorem pending_schedule (t : Timers ω) (deadline : Nat) (work work' : ω) :
    (t.schedule deadline work).pending work' = t.pending work' + if work = work' then 1 else 0 := by
  have hperm := ((perm_place deadline work t.entries).map (·.2)).count_eq work'
  rw [List.map_cons, List.count_cons] at hperm
  simp only [beq_iff_eq] at hperm
  exact hperm

theorem pending_of_pop? (h : t.pop? now = some (work, t')) (work' : ω) :
    t.pending work' = t'.pending work' + if work = work' then 1 else 0 := by
  obtain ⟨entries, ha⟩ := t
  cases entries with
  | nil => cases h
  | cons e rest =>
    simp only [pop?] at h
    split at h
    · cases h
      simp only [pending, List.map_cons, List.count_cons, beq_iff_eq]
    · cases h

end Timers

/-! ## Statuses -/

/-- The transport that something watched is for. -/
def Route.transport? : Route → Option Nat
  | transport id => some id
  | messages id => some id
  | receive _ => none
  | send _ => none

theorem Half.transport?_route (half : Half) (id : Nat) : (half.route id).transport? = none := by
  cases half <;> rfl

/-- How far a transport has come. -/
inductive Status
  | idle
  /-- A lookup, a connection that was begun, or a listener is watched under a token. -/
  | watching (token : Nat)
  /-- The stream of the transport is open. -/
  | streaming
  /-- A child was asked to end. -/
  | stopping
  /-- A file is open, or waits to be opened again if it ever is. -/
  | file (reopens : Bool)
deriving DecidableEq

namespace Mechanism

/-- The status of a transport. -/
def status : Mechanism → Status
  | outgoing _ _ .idle => .idle
  | outgoing _ _ (.resolving _ token) => .watching token
  | outgoing _ _ (.connecting _ _ token) => .watching token
  | outgoing _ _ .connected => .streaming
  | incoming _ _ .idle => .idle
  | incoming _ _ (.resolving _ token) => .watching token
  | incoming _ _ (.listening _ token) => .watching token
  | child _ .idle _ => .idle
  | child _ (.running _) _ => .streaming
  | child _ (.stopping ..) _ => .stopping
  | file _ reopens => .file reopens

/-- The token under which the messages of a child are watched. -/
def messages? : Mechanism → Option Nat
  | outgoing .. => none
  | incoming .. => none
  | child _ _ messages => messages.map (·.token)
  | file .. => none

end Mechanism

namespace Station

/-! ## Drives -/

/-- What drives a transport. -/
structure Drive where
  /-- How often a retry is pending. -/
  retries : Nat
  /-- The token under which a lookup, a connection or a listener is watched. -/
  watch : Option Nat
  /-- The token under which the messages of a child are watched. -/
  messages : Option Nat
  /-- The stream that is open. -/
  stream : Option Key
  /-- A look at a child is pending. -/
  looks : Bool

namespace Drive

/-- Nothing drives the transport; the messages of its child may be watched. -/
def still (messages : Option Nat) : Drive := ⟨0, none, messages, none, false⟩

/-- One retry is pending. -/
def retrying (messages : Option Nat) : Drive := { still messages with retries := 1 }

/-- Something is watched. -/
def watching (messages : Option Nat) (token : Nat) : Drive :=
  { still messages with watch := some token }

/-- A stream is open. -/
def streaming (messages : Option Nat) (key : Key) : Drive :=
  { still messages with stream := some key }

/-- A look at a child is pending. -/
def looking (messages : Option Nat) : Drive := { still messages with looks := true }

end Drive

end Station

open Station in
/-- The drives that are right for a status. -/
def Status.Wants (messages : Option Nat) : Status → Drive → Prop
  | idle, d => d = .retrying messages
  | watching token, d => d = .watching messages token
  | streaming, d => ∃ key, d = .streaming messages key
  | stopping, d => d = .looking messages
  | file reopens, d =>
    (∃ key, d = .streaming messages key) ∨ reopens = true ∧ d = .retrying messages

namespace Station

variable {σ : Type}

/-- What a transport is driven by. -/
structure Has (s : Station σ) (i : Nat) (d : Drive) : Prop where
  retries : s.reactor.timers.pending (.retry i) = d.retries
  watch : ∀ t, s.route? t = some (.transport i) ↔ d.watch = some t
  messages : ∀ t, s.route? t = some (.messages i) ↔ d.messages = some t
  stream : ∀ key, s.Open key (some i) ↔ d.stream = some key
  looks : d.looks = true → 0 < s.reactor.timers.pending (.reap i)

/-- The transport with a number is driven as it should be, and nothing is
driven that is not there. -/
def Driven (s : Station σ) (i : Nat) : Prop :=
  match s.transport? i with
  | none => s.Has i (.still none)
  | some t => ∃ d, t.mechanism.status.Wants t.mechanism.messages? d ∧ s.Has i d

/-- A transport that nothing drives. -/
structure Stranded (s : Station σ) (i : Nat) (t : Transport) : Prop where
  transport : s.transport? i = some t
  has : s.Has i (.still t.mechanism.messages?)

/-- A transport is as it was, and so is what drives it. -/
structure Unmoved (s s' : Station σ) (i : Nat) : Prop where
  transport : s'.transport? i = s.transport? i
  has : ∀ d, s.Has i d → s'.Has i d

/-- All other transports are as they were. -/
def Leaves (s s' : Station σ) (i : Nat) : Prop := ∀ j ≠ i, Unmoved s s' j

/-- A transport is stranded, and all others are as they were. -/
structure Strands (s s' : Station σ) (i : Nat) (t : Transport) : Prop where
  others : Leaves s s' i
  stranded : s'.Stranded i t

/-- A transport is driven, and all others are as they were. -/
structure Settles (s s' : Station σ) (i : Nat) : Prop where
  others : Leaves s s' i
  driven : s'.Driven i

variable {s s' s'' : Station σ} {i j : Nat} {d : Drive} {t : Transport}

theorem Unmoved.refl (s : Station σ) (i : Nat) : Unmoved s s i := ⟨rfl, fun _ h => h⟩

theorem Unmoved.trans (h : Unmoved s s' i) (h' : Unmoved s' s'' i) : Unmoved s s'' i :=
  ⟨h'.transport.trans h.transport, fun d hd => h'.has d (h.has d hd)⟩

theorem Unmoved.driven (h : Unmoved s s' i) (hs : s.Driven i) : s'.Driven i := by
  unfold Driven at hs ⊢
  rw [h.transport]
  cases ht : s.transport? i with
  | none =>
    rw [ht] at hs
    exact h.has _ hs
  | some t =>
    rw [ht] at hs
    obtain ⟨d, hwants, hd⟩ := hs
    exact ⟨d, hwants, h.has d hd⟩

theorem Unmoved.stranded (h : Unmoved s s' i) (hs : s.Stranded i t) : s'.Stranded i t :=
  ⟨h.transport.trans hs.transport, h.has _ hs.has⟩

theorem Leaves.trans (h : Leaves s s' i) (h' : Leaves s' s'' i) : Leaves s s'' i :=
  fun j hj => (h j hj).trans (h' j hj)

theorem Leaves.settles (h : Leaves s s' i) (h' : Settles s' s'' i) : Settles s s'' i :=
  ⟨h.trans h'.others, h'.driven⟩

theorem Strands.trans {u : Transport} (h : Strands s s' i t) (h' : Strands s' s'' i u) :
    Strands s s'' i u :=
  ⟨h.others.trans h'.others, h'.stranded⟩

theorem Strands.settles (h : Strands s s' i t) (h' : Settles s' s'' i) : Settles s s'' i :=
  h.others.settles h'

theorem settles_of_unmoved (hs : s.Driven i) (h : ∀ j, Unmoved s s' j) : Settles s s' i :=
  ⟨fun j _ => h j, (h i).driven hs⟩

theorem driven_of_wants (ht : s.transport? i = some t)
    (hwants : t.mechanism.status.Wants t.mechanism.messages? d) (hd : s.Has i d) : s.Driven i := by
  rw [Driven, ht]
  exact ⟨d, hwants, hd⟩

theorem Driven.exists_has (h : s.Driven i) (ht : s.transport? i = some t) :
    ∃ d, t.mechanism.status.Wants t.mechanism.messages? d ∧ s.Has i d := by
  rw [Driven, ht] at h
  exact h

theorem Driven.has_still (h : s.Driven i) (ht : s.transport? i = none) : s.Has i (.still none) := by
  rw [Driven, ht] at h
  exact h

/-! ## What leaves drives alone -/

/-- Transports, pending work and what is watched for transports are as they were. -/
structure Calm (s s' : Station σ) : Prop where
  transports : s'.state.transports = s.state.transports
  timers : s'.reactor.timers = s.reactor.timers
  routes : ∀ token route, route.transport? ≠ none →
    (s'.route? token = some route ↔ s.route? token = some route)

/-- The streams are as they were as well. -/
structure Still (s s' : Station σ) : Prop extends Calm s s' where
  opens : ∀ key owner, s'.Open key owner ↔ s.Open key owner

theorem Calm.refl (s : Station σ) : Calm s s := ⟨rfl, rfl, fun _ _ _ => .rfl⟩

theorem Calm.trans (h : Calm s s') (h' : Calm s' s'') : Calm s s'' where
  transports := h'.transports.trans h.transports
  timers := h'.timers.trans h.timers
  routes token route hroute := (h'.routes token route hroute).trans (h.routes token route hroute)

/-- If nothing else changes, the streams of a transport decide. -/
theorem Calm.has (h : Calm s s') (stream : Option Key)
    (hopens : ∀ key, s'.Open key (some i) ↔ stream = some key) (hd : s.Has i d) :
    s'.Has i { d with stream } where
  retries := by rw [h.timers, hd.retries]
  watch token := (h.routes token (.transport i) nofun).trans (hd.watch token)
  messages token := (h.routes token (.messages i) nofun).trans (hd.messages token)
  stream := hopens
  looks := by rw [h.timers]; exact hd.looks

theorem Calm.transport? (h : Calm s s') (i : Nat) : s'.transport? i = s.transport? i := by
  rw [Station.transport?, h.transports, Station.transport?]

theorem Calm.unmoved (h : Calm s s') (hopens : ∀ key, s'.Open key (some i) ↔ s.Open key (some i)) :
    Unmoved s s' i :=
  ⟨h.transport? i, fun d hd => h.has d.stream (fun key => (hopens key).trans (hd.stream key)) hd⟩

theorem Still.refl (s : Station σ) : Still s s := ⟨.refl s, fun _ _ => .rfl⟩

theorem Still.trans (h : Still s s') (h' : Still s' s'') : Still s s'' where
  toCalm := h.toCalm.trans h'.toCalm
  opens key owner := (h'.opens key owner).trans (h.opens key owner)

theorem Still.unmoved (h : Still s s') (i : Nat) : Unmoved s s' i :=
  h.toCalm.unmoved fun key => h.opens key (some i)

theorem Still.leaves (h : Still s s') (i : Nat) : Leaves s s' i := fun j _ => h.unmoved j

theorem Still.stranded (h : Still s s') (hs : s.Stranded i t) : s'.Stranded i t :=
  (h.unmoved i).stranded hs

theorem Still.settles (h : Still s s') (h' : Settles s' s'' i) : Settles s s'' i :=
  (h.leaves i).settles h'

theorem Still.strands (h : Still s s') (hs : s.Stranded i t) : Strands s s' i t :=
  ⟨h.leaves i, h.stranded hs⟩

theorem Strands.still (h : Strands s s' i t) (h' : Still s' s'') : Strands s s'' i t :=
  h.trans (h'.strands h.stranded)

theorem Still.of_reactor (hstate : s'.state = s.state)
    (htimers : s'.reactor.timers = s.reactor.timers)
    (hroutes : ∀ token, s'.route? token = s.route? token) : Still s s' where
  transports := by rw [hstate]
  timers := htimers
  routes token route _ := by rw [hroutes]
  opens key owner := by
    have hpeer (half : Half) (id : Nat) : s'.peer? half id = s.peer? half id := by
      cases half <;> simp only [peer?, hstate]
    simp only [Open, stream?, tether?, hpeer, bridge?, hstate]

/-- A steady change that leaves transports, pending work and all that is watched alone. -/
theorem Steady.still (h : Steady s s') (htransports : s'.state.transports = s.state.transports)
    (hreactor : s'.reactor = s.reactor) : Still s s' where
  transports := htransports
  timers := by rw [hreactor]
  routes token route _ := by rw [route?, hreactor, route?]
  opens := h.open_iff

theorem still_withHost (s : Station σ) (host : σ) : Still s (s.withHost host) :=
  (aside_withHost s host).still rfl rfl

theorem still_discard [Streams σ] (s : Station σ) (stream : Stream) : Still s (s.discard stream) :=
  still_withHost s _

theorem still_takeId (s : Station σ) : Still s s.takeId.2 := (aside_takeId s).still rfl rfl

theorem still_withFlow (s : Station σ) (flow : Flow) :
    Still s (s.withBus fun b => { b with flow }) :=
  (aside_withFlow s flow).still rfl rfl

theorem still_tell (s : Station σ) (notices : List Notice) : Still s (s.tell notices) :=
  ⟨⟨rfl, rfl, fun _ _ _ => .rfl⟩, fun _ _ => .rfl⟩

theorem still_delay [Host σ] (s : Station σ) (attempt : UInt32) : Still s (s.delay attempt).2 := by
  unfold delay
  simp only
  split
  · exact .refl s
  · exact still_withHost s _

theorem still_hasEnded [Host σ] (s : Station σ) (child : Nat) : Still s (s.hasEnded child).2 := by
  unfold hasEnded
  split
  · exact still_withHost s _
  · exact still_withHost s _

theorem still_readAll [Host σ] (s : Station σ) (stream : Stream) : Still s (s.readAll stream).2 :=
  still_withHost s _

/-! ## Changing a transport -/

theorem transport?_setTransport (s : Station σ) (i j : Nat) (t : Transport) :
    (s.setTransport i t).transport? j = if j = i then some t else s.transport? j :=
  Table.get?_insert _ _ _ _

/-- Only the last change of a transport counts. -/
theorem setTransport_setTransport (s : Station σ) (i : Nat) (t u : Transport) :
    (s.setTransport i t).setTransport i u = s.setTransport i u := by
  have htable : (s.state.transports.insert i t).insert i u = s.state.transports.insert i u :=
    Table.ext_get? fun j => by
      simp only [Table.get?_insert]
      by_cases hj : j = i
      · rw [if_pos hj, if_pos hj]
      · rw [if_neg hj, if_neg hj, if_neg hj]
  simp only [setTransport, withBus, htable]

/-- What drives transports is not kept in them. -/
theorem Has.setTransport (h : s.Has i d) (j : Nat) (t : Transport) : (s.setTransport j t).Has i d :=
  ⟨h.retries, h.watch, h.messages, h.stream, h.looks⟩

theorem leaves_setTransport (s : Station σ) (i : Nat) (t : Transport) :
    Leaves s (s.setTransport i t) i := fun j hj =>
  ⟨by rw [transport?_setTransport, if_neg hj], fun _ hd => hd.setTransport i t⟩

theorem Stranded.setTransport (h : s.Stranded i t) {u : Transport}
    (hmessages : u.mechanism.messages? = t.mechanism.messages?) :
    (s.setTransport i u).Stranded i u where
  transport := by rw [transport?_setTransport, if_pos rfl]
  has := hmessages ▸ h.has.setTransport i u

theorem strands_setTransport (h : s.Stranded i t) {u : Transport}
    (hmessages : u.mechanism.messages? = t.mechanism.messages?) :
    Strands s (s.setTransport i u) i u :=
  ⟨leaves_setTransport s i u, h.setTransport hmessages⟩

/-! ## Scheduling -/

section

variable [Poller σ]

theorem pending_schedule (s : Station σ) (delay : Nat) (work work' : Work) :
    (s.schedule delay work).reactor.timers.pending work' =
      s.reactor.timers.pending work' + if work = work' then 1 else 0 :=
  s.reactor.timers.pending_schedule _ work work'

theorem leaves_schedule_retry (s : Station σ) (delay : Nat) :
    Leaves s (s.schedule delay (.retry i)) i := by
  refine fun j hj => ⟨rfl, fun d hd => ⟨?_, hd.watch, hd.messages, hd.stream, fun hlooks => ?_⟩⟩
  · rw [pending_schedule, if_neg fun heq => hj (Work.retry.inj heq).symm]
    exact hd.retries
  · rw [pending_schedule]
    exact Nat.lt_of_lt_of_le (hd.looks hlooks) (Nat.le_add_right _ _)

theorem Has.schedule_retry (h : s.Has i d) (delay : Nat) :
    (s.schedule delay (.retry i)).Has i { d with retries := d.retries + 1 } := by
  refine ⟨?_, h.watch, h.messages, h.stream, fun hlooks => ?_⟩
  · rw [pending_schedule, if_pos rfl, h.retries]
  · rw [pending_schedule]
    exact Nat.lt_of_lt_of_le (h.looks hlooks) (Nat.le_add_right _ _)

theorem leaves_schedule_reap (s : Station σ) (delay : Nat) :
    Leaves s (s.schedule delay (.reap i)) i := by
  refine fun j _ => ⟨rfl, fun d hd => ⟨?_, hd.watch, hd.messages, hd.stream, fun hlooks => ?_⟩⟩
  · rw [pending_schedule, if_neg (by rintro ⟨⟩)]
    exact hd.retries
  · rw [pending_schedule]
    exact Nat.lt_of_lt_of_le (hd.looks hlooks) (Nat.le_add_right _ _)

theorem Has.schedule_reap (h : s.Has i d) (delay : Nat) :
    (s.schedule delay (.reap i)).Has i { d with looks := true } := by
  refine ⟨?_, h.watch, h.messages, h.stream, fun _ => ?_⟩
  · rw [pending_schedule, if_neg (by rintro ⟨⟩)]
    exact h.retries
  · rw [pending_schedule, if_pos rfl]
    exact Nat.succ_pos _

end

end Station
end Squitter
