import Squitter.Proofs.Drives.Reaping
import Squitter.Proofs.Exits.Hearing
import Squitter.Proofs.Exits.Reading

/-!
# What is lost when a child ends

Along a run of acts, each receiver **hears** (`Station.heard`) what waits on its stream
whenever it is called back. The invariant (`Station.Follows`) is that it has read that and
nothing else: an act either has nothing to do with what receivers read, or is the callback of
one of them (`Station.act_cases`).

**The result** (`Station.heard_until_exit`). A child is heard until its end is noticed. A callback
reads all that waits, so what a child has written is read if its stream is called back after that.
But when the end is noticed, the peers on its stream are closed and nothing is read, and whatever
waits is lost. A turn of the reactor acts on signals first, and so a message is lost even if the
stream is reported ready in the same turn (`Station.exit_loses_message`).
-/

namespace Squitter

open Decoder (Transcript readFrom)

/-- The transcript of reading pieces for a receiver, from the beginning of its stream. -/
def Receiver.reading (own : Uuid) (r : Receiver) (ps : List Bytes) : Transcript :=
  ps.foldl (readFrom own r.source) (.start (.empty Buffer.usualCapacity))

/-- A receiver that has read nothing goes along with a transcript of nothing. -/
theorem Receiver.Untouched.along {r : Receiver} (h : r.Untouched) (own : Uuid) :
    r.Along (r.reading own []) where
  ending := rfl
  decoder := h.decoder.symm
  buffer := h.buffer.symm
  sound := h.buffer ▸ Buffer.sound_empty _
  short := by
    rw [h.buffer]
    rfl

namespace Station

variable {σ : Type}

/-! ## Who has read what -/

/-- Each receiver has read what was heard under its number; under numbers that are not yet given out
nothing was heard. -/
structure Follows (own : Uuid) (s : Station σ) (ps : Nat → List Bytes) : Prop where
  server : s.state.server.id = own
  silent : ∀ id, s.state.nextId ≤ id → ps id = []
  along : ∀ id r, s.state.receivers.get? id = some r → r.stream.regular = false →
    r.Along (r.reading own (ps id))

variable {own : Uuid} {s s' : Station σ} {ps : Nat → List Bytes}

theorem follows_fresh (settings : Settings) (server : Server) (host : σ) :
    (fresh settings server host).Follows server.id fun _ => [] where
  server := rfl
  silent _ _ := rfl
  along _ _ hr := by cases hr

theorem Follows.deaf (h : s.Follows own ps) (hdeaf : Deaf s s') : s'.Follows own ps where
  server := by rw [hdeaf.server, h.server]
  silent id hid := h.silent id (Nat.le_trans hdeaf.nextId hid)
  along id r hr hregular := by
    rcases hdeaf.receivers id r hr with hr | ⟨hle, -, huntouched⟩
    · exact h.along id r hr hregular
    · rw [h.silent id hle]
      exact huntouched.along own

theorem Sound.lt_nextId (hs : s.Sound) {id : Nat} {r : Receiver}
    (hr : s.state.receivers.get? id = some r) : id < s.state.nextId := by
  refine Nat.lt_of_not_le fun hle => ?_
  have hnone := hs.numbered .receive id hle
  rw [peer?, hr] at hnone
  cases hnone

/-- Whoever is gone does not come back, since numbers are given out once. -/
theorem Deaf.gone (h : Deaf s s') {id : Nat} (hgone : s.state.receivers.get? id = none)
    (hlt : id < s.state.nextId) : s'.state.receivers.get? id = none := by
  cases hr : s'.state.receivers.get? id with
  | none => rfl
  | some r =>
    rcases h.receivers id r hr with hr | ⟨hle, -, -⟩
    · rw [hgone] at hr
      cases hr
    · exact absurd hlt (Nat.not_lt.2 hle)

variable [Host σ]

/-! ## What receivers hear -/

/-- The pieces that wait to be read by a receiver. -/
def waiting (s : Station σ) (id : Nat) : List Bytes :=
  match s.state.receivers.get? id with
  | some r => Receiver.pieces (Streams.arrivals r.stream s.host)
  | none => []

/-- What the receiver under a number hears in an act: all that waits, if it is called back. -/
def hears (s : Station σ) (id : Nat) : Act σ → List Bytes
  | .ready (.receive id') => if id' = id then s.waiting id else []
  | _ => []

/-- What the receiver under a number hears in a run. -/
def heard (s : Station σ) (id : Nat) : List (Act σ) → List Bytes
  | [] => []
  | a :: acts => s.hears id a ++ (s.act a).heard id acts

theorem heard_append (s : Station σ) (id : Nat) (acts acts' : List (Act σ)) :
    s.heard id (acts ++ acts') = s.heard id acts ++ (s.run acts).heard id acts' := by
  induction acts generalizing s with
  | nil => rfl
  | cons a acts ih =>
    rw [List.cons_append, heard, heard, ih, List.append_assoc]
    rfl

/-- Whoever is called back after a run hears all that waits. -/
theorem heard_ready (s : Station σ) (id : Nat) (acts : List (Act σ)) :
    s.heard id (acts ++ [.ready (.receive id)]) = s.heard id acts ++ (s.run acts).waiting id := by
  rw [heard_append, heard, heard, List.append_nil, hears, if_pos rfl]

theorem hears_self {s : Station σ} {id : Nat} {r : Receiver}
    (hr : s.state.receivers.get? id = some r) :
    s.hears id (.ready (.receive id)) = Receiver.pieces (Streams.arrivals r.stream s.host) := by
  rw [hears, if_pos rfl, waiting, hr]

theorem hears_of_ne (s : Station σ) {id i : Nat} (h : i ≠ id) :
    s.hears i (.ready (.receive id)) = [] := by
  rw [hears, if_neg h.symm]

/-- Who is not there hears nothing. -/
theorem hears_of_none {s : Station σ} {id : Nat} (h : s.state.receivers.get? id = none)
    (a : Act σ) :
    s.hears id a = [] := by
  unfold hears
  split
  · rw [waiting, h, ite_self]
  · rfl

/-! ## What is heard is read -/

/-- The receivers after one of them has passed on what it read. -/
theorem receivers_relayed {id i : Nat} {r q : Receiver}
    (hq : (s.relayed id r).state.receivers.get? i = some q) :
    (i = id ∧ q = (r.receive s.state.server.id (Streams.arrivals r.stream s.host)).receiver) ∨
      i ≠ id ∧ s.state.receivers.get? i = some q := by
  have hget := (Table.get?_insert s.state.receivers id i _).symm.trans hq
  by_cases hi : i = id
  · rw [if_pos hi] at hget
    exact .inl ⟨hi, (Option.some.inj hget).symm⟩
  · rw [if_neg hi] at hget
    exact .inr ⟨hi, hget⟩

/-- **All that an act can do to receivers**: none of them reads, or one does that is called back,
and it is gone afterwards if it closes over what it read. -/
theorem act_cases (hs : s.Sound) (a : Act σ) :
    (Deaf s (s.act a) ∧ ∀ i, s.hears i a = []) ∨
    ∃ id r, a = .ready (.receive id) ∧ s.state.receivers.get? id = some r ∧
      Deaf (s.relayed id r) (s.act a) ∧
      ((r.receive s.state.server.id (Streams.arrivals r.stream s.host)).Breaks →
        (s.act a).state.receivers.get? id = none) := by
  cases a with
  | endpoint e => exact .inl ⟨deaf_addEndpoint s e, fun _ => rfl⟩
  | due now => exact .inl ⟨deaf_wake s now, fun _ => rfl⟩
  | elapse host => exact .inl ⟨deaf_withHost s host, fun _ => rfl⟩
  | signal signal =>
    refine .inl ⟨?_, fun _ => rfl⟩
    cases signal with
    | interrupt => exact .of_bus rfl (Nat.le_refl _) rfl
    | terminate => exact .of_bus rfl (Nat.le_refl _) rfl
    | child => exact ((quiet_reapAll s).trans (quiet_closeFailed _)).toDeaf
  | ready route =>
    cases route with
    | transport id => exact .inl ⟨deaf_onReady s (.transport id) fun _ => nofun, fun _ => rfl⟩
    | messages id => exact .inl ⟨deaf_onReady s (.messages id) fun _ => nofun, fun _ => rfl⟩
    | send id => exact .inl ⟨deaf_onReady s (.send id) fun _ => nofun, fun _ => rfl⟩
    | receive id =>
      have hfailed := (quiet_closeFailed (s.receiveReady id)).toDeaf
      cases hr : s.state.receivers.get? id with
      | none =>
        have hidle : s.receiveReady id = s := by rw [receiveReady, hr]
        rw [hidle] at hfailed
        refine .inl ⟨?_, fun i => ?_⟩
        · show Deaf s (s.receiveReady id).closeFailed
          rwa [hidle]
        · by_cases hi : i = id
          · exact hears_of_none (hi ▸ hr) _
          · exact hears_of_ne s hi
      | some r =>
        refine .inr ⟨id, r, rfl, hr, ?_⟩
        show Deaf _ (s.receiveReady id).closeFailed ∧
          (_ → (s.receiveReady id).closeFailed.state.receivers.get? id = none)
        unfold receiveReady at hfailed ⊢
        simp only [hr] at hfailed ⊢
        cases hclosing : (r.relay s.state.server.id s.state.fanout s.host).closing with
        | none =>
          simp only [hclosing] at hfailed ⊢
          refine ⟨hfailed, fun hbreaks => ?_⟩
          rcases hbreaks with ⟨e, he⟩ | ho
          · cases hclosing.symm.trans he
          · cases hclosing.symm.trans ho
        | some why =>
          simp only [hclosing] at hfailed ⊢
          have hclose := (quiet_close (s.relayed id r) .receive id why).toDeaf
          refine ⟨hclose.trans hfailed, fun _ => hfailed.gone ?_ ?_⟩
          · exact Option.map_eq_none_iff.1
              (failing_close ((step_relayed hr).cases hs).1 .receive id why).2.2
          · exact Nat.lt_of_lt_of_le (hs.lt_nextId hr) hclose.nextId

/-- Whoever is gone hears nothing any more. -/
theorem heard_of_gone (hs : s.Sound) (hsettled : s.Settled) {id : Nat}
    (hgone : s.state.receivers.get? id = none) (hlt : id < s.state.nextId) (acts : List (Act σ)) :
    s.heard id acts = [] := by
  induction acts generalizing s with
  | nil => rfl
  | cons a acts ih =>
    obtain ⟨hs', hcourse, hsettled'⟩ := course_act hs hsettled a
    obtain ⟨hgone', hlt'⟩ : (s.act a).state.receivers.get? id = none ∧
        id < (s.act a).state.nextId := by
      rcases act_cases hs a with ⟨hdeaf, -⟩ | ⟨i, r, -, hr, hdeaf, -⟩
      · exact ⟨hdeaf.gone hgone hlt, Nat.lt_of_lt_of_le hlt hdeaf.nextId⟩
      · refine ⟨hdeaf.gone ?_ hlt, Nat.lt_of_lt_of_le hlt hdeaf.nextId⟩
        cases hq : (s.relayed i r).state.receivers.get? id with
        | none => rfl
        | some q =>
          rcases receivers_relayed hq with ⟨rfl, -⟩ | ⟨-, hq⟩
          · rw [hgone] at hr
            cases hr
          · rw [hgone] at hq
            cases hq
    rw [heard, hears_of_none hgone, ih (hcourse.sound hs) hsettled' hgone' hlt', List.nil_append]

/-- A receiver is called back, and is gone afterwards if it closes over what it read. -/
theorem Follows.relayed {id : Nat} {r : Receiver} (h : s.Follows own ps) (hlt : id < s.state.nextId)
    (hr : s.state.receivers.get? id = some r) (hdeaf : Deaf (s.relayed id r) s')
    (hgone : (r.receive own (Streams.arrivals r.stream s.host)).Breaks →
      s'.state.receivers.get? id = none) :
    s'.Follows own fun i => ps i ++ s.hears i (.ready (.receive id)) where
  server := by
    rw [hdeaf.server]
    exact h.server
  silent i hi := by
    have hle : s.state.nextId ≤ i := Nat.le_trans hdeaf.nextId hi
    rw [h.silent i hle, hears_of_ne s (Nat.ne_of_gt (Nat.lt_of_lt_of_le hlt hle)), List.append_nil]
  along i q hq hregular := by
    rcases hdeaf.receivers i q hq with hq' | ⟨hle, -, huntouched⟩
    · rcases receivers_relayed hq' with ⟨rfl, rfl⟩ | ⟨hne, hq'⟩
      · rw [h.server] at hq hregular ⊢
        obtain ⟨hstream, hsource⟩ := r.receive_stream own (Streams.arrivals r.stream s.host)
        rw [hstream] at hregular
        rcases (h.along i r hr hregular).receive own
          (Streams.arrivals r.stream s.host) hregular with
          hbreaks | htakes
        · rw [hgone hbreaks] at hq
          cases hq
        · rw [Receiver.reading, hsource, hears_self hr, List.foldl_append]
          exact htakes.along
      · rw [hears_of_ne s hne, List.append_nil]
        exact h.along i q hq' hregular
    · have hle' : s.state.nextId ≤ i := hle
      rw [hears_of_ne s (Nat.ne_of_gt (Nat.lt_of_lt_of_le hlt hle')), h.silent i hle']
      exact huntouched.along own

/-- **What is heard is read**, in every act. -/
theorem Follows.act (h : s.Follows own ps) (hs : s.Sound) (a : Act σ) :
    (s.act a).Follows own fun i => ps i ++ s.hears i a := by
  rcases act_cases hs a with ⟨hdeaf, hears⟩ | ⟨id, r, rfl, hr, hdeaf, hgone⟩
  · simp only [hears, List.append_nil]
    exact h.deaf hdeaf
  · exact h.relayed (hs.lt_nextId hr) hr hdeaf (h.server ▸ hgone)

theorem Follows.run (h : s.Follows own ps) (hsound : s.Sound) (hsettled : s.Settled)
    (acts : List (Act σ)) : (s.run acts).Follows own fun i => ps i ++ s.heard i acts := by
  induction acts generalizing s ps with
  | nil =>
    simp only [heard, List.append_nil]
    exact h
  | cons a acts ih =>
    obtain ⟨hs, hcourse, hsettled'⟩ := course_act hsound hsettled a
    have hrest := ih (h.act hsound a) (hcourse.sound hsound) hsettled'
    simp only [heard, ← List.append_assoc]
    exact hrest

/-- **A callback reads all that waits.** -/
theorem Follows.takes {id : Nat} {r : Receiver} (h : s.Follows own ps)
    (hr : s.state.receivers.get? id = some r) (hregular : r.stream.regular = false) :
    let y := r.receive own (Streams.arrivals r.stream s.host)
    y.Breaks ∨ Receiver.Takes (r.reading own (ps id)) (r.reading own (ps id ++ s.waiting id))
      (s.waiting id).flatten.length y := by
  have hwaiting : s.waiting id = Receiver.pieces (Streams.arrivals r.stream s.host) := by
    rw [waiting, hr]
  rw [hwaiting, Receiver.reading, Receiver.reading, List.foldl_append]
  exact (h.along id r hr hregular).receive own _ hregular

/-! ## Noticing the end of a child -/

/-- All peers that are closed are gone in the end. -/
theorem peer?_closeEach (hs : s.Sound) (any : Bool) {peers : List (Half × Nat)} (why : Reason)
    {half : Half} {id : Nat} (h : s.peer? half id = none ∨ (half, id) ∈ peers) :
    (s.closeEach any peers why).2.peer? half id = none := by
  induction peers generalizing any s with
  | nil => exact h.resolve_right List.not_mem_nil
  | cons peer rest ih =>
    refine ih ((leads_close s peer.1 peer.2 why).sound hs) _ ?_
    rcases h with hnone | hmem
    · exact .inl ((peer?_close s peer.1 peer.2 why half id).elim (fun h => h)
        fun h => h.trans hnone)
    · rcases List.mem_cons.1 hmem with rfl | hmem
      · exact .inl (failing_close hs half id why).2.2
      · exact .inr hmem

/-- The child of a transport has ended, which was not noticed yet. -/
def HasEnded (s : Station σ) (i : Nat) : Prop :=
  ∃ role attempt command child messages,
    s.transport? i = some ⟨role, attempt, .child command (.running child) messages⟩ ∧
      (Host.hasEnded child s.host).1 = .ok true

/-- **When a child is found to have ended, all peers on its stream are closed.** -/
theorem peer?_reapChild (hs : s.Sound) {i : Nat} (hi : s.HasEnded i) {key : Key} {half : Half}
    {id : Nat} (hstream : s.stream? half id = some (key, some i)) :
    (s.reapChild i).peer? half id = none := by
  obtain ⟨role, attempt, command, child, messages, ht, hended⟩ := hi
  have hlook := (aside_hasEnded s child).keeps
  have htrue : (s.hasEnded child).1 = true := by
    unfold hasEnded
    split <;> rename_i h <;> rw [h] at hended <;> cases hended
    rfl
  rcases hresult : s.hasEnded child with ⟨ended, s₁⟩
  rw [hresult] at hlook htrue
  have hidle := hlook.trans (keeps_setChildPhase s₁ i .idle)
  have hgone : ((s₁.setChildPhase i .idle).closeOwned i .childEnded).2.peer? half id = none := by
    have hmem : (half, id) ∈ (s₁.setChildPhase i .idle).owned i :=
      mem_owned ((hidle.stream half id).trans hstream)
    exact peer?_closeEach (hidle.sound hs) false .childEnded (.inr hmem)
  rw [reapChild, ht]
  simp only [hresult, htrue, if_true]
  split
  · exact hgone
  · exact ((keeps_retryLater _ i).peers half id).trans hgone

/-! ## The result -/

/-- **A child is heard until its end is noticed.** In every run, a receiver has read what was heard
under its number, and if it is called back it reads all that waits. When a child is found to have
ended, the peers on its stream are closed, and nothing is read from any stream, so that of what the
child has written all is lost that waits at that moment. -/
theorem heard_until_exit (settings : Settings) (server : Server) (host : σ) (acts : List (Act σ)) :
    let s₀ := fresh settings server host
    let s := s₀.run acts
    let s' := s.act (.signal .child)
    (∀ id r, s.state.receivers.get? id = some r → r.stream.regular = false →
      let t := r.reading server.id (s₀.heard id acts)
      let t' := r.reading server.id (s₀.heard id (acts ++ [.ready (.receive id)]))
      let y := r.receive server.id (Streams.arrivals r.stream s.host)
      r.Along t ∧ (y.Breaks ∨ Receiver.Takes t t' (s.waiting id).flatten.length y)) ∧
    (∀ i, s.HasEnded i → ∀ key half id, s.stream? half id = some (key, some i) →
      (s.reapChild i).peer? half id = none) ∧
    Untapped s.host s'.host ∧
    ∀ id, s.hasPeer .receive id = true → s'.hasPeer .receive id = false → ∀ later,
      s₀.heard id (acts ++ .signal .child :: later) = s₀.heard id acts := by
  intro s₀ s s'
  have hsound₀ : s₀.Sound := sound_fresh settings server host
  have hsettled₀ : s₀.Settled := settled_fresh settings server host
  obtain ⟨hs, hcourse, hsettled⟩ := course_run hsound₀ hsettled₀ acts
  have hsound : s.Sound := hcourse.sound hsound₀
  have hfollows : s.Follows server.id fun id => s₀.heard id acts :=
    (follows_fresh settings server host).run hsound₀ hsettled₀ acts
  have hquiet : Quiet s s' := (quiet_reapAll s).trans (quiet_closeFailed _)
  refine ⟨fun id r hr hregular => ?_, fun i hi key half id => peer?_reapChild hsound hi,
    hquiet.untapped, fun id hthere hgone later => ?_⟩
  · intro t t' y
    have ht' : t' = r.reading server.id (s₀.heard id acts ++ s.waiting id) :=
      congrArg (r.reading server.id) (heard_ready s₀ id acts)
    rw [ht']
    exact ⟨hfollows.along id r hr hregular, hfollows.takes hr hregular⟩
  · obtain ⟨hs', hcourse', hsettled'⟩ := course_act hsound hsettled (.signal .child)
    obtain ⟨r, hr⟩ := Option.isSome_iff_exists.1 hthere
    have hnone : s'.state.receivers.get? id = none :=
      Option.isNone_iff_eq_none.1 (Option.isSome_eq_false_iff.1 hgone)
    have hlater : s'.heard id later = [] :=
      heard_of_gone (hcourse'.sound hsound) hsettled' hnone
        (Nat.lt_of_lt_of_le (hsound.lt_nextId hr) hquiet.nextId) later
    rw [heard_append]
    show _ ++ ([] ++ s'.heard id later) = _
    rw [hlater, List.append_nil, List.append_nil]

/-- A computer on which a child writes one message and ends at once. Both
are reported in one turn. -/
structure Brief where
  unread : Bytes
  watched : List Nat

instance : Host Brief where
  arrivals s host :=
    if s.handle = 0 ∧ host.unread ≠ [] then [.data host.unread, .endOfStream] else [.endOfStream]
  took s n host := if s.handle = 0 then { host with unread := host.unread.drop n } else host
  write _ bytes host := (.ok bytes.length, host)
  shutdownWrite _ host := host
  duplicate s host := (.ok s, host)
  close _ host := host
  now _ := 0
  watch _ _ token host := (.ok true, { host with watched := host.watched ++ [token] })
  unwatch token host := { host with watched := host.watched.filter (· ≠ token) }
  poll _ host :=
    (⟨host.watched.map fun token => (token, ⟨true, false, false, true⟩), [.child]⟩, host)
  hearSignals host := host
  freshId host := (.nil, host)
  random _ host := (0, host)
  openFile _ _ _ host := (.error .noSuchEntry, host)
  openStdin host := (.error .badDescriptor, host)
  openStdout host := (.error .badDescriptor, host)
  lookup _ host := (.error .unknownHost, host)
  answer _ host := (.pending, host)
  connect _ host := (.error .unknownHost, host)
  connected _ host := (.error .unknownHost, host)
  listen _ host := (.error .unknownHost, host)
  accept _ host := ([], host)
  spawn _ host :=
    (.ok ⟨0, ⟨0, none, true, false⟩, ⟨1, none, true, false⟩⟩,
      { host with unread := utf8 "*7700;\n" })
  hasEnded _ host := (.ok true, host)
  terminate _ host := host
  kill _ host := host

/-- **A message is lost.** The stream of the child is reported ready in the turn in which its end is
noticed, but the receiver is closed before it is called back, and the message is still not read. -/
theorem exit_loses_message :
    let s := (fresh .usual ⟨.nil, Server.usualVersion⟩ (⟨[], []⟩ : Brief)).addEndpoint
      ⟨.receive, .exec "cat squawk"⟩
    let s' : Station Brief := Bus.handler.turn none s
    s.waiting 1 = [utf8 "*7700;\n"] ∧
      (Handler.callbacks s.reactor (Poller.poll none s.host).1.ready).map (·.2.1) =
        [.messages 0, .receive 1] ∧
      s'.hasPeer .receive 1 = false ∧ s'.state.notices = [.closed .childEnded] ∧
      s'.host.unread = utf8 "*7700;\n" := by
  decide +kernel

end Station
end Squitter
