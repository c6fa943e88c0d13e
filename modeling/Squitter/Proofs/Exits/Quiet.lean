import Squitter.Proofs.Peers.Closing

/-!
# Changes in which nothing is read

A change of the station is **deaf** (`Station.Deaf`) if no receiver reads anything in it:
those that are left are as they were, and those that have come have read nothing. It is
**quiet** (`Station.Quiet`) if besides nothing at all is read from the computer's streams or
written to them (`Untapped`).

Closing peers is quiet (`quiet_close`), and so is all that is done when a child is found to have
ended (`quiet_reapChild`, `quiet_reapAll`).
-/

namespace Squitter

/-- Nothing was read yet. -/
structure Receiver.Untouched (r : Receiver) : Prop where
  decoder : r.decoder = .fresh
  buffer : r.buffer = .empty Buffer.usualCapacity

/-- Streams were closed or not watched any longer, children were looked at or made to end, and
chance was asked. No stream was read or written. -/
inductive Untapped {σ : Type} [Host σ] : σ → σ → Prop
  | refl (host : σ) : Untapped host host
  | close {host host' : σ} (h : Untapped host host') (stream : Stream) :
      Untapped host (Streams.close stream host')
  | unwatch {host host' : σ} (h : Untapped host host') (token : Nat) :
      Untapped host (Poller.unwatch token host')
  | random {host host' : σ} (h : Untapped host host') (bound : UInt64) :
      Untapped host (Host.random bound host').2
  | hasEnded {host host' : σ} (h : Untapped host host') (child : Nat) :
      Untapped host (Host.hasEnded child host').2
  | terminate {host host' : σ} (h : Untapped host host') (child : Nat) :
      Untapped host (Host.terminate child host')
  | kill {host host' : σ} (h : Untapped host host') (child : Nat) :
      Untapped host (Host.kill child host')

namespace Untapped

variable {σ : Type} [Host σ] {host host' host'' : σ}

theorem trans (h : Untapped host host') (h' : Untapped host' host'') : Untapped host host'' := by
  induction h' with
  | refl => exact h
  | close _ stream ih => exact ih.close stream
  | unwatch _ token ih => exact ih.unwatch token
  | random _ bound ih => exact ih.random bound
  | hasEnded _ child ih => exact ih.hasEnded child
  | terminate _ child ih => exact ih.terminate child
  | kill _ child ih => exact ih.kill child

end Untapped

namespace Station

variable {σ : Type} {s s' s'' : Station σ}

/-! ## Deaf changes -/

/-- Receivers are as they were, or have read nothing. -/
structure Deaf (s s' : Station σ) : Prop where
  server : s'.state.server = s.state.server
  nextId : s.state.nextId ≤ s'.state.nextId
  receivers : ∀ id r, s'.state.receivers.get? id = some r →
    s.state.receivers.get? id = some r ∨
      s.state.nextId ≤ id ∧ id < s'.state.nextId ∧ r.Untouched

theorem Deaf.trans (h : Deaf s s') (h' : Deaf s' s'') : Deaf s s'' where
  server := h'.server.trans h.server
  nextId := Nat.le_trans h.nextId h'.nextId
  receivers id r hr := by
    rcases h'.receivers id r hr with hr | ⟨hle, hlt, huntouched⟩
    · exact (h.receivers id r hr).imp_right fun ⟨hle, hlt, huntouched⟩ =>
        ⟨hle, Nat.lt_of_lt_of_le hlt h'.nextId, huntouched⟩
    · exact .inr ⟨Nat.le_trans h.nextId hle, hlt, huntouched⟩

theorem Deaf.of_bus (hserver : s'.state.server = s.state.server)
    (hid : s.state.nextId ≤ s'.state.nextId)
    (hreceivers : s'.state.receivers = s.state.receivers) : Deaf s s' where
  server := hserver
  nextId := hid
  receivers _ _ hr := .inl (hreceivers ▸ hr)

/-- A receiver comes that has read nothing. -/
theorem Deaf.insert {r : Receiver} (hserver : s'.state.server = s.state.server)
    (hid : s'.state.nextId = s.state.nextId + 1)
    (hreceivers : s'.state.receivers = s.state.receivers.insert s.state.nextId r)
    (hr : r.Untouched) : Deaf s s' where
  server := hserver
  nextId := Nat.le_of_lt (Nat.lt_of_lt_of_eq (Nat.lt_succ_self _) hid.symm)
  receivers id r' hr' := by
    rw [hreceivers, Table.get?_insert] at hr'
    by_cases h : id = s.state.nextId
    · rw [if_pos h] at hr'
      cases hr'
      exact .inr ⟨Nat.le_of_eq h.symm, by omega, hr⟩
    · rw [if_neg h] at hr'
      exact .inl hr'

theorem Deaf.refl (s : Station σ) : Deaf s s := .of_bus rfl (Nat.le_refl _) rfl

/-- One deaf change after the other. -/
theorem deaf_foldl {α : Type} {f : Station σ → α → Station σ} (h : ∀ s a, Deaf s (f s a))
    (l : List α) (s : Station σ) : Deaf s (l.foldl f s) := by
  induction l generalizing s with
  | nil => exact .refl s
  | cons a l ih => exact (h s a).trans (ih (f s a))

/-! ## Quiet changes -/

variable [Host σ]

/-- No receiver reads anything, and nothing else is read or written. -/
structure Quiet (s s' : Station σ) : Prop extends Deaf s s' where
  untapped : Untapped s.host s'.host

theorem Quiet.refl (s : Station σ) : Quiet s s := ⟨.refl s, .refl s.host⟩

theorem Quiet.trans (h : Quiet s s') (h' : Quiet s' s'') : Quiet s s'' :=
  ⟨h.toDeaf.trans h'.toDeaf, h.untapped.trans h'.untapped⟩

theorem Quiet.of_host (hstate : s'.state = s.state) (h : Untapped s.host s'.host) : Quiet s s' :=
  ⟨.of_bus (by rw [hstate]) (Nat.le_of_eq (by rw [hstate])) (by rw [hstate]), h⟩

/-- Only the bus changes, and no receiver. -/
theorem Quiet.of_bus (hserver : s'.state.server = s.state.server)
    (hid : s.state.nextId ≤ s'.state.nextId)
    (hreceivers : s'.state.receivers = s.state.receivers) (hhost : s'.host = s.host) :
    Quiet s s' :=
  ⟨.of_bus hserver hid hreceivers, hhost ▸ .refl s.host⟩

theorem quiet_foldl {α : Type} {f : Station σ → α → Station σ} (h : ∀ s a, Quiet s (f s a))
    (l : List α) (s : Station σ) : Quiet s (l.foldl f s) := by
  induction l generalizing s with
  | nil => exact .refl s
  | cons a l ih => exact (h s a).trans (ih (f s a))

theorem quiet_discard (s : Station σ) (stream : Stream) : Quiet s (s.discard stream) :=
  .of_host rfl ((Untapped.refl s.host).close stream)

theorem quiet_unregister (s : Station σ) (token : Nat) : Quiet s (s.unregister token) := by
  refine .of_host rfl ?_
  show Untapped s.host
    (if s.reactor.watched.contains token then Poller.unwatch token s.host else s.host)
  split
  · exact (Untapped.refl s.host).unwatch token
  · exact .refl s.host

theorem quiet_tell (s : Station σ) (notices : List Notice) : Quiet s (s.tell notices) :=
  .of_bus rfl (Nat.le_refl _) rfl rfl

theorem quiet_setTransport (s : Station σ) (id : Nat) (t : Transport) :
    Quiet s (s.setTransport id t) :=
  .of_bus rfl (Nat.le_refl _) rfl rfl

theorem quiet_schedule (s : Station σ) (delay : Nat) (work : Work) :
    Quiet s (s.schedule delay work) :=
  .of_host rfl (.refl s.host)

theorem quiet_hasEnded (s : Station σ) (child : Nat) : Quiet s (s.hasEnded child).2 := by
  have hhost := (Untapped.refl s.host).hasEnded child
  unfold hasEnded
  split <;> rename_i h <;> rw [h] at hhost <;> exact .of_host rfl hhost

theorem quiet_delay (s : Station σ) (attempt : UInt32) : Quiet s (s.delay attempt).2 := by
  unfold delay
  simp only
  split
  · exact .refl s
  · exact .of_host rfl ((Untapped.refl s.host).random _)

theorem quiet_retryLater (s : Station σ) (id : Nat) : Quiet s (s.retryLater id) := by
  unfold retryLater
  split
  · exact .refl s
  · exact (quiet_setTransport s id _).trans ((quiet_delay _ _).trans (quiet_schedule _ _ _))

theorem quiet_setChildPhase (s : Station σ) (id : Nat) (phase : ChildPhase) :
    Quiet s (s.setChildPhase id phase) := by
  unfold setChildPhase
  split
  · exact quiet_setTransport s id _
  · exact .refl s

/-! ## Closing -/

theorem quiet_childClosed (s : Station σ) (id : Nat) (phase : ChildPhase) :
    Quiet s (s.childClosed id phase) := by
  cases phase with
  | idle => exact quiet_retryLater s id
  | stopping child polls => exact .refl s
  | running child =>
    have hterminate : Quiet s (s.withHost (Host.terminate child s.host)) :=
      .of_host rfl ((Untapped.refl s.host).terminate child)
    refine (hterminate.trans (quiet_hasEnded _ child)).trans ?_
    unfold childClosed
    simp only
    split
    · exact quiet_retryLater _ id
    · exact (quiet_setChildPhase _ id _).trans (quiet_schedule _ _ _)

theorem quiet_ownerClosed (s : Station σ) (id : Nat) : Quiet s (s.ownerClosed id) := by
  unfold ownerClosed
  split
  · exact .refl s
  · split
    · exact quiet_retryLater s id
    · exact .refl s
    · exact quiet_childClosed s id _
    · unfold fileClosed
      split
      · exact quiet_retryLater s id
      · exact .of_bus rfl (Nat.le_refl _) rfl rfl

/-- A receiver that is taken away is not read before. -/
theorem quiet_take {half : Half} {id : Nat} {why : Reason} {tether : Tether Nat}
    (h : s.take half id why = some (tether, s')) : Quiet s s' := by
  cases half with
  | receive =>
    simp only [take] at h
    split at h
    · cases h
    · rename_i r hr
      cases h
      have herase : Quiet s (s.withBus fun b => { b with receivers := b.receivers.erase id }) := by
        refine ⟨⟨rfl, Nat.le_refl _, fun i r hi => .inl ?_⟩, .refl s.host⟩
        have hget := (Table.get?_erase s.state.receivers id i).symm.trans hi
        split at hget
        · cases hget
        · exact hget
      exact herase.trans ((quiet_unregister _ _).trans ((quiet_tell _ _).trans (quiet_discard _ _)))
  | send =>
    simp only [take] at h
    split at h
    · cases h
    · rename_i p hp
      cases h
      have herase : Quiet s (s.withBus fun b => { b with fanout := b.fanout.remove id }) :=
        .of_bus rfl (Nat.le_refl _) rfl rfl
      refine herase.trans (Quiet.trans ?_ ((quiet_tell _ _).trans (quiet_discard _ _)))
      split
      · exact quiet_unregister _ _
      · exact .refl _

/-- **Closing a peer is quiet.** What waits to be read on its stream is given up. -/
theorem quiet_close (s : Station σ) (half : Half) (id : Nat) (why : Reason) :
    Quiet s (s.close half id why) := by
  have hbridges (s : Station σ) (bridges : Bridges Nat) :
      Quiet s (s.withBus fun b => { b with bridges }) :=
    .of_bus rfl (Nat.le_refl _) rfl rfl
  rw [← station_closing]
  fun_induction closing s half id why with
  | case1 s half id why h => exact .refl s
  | case2 s half id why s' h => exact quiet_take h
  | case3 s half id why o s' h => exact (quiet_take h).trans (quiet_ownerClosed s' o)
  | case4 s half id why b s' h bridges s'' other partner c hr ih =>
    exact (quiet_take h).trans ((hbridges s' bridges).trans ih)
  | case5 s half id why b s' h bridges s'' o hr =>
    exact (quiet_take h).trans ((hbridges s' bridges).trans (quiet_ownerClosed s'' o))
  | case6 s half id why b s' h released bridges hr s'' hremaining hfinished =>
    exact (quiet_take h).trans (hbridges s' bridges)

theorem quiet_closeOwned (s : Station σ) (owner : Nat) (why : Reason) :
    Quiet s (s.closeOwned owner why).2 := by
  unfold closeOwned
  simp only
  generalize (List.map _ _ ++ List.map _ _ : List (Half × Nat)) = peers
  generalize false = any
  induction peers generalizing any s with
  | nil => exact .refl s
  | cons peer rest ih => exact (quiet_close s peer.1 peer.2 why).trans (ih _ _)

theorem quiet_closeFailed (s : Station σ) : Quiet s s.closeFailed := by
  have hreported : Quiet s (s.withBus fun b => { b with fanout := b.fanout.takeFailures.2 }) :=
    .of_bus rfl (Nat.le_refl _) rfl rfl
  exact hreported.trans (quiet_foldl (fun s id => quiet_close s .send id .writeFailed) _ _)

/-! ## Noticing the end of a child -/

/-- **A look at a child is quiet**, whether it has ended or not. -/
theorem quiet_reapChild (s : Station σ) (id : Nat) : Quiet s (s.reapChild id) := by
  unfold reapChild
  split
  · rename_i child _ _
    have hended := quiet_hasEnded s child
    rcases hresult : s.hasEnded child with ⟨ended, s'⟩
    rw [hresult] at hended
    simp only
    split
    · refine hended.trans ((quiet_setChildPhase s' id .idle).trans ?_)
      refine (quiet_closeOwned (s'.setChildPhase id .idle) id .childEnded).trans ?_
      split
      · exact .refl _
      · exact quiet_retryLater _ id
    · exact hended
  · rename_i child polls _ _
    have hended := quiet_hasEnded s child
    rcases hresult : s.hasEnded child with ⟨ended, s'⟩
    rw [hresult] at hended
    simp only
    split
    · exact hended.trans (quiet_retryLater s' id)
    · have hlook (s'' : Station σ) : Quiet s''
          ((s''.setChildPhase id (.stopping child (polls + 1))).schedule reapInterval (.reap id)) :=
        (quiet_setChildPhase s'' id _).trans (quiet_schedule _ _ _)
      split
      · have hkill : Quiet s' (s'.withHost (Host.kill child s'.host)) :=
          .of_host rfl ((Untapped.refl s'.host).kill child)
        exact hended.trans (hkill.trans (hlook _))
      · exact hended.trans (hlook s')
  · exact .refl s

theorem quiet_reapAll (s : Station σ) : Quiet s s.reapAll := quiet_foldl quiet_reapChild _ s

end Station

end Squitter
