import Squitter.Proofs.Exits.Quiet
import Squitter.Proofs.Peers.Ownership

/-!
# Who reads for a receiver

Apart from the callback of a receiver, all that a bus does is deaf (`deaf_addEndpoint`,
`deaf_onReady`, `deaf_wake`). Streams become peers only by attaching, which adds receivers that have
read nothing (`deaf_attach`); all else leaves the receivers as they are, or closes peers.
-/

namespace Squitter.Station

variable {σ : Type}

theorem deaf_withHost (s : Station σ) (host : σ) : Deaf s (s.withHost host) :=
  .of_bus rfl (Nat.le_refl _) rfl

theorem deaf_takeId (s : Station σ) : Deaf s s.takeId.2 := .of_bus rfl (Nat.le_succ _) rfl

theorem deaf_setOutgoing (s : Station σ) (id : Nat) (phase : Outgoing) :
    Deaf s (s.setOutgoing id phase) := by
  unfold setOutgoing
  split
  · exact .of_bus rfl (Nat.le_refl _) rfl
  · exact .refl s

theorem deaf_setIncoming (s : Station σ) (id : Nat) (phase : Incoming) :
    Deaf s (s.setIncoming id phase) := by
  unfold setIncoming
  split
  · exact .of_bus rfl (Nat.le_refl _) rfl
  · exact .refl s

theorem deaf_setMessages (s : Station σ) (id : Nat) (messages : Option Messages) :
    Deaf s (s.setMessages id messages) := by
  unfold setMessages
  split
  · exact .of_bus rfl (Nat.le_refl _) rfl
  · exact .refl s

variable [Host σ]

theorem deaf_register (s : Station σ) (stream : Stream) (interest : Interest) (route : Route) :
    Deaf s (s.register stream interest route).2 :=
  .of_bus rfl (Nat.le_refl _) rfl

theorem deaf_readAll (s : Station σ) (stream : Stream) : Deaf s (s.readAll stream).2 :=
  deaf_withHost s _

/-! ## Attaching -/

theorem deaf_greet (s : Station σ) (stream : Stream) (role : Role) :
    Deaf s (s.greet stream role).2 := by
  unfold greet
  split
  · exact .refl s
  · simp only
    split <;> exact .of_bus rfl (Nat.le_refl _) rfl

theorem deaf_addReceiver (s : Station σ) (stream : Stream) (tether : Tether Nat) :
    Deaf s (s.addReceiver stream tether).2 := by
  unfold addReceiver
  simp only
  split
  · rename_i h
    have hregister := deaf_register s.takeId.2 stream .readable (.receive s.takeId.1)
    rw [h] at hregister
    exact ((deaf_takeId s).trans hregister).trans (quiet_discard _ stream).toDeaf
  · rename_i token s' h
    have hstate : s'.state = s.takeId.2.state := (congrArg (fun r => r.2.state) h).symm
    have hreceivers : s'.state.receivers = s.state.receivers := (congrArg Bus.receivers hstate :)
    refine .insert (r := .fresh (Host.freshId s'.host).1 stream token tether)
      (congrArg Bus.server hstate :) (congrArg Bus.nextId hstate :) ?_ ⟨rfl, rfl⟩
    rw [← hreceivers]
    rfl

theorem deaf_addSender (s : Station σ) (stream : Stream) (format : Format) (tether : Tether Nat)
    (watch : Bool) : Deaf s (s.addSender stream format tether watch).2 := by
  have hnumber : s.state.nextId ≤ s.state.nextId + 1 := Nat.le_succ _
  unfold addSender
  simp only
  split
  · split <;> exact .of_bus rfl hnumber rfl
  · exact .of_bus rfl hnumber rfl

theorem deaf_addBoth (s : Station σ) (stream : Stream) (format : Format) (owner : Option Nat) :
    Deaf s (s.addBoth stream format owner).2 := by
  unfold addBoth
  split
  · exact .of_bus rfl (Nat.le_refl _) rfl
  · rename_i half host _
    have hbridge : Deaf s ((s.withHost host).withBus fun b =>
        { b with bridges := s.state.bridges.allocate.2 }) :=
      .of_bus rfl (Nat.le_refl _) rfl
    have hsender := hbridge.trans
      (deaf_addSender _ half format (.bridge s.state.bridges.allocate.1) false)
    simp only
    split
    · rename_i h
      rw [h] at hsender
      exact hsender.trans (quiet_discard _ stream).toDeaf
    · rename_i s' h
      rw [h] at hsender
      have hreceiver := hsender.trans
        (deaf_addReceiver s' stream (.bridge s.state.bridges.allocate.1))
      split
      · rename_i h'
        rw [h'] at hreceiver
        exact hreceiver.trans (.of_bus rfl (Nat.le_refl _) rfl)
      · rename_i h'
        rw [h'] at hreceiver
        exact hreceiver.trans (.of_bus rfl (Nat.le_refl _) rfl)

/-- **Attaching is deaf.** -/
theorem deaf_attach (s : Station σ) (stream : Stream) (role : Role) (owner : Option Nat) :
    Deaf s (s.attach stream role owner).2 := by
  have hgreet := deaf_greet s stream role
  unfold attach
  split
  · rename_i h
    rw [h] at hgreet
    exact hgreet.trans (quiet_discard _ stream).toDeaf
  · rename_i s' h
    rw [h] at hgreet
    refine hgreet.trans ?_
    cases role with
    | receive => exact deaf_addReceiver s' stream _
    | send format => exact deaf_addSender s' stream format _ _
    | sendReceive format => exact deaf_addBoth s' stream format owner

/-- A stream is attached, or something else is done about it. -/
theorem deaf_attach_or (s : Station σ) (stream : Stream) (role : Role) (owner : Option Nat)
    {f : Station σ → Station σ} (hf : ∀ s, Deaf s (f s)) :
    Deaf s (match s.attach stream role owner with
      | (.error _, s) => f s
      | (.ok (), s) => s) := by
  have hattach := deaf_attach s stream role owner
  split <;> rename_i h <;> rw [h] at hattach
  · exact hattach.trans (hf _)
  · exact hattach

/-! ## Connections -/

theorem deaf_startLookup (s : Station σ) (id : Nat) (q : Query) :
    Deaf s (s.startLookup id q).2 := by
  unfold startLookup
  split
  · exact deaf_withHost s _
  · rename_i lookup host _
    have hregister := (deaf_withHost s host).trans
      (deaf_register _ lookup .readable (.transport id))
    split <;> rename_i h <;> rw [h] at hregister
    · exact hregister.trans (quiet_discard _ lookup).toDeaf
    · exact hregister

theorem deaf_takeAnswer (s : Station σ) (lookup : Stream) (token : Nat) :
    Deaf s (s.takeAnswer lookup token).2 := by
  unfold takeAnswer
  split
  · exact deaf_withHost s _
  · exact ((deaf_withHost s _).trans (quiet_unregister _ token).toDeaf).trans
      (quiet_discard _ lookup).toDeaf

theorem deaf_resolveOutgoing (s : Station σ) (id : Nat) (host port : String) :
    Deaf s (s.resolveOutgoing id host port) := by
  have hlookup := deaf_startLookup s id ⟨some host, port, false⟩
  unfold resolveOutgoing
  split <;> rename_i h <;> rw [h] at hlookup
  · exact hlookup.trans (quiet_retryLater _ id).toDeaf
  · exact hlookup.trans (deaf_setOutgoing _ id _)

theorem deaf_outgoingConnected (s : Station σ) (id : Nat) (stream : Stream) :
    Deaf s (s.outgoingConnected id stream) := by
  unfold outgoingConnected
  split
  · exact (quiet_discard s stream).toDeaf
  · exact ((quiet_setTransport s id _).toDeaf.trans (deaf_setOutgoing _ id .connected)).trans
      (deaf_attach_or _ stream _ (some id) fun s => (quiet_retryLater s id).toDeaf)

theorem deaf_connectTo (s : Station σ) (id : Nat) (addresses : List Address) :
    Deaf s (s.connectTo id addresses) := by
  induction addresses generalizing s with
  | nil => exact (quiet_retryLater s id).toDeaf
  | cons address others ih =>
    unfold connectTo
    split
    · exact (deaf_withHost s _).trans (ih _)
    · exact (deaf_withHost s _).trans (deaf_outgoingConnected _ id _)
    · rename_i stream host _
      have hregister := (deaf_withHost s host).trans
        (deaf_register _ stream .writable (.transport id))
      split <;> rename_i h <;> rw [h] at hregister
      · exact hregister.trans ((quiet_discard _ stream).toDeaf.trans (ih _))
      · exact hregister.trans (deaf_setOutgoing _ id _)

theorem deaf_outgoingReady (s : Station σ) (id : Nat) (phase : Outgoing) :
    Deaf s (s.outgoingReady id phase) := by
  cases phase with
  | idle => exact .refl s
  | connected => exact .refl s
  | resolving lookup token =>
    have hanswer := deaf_takeAnswer s lookup token
    unfold outgoingReady
    simp only
    split <;> rename_i h <;> rw [h] at hanswer
    · exact hanswer
    · exact hanswer.trans (deaf_connectTo _ id _)
    · exact hanswer.trans (quiet_retryLater _ id).toDeaf
  | connecting stream others token =>
    have hunregister := (quiet_unregister s token).toDeaf
    unfold outgoingReady
    simp only
    split
    · exact hunregister.trans ((deaf_withHost _ _).trans (deaf_outgoingConnected _ id stream))
    · exact hunregister.trans ((deaf_withHost _ _).trans
        ((quiet_discard _ stream).toDeaf.trans (deaf_connectTo _ id others)))

theorem deaf_resolveIncoming (s : Station σ) (id : Nat) (host : Option String) (port : String) :
    Deaf s (s.resolveIncoming id host port) := by
  have hlookup := deaf_startLookup s id ⟨host, port, true⟩
  unfold resolveIncoming
  split <;> rename_i h <;> rw [h] at hlookup
  · exact hlookup.trans (quiet_retryLater _ id).toDeaf
  · exact hlookup.trans (deaf_setIncoming _ id _)

theorem deaf_listenAt (s : Station σ) (id : Nat) (addresses : List Address) :
    Deaf s (s.listenAt id addresses) := by
  induction addresses generalizing s with
  | nil => exact (quiet_retryLater s id).toDeaf
  | cons address others ih =>
    unfold listenAt
    split
    · exact (deaf_withHost s _).trans (ih _)
    · rename_i listener host _
      have hregister := (deaf_withHost s host).trans
        (deaf_register _ listener .readable (.transport id))
      split <;> rename_i h <;> rw [h] at hregister
      · exact hregister.trans ((quiet_discard _ listener).toDeaf.trans (ih _))
      · refine hregister.trans ?_
        split
        · exact .refl _
        · exact (quiet_setTransport _ id _).toDeaf.trans (deaf_setIncoming _ id _)

theorem deaf_incomingReady (s : Station σ) (id : Nat) (role : Role) (phase : Incoming) :
    Deaf s (s.incomingReady id role phase) := by
  cases phase with
  | idle => exact .refl s
  | resolving lookup token =>
    have hanswer := deaf_takeAnswer s lookup token
    unfold incomingReady
    simp only
    split <;> rename_i h <;> rw [h] at hanswer
    · exact hanswer
    · exact hanswer.trans (deaf_listenAt _ id _)
    · exact hanswer.trans (quiet_retryLater _ id).toDeaf
  | listening listener token =>
    exact (deaf_withHost s _).trans
      (deaf_foldl (fun s stream => deaf_attach s stream role none) _ _)

/-! ## Children -/

theorem deaf_dropMessages (s : Station σ) (id : Nat) (m : Messages) :
    Deaf s (s.dropMessages id m) :=
  ((quiet_unregister s m.token).trans (quiet_discard _ m.stream)).toDeaf.trans
    (deaf_setMessages _ id none)

theorem deaf_watchMessages (s : Station σ) (id : Nat) (old : Option Messages) (stream : Stream) :
    Deaf s (s.watchMessages id old stream) := by
  have hwatch (s : Station σ) : Deaf s (s.watchMessages id none stream) := by
    have hregister := deaf_register s stream .readable (.messages id)
    unfold watchMessages
    simp only
    split <;> rename_i h <;> rw [h] at hregister
    · exact hregister.trans (quiet_discard _ stream).toDeaf
    · exact hregister.trans (deaf_setMessages _ id _)
  cases old with
  | none => exact hwatch s
  | some m => exact (deaf_dropMessages s id m).trans (hwatch _)

theorem deaf_messagesReady (s : Station σ) (id : Nat) : Deaf s (s.messagesReady id) := by
  unfold messagesReady
  split
  · rename_i m _
    have hread := deaf_readAll s m.stream
    rcases hresult : s.readAll m.stream with ⟨⟨bytes, ending⟩, s'⟩
    rw [hresult] at hread
    simp only
    have htold := hread.trans (quiet_tell s'
      ((Lines.take (m.unfinished ++ bytes) ending.isSome).1.map
      .childOutput)).toDeaf
    refine htold.trans ?_
    split
    · exact deaf_dropMessages _ id m
    · exact deaf_setMessages _ id _
  · exact .refl s

theorem deaf_spawnChild (s : Station σ) (id : Nat) : Deaf s (s.spawnChild id) := by
  unfold spawnChild
  split
  · split
    · exact (deaf_withHost s _).trans (quiet_retryLater _ id).toDeaf
    · rename_i role _ command _ messages _ _ spawned host _
      have hset := (deaf_withHost s host).trans (quiet_setTransport _ id
        ⟨role, 0, .child command (.running spawned.child) messages⟩).toDeaf
      exact (hset.trans (deaf_watchMessages _ id messages spawned.messages)).trans
        (deaf_attach_or _ spawned.stream role (some id) fun s => (quiet_ownerClosed s id).toDeaf)
  · exact .refl s

/-! ## Files, and attempts of all kinds -/

theorem deaf_openFile (s : Station σ) (id : Nat) (role : Role) (source : Source) :
    Deaf s (s.openFile id role source) := by
  have hopen : Deaf s (s.openSource source role).2 := deaf_withHost s _
  unfold openFile
  split <;> rename_i h <;> rw [h] at hopen
  · exact hopen.trans (quiet_ownerClosed _ id).toDeaf
  · exact (hopen.trans (quiet_setTransport _ id _).toDeaf).trans
      (deaf_attach_or _ _ role (some id) fun s => (quiet_ownerClosed s id).toDeaf)

theorem deaf_start (s : Station σ) (id : Nat) : Deaf s (s.start id) := by
  unfold start
  split
  · exact .refl s
  · split
    · exact deaf_resolveOutgoing s id _ _
    · exact deaf_resolveIncoming s id _ _
    · exact deaf_spawnChild s id
    · exact deaf_openFile s id _ _
    · exact .refl s

/-- **Adding an endpoint is deaf.** -/
theorem deaf_addEndpoint (s : Station σ) (e : Endpoint) : Deaf s (s.addEndpoint e) := by
  have hflow (s : Station σ) : Deaf s (s.withBus fun b => { b with flow := b.flow.add e.role }) :=
    .of_bus rfl (Nat.le_refl _) rfl
  exact (deaf_takeId s).trans ((hflow _).trans
    ((quiet_setTransport _ _ _).toDeaf.trans (deaf_start _ _)))

/-! ## Callbacks -/

theorem deaf_transportReady (s : Station σ) (id : Nat) : Deaf s (s.transportReady id) := by
  unfold transportReady
  split
  · exact deaf_outgoingReady s id _
  · exact deaf_incomingReady s id _ _
  · exact .refl s

theorem deaf_sendReady (s : Station σ) (id : Nat) : Deaf s (s.sendReady id) := by
  unfold sendReady
  split
  · exact .refl s
  · rename_i p _
    have hread := deaf_readAll s p.stream
    split <;> rename_i h <;> rw [h] at hread
    · exact hread.trans (quiet_close _ .send id _).toDeaf
    · exact hread

/-- **A callback is deaf**, unless it is that of a receiver. -/
theorem deaf_onReady (s : Station σ) (route : Route) (h : ∀ id, route ≠ .receive id) :
    Deaf s (s.onReady route) := by
  refine Deaf.trans ?_ (quiet_closeFailed _).toDeaf
  cases route with
  | transport id => exact deaf_transportReady s id
  | messages id => exact deaf_messagesReady s id
  | receive id => exact absurd rfl (h id)
  | send id => exact deaf_sendReady s id

/-- **Work is deaf.** -/
theorem deaf_wake (s : Station σ) (now : Nat) : Deaf s (s.wake now) := by
  unfold wake
  split
  · exact .refl s
  · rename_i work timers _
    have htimers : Deaf s { s with reactor := { s.reactor with timers } } :=
      .of_bus rfl (Nat.le_refl _) rfl
    refine htimers.trans (Deaf.trans ?_ (quiet_closeFailed _).toDeaf)
    cases work with
    | retry id => exact deaf_start _ id
    | reap id => exact (quiet_reapChild _ id).toDeaf

end Squitter.Station
