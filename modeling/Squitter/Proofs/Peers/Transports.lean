import Squitter.Bus.Loop
import Squitter.Proofs.Peers.Leading

/-!
# What transports do

Transports watch lookups, connections that were begun, listeners and the messages of children, all
of them under spare tokens, so that none of it has to do with peers. Streams become peers only by
attaching, and peers go only by closing. So all that transports do leads from one state to another.
-/

namespace Squitter.Station

variable {σ : Type} {s : Station σ}

/-! ## Phases -/

theorem keeps_setOutgoing (s : Station σ) (id : Nat) (phase : Outgoing)
    (h : ∀ host port, ∀ token ∈ (Mechanism.outgoing host port phase).tokens, s.Spare token) :
    Keeps s (s.setOutgoing id phase) := by
  unfold setOutgoing
  split
  · exact keeps_setTransport fun _ => h _ _
  · exact .refl s

theorem keeps_setIncoming (s : Station σ) (id : Nat) (phase : Incoming)
    (h : ∀ host port, ∀ token ∈ (Mechanism.incoming host port phase).tokens, s.Spare token) :
    Keeps s (s.setIncoming id phase) := by
  unfold setIncoming
  split
  · exact keeps_setTransport fun _ => h _ _
  · exact .refl s

theorem keeps_setMessages (s : Station σ) (id : Nat) {messages : Option Messages}
    (h : ∀ m ∈ messages, s.Spare m.token) : Keeps s (s.setMessages id messages) := by
  unfold setMessages
  split
  · refine keeps_setTransport fun _ token htoken => ?_
    obtain ⟨m, hm, rfl⟩ := List.mem_map.1 htoken
    exact h m (Option.mem_toList.1 hm)
  · exact .refl s

/-- The token of a child's messages is one that its transport remembers. -/
theorem spare_messages (hs : s.Sound) {id : Nat} {role : Role} {attempt : UInt32} {command : String}
    {phase : ChildPhase} {messages : Option Messages}
    (ht : s.transport? id = some ⟨role, attempt, .child command phase messages⟩) :
    ∀ m ∈ messages, s.Spare m.token := fun m hm =>
  hs.spare id _ ht m.token (List.mem_map.2 ⟨m, Option.mem_toList.2 hm, rfl⟩)

variable [Host σ]

/-! ## Looking up -/

/-- **All that starting a lookup can do.** -/
theorem startLookup_cases (hb : s.reactor.Bounded) (id : Nat) (q : Query) :
    (∃ e s', s.startLookup id q = (.error e, s') ∧ Aside s s') ∨
    ∃ lookup token s', s.startLookup id q = (.ok (lookup, token), s') ∧ Aside s s' ∧
      s'.Spare token := by
  rcases h : Host.lookup q s.host with ⟨e | lookup, host⟩
  · exact .inl ⟨e, _, by rw [startLookup, h], aside_withHost s host⟩
  · have hhost := aside_withHost s host
    rcases register_spare_cases (hhost.bounded hb) lookup .readable (.transport id)
        (fun half _ => by cases half <;> rintro ⟨⟩) with
      ⟨e, s', h', haside⟩ | ⟨token, s', h', haside, hspare⟩
    · exact .inl ⟨e, _, by simp only [startLookup, h, h'],
        (hhost.trans haside).trans (aside_discard s' lookup)⟩
    · exact .inr ⟨lookup, token, s', by simp only [startLookup, h, h'], hhost.trans haside, hspare⟩

theorem aside_takeAnswer {token : Nat} (h : s.Spare token) (lookup : Stream) :
    Aside s (s.takeAnswer lookup token).2 := by
  unfold takeAnswer
  split
  · exact aside_withHost s _
  · have hhost := aside_withHost s ‹σ›
    exact hhost.trans ((aside_unregister (hhost.spare h)).trans (aside_discard _ lookup))

/-! ## Streams that are there -/

/-- A stream is attached, or something else is done about it. -/
theorem leads_attach_or (s : Station σ) (stream : Stream) (role : Role) (owner : Option Nat)
    {f : Station σ → Station σ} (hf : ∀ s, Leads s (f s)) :
    Leads s (match s.attach stream role owner with
      | (.error _, s) => f s
      | (.ok (), s) => s) := by
  have hattach := leads_attach s stream role owner
  split
  · rename_i h
    rw [h] at hattach
    exact hattach.trans (hf _)
  · rename_i h
    rw [h] at hattach
    exact hattach

/-! ## Outgoing connections -/

theorem leads_resolveOutgoing (s : Station σ) (id : Nat) (host port : String) :
    Leads s (s.resolveOutgoing id host port) := by
  refine .of_sound fun hsound => ?_
  unfold resolveOutgoing
  rcases startLookup_cases hsound.bounded id ⟨some host, port, false⟩ with
    ⟨e, s', h, haside⟩ | ⟨lookup, token, s', h, haside, hspare⟩
  · rw [h]
    exact haside.leads.trans (keeps_retryLater s' id).leads
  · rw [h]
    refine haside.leads.trans (keeps_setOutgoing s' id _ fun _ _ t ht => ?_).leads
    exact List.mem_singleton.1 ht ▸ hspare

theorem leads_outgoingConnected (s : Station σ) (id : Nat) (stream : Stream) :
    Leads s (s.outgoingConnected id stream) := by
  unfold outgoingConnected
  cases ht : s.transport? id with
  | none => exact (aside_discard s stream).leads
  | some t =>
    have hset : Keeps s (s.setTransport id { t with attempt := 0 }) :=
      keeps_setTransport_of_subset ht fun _ htoken => htoken
    refine (hset.trans (keeps_setOutgoing _ id .connected fun _ _ => nofun)).leads.trans ?_
    exact leads_attach_or _ stream t.role (some id) fun s => (keeps_retryLater s id).leads

theorem leads_connectTo (s : Station σ) (id : Nat) (addresses : List Address) :
    Leads s (s.connectTo id addresses) := by
  induction addresses generalizing s with
  | nil => exact (keeps_retryLater s id).leads
  | cons address others ih =>
    unfold connectTo
    split
    · exact (aside_withHost s _).leads.trans (ih _)
    · exact (aside_withHost s _).leads.trans (leads_outgoingConnected _ id _)
    · rename_i stream host _
      refine (aside_withHost s host).leads.trans (.of_sound fun hsound => ?_)
      rcases register_spare_cases hsound.bounded stream .writable (.transport id)
          (fun half _ => by cases half <;> rintro ⟨⟩) with
        ⟨e, s', h, haside⟩ | ⟨token, s', h, haside, hspare⟩
      · rw [h]
        exact (haside.trans (aside_discard s' stream)).leads.trans (ih _)
      · rw [h]
        refine haside.leads.trans (keeps_setOutgoing s' id _ fun _ _ t ht => ?_).leads
        exact List.mem_singleton.1 ht ▸ hspare

theorem leads_outgoingReady (s : Station σ) (id : Nat) {phase : Outgoing}
    (h : ∀ host port, ∀ token ∈ (Mechanism.outgoing host port phase).tokens, s.Spare token) :
    Leads s (s.outgoingReady id phase) := by
  cases phase with
  | idle => exact .refl s
  | connected => exact .refl s
  | resolving lookup token =>
    have haside := aside_takeAnswer (h "" "" token (List.mem_singleton_self _)) lookup
    rcases hanswer : s.takeAnswer lookup token with ⟨_ | _ | addresses, s'⟩ <;>
      rw [hanswer] at haside <;> simp only [outgoingReady, hanswer]
    · exact haside.leads
    · exact haside.leads.trans (keeps_retryLater s' id).leads
    · exact haside.leads.trans (leads_connectTo s' id addresses)
  | connecting stream others token =>
    have haside := aside_unregister (h "" "" token (List.mem_singleton_self _))
    refine haside.leads.trans ?_
    simp only [outgoingReady]
    split
    · exact (aside_withHost _ _).leads.trans (leads_outgoingConnected _ id stream)
    · exact ((aside_withHost _ _).trans (aside_discard _ stream)).leads.trans
        (leads_connectTo _ id others)

/-! ## Listeners -/

theorem leads_resolveIncoming (s : Station σ) (id : Nat) (host : Option String) (port : String) :
    Leads s (s.resolveIncoming id host port) := by
  refine .of_sound fun hsound => ?_
  unfold resolveIncoming
  rcases startLookup_cases hsound.bounded id ⟨host, port, true⟩ with
    ⟨e, s', h, haside⟩ | ⟨lookup, token, s', h, haside, hspare⟩
  · rw [h]
    exact haside.leads.trans (keeps_retryLater s' id).leads
  · rw [h]
    refine haside.leads.trans (keeps_setIncoming s' id _ fun _ _ t ht => ?_).leads
    exact List.mem_singleton.1 ht ▸ hspare

theorem leads_listenAt (s : Station σ) (id : Nat) (addresses : List Address) :
    Leads s (s.listenAt id addresses) := by
  induction addresses generalizing s with
  | nil => exact (keeps_retryLater s id).leads
  | cons address others ih =>
    unfold listenAt
    split
    · exact (aside_withHost s _).leads.trans (ih _)
    · rename_i listener host _
      refine (aside_withHost s host).leads.trans (.of_sound fun hsound => ?_)
      rcases register_spare_cases hsound.bounded listener .readable (.transport id)
          (fun half _ => by cases half <;> rintro ⟨⟩) with
        ⟨e, s', h, haside⟩ | ⟨token, s', h, haside, hspare⟩
      · rw [h]
        exact (haside.trans (aside_discard s' listener)).leads.trans (ih _)
      · rw [h]
        refine haside.leads.trans ?_
        cases ht : s'.transport? id with
        | none =>
          simp only [ht]
          exact .refl s'
        | some t =>
          simp only [ht]
          have hset : Keeps s' (s'.setTransport id { t with attempt := 0 }) :=
            keeps_setTransport_of_subset ht fun _ htoken => htoken
          refine (hset.trans (keeps_setIncoming _ id _ fun _ _ t ht => ?_)).leads
          exact List.mem_singleton.1 ht ▸ hset.spare hspare

theorem leads_incomingReady (s : Station σ) (id : Nat) (role : Role) {phase : Incoming}
    (h : ∀ host port, ∀ token ∈ (Mechanism.incoming host port phase).tokens, s.Spare token) :
    Leads s (s.incomingReady id role phase) := by
  cases phase with
  | idle => exact .refl s
  | resolving lookup token =>
    have haside := aside_takeAnswer (h none "" token (List.mem_singleton_self _)) lookup
    rcases hanswer : s.takeAnswer lookup token with ⟨_ | _ | addresses, s'⟩ <;>
      rw [hanswer] at haside <;> simp only [incomingReady, hanswer]
    · exact haside.leads
    · exact haside.leads.trans (keeps_retryLater s' id).leads
    · exact haside.leads.trans (leads_listenAt s' id addresses)
  | listening listener token =>
    exact (aside_withHost s _).leads.trans
      (leads_foldl (fun s stream => leads_attach s stream role none) _ _)

/-! ## Children -/

theorem aside_readAll (s : Station σ) (stream : Stream) : Aside s (s.readAll stream).2 :=
  aside_withHost s _

/-- The messages of a child are no longer watched. -/
theorem keeps_dropMessages {m : Messages} (h : s.Spare m.token) (id : Nat) :
    Keeps s (s.dropMessages id m) :=
  ((aside_unregister h).trans (aside_discard _ m.stream)).keeps.trans
    (keeps_setMessages _ id fun _ hm => by cases hm)

theorem leads_watchMessages_none (s : Station σ) (id : Nat) (stream : Stream) :
    Leads s (s.watchMessages id none stream) := by
  refine .of_sound fun hsound => ?_
  rcases register_spare_cases hsound.bounded stream .readable (.messages id)
      (fun half _ => by cases half <;> rintro ⟨⟩) with
    ⟨e, s', h, haside⟩ | ⟨token, s', h, haside, hspare⟩ <;>
    simp only [watchMessages, h]
  · exact (haside.trans (aside_discard s' stream)).leads
  · refine haside.leads.trans (keeps_setMessages s' id fun m hm => ?_).leads
    cases hm
    exact hspare

theorem leads_watchMessages {old : Option Messages} (h : ∀ m ∈ old, s.Spare m.token) (id : Nat)
    (stream : Stream) : Leads s (s.watchMessages id old stream) := by
  cases old with
  | none => exact leads_watchMessages_none s id stream
  | some m =>
    exact (keeps_dropMessages (h m rfl) id).leads.trans (leads_watchMessages_none _ id stream)

theorem closed?_childOutput (lines : List String) :
    ∀ n ∈ lines.map Notice.childOutput, n.closed? = none := by
  intro n hn
  obtain ⟨line, -, rfl⟩ := List.mem_map.1 hn
  rfl

theorem leads_messagesReady (s : Station σ) (id : Nat) : Leads s (s.messagesReady id) := by
  refine .of_sound fun hsound => ?_
  unfold messagesReady
  split
  · rename_i m ht
    have hspare := spare_messages hsound ht m rfl
    have hread := aside_readAll s m.stream
    rcases hresult : s.readAll m.stream with ⟨⟨bytes, ending⟩, s'⟩
    rw [hresult] at hread
    simp only
    have htell := hread.trans (aside_tell s'
      (closed?_childOutput (Lines.take (m.unfinished ++ bytes) ending.isSome).1))
    refine htell.leads.trans ?_
    split
    · exact (keeps_dropMessages (htell.spare hspare) id).leads
    · refine (keeps_setMessages _ id fun m' hm => ?_).leads
      cases hm
      exact htell.spare hspare
  · exact .refl s

theorem leads_spawnChild (s : Station σ) (id : Nat) : Leads s (s.spawnChild id) := by
  refine .of_sound fun hsound => ?_
  unfold spawnChild
  split
  · rename_i role attempt command phase messages ht
    split
    · exact (aside_withHost s _).leads.trans (keeps_retryLater _ id).leads
    · rename_i spawned host _
      have hset : Keeps (s.withHost host) ((s.withHost host).setTransport id
          ⟨role, 0, .child command (.running spawned.child) messages⟩) :=
        keeps_setTransport_of_subset ht fun _ htoken => htoken
      have hkeeps := (aside_withHost s host).keeps.trans hset
      have hwatch := leads_watchMessages (fun m (hm : m ∈ messages) =>
        hkeeps.spare (spare_messages hsound ht m hm)) id spawned.messages
      exact (hkeeps.leads.trans hwatch).trans
        (leads_attach_or _ spawned.stream role (some id) fun s => leads_ownerClosed s id)
  · exact .refl s

theorem leads_reapChild (s : Station σ) (id : Nat) : Leads s (s.reapChild id) := by
  unfold reapChild
  split
  · rename_i child _ _
    have hended := (aside_hasEnded s child).leads
    rcases hresult : s.hasEnded child with ⟨ended, s'⟩
    rw [hresult] at hended
    simp only
    split
    · refine hended.trans ((keeps_setChildPhase s' id .idle).leads.trans ?_)
      have hclose := leads_closeOwned (s'.setChildPhase id .idle) id .childEnded
      refine hclose.trans ?_
      split
      · exact .refl _
      · exact (keeps_retryLater _ id).leads
    · exact hended
  · rename_i child polls _ _
    have hended := (aside_hasEnded s child).leads
    rcases hresult : s.hasEnded child with ⟨ended, s'⟩
    rw [hresult] at hended
    simp only
    split
    · exact hended.trans (keeps_retryLater s' id).leads
    · have hlook (s'' : Station σ) : Leads s''
          ((s''.setChildPhase id (.stopping child (polls + 1))).schedule reapInterval (.reap id)) :=
        ((keeps_setChildPhase s'' id _).trans (aside_schedule _ _ _).keeps).leads
      split
      · exact hended.trans ((aside_withHost s' _).leads.trans (hlook _))
      · exact hended.trans (hlook s')
  · exact .refl s

theorem leads_reapAll (s : Station σ) : Leads s s.reapAll := leads_foldl leads_reapChild _ s

/-! ## Files, and attempts of all kinds -/

theorem leads_openFile (s : Station σ) (id : Nat) (role : Role) (source : Source) :
    Leads s (s.openFile id role source) := by
  have hopen : Aside s (s.openSource source role).2 := aside_withHost s _
  unfold openFile
  rcases hresult : s.openSource source role with ⟨_ | stream, s'⟩ <;> rw [hresult] at hopen
  · exact hopen.leads.trans (leads_ownerClosed s' id)
  · have hset : Keeps s' (s'.setTransport id ⟨role, 0, .file source (opensAgain source stream)⟩) :=
      keeps_setTransport fun _ _ => nofun
    exact (hopen.leads.trans hset.leads).trans
      (leads_attach_or _ stream role (some id) fun s => leads_ownerClosed s id)

theorem leads_start (s : Station σ) (id : Nat) : Leads s (s.start id) := by
  unfold start
  split
  · exact .refl s
  · split
    · exact leads_resolveOutgoing s id _ _
    · exact leads_resolveIncoming s id _ _
    · exact leads_spawnChild s id
    · exact leads_openFile s id _ _
    · exact .refl s

theorem leads_addEndpoint (s : Station σ) (e : Endpoint) : Leads s (s.addEndpoint e) := by
  have hset :=
    (aside_takeId s).keeps.trans (aside_withFlow s.takeId.2 (s.state.flow.add e.role)).keeps
  refine hset.leads.trans (Leads.trans (keeps_setTransport fun _ token htoken => ?_).leads
    (leads_start _ _))
  obtain ⟨role, target⟩ := e
  cases target <;> cases htoken

theorem leads_transportReady (s : Station σ) (id : Nat) : Leads s (s.transportReady id) := by
  refine .of_sound fun hsound => ?_
  unfold transportReady
  split
  · rename_i host port phase ht
    exact leads_outgoingReady s id fun _ _ token htoken =>
      hsound.spare id _ ht token (by cases phase <;> exact htoken)
  · rename_i host port phase ht
    exact leads_incomingReady s id _ fun _ _ token htoken =>
      hsound.spare id _ ht token (by cases phase <;> exact htoken)
  · exact .refl s

theorem leads_sendReady (s : Station σ) (id : Nat) : Leads s (s.sendReady id) := by
  unfold sendReady
  split
  · exact .refl s
  · rename_i p _
    have hread := aside_readAll s p.stream
    rcases hresult : s.readAll p.stream with ⟨⟨bytes, _ | why⟩, s'⟩ <;> rw [hresult] at hread
    · exact hread.leads
    · exact hread.leads.trans (leads_close s' .send id why)

end Squitter.Station
