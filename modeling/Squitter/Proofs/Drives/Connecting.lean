import Squitter.Proofs.Drives.Streams
import Squitter.Proofs.Peers.Transports

/-!
# Attempts to connect, to listen and to open

An attempt begins with a stranded transport and settles it, whatever the computer answers: a lookup,
a connection or a listener is watched (`Station.Awaits`), a stream is attached, or the transport
rests. The addresses of a host are tried one after the other, by induction on their list
(`settles_connectTo`, `settles_listenAt`).
-/

namespace Squitter.Station

variable {σ : Type} {s s' s'' : Station σ} {i token : Nat} {d : Drive} {t : Transport}

/-! ## Waiting for what is watched -/

/-- Something is watched for a transport that was not watched before. -/
structure Awaits (s s' : Station σ) (i token : Nat) : Prop where
  others : Leaves s s' i
  transport : s'.transport? i = s.transport? i
  has : ∀ d, s.Has i d → d.watch = none → s'.Has i { d with watch := some token }

theorem Watches.awaits (h : Watches s s' token (.transport i)) : Awaits s s' i token :=
  ⟨h.leaves rfl, h.transport? i, fun _ hd hwatch => h.has_watch hd hwatch⟩

theorem Still.awaits (h : Still s s') (h' : Awaits s' s'' i token) : Awaits s s'' i token :=
  ⟨(h.leaves i).trans h'.others, h'.transport.trans (h.transport? i), fun d hd =>
    h'.has d ((h.unmoved i).has d hd)⟩

/-- A transport that remembers what is watched for it is driven. -/
theorem Awaits.settles (h : Awaits s s' i token) (hs : s.Stranded i t) {u : Transport}
    (hstatus : u.mechanism.status = .watching token)
    (hmessages : u.mechanism.messages? = t.mechanism.messages?) :
    Settles s (s'.setTransport i u) i := by
  refine ⟨h.others.trans (leaves_setTransport s' i u), ?_⟩
  refine driven_of_wants (t := u) (by rw [transport?_setTransport, if_pos rfl]) ?_
    ((h.has _ hs.has rfl).setTransport i u)
  rw [hstatus, hmessages]
  rfl

theorem Driven.has_watching (h : s.Driven i) (ht : s.transport? i = some t)
    (hstatus : t.mechanism.status = .watching token) :
    s.Has i (.watching t.mechanism.messages? token) := by
  obtain ⟨d, hwants, hd⟩ := h.exists_has ht
  rw [hstatus] at hwants
  exact hwants ▸ hd

/-! ## Phases -/

theorem setOutgoing_eq {role : Role} {attempt : UInt32} {host port : String} {phase : Outgoing}
    (ht : s.transport? i = some ⟨role, attempt, .outgoing host port phase⟩) (phase' : Outgoing) :
    s.setOutgoing i phase' = s.setTransport i ⟨role, attempt, .outgoing host port phase'⟩ := by
  rw [setOutgoing, ht]

theorem setIncoming_eq {role : Role} {attempt : UInt32} {host : Option String} {port : String}
    {phase : Incoming} (ht : s.transport? i = some ⟨role, attempt, .incoming host port phase⟩)
    (phase' : Incoming) :
    s.setIncoming i phase' = s.setTransport i ⟨role, attempt, .incoming host port phase'⟩ := by
  rw [setIncoming, ht]

theorem settles_setOutgoing {role : Role} {attempt : UInt32} {host port : String}
    {phase : Outgoing} (h : Awaits s s' i token)
    (hs : s.Stranded i ⟨role, attempt, .outgoing host port phase⟩) {phase' : Outgoing}
    (hstatus : (Mechanism.outgoing host port phase').status = .watching token) :
    Settles s (s'.setOutgoing i phase') i := by
  rw [setOutgoing_eq (h.transport.trans hs.transport)]
  exact h.settles hs hstatus rfl

theorem settles_setIncoming {role : Role} {attempt : UInt32} {host : Option String}
    {port : String} {phase : Incoming} (h : Awaits s s' i token)
    (hs : s.Stranded i ⟨role, attempt, .incoming host port phase⟩) {phase' : Incoming}
    (hstatus : (Mechanism.incoming host port phase').status = .watching token) :
    Settles s (s'.setIncoming i phase') i := by
  rw [setIncoming_eq (h.transport.trans hs.transport)]
  exact h.settles hs hstatus rfl

variable [Host σ]

theorem strands_unregister (hs : s.Sound) (h : s.Driven i) (ht : s.transport? i = some t)
    (hstatus : t.mechanism.status = .watching token) : Strands s (s.unregister token) i t := by
  have hd := h.has_watching ht hstatus
  exact ⟨hd.leaves_unregister hs.bounded (.inl rfl), ht, hd.unwatch hs.bounded rfl⟩

theorem sound_unregister (hs : s.Sound) (h : s.Driven i) (ht : s.transport? i = some t)
    (hstatus : t.mechanism.status = .watching token) : (s.unregister token).Sound :=
  ((h.has_watching ht hstatus).aside_unregister hs.bounded (.inl rfl)).keeps.sound hs

/-- **What asking for the answer of a lookup does**: nothing, or the lookup is over. -/
theorem takeAnswer_cases (hs : s.Sound) (h : s.Driven i) (ht : s.transport? i = some t)
    (hstatus : t.mechanism.status = .watching token) (lookup : Stream) :
    (∃ s', s.takeAnswer lookup token = (none, s') ∧ Still s s') ∨
    ∃ r s', s.takeAnswer lookup token = (some r, s') ∧ s'.Sound ∧ Strands s s' i t := by
  have hd := h.has_watching ht hstatus
  unfold takeAnswer
  split
  · exact .inl ⟨_, rfl, still_withHost s _⟩
  · rename_i r host _
    have hhost := still_withHost s host
    have hs' := (aside_withHost s host).keeps.sound hs
    have h' := (hhost.unmoved i).driven h
    have ht' : (s.withHost host).transport? i = some t := ht
    have hstrands := (strands_unregister hs' h' ht' hstatus).still (still_discard _ lookup)
    exact .inr ⟨r, _, rfl,
      (aside_discard _ lookup).keeps.sound (sound_unregister hs' h' ht' hstatus),
      (hhost.leaves i).trans hstrands.others, hstrands.stranded⟩

/-- **All that starting a lookup can do** for its transport. -/
theorem startLookup_await_cases (hs : s.Sound) (i : Nat) (q : Query) :
    (∃ e s', s.startLookup i q = (.error e, s') ∧ Still s s') ∨
    ∃ lookup token s', s.startLookup i q = (.ok (lookup, token), s') ∧ Awaits s s' i token := by
  rcases h : Host.lookup q s.host with ⟨e | lookup, host⟩
  · exact .inl ⟨e, _, by rw [startLookup, h], still_withHost s host⟩
  · have hhost := still_withHost s host
    rcases register_watch_cases (s := s.withHost host) hs.bounded lookup .readable
        (.transport i) rfl with
      ⟨e, s', h', -, hstill⟩ | ⟨token, s', h', -, -, hwatches⟩
    · exact .inl ⟨e, _, by simp only [startLookup, h, h'],
        (hhost.trans hstill).trans (still_discard s' lookup)⟩
    · exact .inr ⟨lookup, token, s', by simp only [startLookup, h, h'],
        hhost.awaits hwatches.awaits⟩

/-- A stream is attached for a stranded transport, or something else is done about it. -/
theorem settles_attach_or (hs : s.Sound) (h : s.Stranded i t)
    (hstatus : t.mechanism.status = .streaming ∨ ∃ reopens, t.mechanism.status = .file reopens)
    (stream : Stream) (role : Role) {f : Station σ → Station σ}
    (hf : ∀ s, s.Stranded i t → Settles s (f s) i) :
    Settles s (match s.attach stream role (some i) with
      | (.error _, s) => f s
      | (.ok (), s) => s) i := by
  rcases attach_drive_cases hs stream role (some i) with
    ⟨e, s', h', -, hstill⟩ | ⟨s', key, h', -, hcalm, hopens⟩ <;> rw [h']
  · exact hstill.settles (hf s' (hstill.stranded h))
  · exact settles_attached h hstatus hcalm hopens

/-! ## Outgoing connections -/

section

variable {role : Role} {attempt : UInt32} {host port : String} {phase : Outgoing}

theorem settles_resolveOutgoing (hs : s.Sound)
    (h : s.Stranded i ⟨role, attempt, .outgoing host port phase⟩) (host' port' : String) :
    Settles s (s.resolveOutgoing i host' port') i := by
  unfold resolveOutgoing
  rcases startLookup_await_cases hs i ⟨some host', port', false⟩ with
    ⟨e, s', h', hstill⟩ | ⟨lookup, token, s', h', hawaits⟩ <;> rw [h']
  · exact hstill.settles (settles_retryLater (hstill.stranded h) (by cases phase <;> rintro ⟨⟩))
  · exact settles_setOutgoing hawaits h rfl

theorem settles_outgoingConnected (hs : s.Sound)
    (h : s.Stranded i ⟨role, attempt, .outgoing host port phase⟩) (stream : Stream) :
    Settles s (s.outgoingConnected i stream) i := by
  have hstrands := strands_setTransport (u := ⟨role, 0, .outgoing host port .connected⟩) h rfl
  have hsound : (s.setTransport i ⟨role, 0, .outgoing host port .connected⟩).Sound :=
    (keeps_setTransport fun _ _ htoken => by cases htoken).sound hs
  unfold outgoingConnected
  rw [h.transport]
  simp only
  rw [setOutgoing_eq (by rw [transport?_setTransport, if_pos rfl]), setTransport_setTransport]
  exact hstrands.settles (settles_attach_or hsound hstrands.stranded (.inl rfl) stream role
    fun s' h' => settles_retryLater h' nofun)

/-- **Whichever address answers**, or none, the connection is driven. -/
theorem settles_connectTo (hs : s.Sound)
    (h : s.Stranded i ⟨role, attempt, .outgoing host port phase⟩) (addresses : List Address) :
    Settles s (s.connectTo i addresses) i := by
  induction addresses generalizing s with
  | nil => exact settles_retryLater h (by cases phase <;> rintro ⟨⟩)
  | cons address others ih =>
    unfold connectTo
    rcases Host.connect address s.host with ⟨e | ⟨stream, connected⟩, host'⟩
    · exact (still_withHost s host').settles
        (ih ((aside_withHost s host').keeps.sound hs) ((still_withHost s host').stranded h))
    · have hhost := still_withHost s host'
      have hsound := (aside_withHost s host').keeps.sound hs
      have h' := hhost.stranded h
      cases connected with
      | true => exact hhost.settles (settles_outgoingConnected hsound h' stream)
      | false =>
        simp only
        rcases register_watch_cases hsound.bounded stream .writable (.transport i) rfl with
          ⟨e, s', hregister, haside, hstill⟩ | ⟨token, s', hregister, -, -, hwatches⟩ <;>
          rw [hregister]
        · have hdiscard := hstill.trans (still_discard s' stream)
          exact (hhost.trans hdiscard).settles
            (ih ((haside.trans (aside_discard s' stream)).keeps.sound hsound)
              (hdiscard.stranded h'))
        · exact hhost.settles (settles_setOutgoing hwatches.awaits h' rfl)

/-- What is watched for a connection is ready. -/
theorem settles_outgoingReady (hs : s.Sound) (h : s.Driven i)
    (ht : s.transport? i = some ⟨role, attempt, .outgoing host port phase⟩) :
    Settles s (s.outgoingReady i phase) i := by
  cases phase with
  | idle => exact settles_of_unmoved h (.refl s)
  | connected => exact settles_of_unmoved h (.refl s)
  | resolving lookup token =>
    simp only [outgoingReady]
    rcases takeAnswer_cases hs h ht rfl lookup with
      ⟨s', h', hstill⟩ | ⟨addresses, s', h', hs', hstrands⟩ <;> rw [h']
    · exact settles_of_unmoved h hstill.unmoved
    · cases addresses with
      | ok addresses => exact hstrands.settles (settles_connectTo hs' hstrands.stranded addresses)
      | error e => exact hstrands.settles (settles_retryLater hstrands.stranded (by rintro ⟨⟩))
  | connecting stream others token =>
    have hstrands := strands_unregister hs h ht rfl
    have hs' := sound_unregister hs h ht rfl
    simp only [outgoingReady]
    rcases Host.connected stream (s.unregister token).host with ⟨e | _, host'⟩
    · have hstill := (still_withHost (s.unregister token) host').trans (still_discard _ stream)
      have hsound := ((aside_withHost _ host').trans (aside_discard _ stream)).keeps.sound hs'
      exact (hstrands.still hstill).settles
        (settles_connectTo hsound (hstrands.still hstill).stranded others)
    · have hstill := still_withHost (s.unregister token) host'
      exact (hstrands.still hstill).settles (settles_outgoingConnected
        ((aside_withHost _ host').keeps.sound hs') (hstrands.still hstill).stranded stream)

end

/-! ## Listeners -/

section

variable {role : Role} {attempt : UInt32} {host : Option String} {port : String} {phase : Incoming}

theorem settles_resolveIncoming (hs : s.Sound)
    (h : s.Stranded i ⟨role, attempt, .incoming host port phase⟩) (host' : Option String)
    (port' : String) : Settles s (s.resolveIncoming i host' port') i := by
  unfold resolveIncoming
  rcases startLookup_await_cases hs i ⟨host', port', true⟩ with
    ⟨e, s', h', hstill⟩ | ⟨lookup, token, s', h', hawaits⟩ <;> rw [h']
  · exact hstill.settles (settles_retryLater (hstill.stranded h) (by cases phase <;> rintro ⟨⟩))
  · exact settles_setIncoming hawaits h rfl

/-- **Wherever listening is possible**, or nowhere, the listener is driven. -/
theorem settles_listenAt (hs : s.Sound)
    (h : s.Stranded i ⟨role, attempt, .incoming host port phase⟩) (addresses : List Address) :
    Settles s (s.listenAt i addresses) i := by
  induction addresses generalizing s with
  | nil => exact settles_retryLater h (by cases phase <;> rintro ⟨⟩)
  | cons address others ih =>
    unfold listenAt
    rcases Host.listen address s.host with ⟨e | listener, host'⟩
    · exact (still_withHost s host').settles
        (ih ((aside_withHost s host').keeps.sound hs) ((still_withHost s host').stranded h))
    · have hhost := still_withHost s host'
      have hsound := (aside_withHost s host').keeps.sound hs
      have h' := hhost.stranded h
      simp only
      rcases register_watch_cases hsound.bounded listener .readable (.transport i) rfl with
        ⟨e, s', hregister, haside, hstill⟩ | ⟨token, s', hregister, -, -, hwatches⟩ <;>
        rw [hregister]
      · have hdiscard := hstill.trans (still_discard s' listener)
        exact (hhost.trans hdiscard).settles
          (ih ((haside.trans (aside_discard s' listener)).keeps.sound hsound)
            (hdiscard.stranded h'))
      · have ht' := (hwatches.transport? i).trans h'.transport
        simp only [ht']
        rw [setIncoming_eq (by rw [transport?_setTransport, if_pos rfl]), setTransport_setTransport]
        exact hhost.settles (hwatches.awaits.settles h' rfl rfl)

/-- Connections that are accepted drive no transport. -/
theorem unmoved_accept (hs : s.Sound) (streams : List Stream) (role : Role) (j : Nat) :
    Unmoved s (streams.foldl (fun s stream => (s.attach stream role none).2) s) j := by
  induction streams generalizing s with
  | nil => exact .refl s j
  | cons stream streams ih =>
    exact (unmoved_attach_none hs stream role j).trans
      (ih ((leads_attach s stream role none).sound hs))

/-- What is watched for a listener is ready. -/
theorem settles_incomingReady (hs : s.Sound) (h : s.Driven i)
    (ht : s.transport? i = some ⟨role, attempt, .incoming host port phase⟩) :
    Settles s (s.incomingReady i role phase) i := by
  cases phase with
  | idle => exact settles_of_unmoved h (.refl s)
  | resolving lookup token =>
    simp only [incomingReady]
    rcases takeAnswer_cases hs h ht rfl lookup with
      ⟨s', h', hstill⟩ | ⟨addresses, s', h', hs', hstrands⟩ <;> rw [h']
    · exact settles_of_unmoved h hstill.unmoved
    · cases addresses with
      | ok addresses => exact hstrands.settles (settles_listenAt hs' hstrands.stranded addresses)
      | error e => exact hstrands.settles (settles_retryLater hstrands.stranded (by rintro ⟨⟩))
  | listening listener token =>
    simp only [incomingReady]
    generalize Host.accept listener s.host = accepted
    refine settles_of_unmoved h fun j => ((still_withHost s accepted.2).unmoved j).trans ?_
    exact unmoved_accept ((aside_withHost s accepted.2).keeps.sound hs) accepted.1 role j

end

end Squitter.Station
