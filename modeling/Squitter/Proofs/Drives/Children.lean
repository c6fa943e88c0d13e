import Squitter.Proofs.Drives.Connecting

/-!
# Children and their messages

A child is watched twice: its stream drives it, and its messages are told. What is watched for the
messages changes beside the drive (`Station.Hears`), so it can be taken up and given up at any time
(`hears_dropMessages`, `hears_watchMessages`). A command that is run, and a file that is opened, has
a stream or gets a new drive (`settles_spawnChild`, `settles_openFile`).
-/

namespace Squitter

/-! ## Messages and statuses -/

namespace Status

open Station

variable {status : Status} {token : Option Nat} {d : Drive}

theorem Wants.messages_eq (h : status.Wants token d) : d.messages = token := by
  cases status with
  | idle => exact h ▸ rfl
  | watching token => exact h ▸ rfl
  | streaming =>
    obtain ⟨key, rfl⟩ := h
    rfl
  | stopping => exact h ▸ rfl
  | file reopens => rcases h with ⟨key, rfl⟩ | ⟨-, rfl⟩ <;> rfl

/-- Whichever messages are watched, the same drive is right. -/
theorem Wants.hear (h : status.Wants token d) (token' : Option Nat) :
    status.Wants token' { d with messages := token' } := by
  cases status with
  | idle =>
    cases h
    rfl
  | watching token =>
    cases h
    rfl
  | streaming =>
    obtain ⟨key, rfl⟩ := h
    exact ⟨key, rfl⟩
  | stopping =>
    cases h
    rfl
  | file reopens =>
    rcases h with ⟨key, rfl⟩ | ⟨hreopens, rfl⟩
    · exact .inl ⟨key, rfl⟩
    · exact .inr ⟨hreopens, rfl⟩

end Status

namespace Station

variable {σ : Type} {s s' s'' : Station σ} {i : Nat} {d : Drive} {t u v : Transport}

/-- Of a transport with a given drive, only the messages are watched otherwise. -/
structure Hears (s s' : Station σ) (i : Nat) (d : Drive) (u : Transport) : Prop where
  others : Leaves s s' i
  transport : s'.transport? i = some u
  has : s'.Has i { d with messages := u.mechanism.messages? }

theorem Has.same (h : s.Has i d) {messages : Option Nat} (hmessages : d.messages = messages) :
    s.Has i { d with messages } := by
  subst hmessages
  exact h

theorem Still.hears (h : Still s s') (h' : Hears s' s'' i d u) : Hears s s'' i d u :=
  ⟨(h.leaves i).trans h'.others, h'.transport, h'.has⟩

theorem Hears.trans (h : Hears s s' i d u)
    (h' : Hears s' s'' i { d with messages := u.mechanism.messages? } v) : Hears s s'' i d v :=
  ⟨h.others.trans h'.others, h'.transport, h'.has⟩

theorem Hears.strands {messages : Option Nat} (h : Hears s s' i (.still messages) u) :
    Strands s s' i u :=
  ⟨h.others, h.transport, h.has⟩

theorem Hears.settles (h : Hears s s' i d u) (hstatus : u.mechanism.status = t.mechanism.status)
    (hwants : t.mechanism.status.Wants t.mechanism.messages? d) : Settles s s' i :=
  ⟨h.others, driven_of_wants h.transport (hstatus ▸ hwants.hear _) h.has⟩

section

variable {role : Role} {attempt : UInt32} {command : String} {phase : ChildPhase}
  {messages : Option Messages} {m : Messages}

theorem setMessages_eq (ht : s.transport? i = some ⟨role, attempt, .child command phase messages⟩)
    (messages' : Option Messages) : s.setMessages i messages' =
      s.setTransport i ⟨role, attempt, .child command phase messages'⟩ := by
  rw [setMessages, ht]

/-- Messages that are watched are remembered. -/
theorem hears_setMessages (messages' : Option Messages)
    (ht : s.transport? i = some ⟨role, attempt, .child command phase messages⟩)
    (hd : s.Has i { d with messages := messages'.map (·.token) }) :
    Hears s (s.setMessages i messages') i d ⟨role, attempt, .child command phase messages'⟩ := by
  rw [setMessages_eq ht]
  exact ⟨leaves_setTransport s i _, by rw [transport?_setTransport, if_pos rfl],
    hd.setTransport i _⟩

variable [Host σ]

/-- The messages of a child are given up. -/
theorem hears_dropMessages (hb : s.reactor.Bounded)
    (ht : s.transport? i = some ⟨role, attempt, .child command phase (some m)⟩) (hd : s.Has i d)
    (hmessages : d.messages = some m.token) :
    Hears s (s.dropMessages i m) i d ⟨role, attempt, .child command phase none⟩ := by
  have hdiscard := still_discard (s.unregister m.token) m.stream
  have hset := hears_setMessages none (((hdiscard.unmoved i).transport).trans ht)
    ((hdiscard.unmoved i).has _ (hd.unwatch_messages hb hmessages))
  exact ⟨(hd.leaves_unregister hb (.inr hmessages)).trans ((hdiscard.leaves i).trans hset.others),
    hset.transport, hset.has⟩

theorem hears_watchMessages_none (hb : s.reactor.Bounded)
    (ht : s.transport? i = some ⟨role, attempt, .child command phase none⟩) (hd : s.Has i d)
    (hmessages : d.messages = none) (stream : Stream) :
    ∃ messages', Hears s (s.watchMessages i none stream) i d
      ⟨role, attempt, .child command phase messages'⟩ := by
  rcases register_watch_cases hb stream .readable (.messages i) rfl with
    ⟨e, s', h, -, hstill⟩ | ⟨token, s', h, -, -, hwatches⟩ <;> simp only [watchMessages, h]
  · have hdiscard := hstill.trans (still_discard s' stream)
    exact ⟨none, hdiscard.leaves i, (hdiscard.unmoved i).transport.trans ht,
      (hdiscard.unmoved i).has _ (hd.same hmessages)⟩
  · have hset := hears_setMessages (some ⟨stream, token, []⟩)
      ((hwatches.transport? i).trans ht) (hwatches.has_messages hd hmessages)
    exact ⟨some ⟨stream, token, []⟩, (hwatches.leaves rfl).trans hset.others, hset.transport,
      hset.has⟩

/-- The messages of a child are taken up, in place of those of the child before it. -/
theorem hears_watchMessages (hs : s.Sound)
    (ht : s.transport? i = some ⟨role, attempt, .child command phase messages⟩) (hd : s.Has i d)
    (hmessages : d.messages = messages.map (·.token)) (stream : Stream) :
    ∃ messages', Hears s (s.watchMessages i messages stream) i d
      ⟨role, attempt, .child command phase messages'⟩ := by
  cases messages with
  | none => exact hears_watchMessages_none hs.bounded ht hd hmessages stream
  | some m =>
    have hdrop := hears_dropMessages hs.bounded ht hd hmessages
    have hsound := (keeps_dropMessages (spare_messages hs ht m rfl) i).sound hs
    obtain ⟨messages', hwatch⟩ :=
      hears_watchMessages_none hsound.bounded hdrop.transport hdrop.has rfl stream
    exact ⟨messages', hdrop.trans hwatch⟩

/-- **The messages of a child** do not drive it. -/
theorem settles_messagesReady (hs : s.Sound) (h : s.Driven i) :
    Settles s (s.messagesReady i) i := by
  unfold messagesReady
  split
  · rename_i role attempt command phase m ht
    obtain ⟨d, hwants, hd⟩ := h.exists_has ht
    have hread := still_readAll s m.stream
    have hbounded := (aside_readAll s m.stream).bounded hs.bounded
    rcases hresult : s.readAll m.stream with ⟨⟨bytes, ending⟩, s'⟩
    rw [hresult] at hread hbounded
    simp only
    have htell := hread.trans (still_tell s'
      ((Lines.take (m.unfinished ++ bytes) ending.isSome).1.map .childOutput))
    have ht' := (htell.unmoved i).transport.trans ht
    have hd' := (htell.unmoved i).has d hd
    split
    · exact (htell.hears (hears_dropMessages hbounded ht' hd' hwants.messages_eq)).settles
        (by cases phase <;> rfl) hwants
    · refine (htell.hears (hears_setMessages _ ht' ?_)).settles (by cases phase <;> rfl) hwants
      exact hd'.same hwants.messages_eq
  · exact settles_of_unmoved h (.refl s)

/-! ## Running a command -/

/-- **A command that is run** has a stream, or its transport gets a new drive. -/
theorem settles_spawnChild (hs : s.Sound)
    (h : s.Stranded i ⟨role, attempt, .child command phase messages⟩) :
    Settles s (s.spawnChild i) i := by
  unfold spawnChild
  rw [h.transport]
  simp only
  split
  · rename_i host _
    have hhost := still_withHost s host
    exact hhost.settles (settles_retryLater (hhost.stranded h) (by cases phase <;> rintro ⟨⟩))
  · rename_i spawned host _
    have hhost := still_withHost s host
    have hstrands := strands_setTransport
      (u := ⟨role, 0, .child command (.running spawned.child) messages⟩) (hhost.stranded h) rfl
    have hset : Keeps (s.withHost host) ((s.withHost host).setTransport i
        ⟨role, 0, .child command (.running spawned.child) messages⟩) :=
      keeps_setTransport_of_subset h.transport fun _ htoken => htoken
    have hkeeps := (aside_withHost s host).keeps.trans hset
    have hsound := (leads_watchMessages (fun m (hm : m ∈ messages) =>
      hkeeps.spare (spare_messages hs h.transport m hm)) i spawned.messages).sound (hkeeps.sound hs)
    obtain ⟨messages', hhears⟩ := hears_watchMessages (hkeeps.sound hs) hstrands.stranded.transport
      hstrands.stranded.has rfl spawned.messages
    refine hhost.settles ((hstrands.trans hhears.strands).settles ?_)
    exact settles_attach_or hsound hhears.strands.stranded (.inl rfl) spawned.stream role
      fun s' h' => settles_ownerClosed h' (.inl rfl)

end

/-! ## Opening a file -/

/-- **A file that is opened** has a stream, or its transport gets a new drive. -/
theorem settles_openFile [Host σ] (hs : s.Sound) {role : Role} {attempt : UInt32} {source : Source}
    {reopens : Bool} (h : s.Stranded i ⟨role, attempt, .file source reopens⟩) :
    Settles s (s.openFile i role source) i := by
  have hopen : Still s (s.openSource source role).2 := still_withHost s _
  have haside : Aside s (s.openSource source role).2 := aside_withHost s _
  unfold openFile
  rcases hresult : s.openSource source role with ⟨e | stream, s'⟩ <;> rw [hresult] at hopen haside
  · exact hopen.settles (settles_ownerClosed (hopen.stranded h) (.inr (.inl ⟨reopens, rfl⟩)))
  · have hstrands := strands_setTransport (u := ⟨role, 0, .file source (opensAgain source stream)⟩)
      (hopen.stranded h) rfl
    have hset : Keeps s' (s'.setTransport i ⟨role, 0, .file source (opensAgain source stream)⟩) :=
      keeps_setTransport fun _ _ => nofun
    have hsound := (haside.keeps.trans hset).sound hs
    exact hopen.settles (hstrands.settles (settles_attach_or hsound hstrands.stranded
      (.inr ⟨_, rfl⟩) stream role fun s' h' => settles_ownerClosed h' (.inr (.inl ⟨_, rfl⟩))))

end Station
end Squitter
