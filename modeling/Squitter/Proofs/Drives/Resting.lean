import Squitter.Proofs.Drives.Watching

/-!
# Transports that lost their stream

A transport that nothing drives any more gets a new drive at once: it rests until a retry, or is
looked at until its child has ended (`settles_ownerClosed`). A file that is not opened again is
gone, and then nothing drives it.
-/

namespace Squitter

namespace Mechanism

/-- Resting does not touch the messages of a child. -/
@[simp] theorem messages?_rest (m : Mechanism) : m.rest.messages? = m.messages? := by
  cases m <;> rfl

/-- A transport that rests waits for a retry. -/
theorem wants_rest {m : Mechanism} (h : m.status ≠ .file false) :
    m.rest.status.Wants m.messages? (.retrying m.messages?) := by
  cases m with
  | outgoing host port phase => exact rfl
  | incoming host port phase => exact rfl
  | child command phase messages => exact rfl
  | file source reopens =>
    cases reopens with
    | true => exact .inr ⟨rfl, rfl⟩
    | false => exact absurd rfl h

/-- A transport that can have provided a stream: it is streaming, it is a file, or it is a child
that was found to have ended. -/
def Provides (m : Mechanism) : Prop :=
  m.status = .streaming ∨ (∃ reopens, m.status = .file reopens) ∨
    ∃ command messages, m = .child command .idle messages

end Mechanism

namespace Station

variable {σ : Type} {s s' : Station σ} {i : Nat} {t : Transport}

/-! ## Changes of a stranded transport -/

theorem stranded_setChildPhase (phase' : ChildPhase) {role : Role} {attempt : UInt32}
    {command : String} {phase : ChildPhase} {messages : Option Messages}
    (h : s.Stranded i ⟨role, attempt, .child command phase messages⟩) :
    (s.setChildPhase i phase').Stranded i ⟨role, attempt, .child command phase' messages⟩ := by
  unfold setChildPhase
  rw [h.transport]
  exact h.setTransport rfl

theorem leaves_setChildPhase (s : Station σ) (i : Nat) (phase : ChildPhase) :
    Leaves s (s.setChildPhase i phase) i := by
  unfold setChildPhase
  split
  · exact leaves_setTransport s i _
  · exact (Still.refl s).leaves i

/-- A transport is taken away. -/
theorem settles_erase (h : s.Stranded i t) (hmessages : t.mechanism.messages? = none)
    (htransports : s'.state.transports = s.state.transports.erase i)
    (hhas : ∀ j d, s.Has j d → s'.Has j d) : Settles s s' i := by
  have htransport (j : Nat) : s'.transport? j = if j = i then none else s.transport? j := by
    rw [transport?, htransports]
    exact Table.get?_erase _ _ _
  refine ⟨fun j hj => ⟨by rw [htransport, if_neg hj], hhas j⟩, ?_⟩
  rw [Driven, htransport, if_pos rfl]
  exact hmessages ▸ hhas i _ h.has

/-! ## Resting -/

variable [Host σ]

/-- **A transport that rests** waits for one retry. -/
theorem settles_retryLater (h : s.Stranded i t) (hstatus : t.mechanism.status ≠ .file false) :
    Settles s (s.retryLater i) i := by
  unfold retryLater
  rw [h.transport]
  simp only
  have hrest : (s.setTransport i { t with
      attempt := Transport.nextAttempt t.attempt, mechanism := t.mechanism.rest }).Stranded i _ :=
    h.setTransport t.mechanism.messages?_rest
  have hdelay := (still_delay _ t.attempt).stranded hrest
  refine (leaves_setTransport s i _).settles
    ((still_delay _ t.attempt).settles ⟨leaves_schedule_retry _ _, ?_⟩)
  refine driven_of_wants hdelay.transport ?_ (hdelay.has.schedule_retry _)
  simp only [Mechanism.messages?_rest]
  exact Mechanism.wants_rest hstatus

/-! ## Children -/

/-- A child that was asked to end is looked at later. -/
theorem settles_stopping {role : Role} {attempt : UInt32} {command : String} {phase : ChildPhase}
    {messages : Option Messages} (h : s.Stranded i ⟨role, attempt, .child command phase messages⟩)
    (child polls : Nat) :
    Settles s ((s.setChildPhase i (.stopping child polls)).schedule reapInterval (.reap i)) i := by
  have hphase := stranded_setChildPhase (.stopping child polls) h
  refine (leaves_setChildPhase s i _).settles ⟨leaves_schedule_reap _ _, ?_⟩
  exact driven_of_wants hphase.transport rfl (hphase.has.schedule_reap _)

theorem settles_childClosed {role : Role} {attempt : UInt32} {command : String} {phase : ChildPhase}
    {messages : Option Messages} (h : s.Stranded i ⟨role, attempt, .child command phase messages⟩)
    (hphase : phase = .idle ∨ ∃ child, phase = .running child) :
    Settles s (s.childClosed i phase) i := by
  rcases hphase with rfl | ⟨child, rfl⟩
  · exact settles_retryLater h (by rintro ⟨⟩)
  · have hstill := (still_withHost s (Host.terminate child s.host)).trans
      (still_hasEnded _ child)
    have hs' := hstill.stranded h
    simp only [childClosed]
    split
    · exact hstill.settles (settles_retryLater hs' (by rintro ⟨⟩))
    · exact hstill.settles (settles_stopping hs' child 0)

/-! ## Files -/

theorem settles_fileClosed {role : Role} {attempt : UInt32} {source : Source} {reopens : Bool}
    (h : s.Stranded i ⟨role, attempt, .file source reopens⟩) :
    Settles s (s.fileClosed i ⟨role, attempt, .file source reopens⟩ reopens) i := by
  cases reopens with
  | true => exact settles_retryLater h nofun
  | false =>
    exact settles_erase h rfl rfl fun j d hd =>
      ⟨hd.retries, hd.watch, hd.messages, hd.stream, hd.looks⟩

/-! ## All of them -/

/-- **A transport whose stream is gone** is driven again. -/
theorem settles_ownerClosed (h : s.Stranded i t) (hprovides : t.mechanism.Provides) :
    Settles s (s.ownerClosed i) i := by
  obtain ⟨role, attempt, mechanism⟩ := t
  unfold ownerClosed
  rw [h.transport]
  cases mechanism with
  | outgoing host port phase => exact settles_retryLater h (by cases phase <;> rintro ⟨⟩)
  | incoming host port phase =>
    rcases hprovides with hstatus | ⟨reopens, hstatus⟩ | ⟨command, messages, ⟨⟩⟩ <;>
      cases phase <;> cases hstatus
  | child command phase messages =>
    refine settles_childClosed h ?_
    cases phase with
    | idle => exact .inl rfl
    | running child => exact .inr ⟨child, rfl⟩
    | stopping child polls =>
      rcases hprovides with hstatus | ⟨reopens, hstatus⟩ | ⟨command, messages, ⟨⟩⟩ <;> cases hstatus
  | file source reopens => exact settles_fileClosed h

end Station
end Squitter
