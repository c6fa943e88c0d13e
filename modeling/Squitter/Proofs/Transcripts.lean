import Squitter.Conversion
import Squitter.Proofs.Messages

/-!
# Reading a stream through a buffer

`Decoder.readFrom` fills the buffer, reads all messages in it, and so on. While it reads a script it
**follows** the script (`Decoder.Transcript.Follows`): no error ended it, the buffer is not full,
and what is buffered and what is not yet read are together the rest of the script. Every piece that
is read keeps it so (`Decoder.Transcript.Follows.readFrom`), and so do all pieces of a stream
together (`Decoder.Transcript.Follows.foldl_readFrom`).
-/

namespace Squitter.Decoder

variable {own source : Uuid} {f : Format}

/-! ## Buffers -/

/-- What holds of a buffer however much is taken off it holds of it after all messages are read. -/
theorem buffer_lastStep {P : Buffer → Prop} (hP : ∀ b n, P b → P (b.advance n)) (d : Decoder)
    {b : Buffer} (hb : P b) : P (d.lastStep own source b).buffer := by
  induction hn : b.data.length using Nat.strongRecOn generalizing d b with
  | ind n ih =>
    rcases decode_cases d own b (.blank source) with
      ⟨-, hd⟩ | ⟨_, -, _, -, hd⟩ | ⟨f, -, r, hread, hd⟩
    · rw [lastStep_of_no_event hd (by simp)]
      exact hb
    · rw [lastStep_of_no_event hd (by simp)]
      exact hb
    · have hlt : (b.advance r.used).data.length < n := hn ▸ Format.length_drop_used_lt hread
      rw [lastStep_of_event hd rfl]
      exact ih _ hlt _ (hP b r.used hb) rfl

/-! ## Adding up outcomes -/

/-- The packets among outcomes. -/
def Outcome.packets (os : List Outcome) : List Packet :=
  os.filterMap fun
    | .frame p => some p
    | .control _ | .failed _ => none

theorem Outcome.packets_append (os os' : List Outcome) :
    packets (os ++ os') = packets os ++ packets os' :=
  List.filterMap_append

namespace Transcript

theorem packets_add (t : Transcript) (s : Step) :
    (t.add s).packets = t.packets ++ Outcome.packets s.outcome?.toList := by
  unfold add Step.outcome?
  rcases s.result with e | _ | _ | _ <;> simp [Outcome.packets, Outcome.ofEvent]

theorem ending_add {t : Transcript} {s : Step} (h : ∀ e, s.outcome? ≠ some (.failed e)) :
    (t.add s).ending = t.ending := by
  unfold add
  split
  · rfl
  · rfl
  · rfl
  · rename_i e hs
    exact absurd (by rw [Step.outcome?, hs]) (h e)

theorem state_add (t : Transcript) (s : Step) :
    (t.add s).decoder = s.decoder ∧ (t.add s).buffer = s.buffer := by
  unfold add
  split <;> exact ⟨rfl, rfl⟩

theorem packets_foldl_add (t : Transcript) (steps : List Step) :
    (steps.foldl add t).packets = t.packets ++ Outcome.packets (steps.filterMap Step.outcome?) := by
  induction steps generalizing t with
  | nil => exact (List.append_nil _).symm
  | cons s steps ih =>
    have hcons : (s :: steps).filterMap Step.outcome? =
        s.outcome?.toList ++ steps.filterMap Step.outcome? := by
      cases h : s.outcome? <;> simp [h]
    rw [List.foldl_cons, ih, packets_add, hcons, Outcome.packets_append, List.append_assoc]

theorem ending_foldl_add {t : Transcript} {steps : List Step}
    (h : ∀ e, .failed e ∉ steps.filterMap Step.outcome?) :
    (steps.foldl add t).ending = t.ending := by
  induction steps generalizing t with
  | nil => rfl
  | cons s steps ih =>
    have hs (e : Error) : s.outcome? ≠ some (.failed e) := fun heq =>
      h e (List.mem_filterMap.2 ⟨s, List.mem_cons_self, heq⟩)
    have hsteps (e : Error) : .failed e ∉ steps.filterMap Step.outcome? := by
      intro he
      obtain ⟨s', hs', heq⟩ := List.mem_filterMap.1 he
      exact h e (List.mem_filterMap.2 ⟨s', List.mem_cons_of_mem _ hs', heq⟩)
    rw [List.foldl_cons, ih hsteps, ending_add hs]

theorem state_foldl_add (t : Transcript) {steps : List Step} (h : steps ≠ []) :
    (steps.foldl add t).decoder = (steps.getLast h).decoder ∧
      (steps.foldl add t).buffer = (steps.getLast h).buffer := by
  induction steps generalizing t with
  | nil => exact absurd rfl h
  | cons s steps ih =>
    rw [List.foldl_cons]
    cases steps with
    | nil => exact state_add t s
    | cons s' steps =>
      rw [List.getLast_cons (List.cons_ne_nil _ _)]
      exact ih _ (List.cons_ne_nil _ _)

/-! ## Following a script -/

/-- The transcript is that of the beginning of a script, of which the outcomes `os` are still to
come. The bytes `unread` are those that are not yet in the buffer. -/
structure Follows (own source : Uuid) (f : Format) (t : Transcript) (unread : Bytes)
    (os : List Outcome) (l' : Link) : Prop where
  ending : t.ending = none
  sound : t.buffer.Sound
  capacity : t.buffer.capacity = Buffer.usualCapacity
  short : t.buffer.data.length < Buffer.usualCapacity
  settled : ∀ g ∈ t.decoder.candidates,
    g.read own t.buffer.data (.blank source) t.decoder.link = .ok none
  pending : ∃ pre ms, Pending own source f Buffer.usualCapacity t.decoder pre ms os l' ∧
    t.buffer.data ++ unread = pre ++ ms.flatten

end Transcript

theorem Script.failed_not_mem {l l' : Link} {ms : List Bytes} {os : List Outcome}
    (h : Script own source f l ms os l') (e : Error) : .failed e ∉ os := by
  induction h with
  | nil => exact List.not_mem_nil
  | cons _ _ _ ih =>
    intro he
    exact (List.mem_cons.1 he).elim (Outcome.failed_ne_ofEvent e _ _ _) ih

namespace Transcript.Follows

variable {t : Transcript} {piece unread : Bytes} {os : List Outcome} {l' : Link}

/-- Read what fits into the buffer. -/
theorem fill (hf : f ∈ Format.readable) (h : t.Follows own source f (piece ++ unread) os l')
    (hlen : piece.length ≤ t.buffer.room) :
    ∃ os₁ os₂ t', os = os₁ ++ os₂ ∧
      (t.decoder.drain own source (t.buffer.append piece)).foldl add
        { t with buffer := t.buffer.append piece } = t' ∧
      t'.Follows own source f unread os₂ l' ∧ t'.packets = t.packets ++ Outcome.packets os₁ ∧
      t'.decoder.format = if os₁ = [] then t.decoder.format else some f := by
  obtain ⟨pre, ms, hp, hdata⟩ := h.pending
  have hreads := reads_drain t.decoder own source (t.buffer.append piece)
  have hmore : (t.buffer.append piece).data ++ unread = pre ++ ms.flatten := by
    rw [Buffer.data_append, List.append_assoc, hdata]
  obtain ⟨os₂, pre₁, ms₁, rfl, hp₁, hrest, hshort, hnone, hformat⟩ :=
    hreads.of_pending hf (by decide) hp hmore
  obtain ⟨hdecoder, hbuffer⟩ := state_foldl_add { t with buffer := t.buffer.append piece }
    (drain_ne_nil t.decoder own source (t.buffer.append piece))
  have hfailed (e : Error) : .failed e ∉
      (t.decoder.drain own source (t.buffer.append piece)).filterMap Step.outcome? :=
    fun he => hp.script.failed_not_mem e (List.mem_append_left _ he)
  refine ⟨_, os₂, _, rfl, rfl, ⟨?_, ?_, ?_, ?_, ?_, pre₁, ms₁, ?_, ?_⟩, packets_foldl_add _ _, ?_⟩
  · rw [ending_foldl_add hfailed]
    exact h.ending
  · rw [hbuffer]
    exact buffer_lastStep (P := Buffer.Sound) (fun _ n hb => Buffer.sound_advance hb n) _
      (Buffer.sound_append h.sound hlen)
  · rw [hbuffer]
    exact buffer_lastStep (P := fun b => b.capacity = Buffer.usualCapacity) (fun _ _ hb => hb) _
      ((Buffer.capacity_append _ _).trans h.capacity)
  · rw [hbuffer]
    exact hshort
  · rw [hdecoder, hbuffer]
    exact hnone
  · rw [hdecoder]
    exact hp₁
  · rw [hbuffer]
    exact hrest
  · rw [hdecoder]
    exact hformat

/-- Read a piece, however long it is. -/
theorem readFrom (hf : f ∈ Format.readable) (h : t.Follows own source f (piece ++ unread) os l') :
    ∃ os₁ os₂, os = os₁ ++ os₂ ∧
      (readFrom own source t piece).Follows own source f unread os₂ l' ∧
      (readFrom own source t piece).packets = t.packets ++ Outcome.packets os₁ ∧
      (readFrom own source t piece).decoder.format =
        if os₁ = [] then t.decoder.format else some f := by
  induction hn : piece.length using Nat.strongRecOn generalizing t piece os with
  | ind n ih =>
    have hfull : ¬ t.buffer.isFull := by
      rw [Buffer.isFull_iff, h.capacity]
      exact Nat.ne_of_lt h.short
    by_cases hpiece : piece = []
    · subst hpiece
      rw [Decoder.readFrom, if_neg hfull, dif_pos rfl]
      exact ⟨[], os, rfl, h, (List.append_nil _).symm, rfl⟩
    · have hroom : 0 < t.buffer.room := Buffer.room_pos h.sound (h.capacity.symm ▸ h.short)
      have hsplit : piece = piece.take t.buffer.room ++ piece.drop t.buffer.room :=
        (List.take_append_drop _ _).symm
      rw [hsplit, List.append_assoc] at h
      obtain ⟨os₁, os₂, t', rfl, ht', hfollows, hpackets, hformat⟩ :=
        h.fill hf (List.length_take_le _ _)
      have hlt : (piece.drop t.buffer.room).length < n := by
        have hpos := List.length_pos_iff.2 hpiece
        rw [List.length_drop]
        omega
      obtain ⟨os₃, os₄, rfl, hfollows', hpackets', hformat'⟩ := ih _ hlt hfollows rfl
      have hending : ¬ t'.ending.isSome := by
        rw [hfollows.ending]
        decide
      rw [Decoder.readFrom, if_neg hfull, dif_neg hpiece]
      simp only [dif_neg (Nat.ne_of_gt hroom), ht', if_neg hending]
      refine ⟨os₁ ++ os₃, os₄, (List.append_assoc _ _ _).symm, hfollows', ?_, ?_⟩
      · rw [hpackets', hpackets, Outcome.packets_append, List.append_assoc]
      · rw [hformat', hformat]
        cases os₁ <;> cases os₃ <;> rfl

/-- Read all pieces of a stream. -/
theorem foldl_readFrom (hf : f ∈ Format.readable) {pieces : List Bytes}
    (h : t.Follows own source f (pieces.flatten ++ unread) os l') :
    ∃ os₁ os₂, os = os₁ ++ os₂ ∧
      (pieces.foldl (Decoder.readFrom own source) t).Follows own source f unread os₂ l' ∧
      (pieces.foldl (Decoder.readFrom own source) t).packets = t.packets ++ Outcome.packets os₁ ∧
      (pieces.foldl (Decoder.readFrom own source) t).decoder.format =
        if os₁ = [] then t.decoder.format else some f := by
  induction pieces generalizing t os with
  | nil => exact ⟨[], os, rfl, h, (List.append_nil _).symm, rfl⟩
  | cons piece pieces ih =>
    rw [List.flatten_cons, List.append_assoc] at h
    obtain ⟨os₁, os₂, rfl, hfollows, hpackets, hformat⟩ := h.readFrom hf
    obtain ⟨os₃, os₄, rfl, hfollows', hpackets', hformat'⟩ := ih hfollows
    rw [List.foldl_cons]
    refine ⟨os₁ ++ os₃, os₄, (List.append_assoc _ _ _).symm, hfollows', ?_, ?_⟩
    · rw [hpackets', hpackets, Outcome.packets_append, List.append_assoc]
    · rw [hformat', hformat]
      cases os₁ <;> cases os₃ <;> rfl

/-- Nothing of the script is left when all of it was read. -/
theorem eq_nil (hf : f ∈ Format.readable) (h : t.Follows own source f [] os l') :
    os = [] ∧ t.decoder.link = l' := by
  obtain ⟨pre, ms, hp, hdata⟩ := h.pending
  rw [List.append_nil] at hdata
  cases ms with
  | nil =>
    have hscript := hp.script
    cases hscript
    exact ⟨rfl, rfl⟩
  | cons m ms =>
    obtain ⟨event, p, l₁, os', -, -, -, hread⟩ := hp.exists_read
    have hnone := h.settled f (hp.mem_candidates hf)
    rw [hdata, List.flatten_cons, hread] at hnone
    cases hnone

end Transcript.Follows
end Squitter.Decoder
