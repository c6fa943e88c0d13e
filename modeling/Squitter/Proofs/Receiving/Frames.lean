import Squitter.Proofs.Transcripts

/-!
# Where packets come from

The packets that a decoder reads from a string are those of **frames** that stand in it
(`Format.Frames`), all in the format that the decoder pins (`Decoder.Reads.frames`). A frame of
another bus names the source of its packet (`Format.source?`), the others leave it as it was in the
blank packet (`Format.source_of_read`).

A decoder is called at most once more than there are bytes (`Decoder.length_drain_le`), and an error
of a call is the last outcome of all (`Decoder.ending_foldl_drain`).
-/

namespace Squitter

/-! ## The source of a packet -/

/-- The source that a message names. -/
def Message.source? {π : Type} : Message π → Option Uuid
  | .header _ => none
  | .packet r => some r.source

theorem Link.source_of_accept {l l' : Link} {own : Uuid} {m : Message Bytes} {p p' : Packet}
    (h : l.accept own m p = .ok (.frame, p', l')) : m.source? = some p'.source := by
  cases m with
  | header a =>
    simp only [accept] at h
    cases ha : l.acceptHeader own a with
    | error e =>
      rw [ha] at h
      cases h
    | ok l₁ =>
      rw [ha] at h
      cases h
  | packet r =>
    simp only [accept, acceptReport] at h
    split at h
    · cases h
    · split at h
      · cases h
      · split at h
        · cases h
        · cases h
          rfl

/-- Reading the payload of a message leaves its source as it is. -/
theorem Wire.Json.source_of_decoded {m : Message String} {m' : Message Bytes}
    (h : decoded m = .ok m') : m'.source? = m.source? := by
  cases m with
  | header a =>
    cases h
    rfl
  | packet r =>
    simp only [decoded, payload] at h
    split at h
    · cases h
      rfl
    · cases h

namespace Format

/-- The source that the message at the front of the data names. -/
def source? (f : Format) (data : Bytes) : Option Uuid :=
  match f with
  | json => (Wire.Json.read? data).bind fun (m, _) => m.source?
  | proto => (Wire.Proto.read? data).bind fun (m, _) => m.source?
  | airspy | beast | raw | stats => none

variable {f : Format} {own : Uuid} {data : Bytes} {p : Packet} {l : Link} {r : Reading}

theorem source_of_accepted {m : Message Bytes} {used : Nat}
    (h : accepted own m p l used = .ok (some r)) (hframe : r.event = .frame) :
    m.source? = some r.packet.source := by
  unfold accepted at h
  cases ha : l.accept own m p with
  | error e =>
    rw [ha] at h
    cases h
  | ok found =>
    obtain ⟨event, p', l'⟩ := found
    rw [ha] at h
    cases h
    obtain rfl : event = .frame := hframe
    exact Link.source_of_accept ha

/-- A frame has the source that it names, or else the one that the packet had before. -/
theorem source_of_read (h : f.read own data p l = .ok (some r)) (hframe : r.event = .frame) :
    r.packet.source = (f.source? data).getD p.source := by
  cases f with
  | airspy =>
    simp only [read, Option.bind_eq_bind, Except.ok.injEq, Option.bind_eq_some_iff] at h
    obtain ⟨⟨line, used⟩, -, hr⟩ := h
    cases hr
    rfl
  | beast =>
    simp only [read, Option.bind_eq_bind, Except.ok.injEq, Option.bind_eq_some_iff] at h
    obtain ⟨⟨contents, used⟩, -, hr⟩ := h
    cases hr
    rfl
  | json =>
    simp only [read] at h
    split at h
    · cases h
    · rename_i m used hm
      cases hd : Wire.Json.decoded m with
      | error e =>
        rw [hd] at h
        cases h
      | ok m' =>
        rw [hd] at h
        have hsource := source_of_accepted h hframe
        rw [source?, hm]
        show _ = m.source?.getD _
        rw [← Wire.Json.source_of_decoded hd, hsource]
        rfl
  | proto =>
    simp only [read] at h
    split at h
    · cases h
    · rename_i m used hm
      rw [source?, hm]
      show _ = m.source?.getD _
      rw [source_of_accepted h hframe]
      rfl
  | raw =>
    simp only [read, Option.bind_eq_bind, Except.ok.injEq, Option.bind_eq_some_iff] at h
    obtain ⟨⟨kind, payload, used⟩, -, hr⟩ := h
    cases hr
    rfl
  | stats => cases h

/-- The packet is that of a frame that stands in the data, and has the source that the frame
names, or else the given one. -/
def Frames (f : Format) (own source : Uuid) (data : Bytes) (p : Packet) : Prop :=
  ∃ tail l r, tail <:+ data ∧ f.read own tail (.blank source) l = .ok (some r) ∧
    r.event = .frame ∧ r.packet = p ∧ p.source = (f.source? tail).getD source

theorem Frames.of_suffix {source : Uuid} {data' : Bytes} (h : f.Frames own source data p)
    (hsuffix : data <:+ data') : f.Frames own source data' p := by
  obtain ⟨tail, l, r, htail, hread⟩ := h
  exact ⟨tail, l, r, htail.trans hsuffix, hread⟩

end Format

namespace Decoder

variable {own source : Uuid}

/-! ## Packets in a string -/

/-- A pinned format stays pinned. -/
theorem Reads.format_eq {d d' : Decoder} {data rest : Bytes} {os : List Outcome} {f : Format}
    (h : Reads own source d data os d' rest) (hd : d.format = some f) : d'.format = some f := by
  induction h with
  | done => exact hd
  | fail => exact hd
  | next hf _ _ ih =>
    simp only [candidates, hd, List.mem_singleton] at hf
    exact ih (congrArg some hf)

/-- **Packets are those of frames** of the pinned format. -/
theorem Reads.frames {d d' : Decoder} {data rest : Bytes} {os : List Outcome} {p : Packet}
    (h : Reads own source d data os d' rest) (hp : .frame p ∈ os) :
    ∃ f, d'.format = some f ∧ f.Frames own source data p := by
  induction h with
  | done => cases hp
  | fail => cases List.mem_singleton.1 hp
  | @next d d' data rest f r os hf hread hrest ih =>
    rcases List.mem_cons.1 hp with heq | hmem
    · refine ⟨f, hrest.format_eq rfl, data, d.link, r, List.suffix_refl _, hread, ?_⟩
      cases hevent : r.event with
      | control =>
        rw [hevent] at heq
        cases heq
      | frame =>
        rw [hevent] at heq
        cases heq
        exact ⟨rfl, rfl, Format.source_of_read hread hevent⟩
    · obtain ⟨g, hg, hframes⟩ := ih hmem
      exact ⟨g, hg, hframes.of_suffix (List.drop_suffix _ _)⟩

/-! ## Calls on one buffer -/

/-- Reading a buffer ends with an error if a call fails. -/
theorem ending_foldl_drain (d : Decoder) (b : Buffer) {t : Transcript} (ht : t.ending = none)
    (e : Error) : ((d.drain own source b).foldl .add t).ending = some e ↔
      .failed e ∈ (d.drain own source b).filterMap Step.outcome? := by
  induction hn : b.data.length using Nat.strongRecOn generalizing d b t with
  | ind n ih =>
    rcases decode_cases d own b (.blank source) with
      ⟨-, hd⟩ | ⟨_, -, e', -, hd⟩ | ⟨f, -, r, hread, hd⟩
    · rw [drain_of_no_event hd (by simp)]
      simp [Transcript.add, Step.outcome?, ht]
    · rw [drain_of_no_event hd (by simp)]
      simp [Transcript.add, Step.outcome?, eq_comm]
    · have hlt : (b.advance r.used).data.length < n := hn ▸ Format.length_drop_used_lt hread
      let s : Step := ⟨.ok (some r.event), r.packet, ⟨some f, r.link⟩, b.advance r.used⟩
      have hs (e : Error) : s.outcome? ≠ some (.failed e) := fun heq =>
        Outcome.failed_ne_ofEvent e _ _ _ (Option.some.inj heq).symm
      rw [drain_of_event hd rfl, List.foldl_cons]
      refine (ih _ hlt _ _ ((Transcript.ending_add hs).trans ht) rfl).trans ?_
      simp [Step.outcome?, Outcome.failed_ne_ofEvent]

end Decoder
end Squitter
