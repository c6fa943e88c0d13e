import Squitter.Decoder
import Squitter.Proofs.Buffer
import Squitter.Proofs.FirstBytes

/-!
# One call of a decoder

What a call of a decoder does (`Decoder.decode_cases`): either no candidate reads anything and all
stays as it is, or one of them finds a breach of protocol and all stays as it is, or one of them
reads a message, which is taken off the buffer. The **candidates** are the pinned format, or all
readable formats while none is pinned.
-/

namespace Squitter

/-! ## Reading from a buffer -/

namespace Format

variable {f : Format} {own : Uuid} {i : Intake}

theorem length_drop_used_lt {data : Bytes} {p : Packet} {l : Link} {r : Reading}
    (h : f.read own data p l = .ok (some r)) : (data.drop r.used).length < data.length := by
  have hpos := used_pos h
  have hle := used_le h
  rw [List.length_drop]
  omega

theorem parse_of_none (h : f.read own i.buffer.data i.packet i.link = .ok none) :
    f.parse own i = (.ok none, i) := by
  rw [parse, h]

theorem parse_of_error {e : Error} (h : f.read own i.buffer.data i.packet i.link = .error e) :
    f.parse own i = (.error e, i) := by
  rw [parse, h]

/-- There are always enough bytes for a message that was read. -/
theorem parse_of_some {r : Reading}
    (h : f.read own i.buffer.data i.packet i.link = .ok (some r)) :
    f.parse own i = (.ok (some r.event), ⟨i.buffer.advance r.used, r.packet, r.link⟩) := by
  rw [parse, h]
  simp only [Buffer.consume?_of_le (used_le h)]

theorem parse_eq_none_iff :
    (f.parse own i).1 = .ok none ↔ f.read own i.buffer.data i.packet i.link = .ok none := by
  constructor
  · intro h
    cases hr : f.read own i.buffer.data i.packet i.link with
    | error e =>
      rw [parse_of_error hr] at h
      cases h
    | ok found =>
      cases found with
      | none => rfl
      | some r =>
        rw [parse_of_some hr] at h
        cases h
  · intro h
    rw [parse_of_none h]

end Format

namespace Decoder

/-! ## Trying formats -/

theorem detect_of_none {order : List Format} {own : Uuid} {i : Intake}
    (h : ∀ f ∈ order, f.read own i.buffer.data i.packet i.link = .ok none) :
    detect order own i = (.ok none, i) := by
  induction order with
  | nil => rfl
  | cons g order ih =>
    rw [detect, Format.parse_of_none (h g List.mem_cons_self)]
    exact ih fun f hf => h f (List.mem_cons_of_mem _ hf)

/-- The one format that reads something is found, wherever it stands in the order. -/
theorem detect_of_mem {order : List Format} {f : Format} {own : Uuid} {i : Intake}
    (hf : f ∈ order) (h : f.read own i.buffer.data i.packet i.link ≠ .ok none) :
    detect order own i = ((f.parse own i).1.map (Option.map (f, ·)), (f.parse own i).2) := by
  induction order with
  | nil => cases hf
  | cons g order ih =>
    by_cases hg : g = f
    · subst hg
      have hp := mt Format.parse_eq_none_iff.1 h
      rw [detect]
      rcases hpar : g.parse own i with ⟨e | event, i'⟩
      · rfl
      · cases event with
        | none => rw [hpar] at hp; exact absurd rfl hp
        | some event => rfl
    · have hnone : g.read own i.buffer.data i.packet i.link = .ok none := by
        by_cases hr : g.read own i.buffer.data i.packet i.link = .ok none
        · exact hr
        · exact absurd (Format.eq_of_read_ne_none hr h) hg
      rw [detect, Format.parse_of_none hnone]
      exact ih ((List.mem_cons.1 hf).resolve_left (Ne.symm hg))

theorem detect_of_error {order : List Format} {f : Format} {own : Uuid} {i : Intake} {e : Error}
    (hf : f ∈ order) (h : f.read own i.buffer.data i.packet i.link = .error e) :
    detect order own i = (.error e, i) := by
  have hne : f.read own i.buffer.data i.packet i.link ≠ .ok none := by
    rw [h]
    intro heq
    cases heq
  rw [detect_of_mem hf hne, Format.parse_of_error h]
  rfl

theorem detect_of_some {order : List Format} {f : Format} {own : Uuid} {i : Intake} {r : Reading}
    (hf : f ∈ order) (h : f.read own i.buffer.data i.packet i.link = .ok (some r)) :
    detect order own i =
      (.ok (some (f, r.event)), ⟨i.buffer.advance r.used, r.packet, r.link⟩) := by
  have hne : f.read own i.buffer.data i.packet i.link ≠ .ok none := by
    rw [h]
    intro heq
    cases heq
  rw [detect_of_mem hf hne, Format.parse_of_some h]
  rfl

/-! ## Calls -/

/-- The formats that a decoder tries. -/
def candidates (d : Decoder) : List Format :=
  match d.format with
  | some f => [f]
  | none => Format.readable

variable {d : Decoder} {own : Uuid} {b : Buffer} {p : Packet}

theorem decode_of_none (h : ∀ f ∈ d.candidates, f.read own b.data p d.link = .ok none) :
    d.decode own b p = ⟨.ok none, p, d, b⟩ := by
  obtain ⟨format, link⟩ := d
  cases format with
  | none =>
    have hdetect : detect Format.readable own ⟨b, p, link⟩ = (.ok none, ⟨b, p, link⟩) :=
      detect_of_none h
    simp only [decode, decodeIn, hdetect]
  | some f =>
    have hparse : f.parse own ⟨b, p, link⟩ = (.ok none, ⟨b, p, link⟩) :=
      Format.parse_of_none (h f List.mem_cons_self)
    simp only [decode, decodeIn, hparse]

theorem decode_of_error {f : Format} {e : Error} (hf : f ∈ d.candidates)
    (h : f.read own b.data p d.link = .error e) : d.decode own b p = ⟨.error e, p, d, b⟩ := by
  obtain ⟨format, link⟩ := d
  cases format with
  | none =>
    have hdetect : detect Format.readable own ⟨b, p, link⟩ = (.error e, ⟨b, p, link⟩) :=
      detect_of_error hf h
    simp only [decode, decodeIn, hdetect]
  | some g =>
    obtain rfl := List.mem_singleton.1 hf
    have hparse : f.parse own ⟨b, p, link⟩ = (.error e, ⟨b, p, link⟩) := Format.parse_of_error h
    simp only [decode, decodeIn, hparse]

theorem decode_of_some {f : Format} {r : Reading} (hf : f ∈ d.candidates)
    (h : f.read own b.data p d.link = .ok (some r)) :
    d.decode own b p = ⟨.ok (some r.event), r.packet, ⟨some f, r.link⟩, b.advance r.used⟩ := by
  obtain ⟨format, link⟩ := d
  cases format with
  | none =>
    have hdetect : detect Format.readable own ⟨b, p, link⟩ =
        (.ok (some (f, r.event)), ⟨b.advance r.used, r.packet, r.link⟩) :=
      detect_of_some hf h
    simp only [decode, decodeIn, hdetect]
  | some g =>
    obtain rfl := List.mem_singleton.1 hf
    have hparse : f.parse own ⟨b, p, link⟩ =
        (.ok (some r.event), ⟨b.advance r.used, r.packet, r.link⟩) := Format.parse_of_some h
    simp only [decode, decodeIn, hparse]

/-- **All that a call can do.** -/
theorem decode_cases (d : Decoder) (own : Uuid) (b : Buffer) (p : Packet) :
    ((∀ f ∈ d.candidates, f.read own b.data p d.link = .ok none) ∧
      d.decode own b p = ⟨.ok none, p, d, b⟩) ∨
    (∃ f ∈ d.candidates, ∃ e, f.read own b.data p d.link = .error e ∧
      d.decode own b p = ⟨.error e, p, d, b⟩) ∨
    (∃ f ∈ d.candidates, ∃ r, f.read own b.data p d.link = .ok (some r) ∧
      d.decode own b p = ⟨.ok (some r.event), r.packet, ⟨some f, r.link⟩, b.advance r.used⟩) := by
  by_cases h : ∀ f ∈ d.candidates, f.read own b.data p d.link = .ok none
  · exact .inl ⟨h, decode_of_none h⟩
  · simp only [Classical.not_forall] at h
    obtain ⟨f, hf, hne⟩ := h
    cases hr : f.read own b.data p d.link with
    | error e => exact .inr (.inl ⟨f, hf, e, hr, decode_of_error hf hr⟩)
    | ok found =>
      cases found with
      | none => exact absurd hr hne
      | some r => exact .inr (.inr ⟨f, hf, r, hr, decode_of_some hf hr⟩)

end Decoder
end Squitter
