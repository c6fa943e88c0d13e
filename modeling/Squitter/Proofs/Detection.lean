import Squitter.Proofs.Decoding

/-!
# Format detection is unambiguous

A decoder finds out the format of a connection by trying one reader after the other. It matters that
no two of them take the same bytes for their own: then the order does not matter, a connection is
never pinned to a wrong format, and nothing leaks from an attempt that failed into the next one.

**Orders.** `Decoder.decodeIn` tries the formats in a given order; in any order of the readable
formats it does the same.

**Calls** (`Decoder.calls`). A decoder is called again and again, each time with the buffer and
packet of the moment. As long as no call reads a message, it is as good as new.
-/

namespace Squitter.Decoder

/-! ## Orders -/

theorem detect_perm {order : List Format} (h : order.Perm Format.readable) (own : Uuid)
    (i : Intake) : detect order own i = detect Format.readable own i := by
  by_cases hnone : ∀ f ∈ Format.readable, f.read own i.buffer.data i.packet i.link = .ok none
  · rw [detect_of_none hnone, detect_of_none fun f hf => hnone f (h.mem_iff.1 hf)]
  · simp only [Classical.not_forall] at hnone
    obtain ⟨f, hf, hread⟩ := hnone
    rw [detect_of_mem hf hread, detect_of_mem (h.mem_iff.2 hf) hread]

/-! ## Calls -/

/-- The outcomes of calls of a decoder, each on a buffer and a packet, and
the decoder after them. -/
def calls (own : Uuid) (d : Decoder) : List (Buffer × Packet) → List Step × Decoder
  | [] => ([], d)
  | (b, p) :: rest =>
    let s := d.decode own b p
    let (steps, last) := s.decoder.calls own rest
    (s :: steps, last)

/-- A call that reads no message changes nothing. -/
theorem decode_eq_of_no_event {d : Decoder} {own : Uuid} {b : Buffer} {p : Packet}
    (h : ∀ event, (d.decode own b p).result ≠ .ok (some event)) :
    d.decode own b p = ⟨(d.decode own b p).result, p, d, b⟩ := by
  rcases decode_cases d own b p with ⟨-, heq⟩ | ⟨_, -, _, -, heq⟩ | ⟨_, -, r, -, heq⟩
  · rw [heq]
  · rw [heq]
  · exact absurd (congrArg Step.result heq) (h r.event)

theorem calls_of_no_event {own : Uuid} {d : Decoder} {inputs : List (Buffer × Packet)}
    (h : ∀ s ∈ (d.calls own inputs).1, ∀ event, s.result ≠ .ok (some event)) :
    (d.calls own inputs).2 = d ∧
      (d.calls own inputs).1.map (fun s => (s.buffer, s.packet)) = inputs := by
  induction inputs with
  | nil => exact ⟨rfl, rfl⟩
  | cons input inputs ih =>
    obtain ⟨b, p⟩ := input
    have hfirst := decode_eq_of_no_event (h _ List.mem_cons_self)
    have hd : (d.decode own b p).decoder = d := by rw [hfirst]
    have hrest : ∀ s ∈ (d.calls own inputs).1, ∀ event, s.result ≠ .ok (some event) := by
      intro s hs
      refine h s (List.mem_cons_of_mem _ ?_)
      rwa [hd]
    obtain ⟨hlast, hmap⟩ := ih hrest
    refine ⟨?_, ?_⟩
    · simp only [calls, hd, hlast]
    · simp only [calls, List.map_cons, hd, hmap]
      rw [hfirst]

/-! ## Detection -/

/-- **Detection is unambiguous.** At most one of the readable formats takes the bytes in a
buffer for its own. So a decoder that has not pinned a format does the same in whatever order
it tries them, and before its first message it is as it was in the beginning and leaves
buffer and packet alone. -/
theorem detection_unambiguous :
    (∀ (own : Uuid) (i : Intake), Format.readable.Pairwise fun f g =>
      (f.parse own i).1 = .ok none ∨ (g.parse own i).1 = .ok none) ∧
    (∀ order : List Format, order.Perm Format.readable →
      ∀ (l : Link) (own : Uuid) (b : Buffer) (p : Packet),
        decodeIn order ⟨none, l⟩ own b p = decode ⟨none, l⟩ own b p) ∧
    (∀ (own : Uuid) (inputs : List (Buffer × Packet)),
      (∀ s ∈ (fresh.calls own inputs).1, ∀ event, s.result ≠ .ok (some event)) →
        (fresh.calls own inputs).2 = fresh ∧
          (fresh.calls own inputs).1.map (fun s => (s.buffer, s.packet)) = inputs) := by
  refine ⟨?_, ?_, ?_⟩
  · intro own i
    have hdistinct : Format.readable.Pairwise (· ≠ ·) := by decide
    refine hdistinct.imp fun {f g} hne => ?_
    by_cases hf : f.read own i.buffer.data i.packet i.link = .ok none
    · exact .inl (Format.parse_eq_none_iff.2 hf)
    · refine .inr (Format.parse_eq_none_iff.2 ?_)
      by_cases hg : g.read own i.buffer.data i.packet i.link = .ok none
      · exact hg
      · exact absurd (Format.eq_of_read_ne_none hf hg) hne
  · intro order horder l own b p
    simp only [decode, decodeIn, detect_perm horder]
  · intro own inputs h
    exact calls_of_no_event h

/-- A raw line is found last in the usual order and first in the opposite one, and before it come an
empty buffer and half the line. -/
theorem detection_unambiguous_raw_line :
    let order := [Format.raw, .proto, .json, .beast, .airspy]
    let line : Buffer := ⟨16, 0, utf8 "*7700;\n"⟩
    let early : List (Buffer × Packet) :=
      [(.empty 16, .blank .nil), (⟨16, 0, utf8 "*77"⟩, .blank .nil)]
    order.Perm Format.readable ∧
      (decodeIn order fresh .nil line (.blank .nil)).decoder.format = some .raw ∧
      (decodeIn order ⟨none, .fresh⟩ .nil line (.blank .nil)).decoder =
        (decode ⟨none, .fresh⟩ .nil line (.blank .nil)).decoder ∧
      (fresh.calls .nil early).2 = fresh := by
  have horder : [Format.raw, .proto, .json, .beast, .airspy].Perm Format.readable := by decide
  refine ⟨horder, by decide +kernel, ?_, ?_⟩
  · exact congrArg Step.decoder (detection_unambiguous.2.1 _ horder .fresh .nil _ _)
  · refine (detection_unambiguous.2.2 .nil _ ?_).1
    have hnone : ∀ s ∈ (fresh.calls .nil
        [((.empty 16 : Buffer), Packet.blank .nil), (⟨16, 0, utf8 "*77"⟩, .blank .nil)]).1,
        s.result.toOption = some none := by
      decide +kernel
    intro s hs event heq
    have hs' := hnone s hs
    rw [heq] at hs'
    cases hs'

end Squitter.Decoder
