import Squitter.Proofs.Transcripts
import Squitter.Receiver

/-!
# What a receiver reads

When its stream is ready, a receiver reads all **pieces** (`Receiver.pieces`) that wait, up to where
reading would wait or end. A transcript of a stream goes **along** with a receiver
(`Receiver.Along`) if both are in the same state.

**The result** (`Receiver.Along.receive`). Unless the receiver closes over what it read, it takes
all bytes that wait, and the transcript that goes along with it after them is that of reading all
pieces. So no byte that was read is kept from the decoder, and the packets are those of the stream.
-/

namespace Squitter

open Decoder (Transcript readFrom)

namespace Receiver

/-! ## One filling of the buffer -/

/-- What reading the buffer yields agrees with a transcript, which had packets before. -/
structure Agrees (before : List Packet) (t : Transcript) (y : Yield) : Prop where
  decoder : t.decoder = y.receiver.decoder
  buffer : t.buffer = y.receiver.buffer
  packets : t.packets = before ++ y.packets
  closing : y.closing = t.ending.map .protocolError

theorem Agrees.takeStep {before : List Packet} {t : Transcript} {y : Yield} (h : Agrees before t y)
    (s : Decoder.Step) : Agrees before (t.add s) (takeStep y s) := by
  have hpackets := h.packets
  have hclosing := h.closing
  unfold Transcript.add Receiver.takeStep
  rcases s.result with e | _ | _ | _
  · exact ⟨rfl, rfl, hpackets, rfl⟩
  · exact ⟨rfl, rfl, hpackets, hclosing⟩
  · refine ⟨rfl, rfl, ?_, hclosing⟩
    simp [hpackets]
  · exact ⟨rfl, rfl, hpackets, hclosing⟩

theorem Agrees.foldl {before : List Packet} {t : Transcript} {y : Yield} (h : Agrees before t y)
    (steps : List Decoder.Step) :
    Agrees before (steps.foldl .add t) (steps.foldl Receiver.takeStep y) := by
  induction steps generalizing t y with
  | nil => exact h
  | cons s steps ih => exact ih (h.takeStep s)

/-! ## What stays -/

theorem foldl_takeStep_stream (steps : List Decoder.Step) (y : Yield) :
    (steps.foldl takeStep y).receiver.stream = y.receiver.stream ∧
      (steps.foldl takeStep y).receiver.source = y.receiver.source := by
  induction steps generalizing y with
  | nil => exact ⟨rfl, rfl⟩
  | cons s steps ih => exact ih (takeStep y s)

theorem drain_stream (own : Uuid) (r : Receiver) :
    (drain own r).receiver.stream = r.stream ∧ (drain own r).receiver.source = r.source := by
  unfold drain
  simp only
  split <;> exact foldl_takeStep_stream _ r.idle

/-- Reading changes neither the stream of a receiver nor its source. -/
theorem receive_stream (own : Uuid) (r : Receiver) (arrivals : List Arrival) :
    (receive own r arrivals).receiver.stream = r.stream ∧
      (receive own r arrivals).receiver.source = r.source := by
  fun_induction receive own r arrivals with
  | case1 => exact ⟨rfl, rfl⟩
  | case2 => exact ⟨rfl, rfl⟩
  | case3 => exact ⟨rfl, rfl⟩
  | case4 _ _ _ ih => exact ih
  | case5 => exact ⟨rfl, rfl⟩
  | case6 => exact ⟨rfl, rfl⟩
  | case7 => exact ⟨rfl, rfl⟩
  | case8 => exact drain_stream own _
  | case9 r _ bytes rest n _ y _ _ ih =>
    have hdrain := drain_stream own { r with buffer := r.buffer.append (bytes.take n) }
    exact ⟨ih.1.trans hdrain.1, ih.2.trans hdrain.2⟩

/-! ## Going along -/

/-- A transcript that has not ended is in the state of a receiver, which has room to read. -/
structure Along (r : Receiver) (t : Transcript) : Prop where
  ending : t.ending = none
  decoder : t.decoder = r.decoder
  buffer : t.buffer = r.buffer
  sound : r.buffer.Sound
  short : r.buffer.isFull = false

theorem Along.room_pos {r : Receiver} {t : Transcript} (h : r.Along t) : 0 < r.buffer.room := by
  have hsound := h.sound
  have hne : r.buffer.data.length ≠ r.buffer.capacity := fun heq =>
    Bool.eq_false_iff.1 h.short (Buffer.isFull_iff.2 heq)
  unfold Buffer.Sound at hsound
  exact Buffer.room_pos h.sound (by omega)

/-- A receiver read a number of bytes, and the transcript `t`, which went
along with it, is now `t'`. -/
structure Takes (t t' : Transcript) (n : Nat) (y : Yield) : Prop where
  taken : y.taken = n
  along : y.receiver.Along t'
  packets : t'.packets = t.packets ++ y.packets

/-- The receiver closes over what it read. -/
def Yield.Breaks (y : Yield) : Prop :=
  (∃ e, y.closing = some (.protocolError e)) ∨ y.closing = some .overrun

section

variable {r : Receiver} {t t' t'' : Transcript}

/-- Nothing was read. -/
theorem Along.takes (h : r.Along t) (closing : Option Reason) :
    Takes t t 0 ⟨r, [], [], 0, closing⟩ :=
  ⟨rfl, h, (List.append_nil _).symm⟩

theorem Takes.followedBy {n m : Nat} {y z : Yield} (h : Takes t t' n y) (h' : Takes t' t'' m z) :
    Takes t t'' (n + m) (Receiver.followedBy y z) where
  taken := by rw [Receiver.followedBy, h.taken, h'.taken]
  along := h'.along
  packets := by rw [h'.packets, h.packets, List.append_assoc]; rfl

/-- The transcript after bytes were put into the buffer and all messages in it were read. -/
def filled (own source : Uuid) (t : Transcript) (piece : Bytes) : Transcript :=
  (t.decoder.drain own source (t.buffer.append piece)).foldl .add
    { t with buffer := t.buffer.append piece }

theorem Along.sound_filled (own : Uuid) (h : r.Along t) {piece : Bytes}
    (hlen : piece.length ≤ r.buffer.room) : (filled own r.source t piece).buffer.Sound := by
  rw [filled, (Transcript.state_foldl_add _ (Decoder.drain_ne_nil t.decoder own r.source _)).2]
  refine Decoder.buffer_lastStep (P := Buffer.Sound) (fun _ n hb => Buffer.sound_advance hb n) _ ?_
  rw [h.buffer]
  exact Buffer.sound_append h.sound hlen

theorem Along.agrees_filled (own : Uuid) (h : r.Along t) (piece : Bytes) :
    Agrees t.packets (filled own r.source t piece)
      ((r.decoder.drain own r.source (r.buffer.append piece)).foldl takeStep
        (idle { r with buffer := r.buffer.append piece })) := by
  rw [filled, h.decoder, h.buffer]
  refine Agrees.foldl ⟨rfl, rfl, (List.append_nil _).symm, ?_⟩ _
  show none = t.ending.map _
  rw [h.ending]
  rfl

/-- A receiver fills its buffer and decodes all that is complete. -/
theorem Along.drain (own : Uuid) (h : r.Along t) (piece : Bytes)
    (hlen : piece.length ≤ r.buffer.room) :
    let y := { Receiver.drain own { r with buffer := r.buffer.append piece } with
      taken := piece.length }
    y.Breaks ∨ y.closing = none ∧ Takes t (filled own r.source t piece) piece.length y := by
  have hagrees := h.agrees_filled own piece
  have hsound := h.sound_filled own hlen
  unfold Receiver.drain
  simp only
  split
  · exact .inl (.inr rfl)
  · rename_i hroom
    have hclosing := hagrees.closing
    cases hending : (filled own r.source t piece).ending with
    | some e =>
      rw [hending] at hclosing
      exact .inl (.inl ⟨e, hclosing⟩)
    | none =>
      rw [hending] at hclosing
      have hshort : ¬ (filled own r.source t piece).buffer.isFull = true := fun hfull =>
        hroom ⟨by rw [hclosing]; rfl, hagrees.buffer ▸ hfull⟩
      exact .inr ⟨hclosing, rfl, ⟨hending, hagrees.decoder, hagrees.buffer, hagrees.buffer ▸ hsound,
        hagrees.buffer ▸ Bool.eq_false_iff.2 hshort⟩, hagrees.packets⟩

end

/-! ## All that waits -/

/-- The pieces that wait to be read. No bytes at all are the end of a stream. -/
def pieces : List Arrival → List Bytes
  | [] => []
  | .wouldBlock :: _ => []
  | .interrupted :: rest => pieces rest
  | .endOfStream :: _ => []
  | .failed _ :: _ => []
  | .data bytes :: rest => if bytes = [] then [] else bytes :: pieces rest

/-- What waits after some of the first bytes were read. -/
theorem pieces_rest (bytes : Bytes) (n : Nat) (rest : List Arrival) :
    pieces (if bytes.length ≤ n then rest else .data (bytes.drop n) :: rest) =
      if bytes.drop n = [] then pieces rest else bytes.drop n :: pieces rest := by
  by_cases h : bytes.length ≤ n
  · rw [if_pos h, if_pos (List.drop_eq_nil_of_le h)]
  · have hne : bytes.drop n ≠ [] := fun hnil => h (List.drop_eq_nil_iff.1 hnil)
    rw [if_neg h, pieces, if_neg hne, if_neg hne]

theorem flatten_pieces_rest (bytes : Bytes) (n : Nat) (rest : List Arrival) :
    (pieces (if bytes.length ≤ n then rest else .data (bytes.drop n) :: rest)).flatten =
      bytes.drop n ++ (pieces rest).flatten := by
  rw [pieces_rest]
  split
  · rename_i hnil
    rw [hnil, List.nil_append]
  · exact List.flatten_cons

variable {r : Receiver} {t : Transcript}

theorem Along.foldl_pieces_rest (own : Uuid) (h : r.Along t) (bytes : Bytes) (n : Nat)
    (rest : List Arrival) :
    (pieces (if bytes.length ≤ n then rest else .data (bytes.drop n) :: rest)).foldl
        (readFrom own r.source) t =
      (pieces rest).foldl (readFrom own r.source) (readFrom own r.source t (bytes.drop n)) := by
  rw [pieces_rest]
  split
  · rename_i hnil
    have hnothing : readFrom own r.source t [] = t := by
      rw [readFrom, h.buffer, h.short]
      rfl
    rw [hnil, hnothing]
  · rfl

/-- Reading bytes is to fill the buffer, and to go on with those for which there was no room. -/
theorem Along.readFrom_of_ne (own : Uuid) (h : r.Along t) {bytes : Bytes} (hne : bytes ≠ []) :
    let t' := filled own r.source t (bytes.take r.buffer.room)
    readFrom own r.source t bytes =
      if t'.ending.isSome then t' else readFrom own r.source t' (bytes.drop r.buffer.room) := by
  have hroom : t.buffer.room ≠ 0 := h.buffer ▸ Nat.ne_of_gt h.room_pos
  have hshort : t.buffer.isFull = false := h.buffer ▸ h.short
  rw [readFrom, ← h.buffer]
  simp only [hshort, hne, hroom, Bool.false_eq_true, if_false, dite_false]
  rfl

/-- **A receiver reads all that waits**, unless it closes over what it read. -/
theorem Along.receive (own : Uuid) (arrivals : List Arrival) (h : r.Along t)
    (hregular : r.stream.regular = false) :
    let y := r.receive own arrivals
    y.Breaks ∨ Takes t ((pieces arrivals).foldl (readFrom own r.source) t)
      (pieces arrivals).flatten.length y := by
  fun_induction Receiver.receive own r arrivals generalizing t with
  | case1 r arrivals hfull => exact absurd hfull (Bool.eq_false_iff.1 h.short)
  | case2 => exact .inr (h.takes none)
  | case3 => exact .inr (h.takes none)
  | case4 r _ rest ih => exact ih h hregular
  | case5 => exact .inr (h.takes _)
  | case6 => exact .inr (h.takes _)
  | case7 r _ bytes rest n =>
    have hroom := h.room_pos
    have hbytes : bytes = [] := List.length_eq_zero_iff.1 (by omega)
    rw [pieces, if_pos hbytes]
    exact .inr (h.takes _)
  | case8 r _ bytes rest n hn y₀ y =>
    rename_i hstop
    have hlen : (bytes.take n).length = n := by simp [n]
    rcases h.drain own (bytes.take n) (by omega) with hbreaks | ⟨hclosing, -⟩
    · exact .inl hbreaks
    · have hnone : y.closing = none := hclosing
      simp [hnone, hregular] at hstop
  | case9 r _ bytes rest n hn y₀ y hgoes =>
    rename_i ih
    have hne : bytes ≠ [] := fun hnil => hn (by simp [n, hnil])
    have hlen : (bytes.take n).length = n := by simp [n]
    have htake : bytes.take r.buffer.room = bytes.take n :=
      List.take_eq_take_min.trans (congrArg (bytes.take ·) (Nat.min_comm ..))
    have hdrop : bytes.drop r.buffer.room = bytes.drop n :=
      List.drop_eq_drop_min.trans (congrArg (bytes.drop ·) (Nat.min_comm ..))
    rcases h.drain own (bytes.take n) (by omega) with hbreaks | ⟨-, htakes⟩
    · exact absurd (hbreaks.elim (fun ⟨e, he⟩ => .inl (he ▸ rfl)) fun ho => .inl (ho ▸ rfl)) hgoes
    · rw [hlen] at htakes
      have htakes' : Takes t _ n y := htakes
      obtain ⟨hstream, hsource⟩ :=
        drain_stream own { r with buffer := r.buffer.append (bytes.take n) }
      have hread := h.readFrom_of_ne own hne
      simp only [htake, hdrop, htakes.along.ending, Option.isSome_none, Bool.false_eq_true,
        if_false] at hread
      have hfold := htakes'.along.foldl_pieces_rest own bytes n rest
      have hrest := ih htakes'.along (hstream ▸ hregular)
      have hsource' : y.receiver.source = r.source := hsource
      rw [hsource'] at hfold
      simp only [dite_eq_ite, flatten_pieces_rest, hsource', hfold] at hrest
      rw [pieces, if_neg hne, List.foldl_cons, hread]
      refine hrest.imp (fun hbreaks => hbreaks) fun hrest => ?_
      have hsum : (bytes :: pieces rest).flatten.length =
          n + (bytes.drop n ++ (pieces rest).flatten).length := by
        simp [n]; omega
      rw [hsum]
      exact htakes'.followedBy hrest

end Receiver

end Squitter
