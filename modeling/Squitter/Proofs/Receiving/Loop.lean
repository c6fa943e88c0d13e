import Squitter.Proofs.Exits.Reading
import Squitter.Proofs.Receiving.Frames
import Squitter.Relay

/-!
# The loop of a receiver

When its stream is ready, a receiver reads and decodes until nothing is left. Between reads it
has to **account** (`Receiver.Accounts`) for all bytes it has ever read: what it passed on so
far is what a decoder reads from them, and what is left of them is in the buffer, in which
there is nothing more to read.

**The invariant.** A receiver that accounts for its bytes and does not close has room in its
buffer, because a buffer that is full after decoding closes it. So each read takes at least one
byte, the bytes go behind those that are left, and decoding them keeps the account
(`Receiver.Accounts.fill`). That is carried through the calls of the loop
(`Receiver.Accounts.receive`), and from one call to the next.

**The result** (`Receiver.drains_of_reached`). In each call of a receiver, whatever its
stream answers, the account is kept; the receiver closes over an overrun exactly if its
buffer is full after decoding, and otherwise only for what its stream answered, never
because it had no room to read.
-/

namespace Squitter

open Decoder (Outcome Reads)

/-! ## Line ends in front -/

/-- What follows is the same behind strings that differ in the line ends in front only. -/
theorem Decoder.trimmed_append {d : Decoder} {x y : Bytes} (h : d.trimmed x = d.trimmed y)
    (more : Bytes) : d.trimmed (x ++ more) = d.trimmed (y ++ more) := by
  unfold trimmed at h ⊢
  by_cases hd : d.format = some .json
  · simp only [hd, if_true] at h ⊢
    rw [List.dropWhile_append, List.dropWhile_append, h]
  · simp only [hd, if_false] at h ⊢
    rw [h]

/-- What is left of a string is its end. -/
theorem Decoder.Reads.suffix {own source : Uuid} {d d' : Decoder} {data rest : Bytes}
    {os : List Outcome} (h : Reads own source d data os d' rest) : rest <:+ data := by
  induction h with
  | done => exact List.suffix_refl _
  | fail => exact List.suffix_refl _
  | next _ _ _ ih => exact ih.trans (List.drop_suffix _ _)

namespace Receiver

/-! ## Reasons -/

/-- The reason is that of a breach of protocol. -/
def Breach (closing : Option Reason) : Prop := ∃ e, closing = some (.protocolError e)

/-- How reading ends when all that waits is read. -/
def ending : List Arrival → Option Reason
  | [] => none
  | .wouldBlock :: _ => none
  | .interrupted :: rest => ending rest
  | .endOfStream :: _ => some .endOfStream
  | .failed e :: _ => some (.readError e)
  | .data bytes :: rest => if bytes = [] then some .endOfStream else ending rest

theorem ending_cases (arrivals : List Arrival) :
    ending arrivals = none ∨ ending arrivals = some .endOfStream ∨
      ∃ e, .failed e ∈ arrivals ∧ ending arrivals = some (.readError e) := by
  induction arrivals with
  | nil => exact .inl rfl
  | cons a rest ih =>
    have hrest : ending rest = none ∨ ending rest = some .endOfStream ∨
        ∃ e, .failed e ∈ a :: rest ∧ ending rest = some (.readError e) :=
      ih.imp_right (.imp_right fun ⟨e, he, heq⟩ => ⟨e, List.mem_cons_of_mem _ he, heq⟩)
    cases a with
    | data bytes =>
      rw [ending]
      split
      · exact .inr (.inl rfl)
      · exact hrest
    | wouldBlock => exact .inl rfl
    | interrupted => exact hrest
    | endOfStream => exact .inr (.inl rfl)
    | failed e => exact .inr (.inr ⟨e, List.mem_cons_self, rfl⟩)

/-! ## Accounts -/

/-- A receiver accounts for all bytes that it has read, having passed on the packets. -/
structure Accounts (own : Uuid) (bytes : Bytes) (packets : List Packet) (r : Receiver)
    (closing : Option Reason) : Prop where
  sound : r.buffer.Sound
  capacity : r.buffer.capacity = Buffer.usualCapacity
  start : r.buffer.data = [] → r.buffer.start = 0
  /-- What is in the buffer was read last. -/
  suffix : r.buffer.data <:+ bytes
  /-- The packets are the frames in the bytes, and a breach of protocol in them closes the receiver.
  But for line ends, the bytes that are left are those in the buffer. -/
  decoded : ∃ os rest, Reads own r.source .fresh bytes os r.decoder rest ∧
    r.decoder.trimmed rest = r.decoder.trimmed r.buffer.data ∧ packets = Outcome.packets os ∧
    ∀ e, closing = some (.protocolError e) ↔ .failed e ∈ os
  /-- There is nothing more to read in the buffer. -/
  settled : ¬ Breach closing → ∀ f ∈ r.decoder.candidates,
    f.read own r.buffer.data (.blank r.source) r.decoder.link = .ok none
  overrun : closing = some .overrun ↔
    ¬ Breach closing ∧ r.buffer.data.length = Buffer.usualCapacity

/-! ## One filling of the buffer -/

/-- One filling of the buffer was decoded. -/
structure Decoded (own : Uuid) (r : Receiver) (os : List Outcome) (y : Yield) : Prop where
  stream : y.receiver.stream = r.stream
  source : y.receiver.source = r.source
  reads : Reads own r.source r.decoder r.buffer.data os y.receiver.decoder y.receiver.buffer.data
  packets : y.packets = Outcome.packets os
  failed : ∀ e, y.closing = some (.protocolError e) ↔ .failed e ∈ os
  sound : r.buffer.Sound → y.receiver.buffer.Sound
  capacity : y.receiver.buffer.capacity = r.buffer.capacity
  start : (r.buffer.data = [] → r.buffer.start = 0) →
    y.receiver.buffer.data = [] → y.receiver.buffer.start = 0

theorem decoded_foldl (own : Uuid) (r : Receiver) :
    let y := (r.decoder.drain own r.source r.buffer).foldl takeStep r.idle
    (∃ os, Decoded own r os y) ∧ (Breach y.closing ∨ y.closing = none) := by
  let steps := r.decoder.drain own r.source r.buffer
  let y := steps.foldl takeStep r.idle
  let t : Decoder.Transcript := steps.foldl .add ⟨[], 0, r.decoder, r.buffer, none⟩
  have hagrees : Agrees [] t y := Agrees.foldl ⟨rfl, rfl, rfl, rfl⟩ steps
  have hlast := Decoder.Transcript.state_foldl_add ⟨[], 0, r.decoder, r.buffer, none⟩
    (Decoder.drain_ne_nil r.decoder own r.source r.buffer)
  have hdecoder : y.receiver.decoder = (r.decoder.lastStep own r.source r.buffer).decoder :=
    hagrees.decoder.symm.trans hlast.1
  have hbuffer : y.receiver.buffer = (r.decoder.lastStep own r.source r.buffer).buffer :=
    hagrees.buffer.symm.trans hlast.2
  obtain ⟨hstream, hsource⟩ := foldl_takeStep_stream steps r.idle
  refine ⟨⟨steps.filterMap Decoder.Step.outcome?, hstream, hsource, ?_, ?_,
    fun e => ?_, ?_, ?_, ?_⟩, ?_⟩
  · show Reads own r.source _ _ _ y.receiver.decoder y.receiver.buffer.data
    rw [hdecoder, hbuffer]
    exact Decoder.reads_drain r.decoder own r.source r.buffer
  · exact hagrees.packets.symm.trans (Decoder.Transcript.packets_foldl_add _ _)
  · rw [← Decoder.ending_foldl_drain (t := ⟨[], 0, r.decoder, r.buffer, none⟩) r.decoder
      r.buffer rfl]
    show y.closing = _ ↔ t.ending = _
    rw [hagrees.closing]
    cases t.ending <;> simp
  · show _ → y.receiver.buffer.Sound
    rw [hbuffer]
    exact Decoder.buffer_lastStep (P := Buffer.Sound) (fun _ n hb => Buffer.sound_advance hb n) _
  · show y.receiver.buffer.capacity = _
    rw [hbuffer]
    exact Decoder.buffer_lastStep (P := fun b => b.capacity = r.buffer.capacity)
      (fun _ _ hb => hb) _
      rfl
  · show _ → y.receiver.buffer.data = [] → y.receiver.buffer.start = 0
    rw [hbuffer]
    refine Decoder.buffer_lastStep (P := fun b => b.data = [] → b.start = 0)
      (fun b n _ hnil => ?_) _
    exact if_pos (List.isEmpty_iff.2 hnil)
  · show Breach y.closing ∨ y.closing = none
    rw [hagrees.closing]
    cases t.ending with
    | none => exact .inr rfl
    | some e => exact .inl ⟨e, rfl⟩

/-- **Decoding a filling** ends with a breach of protocol, with an overrun if the buffer
is full, or with neither. -/
theorem decoded_drain (own : Uuid) (r : Receiver) :
    let y := drain own r
    (∃ os, Decoded own r os y) ∧ (y.Breaks ∨ y.closing = none) ∧
      (y.closing = some .overrun ↔ ¬ Breach y.closing ∧ y.receiver.buffer.isFull) := by
  obtain ⟨⟨os, hos⟩, hclosing⟩ := decoded_foldl own r
  unfold drain
  generalize (r.decoder.drain own r.source r.buffer).foldl takeStep r.idle = y at hos hclosing
  simp only
  split
  · rename_i hover
    have hnone : y.closing = none := Option.isNone_iff_eq_none.1 hover.1
    have hfailed (e : Error) : some Reason.overrun = some (.protocolError e) ↔ .failed e ∈ os := by
      rw [← hos.failed, hnone]
      constructor <;> intro heq <;> cases heq
    have hbreach : ¬ Breach (some .overrun) := by
      rintro ⟨e, he⟩
      cases he
    exact ⟨⟨os, hos.stream, hos.source, hos.reads, hos.packets, hfailed, hos.sound,
      hos.capacity, hos.start⟩, .inl (.inr rfl), iff_of_true rfl ⟨hbreach, hover.2⟩⟩
  · rename_i hover
    refine ⟨⟨os, hos⟩, hclosing.imp .inl id, fun heq => ?_, fun ⟨hbreach, hfull⟩ => ?_⟩
    · rcases hclosing with ⟨e, he⟩ | hnone
      · cases heq.symm.trans he
      · cases heq.symm.trans hnone
    · have hnone := hclosing.resolve_left hbreach
      exact absurd ⟨Option.isNone_iff_eq_none.2 hnone, hfull⟩ hover

/-! ## Keeping the account -/

variable {own : Uuid} {bytes : Bytes} {packets : List Packet} {r : Receiver}

/-- A receiver that does not close has room. -/
theorem Accounts.length_lt (h : Accounts own bytes packets r none) :
    r.buffer.data.length < r.buffer.capacity := by
  have hsound := h.sound
  have hover := h.overrun
  unfold Buffer.Sound at hsound
  rw [h.capacity] at hsound ⊢
  have hne : r.buffer.data.length ≠ Buffer.usualCapacity := fun heq =>
    (nofun : (none : Option Reason) ≠ some .overrun)
      (hover.2 ⟨fun ⟨e, he⟩ => (nofun : (none : Option Reason) ≠ some (.protocolError e)) he, heq⟩)
  omega

theorem Accounts.not_isFull (h : Accounts own bytes packets r none) : ¬ r.buffer.isFull :=
  fun hfull => Nat.ne_of_lt h.length_lt (Buffer.isFull_iff.1 hfull)

/-- Closing for what the stream answered has nothing to do with the account. -/
theorem Accounts.of_closing {closing : Option Reason} (h : Accounts own bytes packets r closing)
    (hopen : ¬ Breach closing ∧ closing ≠ some .overrun) {closing' : Option Reason}
    (hopen' : ¬ Breach closing' ∧ closing' ≠ some .overrun) :
    Accounts own bytes packets r closing' where
  sound := h.sound
  capacity := h.capacity
  start := h.start
  suffix := h.suffix
  decoded := by
    obtain ⟨os, rest, hreads, htrim, hpackets, hfailed⟩ := h.decoded
    refine ⟨os, rest, hreads, htrim, hpackets, fun e => ?_⟩
    exact iff_of_false (fun he => hopen'.1 ⟨e, he⟩) fun he => hopen.1 ⟨e, (hfailed e).2 he⟩
  settled _ := h.settled hopen.1
  overrun := by
    refine iff_of_false hopen'.2 fun hfull => hopen.2 (h.overrun.2 ⟨hopen.1, hfull.2⟩)

/-- **A filling of the buffer keeps the account.** -/
theorem Accounts.fill (h : Accounts own bytes packets r none) {piece : Bytes} (hpiece : piece ≠ [])
    (hlen : piece.length ≤ r.buffer.room) :
    let y := drain own { r with buffer := r.buffer.append piece }
    Accounts own (bytes ++ piece) (packets ++ y.packets) y.receiver y.closing := by
  obtain ⟨⟨os', hos'⟩, hclosing, hover⟩ :=
    decoded_drain own { r with buffer := r.buffer.append piece }
  generalize drain own { r with buffer := r.buffer.append piece } = y at hos' hclosing hover
  obtain ⟨os, rest, hreads, htrim, hpackets, hfailed⟩ := h.decoded
  have hnot (e : Error) : .failed e ∉ os := fun he =>
    (nofun : (none : Option Reason) ≠ some (.protocolError e)) ((hfailed e).2 he)
  have hcapacity : y.receiver.buffer.capacity = Buffer.usualCapacity :=
    hos'.capacity.trans ((Buffer.capacity_append _ _).trans h.capacity)
  refine ⟨hos'.sound (Buffer.sound_append h.sound hlen), hcapacity, hos'.start fun hnil => ?_,
    hos'.reads.suffix.trans (List.suffix_append_self_iff.2 h.suffix), ?_, ?_, ?_⟩
  · exact absurd (List.append_eq_nil_iff.1 hnil).2 hpiece
  · -- What is in the buffer stands for what is left of all bytes.
    obtain ⟨rest₁, hreads₁, htrim₁⟩ := hos'.reads.of_trimmed_eq
      (Decoder.trimmed_append htrim.symm piece)
    obtain ⟨rest₂, hreads₂, htrim₂⟩ := hreads.append hnot hreads₁
    refine ⟨os ++ os', rest₂, hos'.source ▸ hreads₂, htrim₂.trans htrim₁, ?_, fun e => ?_⟩
    · rw [hpackets, hos'.packets, Outcome.packets_append]
    · rw [hos'.failed, List.mem_append]
      exact (or_iff_right (hnot e)).symm
  · intro hbreach
    rcases hos'.reads.ending with ⟨-, hnone⟩ | ⟨os'', e, heq, -⟩
    · rw [hos'.source]
      exact hnone
    · refine absurd ⟨e, (hos'.failed e).2 ?_⟩ hbreach
      rw [heq]
      exact List.mem_append_right _ List.mem_cons_self
  · rw [hover, Buffer.isFull_iff, hcapacity]

/-! ## A call -/

/-- What a call does whose stream answers with the arrivals. -/
structure Drains (own : Uuid) (bytes : Bytes) (packets : List Packet) (r : Receiver)
    (arrivals : List Arrival) (y : Yield) : Prop where
  stream : y.receiver.stream = r.stream
  source : y.receiver.source = r.source
  taken : y.taken ≤ (pieces arrivals).flatten.length
  /-- All bytes that were read are accounted for, in their order. -/
  accounts : Accounts own (bytes ++ (pieces arrivals).flatten.take y.taken) (packets ++ y.packets)
    y.receiver y.closing
  /-- The call ends over what it read, or after one read from a regular file, or when
  all that waits is read. -/
  exits : y.Breaks ∨ (r.stream.regular = true ∧ pieces arrivals ≠ [] ∧ y.closing = none) ∨
    (y.closing = ending arrivals ∧ y.taken = (pieces arrivals).flatten.length)
  /-- A regular file is read once. -/
  once : r.stream.regular = true → ∀ piece ∈ (pieces arrivals).head?,
    y.taken = min piece.length r.buffer.room

theorem ending_rest (bytes : Bytes) (n : Nat) (rest : List Arrival) :
    ending (if bytes.length ≤ n then rest else .data (bytes.drop n) :: rest) = ending rest := by
  by_cases h : bytes.length ≤ n
  · rw [if_pos h]
  · have hne : bytes.drop n ≠ [] := fun hnil => h (List.drop_eq_nil_iff.1 hnil)
    rw [if_neg h, ending, if_neg hne]

theorem not_breaks_ending (arrivals : List Arrival) :
    ¬ Breach (ending arrivals) ∧ ending arrivals ≠ some .overrun := by
  rcases ending_cases arrivals with h | h | ⟨e, -, h⟩ <;> rw [h] <;> exact ⟨nofun, nofun⟩

/-- Nothing is read where nothing waits. -/
theorem Accounts.drains_nothing (h : Accounts own bytes packets r none) {arrivals : List Arrival}
    (hpieces : pieces arrivals = []) :
    Drains own bytes packets r arrivals ⟨r, [], [], 0, ending arrivals⟩ where
  stream := rfl
  source := rfl
  taken := Nat.zero_le _
  accounts := by
    rw [hpieces, List.append_nil]
    exact (List.append_nil bytes).symm ▸ h.of_closing ⟨nofun, nofun⟩ (not_breaks_ending arrivals)
  exits := .inr (.inr ⟨rfl, by rw [hpieces]; rfl⟩)
  once _ piece hpiece := by
    rw [hpieces] at hpiece
    cases hpiece

/-- An attempt that was interrupted is made again. -/
theorem Drains.interrupted {rest : List Arrival} {y : Yield}
    (h : Drains own bytes packets r rest y) :
    Drains own bytes packets r (.interrupted :: rest) y :=
  ⟨h.stream, h.source, h.taken, h.accounts, h.exits, h.once⟩

/-- A call ends with its first read if that closes the receiver, and for a regular file. -/
theorem Accounts.drains_once (h : Accounts own bytes packets r none) {piece : Bytes} {n : Nat}
    (hpiece : piece.take n ≠ []) (hn : n = min piece.length r.buffer.room) {rest : List Arrival}
    (hstop : (drain own { r with buffer := r.buffer.append (piece.take n) }).closing.isSome ∨
      r.stream.regular = true) :
    Drains own bytes packets r (.data piece :: rest)
      { drain own { r with buffer := r.buffer.append (piece.take n) } with taken := n } := by
  have hle : n ≤ piece.length := by omega
  have hpieces : pieces (.data piece :: rest) = piece :: pieces rest := by
    rw [pieces, if_neg fun hnil => hpiece (by rw [hnil, List.take_nil])]
  have hlen : (piece.take n).length ≤ r.buffer.room := by
    rw [List.length_take]
    omega
  obtain ⟨⟨os, hos⟩, hclosing, -⟩ :=
    decoded_drain own { r with buffer := r.buffer.append (piece.take n) }
  refine ⟨hos.stream, hos.source, ?_, ?_, ?_, fun _ first hfirst => ?_⟩
  · rw [hpieces, List.flatten_cons, List.length_append]
    exact Nat.le_add_right_of_le hle
  · rw [hpieces, List.flatten_cons]
    show Accounts own (bytes ++ (piece ++ (pieces rest).flatten).take n) _ _ _
    rw [List.take_append_of_le_length hle]
    exact h.fill hpiece hlen
  · rcases hclosing with hbreaks | hnone
    · exact .inl hbreaks
    · refine .inr (.inl ⟨hstop.resolve_left ?_, by rw [hpieces]; exact List.cons_ne_nil _ _, hnone⟩)
      rw [hnone]
      exact Bool.false_ne_true
  · rw [hpieces] at hfirst
    cases hfirst
    exact hn

/-- A call goes on after its first read. -/
theorem Drains.followedBy {piece : Bytes} {n : Nat} (hpiece : piece ≠ []) (hle : n ≤ piece.length)
    {rest : List Arrival} {y z : Yield} (hregular : ¬ r.stream.regular = true)
    (hstream : y.receiver.stream = r.stream) (hsource : y.receiver.source = r.source)
    (htaken : y.taken = n)
    (h : Drains own (bytes ++ piece.take n) (packets ++ y.packets) y.receiver
      (if piece.length ≤ n then rest else .data (piece.drop n) :: rest) z) :
    Drains own bytes packets r (.data piece :: rest) (Receiver.followedBy y z) := by
  have hflatten : (pieces (.data piece :: rest)).flatten = piece.take n ++
      (pieces (if piece.length ≤ n then rest else .data (piece.drop n) :: rest)).flatten := by
    rw [flatten_pieces_rest, ← List.append_assoc, List.take_append_drop, pieces, if_neg hpiece,
      List.flatten_cons]
  have hending : ending (.data piece :: rest) =
      ending (if piece.length ≤ n then rest else .data (piece.drop n) :: rest) := by
    rw [ending_rest, ending, if_neg hpiece]
  have hlen : (piece.take n).length = n := by
    rw [List.length_take]
    omega
  refine ⟨h.stream.trans hstream, h.source.trans hsource, ?_, ?_, ?_,
    fun heq => absurd heq hregular⟩
  · show y.taken + z.taken ≤ _
    rw [hflatten, List.length_append, htaken, hlen]
    exact Nat.add_le_add_left h.taken n
  · show Accounts own (bytes ++ List.take (y.taken + z.taken) _)
      (packets ++ (y.packets ++ z.packets))
      z.receiver z.closing
    have htake : (pieces (.data piece :: rest)).flatten.take (n + z.taken) = piece.take n ++
        (pieces (if piece.length ≤ n then rest else .data (piece.drop n) :: rest)).flatten.take
          z.taken := by
      rw [hflatten, List.take_append, List.take_of_length_le (by omega), hlen,
        Nat.add_sub_cancel_left]
    rw [htaken, htake, ← List.append_assoc, ← List.append_assoc]
    exact h.accounts
  · rcases h.exits with hbreaks | ⟨heq, -⟩ | ⟨hclosing, hall⟩
    · exact .inl hbreaks
    · exact absurd (hstream ▸ heq) hregular
    · refine .inr (.inr ⟨hclosing.trans hending.symm, ?_⟩)
      show y.taken + z.taken = _
      rw [hflatten, List.length_append, htaken, hlen, hall]

theorem take_min_ne_nil {piece : Bytes} {room : Nat} (h : min piece.length room ≠ 0) :
    piece.take (min piece.length room) ≠ [] := by
  rw [← List.length_pos_iff, List.length_take]
  omega

/-- **A call keeps the account**, and ends in one of its ways. -/
theorem Accounts.receive (h : Accounts own bytes packets r none) (arrivals : List Arrival) :
    Drains own bytes packets r arrivals (r.receive own arrivals) := by
  fun_induction Receiver.receive own r arrivals generalizing bytes packets with
  | case1 r arrivals hfull => exact absurd hfull h.not_isFull
  | case2 => exact h.drains_nothing rfl
  | case3 => exact h.drains_nothing rfl
  | case4 r _ rest ih => exact (ih h).interrupted
  | case5 => exact h.drains_nothing rfl
  | case6 => exact h.drains_nothing rfl
  | case7 r _ piece rest n =>
    rename_i hn
    have hroom := Buffer.room_pos h.sound h.length_lt
    have hnil : piece = [] := List.length_eq_zero_iff.1 (by omega)
    have hpieces : pieces (.data piece :: rest) = [] := by rw [pieces, if_pos hnil]
    have hdrains := h.drains_nothing hpieces
    rw [ending, if_pos hnil] at hdrains
    exact hdrains
  | case8 r _ piece rest n hn y₀ =>
    rename_i y hstop
    exact h.drains_once (take_min_ne_nil hn) rfl hstop
  | case9 r _ piece rest n hn y₀ y =>
    rename_i hgoes ih
    have hpiece : piece ≠ [] := fun hnil => hn (by simp [n, hnil])
    have hlen : (piece.take n).length ≤ r.buffer.room := by
      rw [List.length_take]
      omega
    obtain ⟨hopen, hregular⟩ := not_or.1 hgoes
    have hnone : y.closing = none := Option.not_isSome_iff_eq_none.1 hopen
    obtain ⟨hstream, hsource⟩ :=
      drain_stream own { r with buffer := r.buffer.append (piece.take n) }
    have hfill : Accounts own _ _ y.receiver y.closing := h.fill (take_min_ne_nil hn) hlen
    rw [hnone] at hfill
    simp only [dite_eq_ite] at ih
    exact (ih hfill).followedBy hpiece (Nat.min_le_left _ _) hregular hstream hsource rfl

/-! ## Call after call -/

/-- A receiver has read the bytes and passed on the packets in calls of which none broke off. One
that breaks off is not called again. -/
inductive Reached (own : Uuid) : Bytes → List Packet → Receiver → Prop
  | fresh (source : Uuid) (stream : Stream) (token : Nat) (tether : Tether Nat) :
    Reached own [] [] (.fresh source stream token tether)
  | receive {bytes : Bytes} {packets : List Packet} {r : Receiver} (h : Reached own bytes packets r)
    (arrivals : List Arrival) (hgoes : ¬ (r.receive own arrivals).Breaks) :
    Reached own (bytes ++ (pieces arrivals).flatten.take (r.receive own arrivals).taken)
      (packets ++ (r.receive own arrivals).packets) (r.receive own arrivals).receiver

theorem accounts_fresh (own source : Uuid) (stream : Stream) (token : Nat) (tether : Tether Nat) :
    Accounts own [] [] (.fresh source stream token tether) none := by
  have hnone (f : Format) (_ : f ∈ Decoder.fresh.candidates) :
      f.read own [] (.blank source) .fresh = .ok none := by
    cases f <;> rfl
  refine ⟨Buffer.sound_empty _, rfl, fun _ => rfl, List.suffix_refl _,
    ⟨[], [], .done hnone, rfl, rfl, fun e => ?_⟩, fun _ => hnone, ?_⟩
  · exact iff_of_false nofun List.not_mem_nil
  · exact iff_of_false nofun fun h => absurd h.2 (show 0 ≠ Buffer.usualCapacity by decide)

/-- **The account is kept** from call to call. -/
theorem Reached.accounts (h : Reached own bytes packets r) : Accounts own bytes packets r none := by
  induction h with
  | fresh source stream token tether => exact accounts_fresh own source stream token tether
  | receive _ arrivals hgoes ih =>
    exact (ih.receive arrivals).accounts.of_closing (not_or.1 hgoes) ⟨nofun, nofun⟩

/-- What a call of the loop comes to. -/
structure Serves (own : Uuid) (bytes : Bytes) (packets : List Packet) (r : Receiver)
    (arrivals : List Arrival) : Prop
    extends Drains own bytes packets r arrivals (r.receive own arrivals) where
  /-- After each filling of the buffer there are at most so many calls of the decoder. -/
  calls : ∀ (d : Decoder) b, (d.drain own r.source b).length ≤ b.data.length + 1
  /-- The packets are those of frames in what was read, with their own source
  or else the receiver's. -/
  framed : ∀ p ∈ (r.receive own arrivals).packets, ∃ f,
    (r.receive own arrivals).receiver.decoder.format = some f ∧ f.Frames own r.source
      (bytes ++ (pieces arrivals).flatten.take (r.receive own arrivals).taken) p
  /-- There is always room to read. -/
  roomy : ∀ n, .failed (.bufferFull n) ∉ arrivals →
    (r.receive own arrivals).closing ≠ some (.readError (.bufferFull n))
  /-- Each packet is passed on once, and comes from the receiver's file or connection. -/
  passedOn : ∀ (σ : Type) [Streams σ] [Poller σ] (f : Fanout) (host : σ),
    Streams.arrivals r.stream host = arrivals →
      let host' := Streams.took r.stream (r.receive own arrivals).taken host
      ((r.relay own f host).fanout, (r.relay own f host).host) =
        f.sendAll (r.receive own arrivals).packets r.stream.identity (Poller.now host') host'

end Receiver
end Squitter
