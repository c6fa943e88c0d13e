import Squitter.Proofs.Receiving.Loop

/-!
# Line ends between messages

Messages in json stand on lines, but how many line ends there are between two messages is left open.
Those that are in the buffer together with the message before them are taken off with it. Those that
come later stay in the buffer until the next message is complete.

A **line** (`Line`) is a message and the line ends behind it, and a **text** (`Line.text`) is line
ends and then lines. The lines of a text **fit** (`Line.Fit`) if the buffer has room for each
message together with all the line ends in front of it. Whether some of these were taken off earlier
depends on how the text is cut into reads, so the worst case is that none were.

**Where a decoder stops.** A decoder that has read the front of a text **halts** (`Line.Halts`) at
the end of a message, with some of the line ends behind it or without. What it has left is a part of
the line that it is in, and that line is not complete: if the lines fit, what is left is shorter
than the buffer. The buffer of a receiver may begin with line ends that the decoder would have taken
off, had they come with the message before them. But it does not reach back into that message
(`Line.length_le_of_trimmed`).

**The result** (`Line.overruns_iff`). A text whose messages are accepted closes a receiver with
its end, or with an overrun, and it can be cut into reads so that there is an overrun if and
only if the lines do not fit.
-/

namespace Squitter

open Decoder (Outcome Reads read_unique)
open Receiver (Accounts Breach Reached ending)
open Wire.Json (isLineEnd)

/-- An empty buffer has all its room, if its bytes begin at the front. -/
theorem Buffer.room_of_nil {b : Buffer} (hdata : b.data = []) (hstart : b.start = 0) :
    b.room = b.capacity := by
  unfold room compact
  rw [hdata, hstart]
  split
  · rfl
  · rw [hstart]
    rfl

/-! ## Lines -/

/-- A message and the line ends behind it. -/
structure Line where
  message : Bytes
  ends : Bytes

namespace Line

/-- A line as it stands in a stream. -/
def bytes (a : Line) : Bytes := a.message ++ a.ends

/-- Line ends, and the lines that follow. -/
def text (gap : Bytes) (lines : List Line) : Bytes := gap ++ (lines.map bytes).flatten

/-- Each message fits into a buffer together with the line ends in front of it, and those behind the
last message leave room. -/
def Fit (gap : Bytes) : List Line → Prop
  | [] => gap.length < Buffer.usualCapacity
  | a :: lines => gap.length + a.message.length ≤ Buffer.usualCapacity ∧ Fit a.ends lines

instance Fit.decidable (gap : Bytes) : (lines : List Line) → Decidable (Fit gap lines)
  | [] => inferInstanceAs (Decidable (gap.length < Buffer.usualCapacity))
  | a :: lines =>
    have := Fit.decidable a.ends lines
    inferInstanceAs (Decidable (_ ∧ Fit a.ends lines))

/-- The messages are accepted one after the other, each as a whole. They neither begin
nor end with line ends. -/
inductive Accepted (own source : Uuid) : Link → List Line → Prop
  | nil (l : Link) : Accepted own source l []
  | cons {l : Link} {a : Line} {lines : List Line} {r : Reading}
    (hread : Format.json.read own a.message (.blank source) l = .ok (some r))
    (hused : r.used = a.message.length) (hfirst : ∀ c ∈ a.message.head?, ¬ isLineEnd c)
    (hlast : ∀ c ∈ a.message.getLast?, ¬ isLineEnd c) (hends : ∀ c ∈ a.ends, isLineEnd c)
    (h : Accepted own source r.link lines) : Accepted own source l (a :: lines)

variable {own source : Uuid} {gap x y : Bytes} {a : Line} {lines : List Line} {l : Link}

theorem text_append (u v : Bytes) : text (u ++ v) lines = u ++ text v lines :=
  List.append_assoc _ _ _

theorem bytes_prefix_text (a : Line) (lines : List Line) : a.bytes <+: text [] (a :: lines) :=
  ⟨(lines.map bytes).flatten, rfl⟩

theorem text_cons : text gap (a :: lines) = gap ++ (a.message ++ text a.ends lines) := by
  simp [text, bytes]

theorem Accepted.message_ne_nil (h : Accepted own source l (a :: lines)) : a.message ≠ [] := by
  cases h with
  | cons hread hused =>
    have hpos := Format.used_pos hread
    rw [hused] at hpos
    exact List.length_pos_iff.1 hpos

theorem Accepted.lineEnds (h : Accepted own source l (a :: lines)) : ∀ c ∈ a.ends, isLineEnd c := by
  cases h with
  | cons _ _ _ _ hends => exact hends

/-- Where a line begins there is no line end. -/
theorem Accepted.head (h : Accepted own source l lines) :
    ∀ c ∈ (lines.map bytes).flatten.head?, ¬ isLineEnd c := by
  cases lines with
  | nil => exact nofun
  | cons a lines =>
    obtain ⟨c, message, hmessage⟩ := List.exists_cons_of_ne_nil h.message_ne_nil
    cases h with
    | cons _ _ hfirst =>
      rw [hmessage] at hfirst
      rw [List.map_cons, List.flatten_cons, bytes, hmessage]
      exact hfirst

/-- A message does not end with a line end. -/
theorem Accepted.last (h : Accepted own source l (a :: lines)) {front back : Bytes}
    (hmessage : front ++ back = gap ++ a.message) (hback : ∀ c ∈ back, isLineEnd c) :
    back = [] := by
  rcases List.eq_nil_or_concat back with hnil | ⟨back, c, rfl⟩
  · exact hnil
  · obtain ⟨message, c', hlast⟩ := (List.eq_nil_or_concat a.message).resolve_left h.message_ne_nil
    rw [List.concat_eq_append] at hlast
    have hsplit : (front ++ back) ++ [c] = (gap ++ message) ++ [c'] := by
      simpa [hlast] using hmessage
    obtain rfl := List.singleton_inj.1 (List.append_inj' hsplit rfl).2
    cases h with
    | cons _ _ _ hnot => exact absurd (hback c (by simp)) (hnot c (by simp [hlast]))

/-- The last byte of a message is no line end. -/
theorem Accepted.last_message (h : Accepted own source l (a :: lines)) (front : Bytes) :
    ∀ c ∈ (front ++ a.message).getLast?, ¬ isLineEnd c := by
  intro c hc hend
  obtain ⟨ys, hys⟩ := List.getLast?_eq_some_iff.1 hc
  have hnil := h.last hys.symm fun c' hc' => (List.mem_singleton.1 hc').symm ▸ hend
  cases hnil

/-- Line ends at the front of a text are those before its first line. -/
theorem length_le_of_lineEnds {ends more : Bytes} (h : x <+: ends ++ more)
    (hx : ∀ c ∈ x, isLineEnd c)
    (hmore : ∀ c ∈ more.head?, ¬ isLineEnd c) : x.length ≤ ends.length := by
  rcases Nat.lt_or_ge ends.length x.length with hlt | hle
  · cases more with
    | nil =>
      rw [List.append_nil] at h
      exact h.length_le
    | cons c more =>
      have hpre : ends ++ [c] <+: ends ++ c :: more := ⟨more, by simp⟩
      have hmem : c ∈ x := (List.prefix_of_prefix_length_le hpre h (by
        rw [List.length_append]
        exact hlt)).subset (by simp)
      exact absurd (hx c hmem) (hmore c rfl)
  · exact hle

/-! ## Where a decoder is in a text -/

/-- The text is still ahead of a decoder. -/
structure Ahead (own source : Uuid) (d : Decoder) (gap : Bytes) (lines : List Line) : Prop where
  accepted : Accepted own source d.link lines
  format : d.format = some .json ∨ d.format = none ∧ lines ≠ []
  gap : ∀ c ∈ gap, isLineEnd c

variable {d : Decoder}

theorem Ahead.mem_candidates (h : Ahead own source d gap lines) : .json ∈ d.candidates := by
  unfold Decoder.candidates
  rcases h.format with hd | ⟨hd, -⟩
  · rw [hd]
    exact List.mem_singleton_self _
  · rw [hd]
    decide

/-- A decoder that finds no more lines has pinned json, and there is no message in line ends. -/
theorem Ahead.read_gap (h : Ahead own source d gap []) {g : Format} (hg : g ∈ d.candidates) :
    g.read own gap (.blank source) d.link = .ok none := by
  have hd := h.format.resolve_right fun hnone => hnone.2 rfl
  simp only [Decoder.candidates, hd, List.mem_singleton] at hg
  subst hg
  rw [← List.append_nil gap, Format.read_json_lineEnds_append h.gap]
  rfl

/-- The next message is read, with some of the line ends behind it. -/
theorem Ahead.exists_read (h : Ahead own source d gap (a :: lines)) (more : Bytes) :
    ∃ (r : Reading) (ends : Bytes), ends <+: more ∧ (∀ c ∈ ends, isLineEnd c) ∧
      Accepted own source r.link lines ∧
      Format.json.read own (gap ++ (a.message ++ more)) (.blank source) d.link =
        .ok (some { r with used := gap.length + (a.message.length + ends.length) }) := by
  cases h.accepted with
  | @cons _ _ _ r hread hused _ _ _ haccepted =>
    obtain ⟨ends, hpre, hends, -, hmore⟩ := Format.read_append hread more
    refine ⟨r, ends, hpre, hends, haccepted, ?_⟩
    rw [Format.read_json_lineEnds_append h.gap, hmore, hused]
    rfl

/-- A message is not there before its last byte: that is no line end. -/
theorem Accepted.le_length (h : Accepted own source l (a :: lines)) {ends more : Bytes}
    (hdata : x ++ (ends ++ y) = gap ++ (a.message ++ more)) (hends : ∀ c ∈ ends, isLineEnd c)
    (hlen : gap.length + a.message.length ≤ x.length + ends.length) :
    gap.length + a.message.length ≤ x.length := by
  rcases Nat.lt_or_ge x.length (gap.length + a.message.length) with hlt | hge
  · rw [← List.append_assoc gap] at hdata
    obtain ⟨back, hback⟩ : x <+: gap ++ a.message :=
      List.prefix_of_prefix_length_le (hdata ▸ List.prefix_append x _) (List.prefix_append _ _)
        (by rw [List.length_append]; omega)
    have hback' := congrArg List.length hback
    simp only [List.length_append] at hback'
    rw [← hback, List.append_assoc] at hdata
    have hpre : back <+: ends :=
      List.prefix_of_prefix_length_le (List.prefix_append back _)
        (List.append_cancel_left hdata ▸ List.prefix_append ends y) (by omega)
    have hnil := h.last hback fun c hc => hends c (hpre.subset hc)
    rw [hnil, List.length_nil] at hback'
    omega
  · exact hge

/-- **What is read is the next message**, and some of the line ends behind it. -/
theorem Ahead.of_read (h : Ahead own source d gap lines)
    (hdata : x ++ y = text gap lines) {g : Format} {r : Reading} (hg : g ∈ d.candidates)
    (hread : g.read own x (.blank source) d.link = .ok (some r)) :
    ∃ a lines' n, lines = a :: lines' ∧ n ≤ a.ends.length ∧
      r.used = gap.length + (a.message.length + n) ∧
      Ahead own source ⟨some g, r.link⟩ (a.ends.drop n) lines' := by
  obtain ⟨ends, ⟨y, rfl⟩, hends, hall, hmore⟩ := Format.read_append hread y
  rw [hdata] at hmore
  cases lines with
  | nil =>
    rw [show text gap [] = gap from List.append_nil gap, h.read_gap hg] at hmore
    cases hmore
  | cons a lines =>
    obtain ⟨r₀, ends₀, hpre₀, hends₀, haccepted, hread₀⟩ := h.exists_read (text a.ends lines)
    rw [text_cons] at hmore hdata
    obtain ⟨rfl, heq⟩ := read_unique hmore hread₀ (by simp) (by simp)
    obtain ⟨event, p, l', used⟩ := r
    obtain ⟨rfl, rfl, rfl, hused⟩ := Reading.mk.inj (Option.some.inj (Except.ok.inj heq))
    have hsum : used + ends.length = gap.length + (a.message.length + ends₀.length) := hused
    have hlen := length_le_of_lineEnds hpre₀ hends₀ haccepted.head
    have hle : gap.length + a.message.length ≤ used := by
      by_cases hne : ends = []
      · rw [hne, List.length_nil] at hsum
        omega
      · have hused : used = x.length := (hall hne).2
        rw [hused]
        exact h.accepted.le_length hdata hends (by omega)
    refine ⟨a, lines, used - (gap.length + a.message.length), rfl, by omega, ?_, haccepted,
      .inl rfl, ?_⟩
    · show used = _
      omega
    · exact fun c hc => h.accepted.lineEnds c (List.mem_of_mem_drop hc)

/-- What is left when the next message is read. -/
theorem Ahead.split_of_read (h : Ahead own source d gap lines) (hdata : x ++ y = text gap lines)
    {g : Format} {r : Reading} (hg : g ∈ d.candidates)
    (hread : g.read own x (.blank source) d.link = .ok (some r)) :
    ∃ a lines' taken left rest, lines = a :: lines' ∧ a.ends = taken ++ left ∧
      x = gap ++ (a.message ++ (taken ++ rest)) ∧ x.drop r.used = rest ∧
      rest ++ y = text left lines' ∧ Ahead own source ⟨some g, r.link⟩ left lines' := by
  obtain ⟨a, lines', n, rfl, hn, hused, hahead⟩ := h.of_read hdata hg hread
  have hends : a.ends.take n ++ a.ends.drop n = a.ends := List.take_append_drop n a.ends
  have hfront : (gap ++ (a.message ++ a.ends.take n)).length = r.used := by
    simp only [List.length_append, List.length_take, hused]
    omega
  have htext : text gap (a :: lines') =
      (gap ++ (a.message ++ a.ends.take n)) ++ text (a.ends.drop n) lines' := by
    have hlater : text a.ends lines' = a.ends.take n ++ text (a.ends.drop n) lines' := by
      rw [← text_append, hends]
    rw [text_cons, hlater, List.append_assoc, List.append_assoc]
  rw [htext] at hdata
  obtain ⟨rest, rfl⟩ : gap ++ (a.message ++ a.ends.take n) <+: x :=
    List.prefix_of_prefix_length_le (hdata ▸ List.prefix_append _ _) (List.prefix_append x y)
      (hfront ▸ Format.used_le hread)
  rw [List.append_assoc] at hdata
  refine ⟨a, lines', _, _, rest, rfl, hends.symm, ?_, List.drop_left' hfront,
    List.append_cancel_left hdata, hahead⟩
  rw [List.append_assoc, List.append_assoc]

/-- Nothing of a text is refused. -/
theorem Ahead.read_ne_error (h : Ahead own source d gap lines) (hdata : x ++ y = text gap lines)
    {g : Format} (hg : g ∈ d.candidates) (e : Error) :
    g.read own x (.blank source) d.link ≠ .error e := by
  intro hread
  have hmore := Format.read_append_of_error hread y
  rw [hdata] at hmore
  cases lines with
  | nil =>
    rw [show text gap [] = gap from List.append_nil gap, h.read_gap hg] at hmore
    cases hmore
  | cons a lines =>
    obtain ⟨r, ends, -, -, -, hread'⟩ := h.exists_read (text a.ends lines)
    rw [text_cons] at hmore
    obtain ⟨-, heq⟩ := read_unique hmore hread' (by simp) (by simp)
    cases heq

/-- Where nothing is read the next message is not complete. -/
theorem Ahead.length_lt_of_none (h : Ahead own source d gap lines) (hdata : x ++ y = text gap lines)
    (hnone : ∀ g ∈ d.candidates, g.read own x (.blank source) d.link = .ok none) :
    ∀ a ∈ lines.head?, x.length < gap.length + a.message.length := by
  intro a hhead
  obtain ⟨lines, rfl⟩ := List.head?_eq_some_iff.1 hhead
  rcases Nat.lt_or_ge x.length (gap.length + a.message.length) with hlt | hge
  · exact hlt
  · rw [text_cons, ← List.append_assoc] at hdata
    obtain ⟨more, rfl⟩ : gap ++ a.message <+: x :=
      List.prefix_of_prefix_length_le (List.prefix_append _ _) (hdata ▸ List.prefix_append x y)
        (by rw [List.length_append]; exact hge)
    obtain ⟨r, ends, -, -, -, hread⟩ := h.exists_read more
    rw [← List.append_assoc, hnone _ h.mem_candidates] at hread
    cases hread

/-- Where the next message is not complete nothing is read. -/
theorem Ahead.read_eq_none (h : Ahead own source d gap lines) (hdata : x ++ y = text gap lines)
    (hshort : ∀ a ∈ lines.head?, x.length < gap.length + a.message.length) :
    ∀ g ∈ d.candidates, g.read own x (.blank source) d.link = .ok none := by
  intro g hg
  cases hread : g.read own x (.blank source) d.link with
  | error e => exact absurd hread (h.read_ne_error hdata hg e)
  | ok found =>
    cases found with
    | none => rfl
    | some r =>
      obtain ⟨a, lines', n, rfl, -, hused, -⟩ := h.of_read hdata hg hread
      have hle := Format.used_le hread
      have hlt := hshort a rfl
      omega

/-! ## Reading in a text -/

/-- Of a string at the front of a text a decoder has passed the part up to the end of a message.
What is left of the string is in the tail, which does not reach the end of the next message. -/
structure Halts (own source : Uuid) (x y rest : Bytes) (d : Decoder) (front tail gap : Bytes)
    (lines : List Line) : Prop where
  split : x = front ++ tail
  last : ∀ c ∈ front.getLast?, ¬ isLineEnd c
  rest : rest <:+ tail
  text : tail ++ y = text gap lines
  ahead : Ahead own source d gap lines
  short : ∀ a ∈ lines.head?, tail.length < gap.length + a.message.length

theorem last_append {u v : Bytes} (hu : ∀ c ∈ u.getLast?, ¬ isLineEnd c)
    (hv : ∀ c ∈ v.getLast?, ¬ isLineEnd c) : ∀ c ∈ (u ++ v).getLast?, ¬ isLineEnd c := by
  intro c hc
  rw [List.getLast?_append, Option.mem_def, Option.or_eq_some_iff] at hc
  rcases hc with hc | ⟨-, hc⟩
  · exact hv c hc
  · exact hu c hc

/-- **Reading a text** fails nowhere. The line ends `before` were taken off
with the message before. -/
theorem reads_text {rest before after : Bytes} {d' : Decoder} {os : List Outcome}
    (h : Reads own source d x os d' rest) (ha : Ahead own source d after lines)
    (hbefore : ∀ c ∈ before, isLineEnd c) (hdata : x ++ y = text after lines) :
    (∀ e, .failed e ∉ os) ∧ ∃ front tail gap lines',
      Halts own source (before ++ x) y rest d' front tail gap lines' ∧
      (Fit (before ++ after) lines → Fit gap lines') := by
  induction h generalizing before after lines with
  | @done d x hnone =>
    refine ⟨fun e => List.not_mem_nil, [], before ++ x, before ++ after, lines,
      ⟨rfl, nofun, List.suffix_append _ _, ?_, ⟨ha.accepted, ha.format, ?_⟩, fun a hhead => ?_⟩, id⟩
    · rw [List.append_assoc, hdata, text, text, List.append_assoc]
    · intro c hc
      exact (List.mem_append.1 hc).elim (hbefore c) (ha.gap c)
    · have hlt := ha.length_lt_of_none hdata hnone a hhead
      simp only [List.length_append]
      omega
  | fail hf hread => exact absurd hread (ha.read_ne_error hdata hf _)
  | @next d d' x rest f r os hf hread _ ih =>
    obtain ⟨a, lines', taken, left, more, rfl, hends, rfl, hdrop, hdata', hahead⟩ :=
      ha.split_of_read hdata hf hread
    have htaken : ∀ c ∈ taken, isLineEnd c := fun c hc =>
      ha.accepted.lineEnds c (hends ▸ List.mem_append_left left hc)
    rw [hdrop] at ih
    obtain ⟨hos, front, tail, gap, lines₁, hhalts, hfit⟩ := ih hahead htaken hdata'
    refine ⟨fun e he => ?_, before ++ after ++ a.message ++ front, tail, gap, lines₁,
      ⟨?_, ?_, hhalts.rest, hhalts.text, hhalts.ahead, hhalts.short⟩, fun hfits => hfit ?_⟩
    · exact (List.mem_cons.1 he).elim (Outcome.failed_ne_ofEvent e _ _ _) (hos e)
    · simp only [List.append_assoc, hhalts.split]
    · exact last_append (ha.accepted.last_message _) hhalts.last
    · rw [← hends]
      exact hfits.2

/-- Where two ends of a string are the same but for line ends, one does not reach back to a byte in
front of the other that is no line end. -/
theorem length_le_of_trimmed {front tail buffer rest : Bytes}
    (hlast : ∀ c ∈ front.getLast?, ¬ isLineEnd c)
    (hbuffer : buffer <:+ front ++ tail) (hrest : rest <:+ tail)
    (htrim : buffer.dropWhile isLineEnd = rest.dropWhile isLineEnd) :
    buffer.length ≤ tail.length := by
  rcases Nat.lt_or_ge tail.length buffer.length with hlt | hle
  · obtain ⟨front', hfront'⟩ := hbuffer
    have hlen := congrArg List.length hfront'
    simp only [List.length_append] at hlen
    obtain ⟨w, rfl⟩ : front' <+: front :=
      List.prefix_of_prefix_length_le (hfront' ▸ List.prefix_append _ _) (List.prefix_append _ _)
        (by omega)
    rw [List.append_assoc] at hfront'
    have hbuffer := List.append_cancel_left hfront'
    have hne : w.dropWhile isLineEnd ≠ [] := by
      intro hnil
      have hw := List.takeWhile_append_dropWhile (p := isLineEnd) (l := w)
      have hall : ∀ c ∈ w.takeWhile isLineEnd, isLineEnd c := List.all_eq_true.1 List.all_takeWhile
      rw [hnil, List.append_nil] at hw
      rw [hw] at hall
      rcases List.eq_nil_or_concat w with rfl | ⟨w', c, rfl⟩
      · rw [hbuffer, List.nil_append] at hlt
        exact Nat.lt_irrefl _ hlt
      · exact hlast c (by simp) (hall c (by simp))
    have htrim' := congrArg List.length htrim
    rw [hbuffer, List.dropWhile_append, if_neg (by simpa using hne), List.length_append] at htrim'
    have hpos := List.length_pos_iff.2 hne
    have hle := Nat.le_trans (List.dropWhile_suffix (l := rest) isLineEnd).length_le hrest.length_le
    omega
  · exact hle

/-! ## Calls on a text -/

variable {bytes : Bytes} {packets : List Packet} {r : Receiver} {arrivals : List Arrival}

/-- In a text a receiver finds no breach of protocol, and where each line fits it
never fills its buffer. -/
theorem accounts_text {closing : Option Reason} (h : Accounts own bytes packets r closing)
    (ha : Ahead own r.source .fresh gap lines) (hdata : bytes ++ y = text gap lines) :
    ¬ Breach closing ∧ (Fit gap lines → r.buffer.data.length < Buffer.usualCapacity) := by
  obtain ⟨os, rest, hreads, htrim, -, hfailed⟩ := h.decoded
  have hbefore : ∀ c ∈ ([] : Bytes), isLineEnd c := nofun
  obtain ⟨hos, front, tail, gap', lines', hhalts, hfit⟩ := reads_text hreads ha hbefore hdata
  refine ⟨fun ⟨e, he⟩ => hos e ((hfailed e).1 he), fun hfits => ?_⟩
  have hlen : r.buffer.data.length ≤ tail.length := by
    unfold Decoder.trimmed at htrim
    by_cases hd : r.decoder.format = some .json
    · rw [if_pos hd, if_pos hd] at htrim
      exact length_le_of_trimmed hhalts.last (hhalts.split ▸ h.suffix) hhalts.rest htrim.symm
    · rw [if_neg hd, if_neg hd] at htrim
      exact htrim ▸ hhalts.rest.length_le
  have hfits' := hfit hfits
  cases lines' with
  | nil =>
    have htail := congrArg List.length hhalts.text
    simp only [text, List.map_nil, List.flatten_nil, List.append_nil, List.length_append] at htail
    have hlt : gap'.length < Buffer.usualCapacity := hfits'
    omega
  | cons a lines' =>
    have hlt := hhalts.short a rfl
    have hle := hfits'.1
    omega

/-- A receiver is called whose stream has answered with the front of a
text, and answers with more. -/
structure Offers (own source : Uuid) (stream : Bytes) (r : Receiver) (arrivals : List Arrival) :
    Prop where
  source : r.source = source
  reached : ∃ bytes packets, Reached own bytes packets r ∧
    bytes ++ (Receiver.pieces arrivals).flatten <+: stream
  unfailing : ∀ e, .failed e ∉ arrivals

/-- Whatever a text is cut into, it closes a receiver with its end, or with an overrun if there is a
line that does not fit. -/
theorem closing_text (h : Offers own source (text gap lines) r arrivals)
    (ha : Ahead own source .fresh gap lines) :
    let closing := (r.receive own arrivals).closing
    closing = none ∨ (closing = some .endOfStream ∧ ending arrivals = some .endOfStream) ∨
      (closing = some .overrun ∧ ¬ Fit gap lines) := by
  obtain ⟨bytes, packets, hreached, hprefix⟩ := h.reached
  have hdrains := hreached.accounts.receive arrivals
  have hread : bytes ++ (Receiver.pieces arrivals).flatten.take (r.receive own arrivals).taken <+:
      bytes ++ (Receiver.pieces arrivals).flatten :=
    (List.prefix_append_right_inj _).2 (List.take_prefix _ _)
  obtain ⟨y, hy⟩ := hread.trans hprefix
  obtain ⟨hbreach, hshort⟩ := accounts_text hdrains.accounts (hdrains.source ▸ h.source ▸ ha) hy
  rcases hdrains.exits with (hbroken | hover) | ⟨-, -, hnone⟩ | ⟨hending, -⟩
  · exact absurd hbroken hbreach
  · refine .inr (.inr ⟨hover, fun hfits => ?_⟩)
    exact Nat.ne_of_lt (hshort hfits) (hdrains.accounts.overrun.1 hover).2
  · exact .inl hnone
  · rcases Receiver.ending_cases arrivals with hnone | hend | ⟨e, hfailed, -⟩
    · exact .inl (hending.trans hnone)
    · exact .inr (.inl ⟨hending.trans hend, hend⟩)
    · exact absurd hfailed (h.unfailing e)

/-! ## A text in which a line does not fit -/

/-- An empty buffer takes a piece at once that is no longer than it. -/
theorem receive_piece (h : Accounts own bytes packets r none) (hempty : r.buffer.data = [])
    {piece : Bytes} (hpiece : piece ≠ []) (hlen : piece.length ≤ Buffer.usualCapacity) :
    let y := Receiver.drain own { r with buffer := r.buffer.append piece }
    (r.receive own [.data piece]).receiver = y.receiver ∧
      (r.receive own [.data piece]).closing = y.closing ∧
      (r.receive own [.data piece]).taken = piece.length := by
  intro y
  have hroom : r.buffer.room = Buffer.usualCapacity :=
    (Buffer.room_of_nil hempty (h.start hempty)).trans h.capacity
  have hn : min piece.length r.buffer.room = piece.length := by
    rw [hroom]
    exact Nat.min_eq_left hlen
  have hpos : piece.length ≠ 0 := fun hzero => hpiece (List.length_eq_zero_iff.1 hzero)
  rw [Receiver.receive, if_neg h.not_isFull]
  simp only [hn, dif_neg hpos, List.take_length, Nat.le_refl, if_true]
  split
  · exact ⟨rfl, rfl, rfl⟩
  · rename_i hgoes
    have hnone : y.closing = none := Option.not_isSome_iff_eq_none.1 (not_or.1 hgoes).1
    have hfill : Accounts own (bytes ++ piece) (packets ++ y.packets) y.receiver y.closing :=
      h.fill hpiece (hroom ▸ hlen)
    rw [hnone] at hfill
    rw [Receiver.receive, if_neg hfill.not_isFull]
    exact ⟨rfl, hnone.symm, rfl⟩

/-- What such a piece is decoded to decides about the call. -/
theorem receive_reads (h : Accounts own bytes packets r none) (hempty : r.buffer.data = [])
    {piece rest : Bytes} (hpiece : piece ≠ []) (hlen : piece.length ≤ Buffer.usualCapacity)
    {d' : Decoder} {os : List Outcome} (hreads : Reads own r.source r.decoder piece os d' rest)
    (hos : ∀ e, .failed e ∉ os) :
    let y := r.receive own [.data piece]
    y.receiver.decoder = d' ∧ y.receiver.buffer.data = rest ∧ y.taken = piece.length ∧
      y.closing = if rest.length = Buffer.usualCapacity then some .overrun else none := by
  obtain ⟨hreceiver, hclosing, htaken⟩ := receive_piece h hempty hpiece hlen
  obtain ⟨⟨os', hos'⟩, hends, hover⟩ :=
    Receiver.decoded_drain own { r with buffer := r.buffer.append piece }
  have hreads' := hos'.reads
  rw [Buffer.data_append, hempty, List.nil_append] at hreads'
  obtain ⟨rfl, hdecoder, hrest⟩ := hreads'.unique hreads
  have hbreach : ¬ Breach (Receiver.drain own { r with buffer := r.buffer.append piece }).closing :=
    fun ⟨e, he⟩ => hos e ((hos'.failed e).1 he)
  have hcapacity :
      (Receiver.drain own { r with buffer := r.buffer.append piece }).receiver.buffer.capacity =
        Buffer.usualCapacity :=
    hos'.capacity.trans ((Buffer.capacity_append _ _).trans h.capacity)
  rw [Buffer.isFull_iff, hrest, hcapacity] at hover
  simp only
  rw [hreceiver, hclosing]
  refine ⟨hdecoder, hrest, htaken, ?_⟩
  split
  · rename_i hfull
    exact hover.2 ⟨hbreach, hfull⟩
  · rename_i hfull
    rcases hends with (hbroken | hov) | hnone
    · exact absurd hbroken hbreach
    · exact absurd (hover.1 hov).2 hfull
    · exact hnone

theorem flatten_pieces_singleton {piece : Bytes} (hpiece : piece ≠ []) :
    (Receiver.pieces [.data piece]).flatten = piece := by
  rw [Receiver.pieces, if_neg hpiece, Receiver.pieces, List.flatten_cons, List.flatten_nil,
    List.append_nil]

/-- A buffer full of a line that does not fit is an overrun. -/
theorem overrun_of_long (hreached : Reached own bytes packets r) (hempty : r.buffer.data = [])
    (ha : Ahead own r.source r.decoder gap lines)
    (hlong : Buffer.usualCapacity ≤ (text gap lines).length)
    (hshort : ∀ a ∈ lines.head?, Buffer.usualCapacity < gap.length + a.message.length) :
    ∃ r' arrivals, Offers own r.source (bytes ++ text gap lines) r' arrivals ∧
      (r'.receive own arrivals).closing = some .overrun := by
  let piece := (text gap lines).take Buffer.usualCapacity
  have hlen : piece.length = Buffer.usualCapacity := by
    rw [List.length_take]
    exact Nat.min_eq_left hlong
  have hpiece : piece ≠ [] := by
    intro hnil
    rw [hnil] at hlen
    cases hlen
  have hreads : Reads own r.source r.decoder piece [] r.decoder piece :=
    .done (ha.read_eq_none (List.take_append_drop _ _) (hlen ▸ hshort))
  obtain ⟨-, -, -, hclosing⟩ := receive_reads hreached.accounts hempty hpiece (Nat.le_of_eq hlen)
    hreads fun e => List.not_mem_nil
  refine ⟨r, [.data piece], ⟨rfl, ⟨bytes, packets, hreached, ?_⟩, nofun⟩, ?_⟩
  · rw [flatten_pieces_singleton hpiece]
    exact (List.prefix_append_right_inj _).2 (List.take_prefix _ _)
  · rw [hclosing, if_pos hlen]

/-- A line that fits is read in one piece. -/
theorem receive_line (hreached : Reached own bytes packets r) (hempty : r.buffer.data = [])
    (ha : Ahead own r.source r.decoder gap (a :: lines))
    (hlen : gap.length + a.message.length ≤ Buffer.usualCapacity) :
    ∃ packets' r', Reached own (bytes ++ (gap ++ a.message)) packets' r' ∧ r'.source = r.source ∧
      r'.buffer.data = [] ∧ Ahead own r.source r'.decoder a.ends lines := by
  have hpiece : gap ++ a.message ≠ [] := fun hnil =>
    ha.accepted.message_ne_nil (List.append_eq_nil_iff.1 hnil).2
  obtain ⟨r₀, ends, hends, -, haccepted, hread⟩ := ha.exists_read []
  obtain rfl := List.prefix_nil.1 hends
  rw [List.append_nil, List.length_nil, Nat.add_zero] at hread
  have hreads : Reads own r.source r.decoder (gap ++ a.message)
      [.ofEvent r₀.event r₀.packet r₀.link] ⟨some .json, r₀.link⟩ [] := by
    refine .next (r := { r₀ with used := gap.length + a.message.length }) ha.mem_candidates hread ?_
    rw [List.drop_of_length_le (by simp)]
    refine .done fun f hf => ?_
    obtain rfl := List.mem_singleton.1 hf
    rfl
  obtain ⟨hdecoder, hdata, htaken, hclosing⟩ := receive_reads hreached.accounts hempty hpiece
    (by rw [List.length_append]; exact hlen) hreads fun e he =>
      Outcome.failed_ne_ofEvent e _ _ _ (List.mem_singleton.1 he)
  have hnone : (r.receive own [.data (gap ++ a.message)]).closing = none :=
    hclosing.trans (if_neg (by decide))
  have hreached' := hreached.receive [.data (gap ++ a.message)] (by
    rintro (⟨e, he⟩ | hover)
    · cases hnone.symm.trans he
    · cases hnone.symm.trans hover)
  rw [htaken, flatten_pieces_singleton hpiece, List.take_length] at hreached'
  refine ⟨_, _, hreached', (hreached.accounts.receive _).source, hdata, ?_⟩
  rw [hdecoder]
  exact ⟨haccepted, .inl rfl, ha.accepted.lineEnds⟩

/-- **A line that does not fit** overruns the buffer of a receiver that is called in time. -/
theorem exists_overrun (hreached : Reached own bytes packets r) (hempty : r.buffer.data = [])
    (ha : Ahead own r.source r.decoder gap lines) (hfit : ¬ Fit gap lines) :
    ∃ r' arrivals, Offers own r.source (bytes ++ text gap lines) r' arrivals ∧
      (r'.receive own arrivals).closing = some .overrun := by
  induction lines generalizing bytes packets r gap with
  | nil =>
    refine overrun_of_long hreached hempty ha ?_ nofun
    rw [show text gap [] = gap from List.append_nil gap]
    exact Nat.not_lt.1 hfit
  | cons a lines ih =>
    rcases Nat.lt_or_ge Buffer.usualCapacity (gap.length + a.message.length) with hlong | hlen
    · refine overrun_of_long hreached hempty ha ?_ fun b hb => ?_
      · simp only [text_cons, List.length_append]
        omega
      · cases hb
        exact hlong
    · obtain ⟨packets', r', hreached', hsource, hempty', ha'⟩ :=
        receive_line hreached hempty ha hlen
      have hlater := ih hreached' hempty' (hsource.symm ▸ ha') fun hfits => hfit ⟨hlen, hfits⟩
      rw [hsource, List.append_assoc, List.append_assoc, ← text_cons] at hlater
      exact hlater

/-! ## The result -/

/-- **A text closes a receiver** with its end or with an overrun, and it can be cut so that there is
an overrun if and only if its lines do not fit. -/
theorem overruns_iff (hlines : lines ≠ []) (hgap : ∀ c ∈ gap, isLineEnd c)
    (h : Accepted own source .fresh lines) :
    (∀ r arrivals, Offers own source (text gap lines) r arrivals →
      (r.receive own arrivals).closing = none ∨
        ((r.receive own arrivals).closing = some .endOfStream ∧
          ending arrivals = some .endOfStream) ∨
        (r.receive own arrivals).closing = some .overrun) ∧
    ((∃ r arrivals, Offers own source (text gap lines) r arrivals ∧
      (r.receive own arrivals).closing = some .overrun) ↔ ¬ Fit gap lines) := by
  have ha : Ahead own source .fresh gap lines := ⟨h, .inr ⟨rfl, hlines⟩, hgap⟩
  refine ⟨fun r arrivals hoffers => ?_, ?_, fun hfit => ?_⟩
  · exact (closing_text hoffers ha).imp_right (.imp_right And.left)
  · rintro ⟨r, arrivals, hoffers, hover⟩
    rcases closing_text hoffers ha with hnone | ⟨hend, -⟩ | ⟨-, hfit⟩
    · cases hnone.symm.trans hover
    · cases hend.symm.trans hover
    · exact hfit
  · exact exists_overrun (.fresh source ⟨0, none, true, false⟩ 2 .loose) rfl ha hfit

/-! ## Two announcements -/

/-- The announcement of a bus, as it is written, but for the line end. -/
def announcement : Bytes :=
  (Wire.Json.write (.header (.ofServer ⟨⟨Vector.replicate 16 1⟩, Server.usualVersion⟩))).dropLast

/-- The connection after it. -/
def announced : Link :=
  ⟨.fresh, some ⟨⟨Vector.replicate 16 1⟩, Server.usualVersion, Mlat.clockMHz, Mlat.modulus,
    Rssi.fullScale⟩⟩

theorem read_announcement {l : Link}
    (h : (Format.json.read .nil announcement (.blank .nil) l).toOption =
      some (some ⟨.control, .blank .nil, announced, announcement.length⟩)) :
    Format.json.read .nil announcement (.blank .nil) l =
      .ok (some ⟨.control, .blank .nil, announced, announcement.length⟩) := by
  cases hread : Format.json.read .nil announcement (.blank .nil) l with
  | error e =>
    rw [hread] at h
    cases h
  | ok found =>
    rw [hread] at h
    exact congrArg Except.ok (Option.some.inj h)

theorem accepted_announcements {ends ends' : Bytes} (h : ∀ c ∈ ends, isLineEnd c)
    (h' : ∀ c ∈ ends', isLineEnd c) :
    Accepted .nil .nil .fresh [⟨announcement, ends⟩, ⟨announcement, ends'⟩] := by
  have hhead : ∀ c ∈ announcement.head?, ¬ isLineEnd c := by decide +kernel
  have hlast : ∀ c ∈ announcement.getLast?, ¬ isLineEnd c := by decide +kernel
  exact .cons (read_announcement (by decide +kernel)) rfl hhead hlast h
    (.cons (read_announcement (by decide +kernel)) rfl hhead hlast h' (.nil _))

/-- Two announcements with one line end each never overrun a connection. -/
theorem overruns_iff_two_announcements :
    Accepted .nil .nil .fresh [⟨announcement, [0x0A]⟩, ⟨announcement, [0x0A]⟩] ∧
      ∀ r arrivals, Offers .nil .nil
        (text [] [⟨announcement, [0x0A]⟩, ⟨announcement, [0x0A]⟩]) r arrivals →
          (r.receive .nil arrivals).closing ≠ some .overrun := by
  have hends : ∀ c ∈ [0x0A], isLineEnd c := List.forall_mem_singleton.2 rfl
  have haccepted := accepted_announcements hends hends
  have hfit : Fit [] [⟨announcement, [0x0A]⟩, ⟨announcement, [0x0A]⟩] := by decide +kernel
  have hresult := overruns_iff (List.cons_ne_nil _ _) (List.forall_mem_nil _) haccepted
  exact ⟨haccepted, fun r arrivals hoffers hover => hresult.2.1 ⟨r, arrivals, hoffers, hover⟩ hfit⟩

/-- Two announcements with 1024 line ends between them, which arrive after the first
announcement was read. -/
theorem overrun_by_line_ends :
    let lines : List Line := [⟨announcement, List.replicate 1024 0x0A⟩, ⟨announcement, [0x0A]⟩]
    let r := Receiver.fresh .nil ⟨0, none, true, false⟩ 2 .loose
    let r' := (r.receive .nil [.data announcement]).receiver
    Accepted .nil .nil .fresh lines ∧ (∀ a ∈ lines, a.message.length < 256) ∧
      Offers .nil .nil (text [] lines) r' [.data (List.replicate 1024 0x0A)] ∧
      (r'.receive .nil [.data (List.replicate 1024 0x0A)]).closing = some .overrun := by
  intro lines r r'
  have hclosing : (r.receive .nil [.data announcement]).closing = none := by decide +kernel
  have htaken : (Receiver.pieces [.data announcement]).flatten.take
      (r.receive .nil [.data announcement]).taken = announcement := by decide +kernel
  have hfresh : Reached .nil [] [] r := .fresh .nil ⟨0, none, true, false⟩ 2 .loose
  have hreached := hfresh.receive [.data announcement] (by
    rintro (⟨e, he⟩ | hover)
    · cases hclosing.symm.trans he
    · cases hclosing.symm.trans hover)
  rw [htaken] at hreached
  refine ⟨accepted_announcements (fun c hc => ?_) (List.forall_mem_singleton.2 rfl),
    by decide +kernel,
    ⟨(Receiver.receive_stream _ r _).2, ⟨_, _, hreached, ?_⟩, nofun⟩, by decide +kernel⟩
  · rw [List.eq_of_mem_replicate hc]
    rfl
  · rw [flatten_pieces_singleton (by decide)]
    exact bytes_prefix_text ⟨announcement, _⟩ _

end Line
end Squitter
