import Squitter.Proofs.Hop.Reception

/-!
# Grammars

A **grammar** (`Grammar`) lists the spellings of the messages of a format: the bytes of each, and
what it makes of a packet. A format **follows** a grammar (`Grammar.Exact`) if it reads a packet
exactly when a spelling stands at the front of the buffer, whatever comes behind it; then it takes
the bytes of that spelling and no more. There is never more than one spelling to take. For this it
is enough that the reader of the format finds the spellings and nothing else (`Grammar.Describes`).

**Streams.** A stream of spellings is read one spelling a call (`Grammar.Exact.data_afterCalls`). By
induction on the spellings before, each call finds the buffer at the boundary between two of them. A
stream that is too long for the buffer is delivered as well, by whatever turns it is read
(`Grammar.Describes.delivers`).
-/

namespace Squitter

open Decoder

/-- How the packets of a format are spelled. -/
structure Grammar where
  Spelling : Type
  /-- The bytes of a message. -/
  text : Spelling → Bytes
  /-- What a message makes of a packet, and of the history of the counter. -/
  fill : Spelling → Packet → Mlat.History → Packet × Mlat.History

namespace Grammar

variable {g : Grammar} {f : Format} {s : g.Spelling} {i : Intake} {rest : Bytes}

/-- A spelling stands at the front of some bytes. -/
def Leads (g : Grammar) (data : Bytes) : Prop :=
  ∃ (s : g.Spelling) (rest : Bytes), data = g.text s ++ rest

/-- What a message leaves: its bytes are gone, the packet is filled, and the counter was read. -/
def after (g : Grammar) (s : g.Spelling) (i : Intake) : Intake :=
  let (packet, clock) := g.fill s i.packet i.link.clock
  ⟨i.buffer.advance (g.text s).length, packet, { i.link with clock }⟩

theorem data_after (h : i.buffer.data = g.text s ++ rest) : (g.after s i).buffer.data = rest := by
  show i.buffer.data.drop (g.text s).length = rest
  rw [h, List.drop_left]

/-- The reader of the format finds the spellings, and nothing else. -/
structure Describes (g : Grammar) (f : Format) : Prop where
  reads (own : Uuid) (s : g.Spelling) (rest : Bytes) (p : Packet) (l : Link) :
    f.read own (g.text s ++ rest) p l =
      .ok (some (Format.frame (g.fill s p l.clock).1 (g.fill s p l.clock).2 l (g.text s).length))
  ignores (own : Uuid) (data : Bytes) (p : Packet) (l : Link) :
    ¬ g.Leads data → f.read own data p l = .ok none
  unique (s s' : g.Spelling) (rest rest' : Bytes) :
    g.text s ++ rest = g.text s' ++ rest' → s = s' ∧ rest = rest'

/-- A reader ignores what it finds no spelling in. -/
theorem eq_none_of_not_leads {α : Type} {found : Option α} {data : Bytes}
    {result : Except Error (Option Reading)} (hnone : found = none → result = .ok none)
    (hleads : ∀ a, found = some a → g.Leads data) (h : ¬ g.Leads data) : result = .ok none := by
  cases hfound : found with
  | none => exact hnone hfound
  | some a => exact absurd (hleads a hfound) h

/-- The format reads a packet exactly if a spelling leads the buffer, and takes just this one. -/
structure Exact (g : Grammar) (f : Format) : Prop where
  accepts (own : Uuid) (i : Intake) :
    (f.parse own i).1 = .ok (some .frame) ↔ g.Leads i.buffer.data
  takes (own : Uuid) (i : Intake) (s : g.Spelling) (rest : Bytes) :
    i.buffer.data = g.text s ++ rest →
      f.parse own i = (.ok (some .frame), g.after s i) ∧ (g.after s i).buffer.data = rest
  /-- Nothing changes where no spelling leads. -/
  waits (own : Uuid) (i : Intake) : ¬ g.Leads i.buffer.data → f.parse own i = (.ok none, i)
  unique (s s' : g.Spelling) (rest rest' : Bytes) :
    g.text s ++ rest = g.text s' ++ rest' → s = s' ∧ rest = rest'

/-- Where nothing is read, no spelling leads. -/
theorem Exact.not_leads (h : g.Exact f) {own : Uuid} (hparse : (f.parse own i).1 = .ok none) :
    ¬ g.Leads i.buffer.data := by
  intro hlead
  have hframe := (h.accepts own i).2 hlead
  rw [hparse] at hframe
  cases hframe

/-- **A format follows the grammar that describes it.** -/
theorem Describes.exact (h : g.Describes f) : g.Exact f := by
  have htakes (own : Uuid) (i : Intake) (s : g.Spelling) (rest : Bytes)
      (hdata : i.buffer.data = g.text s ++ rest) :
      f.parse own i = (.ok (some .frame), g.after s i) ∧ (g.after s i).buffer.data = rest := by
    refine ⟨?_, data_after hdata⟩
    rw [Format.parse_of_some ((congrArg (f.read own · i.packet i.link) hdata).trans (h.reads ..))]
    rfl
  have hwaits (own : Uuid) (i : Intake) (hlead : ¬ g.Leads i.buffer.data) :
      f.parse own i = (.ok none, i) :=
    Format.parse_of_none (h.ignores own _ _ _ hlead)
  refine ⟨fun own i => ⟨fun hparse => ?_, ?_⟩, htakes, hwaits, h.unique⟩
  · refine Classical.byContradiction fun hlead => ?_
    rw [hwaits own i hlead] at hparse
    cases hparse
  · rintro ⟨s, rest, hdata⟩
    rw [(htakes own i s rest hdata).1]

end Grammar

/-! ## Streams -/

/-- What a number of calls leave. -/
def Format.afterCalls (f : Format) (own : Uuid) : Nat → Intake → Intake
  | 0, i => i
  | n + 1, i => f.afterCalls own n (f.parse own i).2

namespace Grammar

variable {g : Grammar} {f : Format}

/-- **Each call finds the next spelling** at the front of the buffer. -/
theorem Exact.data_afterCalls (h : g.Exact f) (own : Uuid) {i : Intake} {s : g.Spelling}
    {before later : List g.Spelling} {rest : Bytes}
    (hdata : i.buffer.data = ((before ++ s :: later).map g.text).flatten ++ rest) :
    (f.afterCalls own before.length i).buffer.data =
      g.text s ++ ((later.map g.text).flatten ++ rest) := by
  induction before generalizing i with
  | nil =>
    rw [List.nil_append, List.map_cons, List.flatten_cons, List.append_assoc] at hdata
    exact hdata
  | cons s₀ before ih =>
    rw [List.cons_append, List.map_cons, List.flatten_cons, List.append_assoc] at hdata
    obtain ⟨hparse, hrest⟩ := h.takes own i s₀ _ hdata
    rw [List.length_cons, Format.afterCalls, hparse]
    exact ih hrest

/-- The packets of a stream from one source, from the counter's history before it. -/
def packets (g : Grammar) (source : Uuid) : Mlat.History → List g.Spelling → List Packet
  | _, [] => []
  | clock, s :: ss =>
    let (packet, clock) := g.fill s (.blank source) clock
    packet :: g.packets source clock ss

/-- A stream of spellings is a script. -/
theorem Describes.exists_script (h : g.Describes f) (hf : f ≠ .json) (own source : Uuid) (l : Link)
    (ss : List g.Spelling) :
    ∃ l', Script own source f l (ss.map g.text) ((g.packets source l.clock ss).map .frame) l' := by
  induction ss generalizing l with
  | nil => exact ⟨l, .nil l⟩
  | cons s ss ih =>
    obtain ⟨l', hscript⟩ := ih { l with clock := (g.fill s (.blank source) l.clock).2 }
    have hm : f.IsMessage (g.text s) := by
      have hread := h.reads own s [] (.blank source) l
      exact ⟨List.length_pos_iff.1 (Format.used_pos hread), fun hjson => absurd hjson hf⟩
    have hread (rest : Bytes) : f.read own (g.text s ++ rest) (.blank source) l =
        .ok (some ⟨.frame, (g.fill s (.blank source) l.clock).1,
          { l with clock := (g.fill s (.blank source) l.clock).2 },
          (g.text s).length + (f.tail rest).length⟩) := by
      rw [h.reads, Format.tail, if_neg hf]
      rfl
    exact ⟨l', .cons hm hread hscript⟩

/-- **A stream of spellings is delivered**, one packet for each. -/
theorem Describes.delivers (h : g.Describes f) (hf : f ∈ Format.readable) (hjson : f ≠ .json)
    (hlen : ∀ s, (g.text s).length < Buffer.usualCapacity) (own source : Uuid)
    (ss : List g.Spelling) :
    Reception.Delivers own source (ss.map g.text).flatten
      ((g.packets source .fresh ss).map .frame) := by
  obtain ⟨l', hscript⟩ := h.exists_script hjson own source .fresh ss
  refine Reception.delivers_of_short_script hf hscript fun m hm => ?_
  obtain ⟨s, -, rfl⟩ := List.mem_map.1 hm
  exact hlen s

end Grammar
end Squitter
