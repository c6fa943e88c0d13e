import Squitter.Proofs.Messages

/-!
# Receptions

A **reception** (`Reception`) is a stream on its way through a buffer into a decoder. Its **turns**
(`Reception.Turn`) come in any order: a read takes what has arrived and fits into the buffer, and a
call asks the decoder for the next message.

**The invariant** (`Reception.Follows`). While a script is received, what was learned so far and
what is still pending are together what the script has to tell, and every turn keeps it so
(`Follows.turn`). So the outcomes are those of the script, in their order, as far as they go; at the
end they are all of them (`Follows.of_complete`). The end is always within reach, for a reception
**at rest** has room for a read (`Follows.room_pos`, `Follows.exists_complete`). In short, a stream
that is a script **delivers** what the script has to tell (`delivers_of_script`).
-/

namespace Squitter

open Decoder

/-! ## Turns -/

/-- A stream that is being read: the decoder and its buffer, the bytes that were not yet read, and
the outcomes of the calls so far. -/
structure Reception where
  decoder : Decoder
  buffer : Buffer
  unread : Bytes
  outcomes : List Outcome

namespace Reception

/-- What is done next. -/
inductive Turn
  /-- Read, when `n` bytes have arrived. -/
  | read (n : Nat)
  /-- Ask the decoder for the next message. -/
  | call

/-- A stream of which nothing was read. -/
def start (stream : Bytes) : Reception := ⟨.fresh, .empty Buffer.usualCapacity, stream, []⟩

variable (own source : Uuid)

/-- Read from the stream, or ask the decoder. -/
def turn (r : Reception) : Turn → Reception
  | .read n =>
    let (taken, b) := r.buffer.fill (r.unread.take n)
    { r with buffer := b, unread := r.unread.drop (taken.getD 0) }
  | .call =>
    let s := r.decoder.decode own r.buffer (.blank source)
    { r with decoder := s.decoder, buffer := s.buffer, outcomes := r.outcomes ++ s.outcome?.toList }

/-- Take turns. -/
def run (r : Reception) (turns : List Turn) : Reception :=
  turns.foldl (turn own source) r

/-- There is no message to read in the buffer. -/
def AtRest (r : Reception) : Prop :=
  (r.decoder.decode own r.buffer (.blank source)).result = .ok none

/-- All bytes and all messages were read. -/
def Complete (r : Reception) : Prop :=
  r.unread = [] ∧ r.AtRest own source

/-- Nothing is left in the buffer, but perhaps the line end of a json message. -/
def Leaves (r : Reception) : Prop :=
  r.buffer.data = [] ∨ r.decoder.format = some .json ∧ r.buffer.data = [0x0A]

/-- By whatever turns the stream is read, the outcomes are these, as far as they go, and are all of
them at the end, which further turns reach. -/
def Delivers (stream : Bytes) (os : List Outcome) : Prop :=
  ∀ turns, let r := (start stream).run own source turns
    r.outcomes <+: os ∧ (r.Complete own source → r.outcomes = os ∧ r.Leaves) ∧
      ∃ more, (r.run own source more).Complete own source

/-- A read moves bytes from the stream into the buffer, and loses none. -/
theorem data_append_unread_read (r : Reception) (n : Nat) :
    (r.turn own source (.read n)).buffer.data ++ (r.turn own source (.read n)).unread =
      r.buffer.data ++ r.unread := by
  by_cases hfull : r.buffer.isFull
  · simp only [turn, Buffer.fill, if_pos hfull]
    rfl
  · have hlen : ((r.unread.take n).take r.buffer.room).length =
        (r.unread.take (min r.buffer.room n)).length := by
      rw [List.take_take]
    simp only [turn, Buffer.fill, if_neg hfull, Option.getD_some, Buffer.data_append,
      List.append_assoc, hlen]
    rw [List.take_take, List.length_take, ← List.drop_eq_drop_min, List.take_append_drop]

/-- With bytes to read and room for them, a read takes one at least. -/
theorem length_unread_read_lt {r : Reception} (hunread : r.unread ≠ [])
    (hroom : 0 < r.buffer.room) :
    (r.turn own source (.read 1)).unread.length < r.unread.length := by
  have hpos := List.length_pos_iff.2 hunread
  have hfull : ¬ r.buffer.isFull := by
    intro hfull
    unfold Buffer.isFull at hfull
    unfold Buffer.room at hroom
    rw [Buffer.capacity_compact] at hroom
    have hdata := of_decide_eq_true hfull
    omega
  simp only [turn, Buffer.fill, if_neg hfull, Option.getD_some, List.length_take, List.length_drop]
  omega

variable {own source}

/-! ## Receiving a script -/

/-- The reception is that of a script, whose outcomes are `os`. -/
structure Follows (own source : Uuid) (f : Format) (r : Reception) (os : List Outcome) (l' : Link) :
    Prop where
  sound : r.buffer.Sound
  capacity : r.buffer.capacity = Buffer.usualCapacity
  pending : ∃ pre ms os', Pending own source f Buffer.usualCapacity r.decoder pre ms os' l' ∧
    r.buffer.data ++ r.unread = pre ++ ms.flatten ∧ r.outcomes ++ os' = os

namespace Follows

variable {f : Format} {r : Reception} {os : List Outcome} {l' : Link}

theorem start {ms : List Bytes} (h : Script own source f .fresh ms os l')
    (hfirst : ∀ m ∈ ms.head?, m.length ≤ Buffer.usualCapacity)
    (hlater : ∀ m ∈ ms.tail, m.length < Buffer.usualCapacity) :
    (Reception.start ms.flatten).Follows own source f os l' := by
  refine ⟨Buffer.sound_empty _, rfl, [], ms, os,
    ⟨h, .inr ⟨rfl, rfl⟩, .inl rfl, ?_, hlater⟩, rfl, rfl⟩
  intro m hm
  rw [List.length_nil, Nat.zero_add]
  exact hfirst m hm

theorem read (h : r.Follows own source f os l') (n : Nat) :
    (r.turn own source (.read n)).Follows own source f os l' := by
  obtain ⟨pre, ms, os', hp, hdata, hos⟩ := h.pending
  refine ⟨?_, ?_, pre, ms, os', hp, (data_append_unread_read own source r n).trans hdata, hos⟩
  · exact Buffer.sound_fill h.sound _
  · exact (Buffer.capacity_fill _ _).trans h.capacity

theorem call (h : r.Follows own source f os l') :
    (r.turn own source .call).Follows own source f os l' := by
  obtain ⟨pre, ms, os', hp, hdata, hos⟩ := h.pending
  rcases decode_cases r.decoder own r.buffer (.blank source) with
    ⟨-, hd⟩ | ⟨g, -, e, hread, -⟩ | ⟨g, -, reading, hread, hd⟩
  · simp only [Reception.turn, hd]
    exact ⟨h.sound, h.capacity, pre, ms, os', hp,
      hdata, by rwa [← List.append_nil r.outcomes] at hos⟩
  · exact absurd hread (hp.read_ne_error hdata g e)
  · obtain ⟨pre', ms', os'', rfl, rfl, hp', hrest⟩ := hp.of_read hdata hread
    simp only [Reception.turn, hd]
    refine ⟨Buffer.sound_advance h.sound _, h.capacity, pre', ms', os'', hp', hrest, ?_⟩
    rw [← hos, List.append_assoc]
    rfl

/-- **Every turn goes on in the script.** -/
theorem turn (h : r.Follows own source f os l') (t : Turn) :
    (r.turn own source t).Follows own source f os l' := by
  cases t with
  | read n => exact h.read n
  | call => exact h.call

theorem run (h : r.Follows own source f os l') (turns : List Turn) :
    (r.run own source turns).Follows own source f os l' := by
  induction turns generalizing r with
  | nil => exact h
  | cons t turns ih => exact ih (h.turn t)

/-- A call that does not find the reception at rest reads a message. -/
theorem length_call_lt (h : r.Follows own source f os l') (hrest : ¬ r.AtRest own source) :
    (r.turn own source .call).buffer.data.length < r.buffer.data.length := by
  obtain ⟨pre, ms, os', hp, hdata, -⟩ := h.pending
  rcases decode_cases r.decoder own r.buffer (.blank source) with
    ⟨-, hd⟩ | ⟨g, -, e, hread, -⟩ | ⟨g, -, reading, hread, hd⟩
  · exact absurd (congrArg Step.result hd) hrest
  · exact absurd hread (hp.read_ne_error hdata g e)
  · simp only [Reception.turn, hd]
    exact Format.length_drop_used_lt hread

/-! ## What was learned -/

/-- What was learned is the beginning of what there is to learn. -/
theorem outcomes_prefix (h : r.Follows own source f os l') : r.outcomes <+: os := by
  obtain ⟨-, -, os', -, -, hos⟩ := h.pending
  exact ⟨os', hos⟩

theorem read_eq_none_of_atRest (hrest : r.AtRest own source) :
    ∀ g ∈ r.decoder.candidates, g.read own r.buffer.data (.blank source) r.decoder.link =
      .ok none := by
  rcases decode_cases r.decoder own r.buffer (.blank source) with
    ⟨hnone, -⟩ | ⟨g, -, e, -, hd⟩ | ⟨g, -, reading, -, hd⟩
  · exact hnone
  · rw [AtRest, hd] at hrest
    cases hrest
  · rw [AtRest, hd] at hrest
    cases hrest

/-- A reception at rest is not stuck: its buffer has room. -/
theorem room_pos (hf : f ∈ Format.readable) (h : r.Follows own source f os l')
    (hrest : r.AtRest own source) : 0 < r.buffer.room := by
  obtain ⟨pre, ms, os', hp, hdata, -⟩ := h.pending
  have hlt := hp.length_lt_of_none hf (by decide) hdata (read_eq_none_of_atRest hrest)
  exact Buffer.room_pos h.sound (h.capacity.symm ▸ hlt)

/-- At the end everything was learned. -/
theorem of_complete (hf : f ∈ Format.readable) (h : r.Follows own source f os l')
    (hcomplete : r.Complete own source) : r.outcomes = os ∧ r.Leaves := by
  obtain ⟨pre, ms, os', hp, hdata, hos⟩ := h.pending
  obtain ⟨hunread, hrest⟩ := hcomplete
  rw [hunread, List.append_nil] at hdata
  cases ms with
  | nil =>
    have hscript := hp.script
    cases hscript
    rw [List.append_nil] at hos
    rw [List.flatten_nil, List.append_nil] at hdata
    refine ⟨hos, ?_⟩
    rcases hp.lineEnd with rfl | ⟨rfl, rfl⟩
    · exact .inl hdata
    · rcases hp.format with hformat | ⟨-, hnil⟩
      · exact .inr ⟨hformat, hdata⟩
      · cases hnil
  | cons m ms =>
    obtain ⟨event, p, l₁, os'', -, -, -, hread⟩ := hp.exists_read
    have hnone := read_eq_none_of_atRest hrest f (hp.mem_candidates hf)
    rw [hdata, List.flatten_cons, hread] at hnone
    cases hnone

/-- **The end is within reach**, whatever the turns before were. -/
theorem exists_complete (hf : f ∈ Format.readable) (h : r.Follows own source f os l') :
    ∃ turns, (r.run own source turns).Complete own source := by
  -- A read of one byte counts twice in what is unread, and a call shortens what is buffered.
  induction hn : 2 * r.unread.length + r.buffer.data.length using Nat.strongRecOn
    generalizing r with
  | ind n ih =>
    by_cases hrest : r.AtRest own source
    · by_cases hunread : r.unread = []
      · exact ⟨[], hunread, hrest⟩
      · have hroom := h.room_pos hf hrest
        have hlt : 2 * (r.turn own source (.read 1)).unread.length +
            (r.turn own source (.read 1)).buffer.data.length < n := by
          have hall := congrArg List.length (data_append_unread_read own source r 1)
          have hless := length_unread_read_lt own source hunread hroom
          rw [List.length_append, List.length_append] at hall
          omega
        obtain ⟨turns, hturns⟩ := ih _ hlt (h.turn (.read 1)) rfl
        exact ⟨.read 1 :: turns, hturns⟩
    · have hlt : 2 * (r.turn own source .call).unread.length +
          (r.turn own source .call).buffer.data.length < n := by
        rw [← hn]
        exact Nat.add_lt_add_left (h.length_call_lt hrest) _
      obtain ⟨turns, hturns⟩ := ih _ hlt (h.turn .call) rfl
      exact ⟨.call :: turns, hturns⟩

end Follows

/-- **A script is delivered** if its messages fit into the buffer. -/
theorem delivers_of_script {f : Format} (hf : f ∈ Format.readable) {ms : List Bytes}
    {os : List Outcome} {l' : Link} (h : Script own source f .fresh ms os l')
    (hfirst : ∀ m ∈ ms.head?, m.length ≤ Buffer.usualCapacity)
    (hlater : ∀ m ∈ ms.tail, m.length < Buffer.usualCapacity) :
    Delivers own source ms.flatten os := by
  intro turns
  have hfollows := (Follows.start h hfirst hlater).run turns
  exact ⟨hfollows.outcomes_prefix, hfollows.of_complete hf, hfollows.exists_complete hf⟩

/-- All messages are shorter than the buffer. -/
theorem delivers_of_short_script {f : Format} (hf : f ∈ Format.readable) {ms : List Bytes}
    {os : List Outcome} {l' : Link} (h : Script own source f .fresh ms os l')
    (hlengths : ∀ m ∈ ms, m.length < Buffer.usualCapacity) :
    Delivers own source ms.flatten os :=
  delivers_of_script hf h (fun m hm => Nat.le_of_lt (hlengths m (List.mem_of_mem_head? hm)))
    fun m hm => hlengths m (List.mem_of_mem_tail hm)

end Reception
end Squitter
