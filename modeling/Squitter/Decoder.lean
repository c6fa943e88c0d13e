import Squitter.Reading

/-!
# Decoders

A **decoder** (`Decoder`) reads the messages of one connection. At first it tries every readable
format on each buffer; the first one in which a message is read is **pinned**, and from then on only
that one is tried.
-/

namespace Squitter

/-- The format of a connection, once it is known, and the state of the connection. -/
structure Decoder where
  format : Option Format
  link : Link
deriving DecidableEq

namespace Decoder

/-- A decoder that has read nothing. -/
def fresh : Decoder := ⟨none, .fresh⟩

instance : Inhabited Decoder := ⟨fresh⟩

/-- Try formats one after the other; the first that reads a message is reported with it. -/
def detect (order : List Format) (own : Uuid) (i : Intake) :
    Except Error (Option (Format × Event)) × Intake :=
  match order with
  | [] => (.ok none, i)
  | f :: order =>
    match f.parse own i with
    | (.error e, i) => (.error e, i)
    | (.ok (some event), i) => (.ok (some (f, event)), i)
    | (.ok none, i) => detect order own i

/-- Format detection leaves fewer bytes in the buffer if it reads a message. -/
theorem length_lt_of_detect {order : List Format} {own : Uuid} {i i' : Intake} {f : Format}
    {event : Event} (h : detect order own i = (.ok (some (f, event)), i')) :
    i'.buffer.data.length < i.buffer.data.length := by
  induction order generalizing i with
  | nil => simp [detect] at h
  | cons g order ih =>
    unfold detect at h
    split at h
    · simp at h
    · rename_i e i'' hp
      obtain ⟨_, rfl⟩ := Prod.mk.inj h
      exact Format.length_lt_of_parse hp
    · rename_i i'' hp
      have hi : i'' = i := by
        unfold Format.parse at hp
        split at hp
        · simp at hp
        · exact (Prod.mk.inj hp).2.symm
        · split at hp <;> simp at hp
      subst hi
      exact ih h

/-! ## Decoding -/

/-- What one call of a decoder yields: the result, the packet, which is filled in if the result is
a frame, and the state afterwards. -/
structure Step where
  result : Except Error (Option Event)
  packet : Packet
  decoder : Decoder
  buffer : Buffer

/-- Read the next message from a buffer into a packet, trying formats in the given order if none is
pinned. -/
def decodeIn (order : List Format) (d : Decoder) (own : Uuid) (b : Buffer) (p : Packet) : Step :=
  let start : Intake := ⟨b, p, d.link⟩
  match d.format with
  | some f =>
    let (result, i) := f.parse own start
    ⟨result, i.packet, ⟨some f, i.link⟩, i.buffer⟩
  | none =>
    match detect order own start with
    | (.error e, i) => ⟨.error e, i.packet, ⟨none, i.link⟩, i.buffer⟩
    | (.ok none, i) => ⟨.ok none, i.packet, ⟨none, i.link⟩, i.buffer⟩
    | (.ok (some (f, event)), i) => ⟨.ok (some event), i.packet, ⟨some f, i.link⟩, i.buffer⟩

/-- Read the next message from a buffer into a packet. -/
def decode (d : Decoder) (own : Uuid) (b : Buffer) (p : Packet) : Step :=
  d.decodeIn Format.readable own b p

/-- A message that was read leaves fewer bytes in the buffer. -/
theorem length_lt_of_decode {d : Decoder} {own : Uuid} {b : Buffer} {p : Packet} {event : Event}
    (h : (d.decode own b p).result = .ok (some event)) :
    (d.decode own b p).buffer.data.length < b.data.length := by
  obtain ⟨format, link⟩ := d
  cases format with
  | some f => exact Format.length_lt_of_parse (i := ⟨b, p, link⟩) (Prod.ext h rfl)
  | none =>
    simp only [decode, decodeIn] at h ⊢
    split at h
    · simp at h
    · simp at h
    · rename_i f e i hd
      exact length_lt_of_detect (i := ⟨b, p, link⟩) hd

/-- Read messages from a buffer, each into a blank packet, up to the first call that yields none
or an error. -/
def drain (d : Decoder) (own source : Uuid) (b : Buffer) : List Step :=
  let s := d.decode own b (Packet.blank source)
  match _h : s.result with
  | .ok (some _) => s :: drain s.decoder own source s.buffer
  | _ => [s]
termination_by b.data.length
decreasing_by exact length_lt_of_decode _h

theorem drain_ne_nil (d : Decoder) (own source : Uuid) (b : Buffer) :
    d.drain own source b ≠ [] := by
  unfold drain
  simp only
  split <;> simp

end Decoder

end Squitter
