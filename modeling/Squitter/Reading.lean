import Squitter.Buffer
import Squitter.Wire.Airspy
import Squitter.Wire.Beast
import Squitter.Wire.Json
import Squitter.Wire.Proto
import Squitter.Wire.Raw

/-!
# Reading one message

`Format.read` looks for a message of one format at the front of the buffered bytes. There are three
outcomes: the message (`Reading`), nothing, because it is not complete or not of this format, and an
error, because the peer breaks the protocol. `Format.parse` does so on a buffer, a packet and a link
(`Intake`), which change only if a message is read.
-/

namespace Squitter

/-- A message that was read: what it is, the state it leaves, and the bytes it takes up. -/
structure Reading where
  event : Event
  packet : Packet
  link : Link
  used : Nat
deriving DecidableEq

/-- What reading works on. -/
structure Intake where
  buffer : Buffer
  packet : Packet
  link : Link
deriving DecidableEq

namespace Format

/-- A frame that was read, from how it fills a packet. -/
def frame (p : Packet) (clock : Mlat.History) (l : Link) (used : Nat) : Reading :=
  ⟨.frame, p, { l with clock }, used⟩

/-- Accept a message of another bus. -/
def accepted (own : Uuid) (m : Message Bytes) (p : Packet) (l : Link) (used : Nat) :
    Except Error (Option Reading) := do
  let (event, p, l) ← l.accept own m p
  return some ⟨event, p, l, used⟩

/-- Look for a message at the front of the data. -/
def read (f : Format) (own : Uuid) (data : Bytes) (p : Packet) (l : Link) :
    Except Error (Option Reading) :=
  match f with
  | airspy => .ok do
    let (line, used) ← Wire.Airspy.read? data
    let (p, clock) := Wire.Airspy.fill line p l.clock
    some (frame p clock l used)
  | beast => .ok do
    let (contents, used) ← Wire.Beast.read? data
    let (p, clock) := Wire.Beast.fill contents p l.clock
    some (frame p clock l used)
  | json =>
    match Wire.Json.read? data with
    | none => .ok none
    | some (m, used) => do accepted own (← Wire.Json.decoded m) p l used
  | proto =>
    match Wire.Proto.read? data with
    | none => .ok none
    | some (m, used) => accepted own m p l used
  | raw => .ok do
    let (kind, payload, used) ← Wire.Raw.read? data
    some (frame (p.setPayload kind payload) l.clock l used)
  | stats => .ok none

/-! ## Progress -/

theorem used_eq_of_accepted {own : Uuid} {m : Message Bytes} {p : Packet} {l : Link} {used : Nat}
    {r : Reading} (h : accepted own m p l used = .ok (some r)) : r.used = used := by
  unfold accepted at h
  cases ha : l.accept own m p with
  | error e => rw [ha] at h; cases h
  | ok r' => rw [ha] at h; cases h; rfl

/-- A message that was read takes up at least one byte. -/
theorem used_pos {f : Format} {own : Uuid} {data : Bytes} {p : Packet} {l : Link} {r : Reading}
    (h : f.read own data p l = .ok (some r)) : 0 < r.used := by
  cases f with
  | airspy =>
    simp only [read, Option.bind_eq_bind, Except.ok.injEq, Option.bind_eq_some_iff] at h
    obtain ⟨⟨line, used⟩, h₁, h₂⟩ := h
    cases h₂
    exact Wire.Airspy.pos_of_read? h₁
  | beast =>
    simp only [read, Option.bind_eq_bind, Except.ok.injEq, Option.bind_eq_some_iff] at h
    obtain ⟨⟨contents, used⟩, h₁, h₂⟩ := h
    cases h₂
    exact Wire.Beast.pos_of_read? h₁
  | json =>
    simp only [read] at h
    split at h
    · simp at h
    · rename_i m used hm
      cases hd : Wire.Json.decoded m with
      | error e => rw [hd] at h; cases h
      | ok m' =>
        rw [hd] at h
        rw [used_eq_of_accepted h]
        exact Wire.Json.pos_of_read? hm
  | proto =>
    simp only [read] at h
    split at h
    · simp at h
    · rename_i m used hm
      rw [used_eq_of_accepted h]
      exact Wire.Proto.pos_of_read? hm
  | raw =>
    simp only [read, Option.bind_eq_bind, Except.ok.injEq, Option.bind_eq_some_iff] at h
    obtain ⟨⟨kind, payload, used⟩, h₁, h₂⟩ := h
    cases h₂
    exact Wire.Raw.pos_of_read? h₁
  | stats => simp [read] at h

/-! ## Reading from a buffer -/

/-- Read a message from the buffer. -/
def parse (f : Format) (own : Uuid) (i : Intake) : Except Error (Option Event) × Intake :=
  match f.read own i.buffer.data i.packet i.link with
  | .error e => (.error e, i)
  | .ok none => (.ok none, i)
  | .ok (some r) =>
    match i.buffer.consume? r.used with
    | some buffer => (.ok (some r.event), ⟨buffer, r.packet, r.link⟩)
    | none => (.error (.underflow r.used i.buffer.data.length), i)

/-- A message that was read leaves fewer bytes in the buffer. -/
theorem length_lt_of_parse {f : Format} {own : Uuid} {i i' : Intake} {event : Event}
    (h : f.parse own i = (.ok (some event), i')) :
    i'.buffer.data.length < i.buffer.data.length := by
  unfold parse at h
  split at h
  · simp at h
  · simp at h
  · rename_i r hr
    split at h
    · rename_i b hb
      obtain ⟨_, rfl⟩ := Prod.mk.inj h
      have hpos := used_pos hr
      unfold Buffer.consume? at hb
      split at hb
      · simp at hb
      · obtain rfl := Option.some.inj hb
        simp only [List.length_drop]
        omega
    · simp at h

end Format

end Squitter
