import Squitter.Proofs.Decoding
import Squitter.Proofs.RoundTrip.Json
import Squitter.Proofs.RoundTrip.Proto

/-!
# Json and proto mean the same

The readers of the two formats find a message each in its own way, but what they find is accepted by
the same rules (`Link.accept`). So a message that is found in both forms leads to the same outcome
(`Format.accepting`, `parse_eq_accepting`).

They differ in one thing. In json the payload is text, and a text that does not have two digits for
each byte of the kind is refused before anything else is checked; in proto a payload of the wrong
length reaches the rules, which refuse it, whatever the state of the connection
(`exists_accept_eq_error`). Both are refusals, and a refusal changes nothing.
-/

namespace Squitter

/-! ## Payloads of the wrong length -/

namespace Hex

/-- Only as many digits as are needed are read. -/
theorem decode?_encode_of_ne {data : Bytes} {n : Nat} (h : data.length ≠ n) :
    decode? n (encode data) = none := by
  have hlen : ¬ (encode data).length = 2 * (List.replicate n (0 : UInt8)).length := by
    rw [length_encode, List.length_replicate]
    omega
  rw [decode?, decodeInto, if_neg hlen]

end Hex

namespace Wire.Json

theorem decoded_spelled_of_ne {r : Report Bytes} (h : r.payload.length ≠ r.kind.payloadLength) :
    decoded (spelled (.packet r)) = .error (.invalidHex (latin (Hex.encode r.payload))) := by
  have hascii : utf8 (latin (Hex.encode r.payload)) = Hex.encode r.payload :=
    utf8_latin fun c hc => (Hex.plain_of_mem_encode c hc).2.1
  simp only [decoded, spelled, payload, hascii, Hex.decode?_encode_of_ne h]
  rfl

end Wire.Json

/-- A report with a payload of the wrong length is refused, also if there was no announcement. -/
theorem Link.exists_accept_eq_error {r : Report Bytes} (h : r.payload.length ≠ r.kind.payloadLength)
    (own : Uuid) (p : Packet) (l : Link) : ∃ e, l.accept own (.packet r) p = .error e := by
  cases hheader : l.header with
  | none => exact ⟨_, by simp only [accept, acceptReport, hheader]; rfl⟩
  | some header => exact ⟨_, by simp only [accept, acceptReport, hheader, if_pos h]; rfl⟩

namespace Format

/-! ## Accepting what was found -/

/-- Accept a message that takes up `n` bytes of a buffer. -/
def accepting (own : Uuid) (m : Message Bytes) (n : Nat) (i : Intake) :
    Except Error (Option Event) × Intake :=
  match i.link.accept own m i.packet with
  | .error e => (.error e, i)
  | .ok (event, p, l) => (.ok (some event), ⟨i.buffer.advance n, p, l⟩)

variable {own : Uuid} {m : Message Bytes} {n : Nat} {i : Intake}

theorem parse_eq_accepting {f : Format}
    (h : f.read own i.buffer.data i.packet i.link = accepted own m i.packet i.link n) :
    f.parse own i = accepting own m n i := by
  unfold accepted at h
  unfold accepting
  cases haccept : i.link.accept own m i.packet with
  | error e =>
    rw [haccept] at h
    exact parse_of_error h
  | ok found =>
    rw [haccept] at h
    exact parse_of_some h

/-- A message in proto form is accepted by the rules. -/
theorem parse_proto_eq (h : Wire.Proto.read? i.buffer.data = some (m, n)) :
    proto.parse own i = accepting own m n i :=
  parse_eq_accepting (by rw [read, h])

/-- So is a message in json form, if the payload has the right length. -/
theorem parse_json_eq (h : Wire.Json.read? i.buffer.data = some (Wire.Json.spelled m, n))
    (hlen : ∀ r, m = .packet r → r.payload.length = r.kind.payloadLength) :
    json.parse own i = accepting own m n i := by
  refine parse_eq_accepting ?_
  rw [read, h]
  simp only [Wire.Json.decoded_spelled hlen]
  rfl

theorem parse_json_of_ne {r : Report Bytes} (h : r.payload.length ≠ r.kind.payloadLength)
    (hread : Wire.Json.read? i.buffer.data = some (Wire.Json.spelled (.packet r), n)) :
    json.parse own i = (.error (.invalidHex (latin (Hex.encode r.payload))), i) := by
  refine parse_of_error ?_
  rw [read, hread]
  simp only [Wire.Json.decoded_spelled_of_ne h]
  rfl

/-! ## Agreement -/

/-- **Json and proto agree.** A message that both can express (levels have four bytes in proto,
and the length of a body is bounded) is put before the two readers, with anything behind it, in
any buffers, with the same packet and the same state of the connection. Then both refuse it and
change nothing, for the same reason unless the payload has the wrong length; or both read the same
event into the same packet and the same state, and take just the message off the buffer, in json
with the line ends behind it. -/
theorem json_agrees_with_proto {m : Message Bytes} {bytes : Bytes} (hlevel : Wire.Proto.LevelFits m)
    (hbytes : Wire.Proto.write m = .ok bytes) (rest₁ rest₂ : Bytes) (b₁ b₂ : Buffer)
    (h₁ : b₁.data = Wire.Json.write m ++ rest₁) (h₂ : b₂.data = bytes ++ rest₂) (own : Uuid)
    (p : Packet) (l : Link) :
    (∃ e₁ e₂, json.parse own ⟨b₁, p, l⟩ = (.error e₁, ⟨b₁, p, l⟩) ∧
      proto.parse own ⟨b₂, p, l⟩ = (.error e₂, ⟨b₂, p, l⟩) ∧
      (e₁ = e₂ ∨ ∃ r, m = .packet r ∧ r.payload.length ≠ r.kind.payloadLength)) ∨
    ∃ event p' l' n₁,
      n₁ = (Wire.Json.write m).length + (rest₁.takeWhile Wire.Json.isLineEnd).length ∧
      json.parse own ⟨b₁, p, l⟩ = (.ok (some event), ⟨b₁.advance n₁, p', l'⟩) ∧
      proto.parse own ⟨b₂, p, l⟩ = (.ok (some event), ⟨b₂.advance bytes.length, p', l'⟩) := by
  have hjson := Wire.Json.read?_write_append m rest₁
  rw [← h₁] at hjson
  have hproto := Wire.Proto.read?_write_append hlevel hbytes rest₂
  rw [← h₂] at hproto
  by_cases hlen : ∀ r, m = .packet r → r.payload.length = r.kind.payloadLength
  · rw [parse_json_eq (i := ⟨b₁, p, l⟩) hjson hlen, parse_proto_eq (i := ⟨b₂, p, l⟩) hproto]
    cases haccept : l.accept own m p with
    | error e =>
      exact .inl ⟨e, e, by simp only [accepting, haccept], by simp only [accepting, haccept],
        .inl rfl⟩
    | ok found =>
      obtain ⟨event, p', l'⟩ := found
      exact .inr ⟨event, p', l', _, rfl, by simp only [accepting, haccept],
        by simp only [accepting, haccept]⟩
  · simp only [Classical.not_forall] at hlen
    obtain ⟨r, rfl, hne⟩ := hlen
    obtain ⟨e, haccept⟩ := Link.exists_accept_eq_error hne own p l
    refine .inl ⟨_, e, parse_json_of_ne (i := ⟨b₁, p, l⟩) hne hjson, ?_, .inr ⟨r, rfl, hne⟩⟩
    rw [parse_proto_eq (i := ⟨b₂, p, l⟩) hproto]
    simp only [accepting, haccept]

/-- A report to a connection whose sender has a clock of 12 MHz and levels up to 255. -/
theorem json_agrees_with_proto_report :
    let r : Report Bytes := ⟨.modeAC, .nil, [0x77, 0x00], 100, 255, 3⟩
    let bytes := Bytes.bigEndian 4 44 ++ Wire.Proto.writeBody (.packet r)
    let l : Link := ⟨.fresh, some ⟨.nil, "1", 12, 1000, 255⟩⟩
    let i₁ : Intake := ⟨⟨1024, 0, Wire.Json.write (.packet r) ++ utf8 "\n"⟩, .blank .nil, l⟩
    let i₂ : Intake := ⟨⟨64, 6, bytes ++ []⟩, .blank .nil, l⟩
    Wire.Proto.LevelFits (.packet r) ∧ Wire.Proto.write (.packet r) = .ok bytes ∧
      (json.parse .nil i₁).2.packet = (proto.parse .nil i₂).2.packet ∧
      (json.parse .nil i₁).2.link = (proto.parse .nil i₂).2.link ∧
      (json.parse .nil i₁).1.toOption = (proto.parse .nil i₂).1.toOption ∧
      (proto.parse .nil i₂).1.toOption = some (some .frame) := by
  intro r bytes l i₁ i₂
  have hlevel : Wire.Proto.LevelFits (.packet r) := by
    intro r' hr'
    cases hr'
    decide
  have hbytes : Wire.Proto.write (.packet r) = .ok bytes := rfl
  have hagree :=
    json_agrees_with_proto hlevel hbytes (utf8 "\n") [] i₁.buffer i₂.buffer rfl rfl .nil
    (.blank .nil) l
  refine ⟨hlevel, hbytes, ?_, ?_, ?_, by decide +kernel⟩
  all_goals
    rcases hagree with ⟨_, _, hjson, hproto, -⟩ | ⟨_, _, _, _, -, hjson, hproto⟩
    · simp only [i₁, i₂, hjson, hproto, Except.toOption]
    · simp only [i₁, i₂, hjson, hproto]

end Format

end Squitter
