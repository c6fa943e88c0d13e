import Squitter.Conversion
import Squitter.Proofs.Decoding
import Squitter.Proofs.RoundTrip.Frames
import Squitter.Proofs.RoundTrip.Json
import Squitter.Proofs.RoundTrip.Proto

/-!
# What an encoder writes is read

An encoder of a readable format writes a **message** for every packet (`Encoder.frameBytes`). A
reader of the same format finds it with the packet's kind and payload
(`Format.read_frameBytes_append`), once it is **ready** (`Format.Ready`): in json and proto, once it
accepted an announcement with the units of a bus. A greeting is such an announcement
(`Format.read_greeting_append`).

A message is read in full and nothing else with it, but for the line ends after a json message
(`Format.tail`).
-/

namespace Squitter

namespace Format

/-- The line ends at the front of a string that belong to the message before it. -/
def tail (f : Format) (rest : Bytes) : Bytes :=
  if f = json then rest.takeWhile Wire.Json.isLineEnd else []

/-- Reports in the units of a bus are accepted. -/
def Ready (f : Format) (l : Link) : Prop :=
  f = json ∨ f = proto → ∃ h, l.header = some h ∧ h.ceiling = Rssi.fullScale

end Format

/-! ## Accepting messages -/

/-- The units and identity that a bus announces. -/
def RemoteHeader.ofServer (s : Server) : RemoteHeader :=
  ⟨s.id, s.version, Mlat.clockMHz, Mlat.modulus, Rssi.fullScale⟩

/-- No level is above the full scale. -/
theorem Rssi.not_fullScale_lt (level : UInt32) : ¬ fullScale.toUInt64 < level.toUInt64 := by
  rw [UInt64.lt_iff_toNat_lt, UInt32.toNat_toUInt64, UInt32.toNat_toUInt64]
  exact Nat.not_lt.2 (Nat.le_of_lt_succ level.toNat_lt)

namespace Link

/-- An announcement of another bus is accepted. -/
theorem acceptHeader_ofServer {own : Uuid} {s : Server} (hs : own ≠ s.id) (l : Link) :
    l.acceptHeader own (.ofServer s) = .ok { l with header := some (.ofServer s) } := by
  have hmagic : ¬ (Announcement.ofServer s).magic ≠ magic := fun hne => hne rfl
  have hunits : ¬ (¬ Mlat.validMHz (Announcement.ofServer s).mhz ∨
      (Announcement.ofServer s).width = 0 ∨ (Announcement.ofServer s).ceiling = 0) := by
    show ¬ (¬ Mlat.validMHz Mlat.clockMHz ∨ Mlat.modulus = 0 ∨ Rssi.fullScale = 0)
    decide
  have hserver : ¬ (Announcement.ofServer s).server = own := Ne.symm hs
  rw [acceptHeader, if_neg hmagic, if_neg hunits, if_neg hserver]
  rfl

/-- A report in the units of a bus is accepted, with its kind and payload. -/
theorem acceptReport_ofPacket {l : Link} {h : RemoteHeader} (hl : l.header = some h)
    (hh : h.ceiling = Rssi.fullScale) (p q : Packet) :
    ∃ q' l', l.acceptReport (.ofPacket p) q = .ok (q', l') ∧ q'.kind = p.kind ∧
      q'.content = p.content ∧ l'.header = some h := by
  have hlevel : ¬ h.ceiling.toUInt64 < p.rssi.toUInt64 := hh ▸ Rssi.not_fullScale_lt p.rssi
  have hlen : ¬ p.content.length ≠ p.kind.payloadLength := fun hne => hne p.length_content
  simp only [acceptReport, hl, Report.ofPacket, if_neg hlen, if_neg hlevel]
  exact ⟨_, _, rfl, rfl, Packet.content_setPayload q p.kind p.content p.length_content, rfl⟩

end Link

/-! ## Frames -/

namespace Encoder

/-- The message for a packet; nothing in the format of reports. -/
def frameBytes (f : Format) (p : Packet) : Bytes :=
  match f with
  | .airspy => Wire.Airspy.write p
  | .beast => Wire.Beast.write p
  | .json => Wire.Json.write (.packet (.ofPacket p))
  | .proto =>
    Bytes.bigEndian Wire.Proto.lengthBytes (Wire.Proto.writeBody (.packet (.ofPacket p))).length ++
      Wire.Proto.writeBody (.packet (.ofPacket p))
  | .raw => Wire.Raw.write p
  | .stats => []

/-- Writing a packet in a readable format always succeeds and has no effect on the encoder. -/
theorem encode_eq_ok {e : Encoder} (he : e.format ≠ .stats) (p : Packet) (now : Nat) :
    e.encode p now = (.ok (frameBytes e.format p), e) := by
  obtain ⟨f, started, tally⟩ := e
  cases f with
  | stats => exact absurd rfl he
  | proto =>
    have hlen : (Report.ofPacket p).payload.length ≤ 14 := by
      show p.content.length ≤ 14
      rw [p.length_content]
      exact p.kind.payloadLength_le
    simp only [encode, Wire.Proto.write_packet_eq_ok hlen, frameBytes]
  | _ => rfl

/-- A packet can be written in every format, by encoders in any state. -/
theorem exists_encode_eq_ok (e : Encoder) (p : Packet) (now : Nat) :
    ∃ out, (e.encode p now).1 = .ok out := by
  by_cases he : e.format = .stats
  · rw [encode, he]
    exact ⟨_, rfl⟩
  · rw [encode_eq_ok he]
    exact ⟨_, rfl⟩

theorem encodeAll_eq {e : Encoder} (he : e.format ≠ .stats) (now : Nat) (packets : List Packet) :
    e.encodeAll now packets = (packets.map (frameBytes e.format)).flatten := by
  induction packets with
  | nil => rfl
  | cons p packets ih =>
    rw [encodeAll, encode_eq_ok he, List.map_cons, List.flatten_cons]
    exact congrArg (frameBytes e.format p ++ ·) ih

end Encoder

/-! ## Reading what was written -/

namespace Format

/-- A report is accepted by whoever is ready, who stays ready. -/
theorem exists_accepted_ofPacket {f : Format} (hf : f = json ∨ f = proto) {l : Link}
    (hl : f.Ready l) (own : Uuid) (p q : Packet) :
    ∃ q' l', q'.kind = p.kind ∧ q'.content = p.content ∧ f.Ready l' ∧
      ∀ used, accepted own (.packet (.ofPacket p)) q l used =
        .ok (some ⟨.frame, q', l', used⟩) := by
  obtain ⟨h, hheader, hceiling⟩ := hl hf
  obtain ⟨q', l', haccept, hkind, hcontent, hheader'⟩ :=
    Link.acceptReport_ofPacket hheader hceiling p q
  refine ⟨q', l', hkind, hcontent, fun _ => ⟨h, hheader', hceiling⟩, fun used => ?_⟩
  simp only [accepted, Link.accept, haccept]
  rfl

/-- In json and proto, the message for a packet is accepted as the packet's report. -/
theorem read_frameBytes_eq_accepted {f : Format} (hf : f = json ∨ f = proto) (own : Uuid)
    (p q : Packet) (l : Link) (rest : Bytes) :
    f.read own (Encoder.frameBytes f p ++ rest) q l = accepted own (.packet (.ofPacket p)) q l
      ((Encoder.frameBytes f p).length + (f.tail rest).length) := by
  rcases hf with rfl | rfl
  · have hdecoded : Wire.Json.decoded (Wire.Json.spelled (.packet (.ofPacket p))) =
        .ok (.packet (.ofPacket p)) := by
      refine Wire.Json.decoded_spelled fun r hr => ?_
      cases hr
      exact p.length_content
    simp only [read, Encoder.frameBytes, Wire.Json.read?_write_append, hdecoded, tail, if_true]
    rfl
  · have hlen : (Report.ofPacket p).payload.length ≤ 14 :=
      Nat.le_trans (Nat.le_of_eq p.length_content) p.kind.payloadLength_le
    have hlevel : Wire.Proto.LevelFits (.packet (.ofPacket p)) := by
      intro r hr
      cases hr
      exact p.rssi.toNat_lt
    have hread := Wire.Proto.read?_write_append hlevel (Wire.Proto.write_packet_eq_ok hlen) rest
    simp only [read, Encoder.frameBytes, hread, tail]
    rfl

/-- **The message for a packet is read** with the packet's kind and payload, and leaves the reader
ready. -/
theorem read_frameBytes_append {f : Format} (hf : f ∈ readable) {l : Link} (hl : f.Ready l)
    (own : Uuid) (p q : Packet) :
    ∃ q' l', q'.kind = p.kind ∧ q'.content = p.content ∧ f.Ready l' ∧
      ∀ rest, f.read own (Encoder.frameBytes f p ++ rest) q l =
        .ok (some ⟨.frame, q', l', (Encoder.frameBytes f p).length + (f.tail rest).length⟩) := by
  have hcontent (q : Packet) : (q.setPayload p.kind p.content).content = p.content :=
    Packet.content_setPayload q p.kind p.content p.length_content
  cases f with
  | airspy =>
    let line : Wire.Airspy.Line := ⟨p.kind, p.content,
      Mlat.narrow p.mlat Wire.Airspy.width Wire.Airspy.sendMHz, Wire.Airspy.sendMHz,
      Rssi.narrow p.rssi Wire.Airspy.ceiling⟩
    refine ⟨(Wire.Airspy.fill line q l.clock).1,
      { l with clock := (Wire.Airspy.fill line q l.clock).2 },
      rfl, hcontent q, by simp [Ready], fun rest => ?_⟩
    simp only [read, Encoder.frameBytes, Wire.Airspy.read?_write_append]
    rfl
  | beast =>
    let contents : Wire.Beast.Frame := ⟨p.kind, Mlat.narrow p.mlat Wire.Beast.width Wire.Beast.mhz,
      Wire.Beast.levelByte p.rssi, p.content⟩
    refine ⟨(Wire.Beast.fill contents q l.clock).1,
      { l with clock := (Wire.Beast.fill contents q l.clock).2 }, rfl, hcontent q, by simp [Ready],
      fun rest => ?_⟩
    simp only [read, Encoder.frameBytes, Wire.Beast.read?_write_append]
    rfl
  | json =>
    obtain ⟨q', l', hkind, hcont, hready, haccepted⟩ :=
      exists_accepted_ofPacket (.inl rfl) hl own p q
    exact ⟨q', l', hkind, hcont, hready, fun rest =>
      (read_frameBytes_eq_accepted (.inl rfl) own p q l rest).trans (haccepted _)⟩
  | proto =>
    obtain ⟨q', l', hkind, hcont, hready, haccepted⟩ :=
      exists_accepted_ofPacket (.inr rfl) hl own p q
    exact ⟨q', l', hkind, hcont, hready, fun rest =>
      (read_frameBytes_eq_accepted (.inr rfl) own p q l rest).trans (haccepted _)⟩
  | raw =>
    refine ⟨q.setPayload p.kind p.content, l, rfl, hcontent q, hl, fun rest => ?_⟩
    simp only [read, Encoder.frameBytes, Wire.Raw.read?_write_append]
    rfl
  | stats => exact absurd hf (by decide)

/-- **A greeting is read** by every other bus, and makes the reader ready. -/
theorem read_greeting_append {f : Format} (hf : f ∈ readable) {started now : Nat} {s : Server}
    {greeting : Bytes} (h : (Encoder.fresh f started).greeting s now = .ok greeting)
    (hne : greeting ≠ []) {own : Uuid} (hs : own ≠ s.id) (q : Packet) (l : Link) (rest : Bytes) :
    f.read own (greeting ++ rest) q l =
      .ok (some ⟨.control, q, { l with header := some (.ofServer s) },
        greeting.length + (f.tail rest).length⟩) := by
  have haccept := Link.acceptHeader_ofServer hs l
  cases f with
  | json =>
    cases h
    have hdecoded : Wire.Json.decoded (Wire.Json.spelled (.header (.ofServer s))) =
        .ok (.header (.ofServer s)) := rfl
    simp only [read, Wire.Json.read?_write_append, hdecoded, tail, if_true]
    show accepted own (.header (.ofServer s)) q l _ = _
    simp only [accepted, Link.accept, haccept]
    rfl
  | proto =>
    have hlevel : Wire.Proto.LevelFits (.header (.ofServer s)) := fun r hr => by cases hr
    have hread := Wire.Proto.read?_write_append hlevel h rest
    simp only [read, hread, tail]
    simp only [accepted, Link.accept, haccept]
    rfl
  | stats => exact absurd hf (by decide)
  | _ => cases h; exact absurd rfl hne

/-- In json and proto, there is a greeting. -/
theorem greeting_ne_nil {f : Format} (hf : f = json ∨ f = proto) {started now : Nat} {s : Server}
    {greeting : Bytes} (h : (Encoder.fresh f started).greeting s now = .ok greeting) :
    greeting ≠ [] := by
  rintro rfl
  rcases hf with rfl | rfl
  · cases h
  · simp only [Encoder.greeting, Encoder.fresh, Wire.Proto.write] at h
    split at h
    · have hlen := congrArg List.length (Except.ok.inj h)
      rw [List.length_append, Bytes.length_bigEndian] at hlen
      simp [Wire.Proto.lengthBytes] at hlen
    · cases h

/-- Only json and proto need a greeting. -/
theorem ready_of_greeting_nil {f : Format} {started now : Nat} {s : Server}
    (h : (Encoder.fresh f started).greeting s now = .ok []) (l : Link) : f.Ready l :=
  fun hf => absurd rfl (greeting_ne_nil hf h)

/-! ## The bytes of a message -/

/-- The bytes of a message: there are some, and in json they are an object and a line end. -/
def IsMessage (f : Format) (m : Bytes) : Prop :=
  m ≠ [] ∧ (f = json → ∃ front, m = 0x7B :: front ++ [0x7D, 0x0A])

theorem isMessage_json_write (m : Message Bytes) : json.IsMessage (Wire.Json.write m) := by
  rw [Wire.Json.write_eq]
  exact ⟨List.cons_ne_nil _ _, fun _ => ⟨_, rfl⟩⟩

theorem isMessage_frameBytes {f : Format} (hf : f ∈ readable) (p : Packet) :
    f.IsMessage (Encoder.frameBytes f p) := by
  cases f with
  | json => exact isMessage_json_write (.packet (.ofPacket p))
  | proto =>
    refine ⟨List.length_pos_iff.1 ?_, fun h => by cases h⟩
    rw [Encoder.frameBytes, List.length_append, Bytes.length_bigEndian]
    exact Nat.lt_add_right _ (by decide)
  | stats => exact absurd hf (by decide)
  | _ => exact ⟨List.cons_ne_nil _ _, fun h => by cases h⟩

theorem isMessage_greeting {f : Format} {started now : Nat} {s : Server} {greeting : Bytes}
    (h : (Encoder.fresh f started).greeting s now = .ok greeting) (hne : greeting ≠ []) :
    f.IsMessage greeting := by
  refine ⟨hne, fun hf => ?_⟩
  subst hf
  cases h
  exact (isMessage_json_write _).2 rfl

/-- No message begins with line ends. -/
theorem tail_append_of_isMessage {f : Format} {m : Bytes} (h : f.IsMessage m) (rest : Bytes) :
    f.tail (m ++ rest) = [] := by
  by_cases hf : f = json
  · obtain ⟨front, rfl⟩ := h.2 hf
    rw [tail, if_pos hf]
    rfl
  · rw [tail, if_neg hf]

end Format

/-! ## The length of a message -/

namespace Wire.Json

open Squitter.Json

theorem length_intercalate_le (c : UInt8) (members : List Bytes) :
    (List.intercalate [c] members).length ≤ members.flatten.length + members.length := by
  induction members with
  | nil => exact Nat.le_refl 0
  | cons m members ih =>
    cases members with
    | nil => simp [List.intercalate]
    | cons m' members =>
      have hsplit : List.intercalate [c] (m :: m' :: members) =
          m ++ c :: List.intercalate [c] (m' :: members) := by
        simp [List.intercalate]
      rw [hsplit, List.length_append, List.length_cons, List.flatten_cons, List.length_append,
        List.length_cons]
      omega

theorem length_numberUnlessZero_le (key : String) {n : Nat} (h : n < UInt64.size) :
    (numberUnlessZero key n).flatten.length + (numberUnlessZero key n).length ≤
      (quote key).length + 22 := by
  by_cases hn : n = 0
  · simp [numberUnlessZero, hn]
  · have hdigits := Decimal.length_digits_le (n := n) (k := 20) (by decide)
      (Nat.lt_trans h (by decide))
    simp only [numberUnlessZero, if_neg hn, number, member, List.flatten_cons, List.flatten_nil,
      List.length_append, List.length_cons, List.length_nil]
    omega

theorem length_write_packet_lt {r : Report Bytes} (h : r.payload.length ≤ 14) :
    (write (.packet r)).length < 512 := by
  have hkind : (quote r.kind.name).length ≤ 14 := by cases r.kind <;> decide
  have hsource : (quote r.source.text).length = 38 := by
    rw [Uuid.text, quote_latin (Uuid.plain_of_mem_ascii r.source)]
    simp [Uuid.length_ascii]
  have hmembers := length_intercalate_le 0x2C (reportMembers r)
  have hmlat := length_numberUnlessZero_le "mlat_timestamp" r.mlat.toNat_lt
  have hrssi := length_numberUnlessZero_le "rssi" r.rssi.toNat_lt
  have hhops := length_numberUnlessZero_le "hops" (Nat.lt_trans r.hops.toNat_lt (by decide))
  have hkeys : (quote "type").length = 6 ∧ (quote "source_id").length = 11 ∧
      (quote "payload").length = 9 ∧ (quote "mlat_timestamp").length = 16 ∧
      (quote "rssi").length = 6 ∧ (quote "hops").length = 6 := by
    decide
  obtain ⟨h₁, h₂, h₃, h₄, h₅, h₆⟩ := hkeys
  rw [reportMembers] at hmembers
  simp only [List.flatten_append, List.flatten_cons, List.flatten_nil, member, List.length_append,
    List.length_cons, List.length_nil, Hex.length_encode] at hmembers
  simp only [write, line, reportMembers, member, List.length_append, List.length_cons,
    List.length_nil]
  omega

end Wire.Json

/-- The message for a packet takes up less than half of a buffer. -/
theorem Encoder.length_frameBytes_lt (f : Format) (p : Packet) :
    (frameBytes f p).length < 512 := by
  have hkind := p.kind.payloadLength_le
  have hcontent := p.length_content
  cases f with
  | airspy =>
    simp [frameBytes, Wire.Airspy.write]
    omega
  | beast =>
    have hbody := Wire.Beast.length_double_le
      (Bytes.bigEndian 6 (Mlat.narrow p.mlat Wire.Beast.width Wire.Beast.mhz).toNat ++
        Wire.Beast.levelByte p.rssi :: p.content)
    simp only [List.length_append, List.length_cons, Bytes.length_bigEndian, hcontent] at hbody
    simp only [frameBytes, Wire.Beast.write, List.length_cons]
    omega
  | json => exact Wire.Json.length_write_packet_lt (r := .ofPacket p) (hcontent ▸ hkind)
  | proto =>
    have hbody := Wire.Proto.length_writeBody_packet (.ofPacket p)
    have hpayload : (Report.ofPacket p).payload.length = p.kind.payloadLength := hcontent
    rw [frameBytes, List.length_append, Bytes.length_bigEndian, Wire.Proto.lengthBytes]
    omega
  | raw =>
    simp [frameBytes, Wire.Raw.write]
    omega
  | stats => exact Nat.zero_lt_succ _

theorem Encoder.length_lt_of_mem_messages {f : Format} {packets : List Packet} {m : Bytes}
    (hm : m ∈ packets.map (frameBytes f)) : m.length < Buffer.usualCapacity := by
  obtain ⟨p, -, rfl⟩ := List.mem_map.1 hm
  exact Nat.lt_trans (length_frameBytes_lt f p) (by decide)

end Squitter
