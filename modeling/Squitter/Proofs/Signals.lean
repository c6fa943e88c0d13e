import Squitter.Proofs.Clocks.Samples
import Squitter.Proofs.Grammar.Lines
import Squitter.Proofs.Levels

/-!
# Signal levels in a run

A message tells the **strength** of its signal (`Format.strength?`): a level on the scale of its
format, or of the header in force, or a mark that it was not measured. Levels are brought onto the
bus's scale by a multiplication of 32 bits, which would start over beyond `0xFFFFFFFF`.

**Levels are on their scales** (`Format.strength?_of_frame`). In airspy_adsb and beast the fields
have just the digits that their ceilings need, and in json and proto a report is refused if it is
above the ceiling that was announced. That one is not zero, and a number that 32 bits cannot hold is
announced as zero (`Wire.Json.natural?_of_announcement?`).

**The result** (`Inlet.signals_exact`). Whatever is read in a run, the multiplication is exact;
zero comes from zero or the mark, and from nothing else; and of two levels under one header, the
stronger stays the stronger.
-/

namespace Squitter

open Decoder

/-! ## Strengths -/

/-- What a message tells of the strength of its signal. -/
structure Strength where
  /-- The strongest level of the scale. -/
  ceiling : UInt32
  level : UInt64
  /-- The level is the mark for one that was not measured. -/
  unmeasured : Bool
deriving DecidableEq

namespace Strength

/-- The level is one of the scale. -/
structure OnScale (s : Strength) : Prop where
  pos : 0 < s.ceiling.toNat
  le : s.level.toNat ≤ s.ceiling.toNat

/-- The level on the bus's scale. -/
def received (s : Strength) : UInt32 :=
  if s.unmeasured then 0 else Rssi.widen s.level.toUInt32 s.ceiling

/-- The number of levels of the bus's scale, without bound. -/
def exact (s : Strength) : Nat := s.level.toNat * (Rssi.factor s.ceiling).toNat

variable {s s' : Strength}

theorem OnScale.toNat_widen (h : s.OnScale) :
    (Rssi.widen s.level.toUInt32 s.ceiling).toNat = s.exact := by
  have hlt := s.ceiling.toNat_lt
  have hle := h.le
  have hlevel : s.level.toUInt32.toNat = s.level.toNat := by
    rw [UInt64.toNat_toUInt32]
    exact Nat.mod_eq_of_lt (by omega)
  rw [Rssi.toNat_widen (UInt32.le_iff_toNat_le.2 (hlevel ▸ hle)), hlevel, exact]

/-- **The multiplication does not start over.** -/
theorem OnScale.exact_le (h : s.OnScale) : s.exact ≤ 0xFFFFFFFF := by
  rw [← h.toNat_widen]
  exact Nat.le_of_lt_succ (UInt32.toNat_lt _)

theorem OnScale.toNat_received (h : s.OnScale) (hmeasured : s.unmeasured = false) :
    s.received.toNat = s.exact := by
  rw [received, hmeasured, if_neg Bool.false_ne_true, h.toNat_widen]

/-- **What becomes zero.** -/
theorem OnScale.received_eq_zero_iff (h : s.OnScale) :
    s.received = 0 ↔ s.level = 0 ∨ s.unmeasured = true := by
  cases hmark : s.unmeasured with
  | true => exact iff_of_true (by rw [received, hmark, if_pos rfl]) (.inr rfl)
  | false =>
    rw [← UInt32.toNat_inj, h.toNat_received hmark, ← UInt64.toNat_inj, exact]
    show _ = 0 ↔ s.level.toNat = 0 ∨ _
    have hpos := Rssi.factor_pos s.ceiling
    rw [Nat.mul_eq_zero]
    constructor
    · rintro (hlevel | hfactor)
      · exact .inl hlevel
      · omega
    · rintro (hlevel | hmark')
      · exact .inl hlevel
      · cases hmark'

/-- **The stronger stays the stronger** on one scale. -/
theorem OnScale.received_lt_iff (h : s.OnScale) (h' : s'.OnScale)
    (hceiling : s.ceiling = s'.ceiling)
    (hmeasured : s.unmeasured = false) (hmeasured' : s'.unmeasured = false) :
    s.received < s'.received ↔ s.level < s'.level := by
  rw [UInt32.lt_iff_toNat_lt, UInt64.lt_iff_toNat_lt, h.toNat_received hmeasured,
    h'.toNat_received hmeasured', exact, exact, hceiling]
  exact Nat.mul_lt_mul_right (Rssi.factor_pos s'.ceiling)

end Strength

/-! ## What messages tell -/

namespace Wire

/-- **The level that a line tells** is the number that its digits write. -/
theorem Airspy.exists_strength {data : Bytes} {line : Airspy.Line} {used : Nat}
    (h : Airspy.read? data = some (line, used)) :
    ∃ (s : Airspy.Spelling) (rest : Bytes),
      data = s.text ++ rest ∧ line.level.toNat = Hex.value s.strength ∧
        line.level ≤ Airspy.ceiling := by
  obtain ⟨s, rest, rfl⟩ := Airspy.leads_of_read? h
  change Airspy.Spelling at s
  change Airspy.read? (s.text ++ rest) = _ at h
  rw [s.read?_text_append] at h
  cases h
  exact ⟨s, rest, rfl, s.toNat_level, s.level_le⟩

/-- The level that a level field stands for. -/
theorem Airspy.widen_eq (level : UInt32) :
    Rssi.widen level Airspy.ceiling =
      Strength.received ⟨Airspy.ceiling, level.toUInt64, false⟩ := by
  rw [Strength.received, if_neg Bool.false_ne_true, UInt32.toUInt32_toUInt64]

/-- The level that a level byte stands for. -/
theorem Beast.levelOf_eq (b : UInt8) :
    Beast.levelOf b = Strength.received ⟨Beast.ceiling, b.toUInt64, b = Beast.unmeasured⟩ := by
  simp only [Beast.levelOf, Strength.received, decide_eq_true_eq, UInt8.toUInt32_toUInt64]

/-- A number that 32 bits cannot hold is not accepted as another one. -/
theorem Json.toNat_clip32 {n : UInt64} (h : Json.clip32 n ≠ 0) :
    (Json.clip32 n).toNat = n.toNat := by
  unfold Json.clip32 at h ⊢
  split at h
  · rename_i hle
    rw [if_pos hle, UInt64.toNat_toUInt32]
    exact Nat.mod_eq_of_lt (Nat.lt_succ_of_le (UInt64.le_iff_toNat_le.1 hle))
  · exact absurd rfl h

/-- **The ceiling that is announced** is the one that is written. -/
theorem Json.natural?_of_announcement? {fields : Json.Fields} {a : Announcement}
    (h : Json.announcement? fields = some a) (hceiling : a.ceiling ≠ 0) :
    ∃ n, fields.natural? 5 "rssi_max" = some n ∧ n.toNat = a.ceiling.toNat := by
  unfold Json.announcement? at h
  split at h
  · simp only [Option.bind_eq_bind, Option.bind_eq_some_iff] at h
    obtain ⟨_, -, _, -, _, -, _, -, _, -, n, hn, h⟩ := h
    cases h
    exact ⟨n, hn, (Json.toNat_clip32 hceiling).symm⟩
  · cases h

end Wire

namespace Format

/-- The strength in a report under a header. -/
def reportedStrength? {π : Type} (found : Option (Message π × Nat)) (header : Option RemoteHeader) :
    Option Strength :=
  match found, header with
  | some (.packet r, _), some h => some ⟨h.ceiling, r.rssi, false⟩
  | _, _ => none

/-- The strength that the message at the front of a string tells, if it tells any. -/
def strength? (f : Format) (data : Bytes) (header : Option RemoteHeader) : Option Strength :=
  match f with
  | airspy => (Wire.Airspy.read? data).map fun (line, _) =>
      ⟨Wire.Airspy.ceiling, line.level.toUInt64, false⟩
  | beast => (Wire.Beast.read? data).map fun (contents, _) =>
      ⟨Wire.Beast.ceiling, contents.level.toUInt64, contents.level = Wire.Beast.unmeasured⟩
  | json => reportedStrength? (Wire.Json.read? data) header
  | proto => reportedStrength? (Wire.Proto.read? data) header
  | raw => none
  | stats => none

variable {f : Format} {own : Uuid} {data data' : Bytes} {p : Packet} {l : Link} {r : Reading}
  {header : Option RemoteHeader} {s s' : Strength}

theorem of_reportedStrength?_eq_some {π : Type} {found : Option (Message π × Nat)}
    (h : reportedStrength? found header = some s) :
    ∃ announced, header = some announced ∧ s.ceiling = announced.ceiling := by
  unfold reportedStrength? at h
  split at h
  · cases h
    exact ⟨_, rfl, rfl⟩
  · cases h

/-- A format has one scale, or one under each header. -/
theorem ceiling_eq_of_strength? (h : f.strength? data header = some s)
    (h' : f.strength? data' header = some s') : s.ceiling = s'.ceiling := by
  have hreported {π : Type} {found found' : Option (Message π × Nat)}
      (h : reportedStrength? found header = some s)
      (h' : reportedStrength? found' header = some s') :
      s.ceiling = s'.ceiling := by
    obtain ⟨announced, hheader, hceiling⟩ := of_reportedStrength?_eq_some h
    obtain ⟨announced', hheader', hceiling'⟩ := of_reportedStrength?_eq_some h'
    rw [hceiling, hceiling', Option.some.inj (hheader.symm.trans hheader')]
  cases f with
  | airspy =>
    obtain ⟨_, -, rfl⟩ := Option.map_eq_some_iff.1 h
    obtain ⟨_, -, rfl⟩ := Option.map_eq_some_iff.1 h'
    rfl
  | beast =>
    obtain ⟨_, -, rfl⟩ := Option.map_eq_some_iff.1 h
    obtain ⟨_, -, rfl⟩ := Option.map_eq_some_iff.1 h'
    rfl
  | json => exact hreported h h'
  | proto => exact hreported h h'
  | raw => cases h
  | stats => cases h

/-- A report that is accepted is within the scale of the header in force,
and its level is widened. -/
theorem rssi_of_accepted {m : Message Bytes} {used : Nat}
    (h : accepted own m p l used = .ok (some r)) (hevent : r.event = .frame) :
    ∃ report header, m = .packet report ∧ l.header = some header ∧
      report.rssi.toNat ≤ header.ceiling.toNat ∧
      r.packet.rssi = Rssi.widen report.rssi.toUInt32 header.ceiling := by
  obtain ⟨report, header, rfl, hheader, -⟩ := frame_of_accepted h hevent
  refine ⟨report, header, rfl, hheader, ?_⟩
  simp only [accepted, Link.accept, Link.acceptReport, hheader] at h
  split at h
  · cases h
  · split at h
    · cases h
    · rename_i hlevel
      cases h
      exact ⟨UInt64.le_iff_toNat_le.1 (UInt64.not_lt.1 hlevel), rfl⟩

/-- A packet in json comes from a report, of which only the payload is still to be read. -/
theorem exists_report_of_json (h : json.read own data p l = .ok (some r))
    (hevent : r.event = .frame) :
    ∃ text used report, Wire.Json.read? data = some (.packet text, used) ∧ report.rssi = text.rssi ∧
      accepted own (.packet report) p l used = .ok (some r) := by
  simp only [read] at h
  split at h
  · cases h
  · rename_i m used hm
    cases m with
    | header a =>
      obtain ⟨report, header, hpacket, -⟩ := frame_of_accepted h hevent
      cases hpacket
    | packet text =>
      cases hpayload : Wire.Json.payload text with
      | error e =>
        simp only [Wire.Json.decoded, hpayload] at h
        cases h
      | ok report =>
        simp only [Wire.Json.decoded, hpayload] at h
        refine ⟨text, used, report, hm, ?_, h⟩
        unfold Wire.Json.payload at hpayload
        split at hpayload
        · cases hpayload
          rfl
        · cases hpayload

/-- **What the level of a packet is**: that of its message, widened, and one of its scale.
Messages in raw tell none. -/
theorem strength?_of_frame (h : f.read own data p l = .ok (some r)) (hevent : r.event = .frame)
    (hheader : ∀ h, l.header = some h → h.ceiling ≠ 0) :
    f = raw ∨ ∃ s, f.strength? data l.header = some s ∧ s.OnScale ∧ r.packet.rssi = s.received := by
  have hpos {h : RemoteHeader} (hl : l.header = some h) : 0 < h.ceiling.toNat :=
    UInt32.pos_iff_ne_zero.2 (hheader h hl)
  cases f with
  | airspy =>
    simp only [read, Option.bind_eq_bind, Except.ok.injEq, Option.bind_eq_some_iff] at h
    obtain ⟨⟨line, used⟩, hline, h⟩ := h
    cases h
    obtain ⟨-, -, -, -, hle⟩ := Wire.Airspy.exists_strength hline
    have hpos : 0 < Wire.Airspy.ceiling.toNat := by decide
    exact .inr ⟨⟨Wire.Airspy.ceiling, line.level.toUInt64, false⟩, congrArg (Option.map _) hline,
      ⟨hpos, UInt32.le_iff_toNat_le.1 hle⟩, Wire.Airspy.widen_eq line.level⟩
  | beast =>
    simp only [read, Option.bind_eq_bind, Except.ok.injEq, Option.bind_eq_some_iff] at h
    obtain ⟨⟨contents, used⟩, hcontents, h⟩ := h
    cases h
    have hpos : 0 < Wire.Beast.ceiling.toNat := by decide
    exact .inr ⟨⟨Wire.Beast.ceiling, contents.level.toUInt64,
      contents.level = Wire.Beast.unmeasured⟩,
      congrArg (Option.map _) hcontents, ⟨hpos, Nat.le_of_lt_succ contents.level.toNat_lt⟩,
      Wire.Beast.levelOf_eq contents.level⟩
  | json =>
    obtain ⟨text, used, report, hm, hrssi, h⟩ := exists_report_of_json h hevent
    obtain ⟨_, header, hpacket, hl, hle, hlevel⟩ := rssi_of_accepted h hevent
    cases hpacket
    refine .inr ⟨⟨header.ceiling, text.rssi, false⟩, ?_, ⟨hpos hl, hrssi ▸ hle⟩, hrssi ▸ hlevel⟩
    rw [strength?, hm, hl]
    rfl
  | proto =>
    simp only [read] at h
    split at h
    · cases h
    · rename_i m used hm
      obtain ⟨report, header, rfl, hl, hle, hlevel⟩ := rssi_of_accepted h hevent
      refine .inr ⟨⟨header.ceiling, report.rssi, false⟩, ?_, ⟨hpos hl, hle⟩, hlevel⟩
      rw [strength?, hm, hl]
      rfl
  | raw => exact .inl rfl
  | stats => cases h

end Format

/-! ## Runs -/

/-- A packet that a call has read, with all that its level is from. -/
structure Heard where
  format : Option Format
  /-- What was in the buffer. -/
  data : Bytes
  /-- The header in force. -/
  header : Option RemoteHeader
  packet : Packet
deriving DecidableEq

/-- The strength that the message of a packet tells. -/
def Heard.strength? (m : Heard) : Option Strength :=
  m.format.bind fun f => f.strength? m.data m.header

namespace Inlet

variable (own : Uuid)

/-- The packet that a call reads, if it reads one. -/
def heard? (i : Inlet) (p : Packet) : Option Heard :=
  match (i.call own p).result with
  | .ok (some .frame) => some
      ⟨(i.call own p).decoder.format, i.buffer.data, i.decoder.link.header, (i.call own p).packet⟩
  | _ => none

/-- The packets that the calls among the acts read. -/
def heard (i : Inlet) : List Act → List Heard
  | [] => []
  | .fill available :: acts => (i.act own (.fill available)).heard acts
  | .decode p :: acts => (i.heard? own p).toList ++ (i.act own (.decode p)).heard acts

variable {own} {i : Inlet} {p : Packet} {m m' : Heard} {acts : List Act} {f : Format}

/-- A packet that a call reads is in a format, which is pinned then. -/
theorem exists_read_of_heard? (h : i.heard? own p = some m) :
    ∃ f r, f.read own i.buffer.data p i.decoder.link = .ok (some r) ∧ r.event = .frame ∧
      m = ⟨some f, i.buffer.data, i.decoder.link.header, r.packet⟩ ∧
      (i.act own (.decode p)).decoder.format = some f := by
  rcases decode_cases i.decoder own i.buffer p with
    ⟨-, hd⟩ | ⟨f, -, e, -, hd⟩ | ⟨f, hf, r, hread, hd⟩
  · simp only [heard?, call, hd] at h
    cases h
  · simp only [heard?, call, hd] at h
    cases h
  · cases hevent : r.event with
    | control =>
      simp only [heard?, call, hd, hevent] at h
      cases h
    | frame =>
      simp only [heard?, call, hd, hevent] at h
      cases h
      refine ⟨f, r, hread, hevent, rfl, ?_⟩
      rw [Inlet.act, call, hd]

/-- A packet of a run is what some call of the run reads. -/
theorem exists_of_mem_heard (hm : m ∈ i.heard own acts) :
    ∃ before p after, acts = before ++ .decode p :: after ∧
      (i.run own before).heard? own p = some m := by
  induction acts generalizing i with
  | nil => cases hm
  | cons act acts ih =>
    have hlater (hm : m ∈ (i.act own act).heard own acts) :
        ∃ before p after, act :: acts = before ++ .decode p :: after ∧
          (i.run own before).heard? own p = some m := by
      obtain ⟨before, p, after, rfl, hheard⟩ := ih hm
      exact ⟨act :: before, p, after, rfl, hheard⟩
    cases act with
    | fill available => exact hlater hm
    | decode p =>
      rcases List.mem_append.1 hm with hnow | hm
      · exact ⟨[], p, acts, rfl, Option.mem_toList.1 hnow⟩
      · exact hlater hm

/-! ## One format -/

theorem format_of_mem_heard (hf : i.decoder.format = some f) (hm : m ∈ i.heard own acts) :
    m.format = some f := by
  obtain ⟨before, p, after, -, hheard⟩ := exists_of_mem_heard hm
  obtain ⟨g, r, -, -, rfl, hformat⟩ := exists_read_of_heard? hheard
  rw [format_act (format_run hf before) (.decode p)] at hformat
  exact hformat.symm

/-- All packets of a run are in one format. -/
theorem format_eq_of_mem_heard (hm : m ∈ i.heard own acts) (hm' : m' ∈ i.heard own acts) :
    m.format = m'.format := by
  induction acts generalizing i with
  | nil => cases hm
  | cons act acts ih =>
    cases act with
    | fill available => exact ih hm hm'
    | decode p =>
      cases hheard : i.heard? own p with
      | none =>
        rw [heard, hheard] at hm hm'
        exact ih hm hm'
      | some first =>
        -- the first packet pins its format, and all that come after it are read in that one
        obtain ⟨f, r, -, -, rfl, hformat⟩ := exists_read_of_heard? hheard
        have hall {m : Heard} (hm : m ∈ i.heard own (.decode p :: acts)) : m.format = some f := by
          rw [heard, hheard] at hm
          rcases List.mem_cons.1 hm with rfl | hm
          · rfl
          · exact format_of_mem_heard hformat hm
        rw [hall hm, hall hm']

/-! ## The levels of a run -/

/-- **The level of every packet** that is not in raw comes from its message. -/
theorem exists_strength_of_mem_heard (hi : i.Guarded own) (hm : m ∈ i.heard own acts) :
    m.format = some .raw ∨ ∃ s, m.strength? = some s ∧ s.OnScale ∧ m.packet.rssi = s.received := by
  obtain ⟨before, p, after, -, hheard⟩ := exists_of_mem_heard hm
  obtain ⟨f, r, hread, hevent, rfl, -⟩ := exists_read_of_heard? hheard
  have hceiling (h : RemoteHeader) (hheader : (i.run own before).decoder.link.header = some h) :
      h.ceiling ≠ 0 := (hi.run before h hheader).2.2.2.1
  exact (Format.strength?_of_frame hread hevent hceiling).imp (congrArg some) id

theorem strength_of_mem_heard {s : Strength} (hi : i.Guarded own) (hm : m ∈ i.heard own acts)
    (hs : m.strength? = some s) : s.OnScale ∧ m.packet.rssi = s.received := by
  rcases exists_strength_of_mem_heard hi hm with hraw | ⟨s', hs', hstrength⟩
  · rw [Heard.strength?, hraw] at hs
    cases hs
  · rw [hs] at hs'
    obtain rfl := Option.some.inj hs'
    exact hstrength

/-- Under one header, all levels of a run are on one scale. -/
theorem ceiling_eq_of_mem_heard {s s' : Strength} (hm : m ∈ i.heard own acts)
    (hm' : m' ∈ i.heard own acts)
    (hheader : m.header = m'.header) (hs : m.strength? = some s) (hs' : m'.strength? = some s') :
    s.ceiling = s'.ceiling := by
  obtain ⟨f, hf, hs⟩ := Option.bind_eq_some_iff.1 hs
  obtain ⟨f', hf', hs'⟩ := Option.bind_eq_some_iff.1 hs'
  have heq := format_eq_of_mem_heard hm hm'
  rw [hf, hf'] at heq
  obtain rfl := Option.some.inj heq
  exact Format.ceiling_eq_of_strength? hs (hheader ▸ hs')

/-- **Levels are exact.** In every run, whatever is filled in and decoded, the message of each
packet that is not in raw tells a strength. It is brought onto the bus's scale without
starting over; it becomes zero exactly if it is zero, or marked as not measured; and of two
that are measured, under one header, the stronger one becomes the greater. The level of a line
and the ceiling of a header are the numbers that are written there, and on every scale
narrowing finds each level again. -/
theorem signals_exact (own : Uuid) (capacity : Nat) (acts : List Act) :
    let packets := (fresh capacity).heard own acts
    (∀ m ∈ packets, m.format ≠ some .raw → m.strength?.isSome) ∧
    (∀ m ∈ packets, ∀ s, m.strength? = some s →
      s.level.toNat * (Rssi.factor s.ceiling).toNat ≤ 0xFFFFFFFF ∧
      (s.unmeasured = false →
        m.packet.rssi.toNat = s.level.toNat * (Rssi.factor s.ceiling).toNat) ∧
      (m.packet.rssi = 0 ↔ s.level = 0 ∨ s.unmeasured = true)) ∧
    (∀ m ∈ packets, ∀ m' ∈ packets, m.header = m'.header → ∀ s s', m.strength? = some s →
      m'.strength? = some s' → s.unmeasured = false → s'.unmeasured = false →
      (s.level < s'.level ↔ m.packet.rssi < m'.packet.rssi)) ∧
    (∀ data line used, Wire.Airspy.read? data = some (line, used) →
      ∃ (s : Wire.Airspy.Spelling) (rest : Bytes),
        data = s.text ++ rest ∧ line.level.toNat = Hex.value s.strength) ∧
    (∀ fields a, Wire.Json.announcement? fields = some a → a.Usable →
      ∃ n, fields.natural? 5 "rssi_max" = some n ∧ n.toNat = a.ceiling.toNat) ∧
    ∀ ceiling level : UInt32, 1 ≤ ceiling → level ≤ ceiling →
      Rssi.narrow (Rssi.widen level ceiling) ceiling = level := by
  intro packets
  have hguarded : (fresh capacity).Guarded own := .fresh capacity
  refine ⟨?_, ?_, ?_, ?_, ?_, fun _ _ _ => Rssi.narrow_widen⟩
  · intro m hm hraw
    obtain ⟨s, hs, -⟩ := (exists_strength_of_mem_heard hguarded hm).resolve_left hraw
    exact Option.isSome_iff_exists.2 ⟨s, hs⟩
  · intro m hm s hs
    obtain ⟨hscale, hrssi⟩ := strength_of_mem_heard hguarded hm hs
    rw [hrssi]
    exact ⟨hscale.exact_le, hscale.toNat_received, hscale.received_eq_zero_iff⟩
  · intro m hm m' hm' hheader s s' hs hs' hmeasured hmeasured'
    obtain ⟨hscale, hrssi⟩ := strength_of_mem_heard hguarded hm hs
    obtain ⟨hscale', hrssi'⟩ := strength_of_mem_heard hguarded hm' hs'
    have hceiling := ceiling_eq_of_mem_heard hm hm' hheader hs hs'
    rw [hrssi, hrssi']
    exact (hscale.received_lt_iff hscale' hceiling hmeasured hmeasured').symm
  · intro data line used hline
    obtain ⟨s, rest, htext, hlevel, -⟩ := Wire.Airspy.exists_strength hline
    exact ⟨s, rest, htext, hlevel⟩
  · intro fields a ha husable
    exact Wire.Json.natural?_of_announcement? ha husable.2.2.2

/-- Two levels of ten; and in beast, the mark and the faintest level there is. -/
theorem signals_exact_two_streams :
    let announcement : Announcement := ⟨magic, "1", ⟨Vector.replicate 16 1⟩, 120, 1000, 10⟩
    let report (rssi : UInt64) : Message Bytes := .packet ⟨.modeAC, .nil, [1, 2], 0, rssi, 0⟩
    let json := Wire.Json.write (.header announcement) ++ Wire.Json.write (report 3) ++
      Wire.Json.write (report 10)
    let beast : Bytes :=
      [0x1A, 0x31, 0, 0, 0, 0, 0, 1, 0xFF, 1, 2, 0x1A, 0x31, 0, 0, 0, 0, 0, 2, 1, 1, 2]
    let calls := List.replicate 3 (Act.decode (.blank .nil))
    (∃ m m', (fresh 1024).heard .nil (.fill json :: calls) = [m, m'] ∧
      m.packet.rssi.toNat = 3 * (Rssi.factor 10).toNat ∧ m.packet.rssi < m'.packet.rssi) ∧
    ∃ m m', (fresh 1024).heard .nil (.fill beast :: calls) = [m, m'] ∧
      m.packet.rssi = 0 ∧ m'.packet.rssi ≠ 0 := by
  intro announcement report json beast calls
  obtain ⟨-, hexact, hstronger, -⟩ := signals_exact .nil 1024 (.fill json :: calls)
  obtain ⟨-, hzero, -⟩ := signals_exact .nil 1024 (.fill beast :: calls)
  constructor
  · have hheard :
        ((fresh 1024).heard .nil (.fill json :: calls)).map (fun m => (m.header, m.strength?)) =
        [(some ⟨⟨Vector.replicate 16 1⟩, "1", 120, 1000, 10⟩, some ⟨10, 3, false⟩),
          (some ⟨⟨Vector.replicate 16 1⟩, "1", 120, 1000, 10⟩, some ⟨10, 10, false⟩)] := by
      decide +kernel
    obtain ⟨m, ms, hm, hstrength, hms⟩ := List.map_eq_cons_iff.1 hheard
    obtain ⟨m', hm', hstrength'⟩ := List.map_eq_singleton_iff.1 hms
    rw [hm'] at hm
    rw [hm] at hexact hstronger ⊢
    obtain ⟨hheader, hs⟩ := Prod.mk.inj hstrength
    obtain ⟨hheader', hs'⟩ := Prod.mk.inj hstrength'
    refine ⟨m, m', rfl, (hexact m List.mem_cons_self _ hs).2.1 rfl, ?_⟩
    exact (hstronger m List.mem_cons_self m' (List.mem_cons_of_mem _ List.mem_cons_self)
      (hheader.trans hheader'.symm) _ _ hs hs' rfl rfl).1 (by decide)
  · have hheard : ((fresh 1024).heard .nil (.fill beast :: calls)).map Heard.strength? =
        [some ⟨0xFF, 0xFF, true⟩, some ⟨0xFF, 1, false⟩] := by decide +kernel
    obtain ⟨m, ms, hm, hs, hms⟩ := List.map_eq_cons_iff.1 hheard
    obtain ⟨m', hm', hs'⟩ := List.map_eq_singleton_iff.1 hms
    rw [hm'] at hm
    rw [hm] at hzero ⊢
    have hfaint := (hzero m' (List.mem_cons_of_mem _ List.mem_cons_self) _ hs').2.2
    refine ⟨m, m', rfl, (hzero m List.mem_cons_self _ hs).2.2.2 (.inr rfl), fun h => ?_⟩
    rcases hfaint.1 h with hlevel | hmark
    · exact absurd hlevel (by decide)
    · cases hmark

end Inlet
end Squitter
