import Squitter.Proofs.Clocks.Counters
import Squitter.Proofs.Clocks.Widening
import Squitter.Proofs.Handshake

/-!
# The readings in a run

A run of an inlet is any sequence of fills and calls. Some of the packets that its calls read come
with a **reading** of a counter of the sender, which dates them (`Inlet.Dated`). What the message
says of both is told by `Format.sample?`, from the bytes alone and the header in force.

**Packets are dated one after the other** (`Inlet.succession_dated`): a connection has one clock,
and nothing but the reading of a packet moves it. Only packets in raw are not dated
(`Inlet.exists_dated?_of_frame`). All others in a run are of one format
(`Inlet.exists_format_dated`), and of one counter if the run accepts one header at most and all
lines tell the same frequency (`Inlet.exists_counter_dated`). Where zero is no mark, which is in
airspy_adsb and beast, no reading is beyond the width of its counter (`Format.le_width_of_sample?`).
-/

namespace Squitter

open Decoder

/-! ## Samples -/

/-- The counter that a header announces. -/
def RemoteHeader.counter (h : RemoteHeader) : Mlat.Counter := ⟨h.width, h.mhz, true⟩

theorem RemoteHeader.receive_counter (h : RemoteHeader) (stamp : UInt64) (clock : Mlat.History) :
    h.counter.receive stamp clock = Link.stamp h stamp clock := by
  rw [Mlat.Counter.receive, Link.stamp]
  by_cases hstamp : stamp = 0
  · rw [if_pos hstamp, if_pos ⟨rfl, hstamp⟩]
  · rw [if_neg hstamp, if_neg (fun h => hstamp h.2)]
    rfl

namespace Format

/-- The counter and the reading of a report under a header. -/
def reported? {π : Type} (found : Option (Message π × Nat)) (header : Option RemoteHeader) :
    Option (Mlat.Counter × UInt64) :=
  match found, header with
  | some (.packet r, _), some h => some (h.counter, r.mlat)
  | _, _ => none

/-- The counter and the reading that the message at the front of a string tells, if it tells any. -/
def sample? (f : Format) (data : Bytes) (header : Option RemoteHeader) :
    Option (Mlat.Counter × UInt64) :=
  match f with
  | airspy => (Wire.Airspy.read? data).map fun (line, _) =>
      (⟨Wire.Airspy.width, line.mhz, false⟩, line.reading)
  | beast => (Wire.Beast.read? data).map fun (contents, _) =>
      (⟨Wire.Beast.width, Wire.Beast.mhz, false⟩, contents.reading)
  | json => reported? (Wire.Json.read? data) header
  | proto => reported? (Wire.Proto.read? data) header
  | raw => none
  | stats => none

variable {f : Format} {own : Uuid} {data : Bytes} {p : Packet} {l : Link} {r : Reading}
  {header : Option RemoteHeader} {c : Mlat.Counter} {reading : UInt64}

theorem frame_of_accepted {m : Message Bytes} {used : Nat}
    (h : accepted own m p l used = .ok (some r)) (hevent : r.event = .frame) :
    ∃ report header, m = .packet report ∧ l.header = some header ∧
      r.packet.mlat = (header.counter.receive report.mlat l.clock).1 ∧
      r.link = { l with clock := (header.counter.receive report.mlat l.clock).2 } := by
  cases m with
  | header a =>
    cases ha : l.acceptHeader own a with
    | error e =>
      simp only [accepted, Link.accept, ha] at h
      cases h
    | ok l' =>
      simp only [accepted, Link.accept, ha] at h
      cases h
      cases hevent
  | packet report =>
    cases hheader : l.header with
    | none =>
      simp only [accepted, Link.accept, Link.acceptReport, hheader] at h
      cases h
    | some header =>
      refine ⟨report, header, rfl, rfl, ?_⟩
      rw [RemoteHeader.receive_counter]
      simp only [accepted, Link.accept, Link.acceptReport, hheader] at h
      split at h
      · cases h
      · split at h
        · cases h
        · cases h
          exact ⟨rfl, rfl⟩

/-- **What dates a packet** is the reading in its message. Packets in raw have none. -/
theorem sample?_of_frame (h : f.read own data p l = .ok (some r)) (hevent : r.event = .frame) :
    (f = raw ∧ r.link = l) ∨
    ∃ c reading, f.sample? data l.header = some (c, reading) ∧
      r.packet.mlat = (c.receive reading l.clock).1 ∧
      r.link = { l with clock := (c.receive reading l.clock).2 } := by
  cases f with
  | airspy =>
    simp only [read, Option.bind_eq_bind, Except.ok.injEq, Option.bind_eq_some_iff] at h
    obtain ⟨⟨line, used⟩, hline, h⟩ := h
    cases h
    refine .inr ⟨_, _, congrArg (Option.map _) hline, ?_⟩
    rw [Mlat.Counter.receive_of_unmarked rfl]
    exact ⟨rfl, rfl⟩
  | beast =>
    simp only [read, Option.bind_eq_bind, Except.ok.injEq, Option.bind_eq_some_iff] at h
    obtain ⟨⟨contents, used⟩, hcontents, h⟩ := h
    cases h
    refine .inr ⟨_, _, congrArg (Option.map _) hcontents, ?_⟩
    rw [Mlat.Counter.receive_of_unmarked rfl]
    exact ⟨rfl, rfl⟩
  | json =>
    simp only [read] at h
    split at h
    · cases h
    · rename_i m used hm
      cases m with
      | header a =>
        obtain ⟨report, header, hpacket, -⟩ := frame_of_accepted h hevent
        cases hpacket
      | packet text =>
        cases hpayload : Wire.Json.payload text with
        | error e =>
          simp only [Wire.Json.decoded, hpayload] at h
          cases h
        | ok report =>
          have hmlat : report.mlat = text.mlat := by
            unfold Wire.Json.payload at hpayload
            split at hpayload
            · cases hpayload
              rfl
            · cases hpayload
          simp only [Wire.Json.decoded, hpayload] at h
          obtain ⟨report', header, hpacket, hheader, hdated⟩ := frame_of_accepted h hevent
          cases hpacket
          refine .inr ⟨header.counter, text.mlat, ?_, hmlat ▸ hdated⟩
          rw [sample?, hm, hheader]
          rfl
  | proto =>
    simp only [read] at h
    split at h
    · cases h
    · rename_i m used hm
      obtain ⟨report, header, rfl, hheader, hdated⟩ := frame_of_accepted h hevent
      refine .inr ⟨header.counter, report.mlat, ?_, hdated⟩
      rw [sample?, hm, hheader]
      rfl
  | raw =>
    simp only [read, Option.bind_eq_bind, Except.ok.injEq, Option.bind_eq_some_iff] at h
    obtain ⟨_, -, h⟩ := h
    cases h
    exact .inl ⟨rfl, rfl⟩
  | stats => cases h

/-! ## Counters of the formats -/

theorem sample?_airspy (h : airspy.sample? data header = some (c, reading)) :
    c.width = Wire.Airspy.width ∧ c.marks = false ∧ Mlat.validMHz c.mhz ∧
      reading.toNat < 2 ^ 32 := by
  obtain ⟨⟨line, used⟩, hline, hsample⟩ := Option.map_eq_some_iff.1 h
  cases hsample
  obtain ⟨kind, hkind⟩ := Wire.Airspy.read?_eq_some_iff.1 hline
  obtain ⟨hex, ticks, half, strength, rest, ending, mhz, level, payload, reading, -, -,
    hticks, -, -, -, -, hvalid, hreading, -, -, rfl, -⟩ := Wire.Airspy.readKind?_eq_some_iff.1 hkind
  have hlt := Hex.toNat_lt_of_toInt? hreading
  rw [hticks] at hlt
  exact ⟨rfl, rfl, hvalid, hlt⟩

theorem sample?_beast (h : beast.sample? data header = some (c, reading)) :
    c = ⟨Wire.Beast.width, Wire.Beast.mhz, false⟩ ∧ reading.toNat < 2 ^ 48 := by
  obtain ⟨⟨contents, used⟩, hcontents, hsample⟩ := Option.map_eq_some_iff.1 h
  cases hsample
  obtain ⟨type, rest, kind, body, used', -, -, -, rfl, -⟩ :=
    Wire.Beast.read?_eq_some_iff.1 hcontents
  refine ⟨rfl, ?_⟩
  have hlt := Bytes.ofBigEndian_lt (body.take 6)
  have hlen : 256 ^ (body.take 6).length ≤ 256 ^ 6 :=
    Nat.pow_le_pow_right (by decide) (List.length_take_le 6 body)
  show (UInt64.ofNat (Bytes.ofBigEndian (body.take 6))).toNat < 2 ^ 48
  rw [UInt64.toNat_ofNat']
  omega

theorem sample?_exact (hf : f = json ∨ f = proto) (h : f.sample? data header = some (c, reading)) :
    ∃ announced, header = some announced ∧ c = announced.counter := by
  have hreported {π : Type} {found : Option (Message π × Nat)}
      (h : reported? found header = some (c, reading)) :
      ∃ announced, header = some announced ∧ c = announced.counter := by
    unfold reported? at h
    split at h
    · cases h
      exact ⟨_, rfl, rfl⟩
    · cases h
  rcases hf with rfl | rfl
  · exact hreported h
  · exact hreported h

/-- **Where zero is no mark**, no reading is beyond the width of its counter. -/
theorem le_width_of_sample? (h : f.sample? data header = some (c, reading)) (hc : c.marks = false) :
    reading ≤ c.width := by
  cases f with
  | airspy =>
    obtain ⟨hwidth, -, -, hlt⟩ := sample?_airspy h
    rw [hwidth]
    exact UInt64.le_iff_toNat_le.2 (Nat.le_of_lt_succ hlt)
  | beast =>
    obtain ⟨rfl, hlt⟩ := sample?_beast h
    exact UInt64.le_iff_toNat_le.2 (Nat.le_of_lt_succ hlt)
  | json =>
    obtain ⟨announced, -, rfl⟩ := sample?_exact (.inl rfl) h
    cases hc
  | proto =>
    obtain ⟨announced, -, rfl⟩ := sample?_exact (.inr rfl) h
    cases hc
  | raw => cases h
  | stats => cases h

end Format

/-! ## Dated packets -/

namespace Inlet

/-- A packet that a call has read, with what it was dated by. -/
structure Dated where
  format : Format
  counter : Mlat.Counter
  reading : UInt64
  /-- The history of the connection before the packet. -/
  clock : Mlat.History
  packet : Packet

namespace Dated

/-- The timestamp by which the packet is dated, and the history afterwards. -/
def received (d : Dated) : UInt64 × Mlat.History := d.counter.receive d.reading d.clock

/-- The reading is not a mark for an unknown timestamp. -/
def Known (d : Dated) : Prop := ¬ (d.counter.marks ∧ d.reading = 0)

/-- The ticks of the counter are within the 64 bits of a timestamp. -/
def Fits (d : Dated) : Prop :=
  d.clock.ticks d.counter.width d.reading * (Mlat.factor d.counter.mhz).toNat < 2 ^ 64

instance (d : Dated) : Decidable d.Known := inferInstanceAs (Decidable (¬ _))

instance (d : Dated) : Decidable d.Fits := inferInstanceAs (Decidable (_ < _))

variable {d : Dated}

theorem received_of_known (hknown : d.Known) :
    d.received = Mlat.widen d.reading d.counter.width d.counter.mhz d.clock :=
  if_neg hknown

theorem received_of_not_known (hmark : ¬ d.Known) : d.received = (0, d.clock) :=
  if_pos (Decidable.not_not.1 hmark)

/-- A reading that fits is dated by its ticks, and the clock is then at these ticks. -/
theorem toNat_received (hknown : d.Known) (hfits : d.Fits) :
    d.received.1.toNat =
        d.clock.ticks d.counter.width d.reading * (Mlat.factor d.counter.mhz).toNat ∧
      d.received.2.generation.toNat + d.reading.toNat = d.clock.ticks d.counter.width d.reading ∧
      d.received.2.last = d.reading := by
  rw [received_of_known hknown]
  obtain ⟨htimestamp, hticks⟩ := Mlat.toNat_widen hfits
  exact ⟨htimestamp, hticks, rfl⟩

end Dated

variable (own : Uuid)

/-- The packet that a call reads, if it comes with a reading. -/
def dated? (i : Inlet) (p : Packet) : Option Dated :=
  match (i.call own p).result, (i.call own p).decoder.format with
  | .ok (some .frame), some f =>
    (f.sample? i.buffer.data i.decoder.link.header).map fun (counter, reading) =>
      ⟨f, counter, reading, i.decoder.link.clock, (i.call own p).packet⟩
  | _, _ => none

/-- The packets with readings that the calls among the acts read. -/
def dated (i : Inlet) : List Act → List Dated
  | [] => []
  | .fill available :: acts => (i.act own (.fill available)).dated acts
  | .decode p :: acts => (i.dated? own p).toList ++ (i.act own (.decode p)).dated acts

/-- A call has accepted an announcement. -/
def isControl (result : Except Error (Option Event)) : Bool :=
  match result with
  | .ok (some .control) => true
  | _ => false

/-- How many announcements the calls among the acts accept. -/
def controls (i : Inlet) (acts : List Act) : Nat := (i.results own acts).countP isControl

variable {own} {i : Inlet} {p : Packet} {d : Dated} {acts : List Act} {f : Format}

/-- A packet that was just read: it is of the pinned format, and dated by the
clock of the connection. -/
structure Yields (own : Uuid) (i : Inlet) (p : Packet) (d : Dated) : Prop where
  sample : d.format.sample? i.buffer.data i.decoder.link.header = some (d.counter, d.reading)
  clock : d.clock = i.decoder.link.clock
  mlat : d.packet.mlat = d.received.1
  format : (i.act own (.decode p)).decoder.format = some d.format
  link : (i.act own (.decode p)).decoder.link = { i.decoder.link with clock := d.received.2 }

/-- **What a call does** to the clock and the header: it reads a packet and moves the clock by its
reading, or it accepts an announcement, or it leaves both as they are. -/
theorem dated?_cases (own : Uuid) (i : Inlet) (p : Packet) :
    (∃ d, i.dated? own p = some d ∧ i.Yields own p d ∧ isControl (i.call own p).result = false) ∨
    (∃ h, i.dated? own p = none ∧ isControl (i.call own p).result = true ∧
      (i.act own (.decode p)).decoder.link = { i.decoder.link with header := some h }) ∨
    (i.dated? own p = none ∧ isControl (i.call own p).result = false ∧
      (i.act own (.decode p)).decoder.link = i.decoder.link) := by
  rcases decode_cases i.decoder own i.buffer p with
    ⟨-, hd⟩ | ⟨f, -, e, -, hd⟩ | ⟨f, hf, r, hread, hd⟩
  · refine .inr (.inr ⟨?_, ?_, ?_⟩)
    · simp only [dated?, call, hd]
    · rw [call, hd]
      rfl
    · rw [Inlet.act, call, hd]
  · refine .inr (.inr ⟨?_, ?_, ?_⟩)
    · simp only [dated?, call, hd]
    · rw [call, hd]
      rfl
    · rw [Inlet.act, call, hd]
  · cases hevent : r.event with
    | control =>
      rcases Format.admitted_of_read hread with ⟨-, -, a, ha⟩ | ⟨hframe, -⟩
      · obtain ⟨-, -, hlink⟩ := Link.of_acceptHeader_eq_ok ha
        refine .inr (.inl ⟨⟨a.server, a.version, a.mhz, a.width, a.ceiling⟩, ?_, ?_, ?_⟩)
        · simp only [dated?, call, hd, hevent]
        · rw [call, hd, hevent]
          rfl
        · rw [Inlet.act, call, hd]
          exact hlink
      · rw [hevent] at hframe
        cases hframe
    | frame =>
      have hnot : isControl (i.call own p).result = false := by
        rw [call, hd, hevent]
        rfl
      rcases Format.sample?_of_frame hread hevent with
        ⟨rfl, hlink⟩ | ⟨c, reading, hsample, hmlat, hlink⟩
      · refine .inr (.inr ⟨?_, hnot, ?_⟩)
        · simp only [dated?, call, hd, hevent, Format.sample?, Option.map_none]
        · rw [Inlet.act, call, hd]
          exact hlink
      · refine .inl ⟨⟨f, c, reading, i.decoder.link.clock, r.packet⟩, ?_, ?_, hnot⟩
        · simp only [dated?, call, hd, hevent, hsample, Option.map_some]
        · refine ⟨hsample, rfl, hmlat, ?_, ?_⟩
          · rw [Inlet.act, call, hd]
          · rw [Inlet.act, call, hd]
            exact hlink

/-- **No packet is missed**: all that are not in raw are dated. -/
theorem exists_dated?_of_frame (hframe : (i.call own p).result = .ok (some .frame))
    (hraw : (i.call own p).decoder.format ≠ some .raw) :
    ∃ d, i.dated? own p = some d ∧ d.packet = (i.call own p).packet := by
  rcases decode_cases i.decoder own i.buffer p with
    ⟨-, hd⟩ | ⟨f, -, e, -, hd⟩ | ⟨f, hf, r, hread, hd⟩
  · rw [call, hd] at hframe
    cases hframe
  · rw [call, hd] at hframe
    cases hframe
  · rw [call, hd] at hframe hraw
    have hevent : r.event = .frame := Option.some.inj (Except.ok.inj hframe)
    rcases Format.sample?_of_frame hread hevent with ⟨rfl, -⟩ | ⟨c, reading, hsample, -, -⟩
    · exact absurd rfl hraw
    · refine ⟨⟨f, c, reading, i.decoder.link.clock, r.packet⟩, ?_, ?_⟩
      · simp only [dated?, call, hd, hevent, hsample, Option.map_some]
      · rw [call, hd]

/-! ## One after the other -/

/-- Packets that are dated one after the other, by a clock with the given history. -/
def Succession : Mlat.History → List Dated → Prop
  | _, [] => True
  | h, d :: ds => d.clock = h ∧ d.packet.mlat = d.received.1 ∧ Succession d.received.2 ds

/-- **A connection has one clock**, and only the readings of packets move it. -/
theorem succession_dated (own : Uuid) (i : Inlet) (acts : List Act) :
    Succession i.decoder.link.clock (i.dated own acts) := by
  induction acts generalizing i with
  | nil => trivial
  | cons act acts ih =>
    cases act with
    | fill available => exact ih (i.act own (.fill available))
    | decode p =>
      have hnext := ih (i.act own (.decode p))
      rcases dated?_cases own i p with ⟨d, hd, hyields, -⟩ | ⟨h, hd, -, hlink⟩ | ⟨hd, -, hlink⟩
      · rw [hyields.link] at hnext
        rw [dated, hd]
        exact ⟨hyields.clock, hyields.mlat, hnext⟩
      · rw [hlink] at hnext
        rw [dated, hd]
        exact hnext
      · rw [hlink] at hnext
        rw [dated, hd]
        exact hnext

theorem Succession.exists_of_append {h : Mlat.History} {ds ds' : List Dated}
    (hs : Succession h (ds ++ ds')) : ∃ h', Succession h' ds' := by
  induction ds generalizing h with
  | nil => exact ⟨h, hs⟩
  | cons d ds ih => exact ih hs.2.2

/-! ## One format -/

/-- A dated packet is what some call of the run yields. -/
theorem exists_of_mem_dated (hd : d ∈ i.dated own acts) :
    ∃ before p after, acts = before ++ .decode p :: after ∧ (i.run own before).Yields own p d := by
  induction acts generalizing i with
  | nil => cases hd
  | cons act acts ih =>
    have hlater (hd : d ∈ (i.act own act).dated own acts) :
        ∃ before p after, act :: acts = before ++ .decode p :: after ∧
          (i.run own before).Yields own p d := by
      obtain ⟨before, p, after, rfl, hyields⟩ := ih hd
      exact ⟨act :: before, p, after, rfl, hyields⟩
    cases act with
    | fill available => exact hlater hd
    | decode p =>
      rcases dated?_cases own i p with ⟨d', hd', hyields, -⟩ | ⟨h, hd', -, -⟩ | ⟨hd', -, -⟩
      · rw [dated, hd'] at hd
        rcases List.mem_cons.1 hd with rfl | hd
        · exact ⟨[], p, acts, rfl, hyields⟩
        · exact hlater hd
      · rw [dated, hd'] at hd
        exact hlater hd
      · rw [dated, hd'] at hd
        exact hlater hd

theorem exists_sample_of_mem_dated (hd : d ∈ i.dated own acts) :
    ∃ data header, d.format.sample? data header = some (d.counter, d.reading) := by
  obtain ⟨before, p, after, -, hyields⟩ := exists_of_mem_dated hd
  exact ⟨_, _, hyields.sample⟩

theorem format_of_mem_dated (hf : i.decoder.format = some f) :
    ∀ d ∈ i.dated own acts, d.format = f := by
  intro d hd
  obtain ⟨before, p, after, -, hyields⟩ := exists_of_mem_dated hd
  have hrun : (i.run own before).decoder.format = some f := format_run hf before
  have hformat : ((i.run own before).act own (.decode p)).decoder.format = some f :=
    format_act hrun (.decode p)
  rw [hyields.format] at hformat
  exact Option.some.inj hformat

/-- All packets of a run are of one format. -/
theorem exists_format_dated (own : Uuid) (i : Inlet) (acts : List Act) :
    ∃ f, ∀ d ∈ i.dated own acts, d.format = f := by
  induction acts generalizing i with
  | nil => exact ⟨.raw, nofun⟩
  | cons act acts ih =>
    cases act with
    | fill available => exact ih (i.act own (.fill available))
    | decode p =>
      rcases dated?_cases own i p with ⟨d, hd, hyields, -⟩ | ⟨h, hd, -, -⟩ | ⟨hd, -, -⟩
      · refine ⟨d.format, ?_⟩
        rw [dated, hd]
        exact List.forall_mem_cons.2 ⟨rfl, format_of_mem_dated hyields.format⟩
      · rw [dated, hd]
        exact ih (i.act own (.decode p))
      · rw [dated, hd]
        exact ih (i.act own (.decode p))

theorem format_eq_of_mem_dated {d' : Dated} (hd : d ∈ i.dated own acts)
    (hd' : d' ∈ i.dated own acts) :
    d'.format = d.format := by
  obtain ⟨f, hf⟩ := exists_format_dated own i acts
  rw [hf d hd, hf d' hd']

/-! ## One counter -/

theorem controls_cons (own : Uuid) (i : Inlet) (p : Packet) (acts : List Act) :
    i.controls own (.decode p :: acts) = (i.act own (.decode p)).controls own acts +
      if isControl (i.call own p).result then 1 else 0 :=
  List.countP_cons

/-- The header in force stays while no announcement is accepted. -/
theorem header_of_yields (hzero : i.controls own acts = 0) {before after : List Act}
    (hacts : acts = before ++ .decode p :: after) :
    (i.run own before).decoder.link.header = i.decoder.link.header := by
  induction before generalizing i acts with
  | nil => rfl
  | cons act before ih =>
    subst hacts
    cases act with
    | fill available => exact ih (i := i.act own (.fill available)) hzero rfl
    | decode q =>
      rw [List.cons_append, controls_cons] at hzero
      obtain ⟨hlater, hnone⟩ := Nat.add_eq_zero_iff.1 hzero
      refine (ih hlater rfl).trans ?_
      rcases dated?_cases own i q with ⟨d, -, hyields, -⟩ | ⟨h, -, hcontrol, -⟩ | ⟨-, -, hlink⟩
      · rw [hyields.link]
      · rw [hcontrol] at hnone
        cases hnone
      · rw [hlink]

/-- Json and proto packets are dated by the counter of the header in force. -/
theorem counter_of_mem_dated (hzero : i.controls own acts = 0) (hd : d ∈ i.dated own acts)
    (hexact : d.format = .json ∨ d.format = .proto) :
    ∃ h, i.decoder.link.header = some h ∧ d.counter = h.counter := by
  obtain ⟨before, p, after, hacts, hyields⟩ := exists_of_mem_dated hd
  obtain ⟨h, hheader, hcounter⟩ := Format.sample?_exact hexact hyields.sample
  rw [header_of_yields hzero hacts] at hheader
  exact ⟨h, hheader, hcounter⟩

/-- With one announcement at most, all json and proto packets are dated by
the counter it announces. -/
theorem exists_counter_of_exact (hnone : i.decoder.link.header = none)
    (hone : i.controls own acts ≤ 1) :
    ∃ c, ∀ d ∈ i.dated own acts, d.format = .json ∨ d.format = .proto → d.counter = c := by
  induction acts generalizing i with
  | nil => exact ⟨.bus, nofun⟩
  | cons act acts ih =>
    cases act with
    | fill available => exact ih (i := i.act own (.fill available)) hnone hone
    | decode p =>
      rw [controls_cons] at hone
      rcases dated?_cases own i p with
        ⟨d, hd, hyields, hnot⟩ | ⟨h, hd, hcontrol, hlink⟩ | ⟨hd, hnot, hlink⟩
      · rw [hnot] at hone
        obtain ⟨c, hc⟩ := ih (hyields.link ▸ hnone) hone
        refine ⟨c, ?_⟩
        rw [dated, hd]
        refine List.forall_mem_cons.2 ⟨fun hexact => ?_, hc⟩
        obtain ⟨h, hheader, -⟩ := Format.sample?_exact hexact hyields.sample
        rw [hnone] at hheader
        cases hheader
      · rw [hcontrol, if_pos rfl] at hone
        have hzero : (i.act own (.decode p)).controls own acts = 0 :=
          Nat.le_zero.1 (Nat.le_of_succ_le_succ hone)
        refine ⟨h.counter, ?_⟩
        rw [dated, hd]
        intro d hd hexact
        obtain ⟨h', hheader, hcounter⟩ := counter_of_mem_dated hzero hd hexact
        rw [hlink] at hheader
        rw [hcounter, Option.some.inj hheader]
      · rw [hnot] at hone
        obtain ⟨c, hc⟩ := ih (hlink ▸ hnone) hone
        refine ⟨c, ?_⟩
        rw [dated, hd]
        exact hc

/-- **A run has one counter**, if it accepts one announcement at most and all lines
tell the same frequency. -/
theorem exists_counter_dated (hnone : i.decoder.link.header = none) (hone : i.controls own acts ≤ 1)
    (hlines : ∀ d ∈ i.dated own acts, ∀ d' ∈ i.dated own acts,
      d.format = .airspy → d.counter.mhz = d'.counter.mhz) :
    ∃ c, ∀ d ∈ i.dated own acts, d.counter = c := by
  obtain ⟨f, hformat⟩ := exists_format_dated own i acts
  have hsample (d) (hd : d ∈ i.dated own acts) :
      ∃ data header, f.sample? data header = some (d.counter, d.reading) :=
    hformat d hd ▸ exists_sample_of_mem_dated hd
  have hexact (hf : f = .json ∨ f = .proto) : ∃ c, ∀ d ∈ i.dated own acts, d.counter = c := by
    obtain ⟨c, hc⟩ := exists_counter_of_exact hnone hone
    exact ⟨c, fun d hd => hc d hd (hformat d hd ▸ hf)⟩
  cases f with
  | airspy =>
    have hline (d) (hd : d ∈ i.dated own acts) :
        d.counter = ⟨Wire.Airspy.width, d.counter.mhz, false⟩ := by
      obtain ⟨data, header, hd⟩ := hsample d hd
      obtain ⟨hwidth, hmarks, -, -⟩ := Format.sample?_airspy hd
      rw [← hwidth, ← hmarks]
    cases hdated : i.dated own acts with
    | nil => exact ⟨.bus, nofun⟩
    | cons d ds =>
      rw [hdated] at hline hlines hformat
      refine ⟨⟨Wire.Airspy.width, d.counter.mhz, false⟩, fun d' hd' => ?_⟩
      rw [hline d' hd', hlines d' hd' d List.mem_cons_self (hformat d' hd')]
  | beast =>
    refine ⟨⟨Wire.Beast.width, Wire.Beast.mhz, false⟩, fun d hd => ?_⟩
    obtain ⟨data, header, hd⟩ := hsample d hd
    exact (Format.sample?_beast hd).1
  | json => exact hexact (.inl rfl)
  | proto => exact hexact (.inr rfl)
  | raw =>
    refine ⟨.bus, fun d hd => ?_⟩
    obtain ⟨data, header, hd⟩ := hsample d hd
    cases hd
  | stats =>
    refine ⟨.bus, fun d hd => ?_⟩
    obtain ⟨data, header, hd⟩ := hsample d hd
    cases hd

end Inlet
end Squitter
