import Squitter.Proofs.Clocks.Counters
import Squitter.Proofs.Hop.Timestamps

/-!
# Unknown timestamps in a stream

Packets are written in one stream by one encoder, and read by one decoder, however the stream
arrives. Their timestamps arrive by the rule of the format's counter
(`Reception.delivers_arrivals`).

**The result** (`Reception.unknown_stays_unknown`). In json and proto an unknown timestamp arrives
as unknown, and all others arrive as if the unknown ones had been left out. In airspy_adsb and beast
this is so exactly if no unknown timestamp comes after one that is read as anything but zero. After
one that is, unknown timestamps and all later ones are changed (`Reception.unknown_disturbs`).
-/

namespace Squitter

open Decoder

/-! ## Messages -/

/-- Whoever received the sender's announcement, if the format has one, can read its timestamps. -/
def Format.Heard (f : Format) (sender : Server) (l : Link) : Prop :=
  f = json ∨ f = proto → l.header = some (.ofServer sender)

theorem Format.mem_readable_of_counter {f : Format} {c : Mlat.Counter} (hf : f.counter = some c) :
    f ∈ readable := by
  cases f with
  | raw => cases hf
  | stats => cases hf
  | _ => decide

/-- The hop to another bus is a reading of the counter of a bus. -/
theorem Packet.hop_eq_receive (sender : Server) (p : Packet) (clock : Mlat.History) :
    let received := Mlat.Counter.bus.receive (Mlat.Counter.bus.reading p.mlat) clock
    (p.hop sender clock).1.mlat = received.1 ∧ (p.hop sender clock).2 = received.2 := by
  have hreading : Mlat.Counter.bus.reading p.mlat = p.mlat % Mlat.modulus := by
    have hfactor : Mlat.factor Mlat.clockMHz = 1 := by decide
    show Mlat.narrow p.mlat Mlat.modulus Mlat.clockMHz = _
    rw [Mlat.narrow, hfactor, UInt64.div_one, if_neg (by decide)]
  have hreceive : Mlat.Counter.bus.receive (p.mlat % Mlat.modulus) clock =
      Link.stamp (.ofServer sender) (p.mlat % Mlat.modulus) clock := by
    simp only [Mlat.Counter.receive, Mlat.Counter.bus, true_and, Link.stamp]
    rfl
  rw [hreading, hreceive]
  exact ⟨rfl, rfl⟩

/-- **The message for a packet is read** with the timestamp of its reading. -/
theorem Format.read_frameBytes_eq_receive {f : Format} {c : Mlat.Counter} (hf : f.counter = some c)
    {sender : Server} {l : Link} (hl : f.Heard sender l) (own : Uuid) (p q : Packet) :
    ∃ q', q'.mlat = (c.receive (c.reading p.mlat) l.clock).1 ∧ ∀ rest,
      f.read own (Encoder.frameBytes f p ++ rest) q l =
        .ok (some ⟨.frame, q', { l with clock := (c.receive (c.reading p.mlat) l.clock).2 },
          (Encoder.frameBytes f p).length + (f.tail rest).length⟩) := by
  have hbus (hexact : f = json ∨ f = proto) (hc : c = .bus) :
      ∃ q', q'.mlat = (c.receive (c.reading p.mlat) l.clock).1 ∧ ∀ rest,
        f.read own (Encoder.frameBytes f p ++ rest) q l =
          .ok (some ⟨.frame, q', { l with clock := (c.receive (c.reading p.mlat) l.clock).2 },
            (Encoder.frameBytes f p).length + (f.tail rest).length⟩) := by
    subst hc
    obtain ⟨hmlat, hclock⟩ := p.hop_eq_receive sender l.clock
    refine ⟨(p.hop sender l.clock).1, hmlat, fun rest => ?_⟩
    rw [Format.read_frameBytes_eq_hop hexact (hl hexact), hclock]
  cases f with
  | airspy =>
    cases hf
    let line : Wire.Airspy.Line := ⟨p.kind, p.content,
      Mlat.narrow p.mlat Wire.Airspy.width Wire.Airspy.sendMHz, Wire.Airspy.sendMHz,
      Rssi.narrow p.rssi Wire.Airspy.ceiling⟩
    rw [Mlat.Counter.receive_of_unmarked rfl]
    refine ⟨(Wire.Airspy.fill line q l.clock).1, rfl, fun rest => ?_⟩
    simp only [read, Encoder.frameBytes, Wire.Airspy.read?_write_append]
    rfl
  | beast =>
    cases hf
    let contents : Wire.Beast.Frame := ⟨p.kind, Mlat.narrow p.mlat Wire.Beast.width Wire.Beast.mhz,
      Wire.Beast.levelByte p.rssi, p.content⟩
    rw [Mlat.Counter.receive_of_unmarked rfl]
    refine ⟨(Wire.Beast.fill contents q l.clock).1, rfl, fun rest => ?_⟩
    simp only [read, Encoder.frameBytes, Wire.Beast.read?_write_append]
    rfl
  | json => exact hbus (.inl rfl) (Option.some.inj hf).symm
  | proto => exact hbus (.inr rfl) (Option.some.inj hf).symm
  | raw => cases hf
  | stats => cases hf

/-! ## Streams -/

/-- What is learned from a greeting: in json and proto, the announcement of the sender. -/
def Format.announces (f : Format) (sender : Server) : List Outcome :=
  if f = json ∨ f = proto then [.control (some (.ofServer sender))] else []

variable {f : Format} {c : Mlat.Counter} (own source : Uuid) {sender : Server}

/-- The messages for packets are a script, in which their timestamps arrive. -/
theorem Decoder.exists_script_arrivals (hf : f.counter = some c) {l : Link}
    (hl : f.Heard sender l) (packets : List Packet) :
    ∃ (frames : List Packet) (l' : Link),
      Script own source f l (packets.map (Encoder.frameBytes f)) (frames.map .frame) l' ∧
      frames.map Packet.mlat = c.arrivals l.clock (packets.map Packet.mlat) := by
  induction packets generalizing l with
  | nil => exact ⟨[], l, .nil l, rfl⟩
  | cons p packets ih =>
    obtain ⟨q, hmlat, hread⟩ := Format.read_frameBytes_eq_receive hf hl own p (.blank source)
    obtain ⟨frames, l', hscript, harrivals⟩ :=
      ih (l := { l with clock := (c.receive (c.reading p.mlat) l.clock).2 }) hl
    have hm := Format.isMessage_frameBytes (Format.mem_readable_of_counter hf) p
    refine ⟨q :: frames, l', .cons hm hread hscript, ?_⟩
    rw [List.map_cons, List.map_cons, Mlat.Counter.arrivals, hmlat, harrivals]

namespace Reception

/-- **A stream is delivered**: what it announces, and packets with the timestamps that arrive. -/
theorem delivers_arrivals (hf : f.counter = some c) {started now : Nat}
    {greeting : Bytes} (hgreeting : (Encoder.fresh f started).greeting sender now = .ok greeting)
    (hlen : greeting.length ≤ Buffer.usualCapacity) (hs : greeting ≠ [] → own ≠ sender.id)
    (packets : List Packet) :
    ∃ frames : List Packet,
      Delivers own source (greeting ++ (Encoder.fresh f started).encodeAll now packets)
        (f.announces sender ++ frames.map .frame) ∧
      frames.map Packet.mlat = c.arrivals .fresh (packets.map Packet.mlat) := by
  have hreadable := Format.mem_readable_of_counter hf
  have hstats : f ≠ .stats := by
    rintro rfl
    cases hf
  have hmessages : ∀ m ∈ packets.map (Encoder.frameBytes f), m.length < Buffer.usualCapacity :=
    fun m hm => Encoder.length_lt_of_mem_messages hm
  rw [Encoder.encodeAll_eq hstats]
  by_cases hexact : f = .json ∨ f = .proto
  · have hne := Format.greeting_ne_nil hexact hgreeting
    obtain ⟨frames, l', hscript, harrivals⟩ := exists_script_arrivals own source hf
      (l := { Link.fresh with header := some (.ofServer sender) }) (fun _ => rfl) packets
    have hread :=
      Format.read_greeting_append hreadable hgreeting hne (hs hne) (.blank source) .fresh
    have hwhole := Script.cons (Format.isMessage_greeting hgreeting hne) hread hscript
    refine ⟨frames, ?_, harrivals⟩
    rw [Format.announces, if_pos hexact]
    refine delivers_of_script hreadable hwhole (fun m hm => ?_) hmessages
    rw [← Option.some.inj hm]
    exact hlen
  · have hnil : greeting = [] := by
      cases f with
      | airspy => exact (Except.ok.inj hgreeting).symm
      | beast => exact (Except.ok.inj hgreeting).symm
      | json => exact absurd (.inl rfl) hexact
      | proto => exact absurd (.inr rfl) hexact
      | raw => cases hf
      | stats => cases hf
    have hheard : f.Heard sender .fresh := fun h => absurd h hexact
    obtain ⟨frames, l', hscript, harrivals⟩ := exists_script_arrivals own source hf hheard packets
    refine ⟨frames, ?_, harrivals⟩
    rw [hnil, Format.announces, if_neg hexact]
    exact delivers_of_short_script hreadable hscript hmessages

/-- **What becomes of unknown timestamps.** In json and proto they arrive as unknown, and the others
as if they had been left out. In airspy_adsb and beast this is so if no unknown timestamp comes
after one that is read as anything but zero, and else it is not. -/
theorem unknown_stays_unknown (hf : f.counter = some c) {started now : Nat} {greeting : Bytes}
    (hgreeting : (Encoder.fresh f started).greeting sender now = .ok greeting)
    (hlen : greeting.length ≤ Buffer.usualCapacity) (hs : greeting ≠ [] → own ≠ sender.id)
    (packets : List Packet) :
    ∃ frames others : List Packet,
      Delivers own source (greeting ++ (Encoder.fresh f started).encodeAll now packets)
        (f.announces sender ++ frames.map .frame) ∧
      Delivers own source
        (greeting ++ (Encoder.fresh f started).encodeAll now (packets.filter fun p => p.mlat ≠ 0))
        (f.announces sender ++ others.map .frame) ∧
      frames.map Packet.mlat = c.arrivals .fresh (packets.map Packet.mlat) ∧
      ((f = .json ∨ f = .proto) ∨ c.UnknownFirst (packets.map Packet.mlat) →
        Mlat.Undisturbed (packets.map Packet.mlat) (frames.map Packet.mlat)
          (others.map Packet.mlat)) ∧
      (packets.length < 2 ^ 63 → Mlat.Undisturbed (packets.map Packet.mlat) (frames.map Packet.mlat)
        (others.map Packet.mlat) →
          (f = .json ∨ f = .proto) ∨ c.UnknownFirst (packets.map Packet.mlat)) := by
  obtain ⟨frames, hframes, harrivals⟩ :=
    delivers_arrivals own source hf hgreeting hlen hs packets
  obtain ⟨others, hothers, harrivals'⟩ :=
    delivers_arrivals own source hf hgreeting hlen hs (packets.filter fun p => p.mlat ≠ 0)
  have hfilter : (packets.filter fun p => p.mlat ≠ 0).map Packet.mlat =
      (packets.map Packet.mlat).filter (· ≠ 0) := by
    rw [List.filter_map]
    rfl
  rw [hfilter] at harrivals'
  have hmarks := Mlat.Counter.marks_iff hf
  refine ⟨frames, others, hframes, hothers, harrivals, fun h => ?_, fun hshort h => ?_⟩
  · rw [harrivals, harrivals']
    rcases h with hexact | hfirst
    · exact Mlat.Counter.undisturbed_of_marks (hmarks.2 hexact) .fresh _
    · exact Mlat.Counter.undisturbed_of_unknownFirst hfirst
  · by_cases hexact : f = .json ∨ f = .proto
    · exact .inl hexact
    · have hunmarked : c.marks = false := Bool.eq_false_iff.2 fun hc => hexact (hmarks.1 hc)
      refine .inr (Mlat.Counter.unknownFirst_of_undisturbed hunmarked
        (Mlat.Counter.wraps_ne_zero hf hunmarked) ?_ (harrivals ▸ h.unknown))
      rwa [List.length_map]

/-- In json, an unknown timestamp between two others stays unknown. -/
theorem unknown_stays_unknown_json :
    ∃ frames others : List Packet,
      Delivers .nil .nil (Wire.Json.write (.header (.ofServer .neighbour)) ++
          (Encoder.fresh .json 0).encodeAll 0 ([1000, 0, 2000].map stamped))
        (.control (some (.ofServer .neighbour)) :: frames.map .frame) ∧
      Delivers .nil .nil (Wire.Json.write (.header (.ofServer .neighbour)) ++
          (Encoder.fresh .json 0).encodeAll 0 ([1000, 2000].map stamped))
        (.control (some (.ofServer .neighbour)) :: others.map .frame) ∧
      Mlat.Undisturbed [1000, 0, 2000] (frames.map Packet.mlat) (others.map Packet.mlat) := by
  have hgreeting : (Encoder.fresh .json 0).greeting .neighbour 0 =
      .ok (Wire.Json.write (.header (.ofServer .neighbour))) := rfl
  obtain ⟨frames, others, hframes, hothers, -, hundisturbed, -⟩ :=
    unknown_stays_unknown .nil .nil rfl hgreeting (by decide +kernel)
      (fun _ => by decide) ([1000, 0, 2000].map stamped)
  exact ⟨frames, others, hframes, hothers, hundisturbed (.inl (.inl rfl))⟩

/-- In beast, an unknown timestamp between two others is taken for a wrap, and so it and the one
after it arrive as others. -/
theorem unknown_disturbs :
    ∃ frames others : List Packet,
      Delivers .nil .nil ((Encoder.fresh .beast 0).encodeAll 0 ([1000, 0, 2000].map stamped))
        (frames.map .frame) ∧
      Delivers .nil .nil ((Encoder.fresh .beast 0).encodeAll 0 ([1000, 2000].map stamped))
        (others.map .frame) ∧
      frames.map Packet.mlat = [1000, 2814749767106550, 2814749767108550] ∧
      others.map Packet.mlat = [1000, 2000] ∧
      ¬ Mlat.Undisturbed [1000, 0, 2000] (frames.map Packet.mlat) (others.map Packet.mlat) := by
  have hgreeting : (Encoder.fresh .beast 0).greeting .neighbour 0 = .ok [] := rfl
  obtain ⟨frames, hframes, harrivals⟩ := delivers_arrivals .nil .nil rfl hgreeting (Nat.zero_le _)
    (absurd rfl) ([1000, 0, 2000].map stamped)
  obtain ⟨others, hothers, harrivals'⟩ := delivers_arrivals .nil .nil rfl hgreeting (Nat.zero_le _)
    (absurd rfl) ([1000, 2000].map stamped)
  have harrived : frames.map Packet.mlat = [1000, 2814749767106550, 2814749767108550] :=
    harrivals.trans (by decide)
  refine ⟨frames, others, hframes, hothers, harrived, harrivals'.trans (by decide), fun h => ?_⟩
  have hunknown := h.unknown (0, 2814749767106550) (by rw [harrived]; decide) rfl
  exact absurd hunknown (by decide)

end Reception
end Squitter
