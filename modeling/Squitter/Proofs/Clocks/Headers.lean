import Squitter.Proofs.Clocks.Undated
import Squitter.Proofs.Hop.Exact

/-!
# Headers on a connection

A file to which several buses have appended has several headers. After each of them, a connection
goes on as a fresh connection that begins with this header would: the same messages are read,
refused and waited for, and packets are the same but for their timestamps
(`Reception.header_restarts`). The clock is not started anew. So known timestamps are later than on
a fresh connection, by the wraps that were counted before the header, and by one more if the first
known stamp falls behind the last one before the header.

These wraps were counted in ticks of the counter that the header before announced, and are taken for
ticks of the one that the new header announces (`Reception.header_keeps_wraps`).
-/

namespace Squitter

open Decoder

/-- **A header is read as on a fresh connection.** -/
theorem Decoder.decode_of_control {d : Decoder} {own : Uuid} {b : Buffer} {p : Packet}
    (h : (d.decode own b p).result = .ok (some .control)) :
    ∃ f header used, (f = .json ∨ f = .proto) ∧
      d.decode own b p =
        ⟨.ok (some .control), p, ⟨some f, ⟨d.link.clock, some header⟩⟩, b.advance used⟩ ∧
      Decoder.fresh.decode own b p =
        ⟨.ok (some .control), p, ⟨some f, ⟨.fresh, some header⟩⟩, b.advance used⟩ := by
  rcases decode_cases d own b p with ⟨-, hd⟩ | ⟨f, -, e, -, hd⟩ | ⟨f, hf, r, hread, hd⟩
  · rw [hd] at h
    cases h
  · rw [hd] at h
    cases h
  · rw [hd] at h
    have hevent : r.event = .control := Option.some.inj (Except.ok.inj h)
    have hexact : f = .json ∨ f = .proto := by
      rcases Format.admitted_of_read hread with ⟨-, hexact, -⟩ | ⟨hframe, -⟩
      · exact hexact
      · rw [hevent] at hframe
        cases hframe
    rcases Format.read_cases hexact own b.data p d.link.header with
      hnone | ⟨e, herror⟩ | ⟨header, used, hcontrol⟩ | ⟨h, stamp, q, used, -, hframe⟩
    · rw [hnone d.link.clock] at hread
      cases hread
    · rw [herror d.link.clock] at hread
      cases hread
    · exact ⟨f, header, used, hexact, decode_of_some hf (hcontrol d.link),
        decode_of_some (d := .fresh) (Format.mem_readable_of_exact hexact) (hcontrol .fresh)⟩
    · rw [hframe d.link.clock] at hread
      cases hread
      cases hevent

theorem Undated.zipWith_delay_zero (clock : Mlat.History) (us : List Undated) :
    List.zipWith (delay 0) us (dateAll clock us) = dateAll clock us := by
  induction us generalizing clock with
  | nil => rfl
  | cons u us ih => rw [dateAll, List.zipWith_cons_cons, delay_zero, ih]

namespace Reception

/-- An announcement of another bus, with a counter of its own. -/
def announced (mhz : UInt32) (width : UInt64) : Message Bytes :=
  .header { Announcement.ofServer .neighbour with mhz, width }

/-- A report with a timestamp and nothing else. -/
def reported (mlat : UInt64) : Message Bytes :=
  .packet ⟨.modeAC, .nil, [0, 0], mlat, 0, 0⟩

/-- A reception after a call, of which nothing more was learned yet. -/
def after (s : Step) (unread : Bytes) : Reception := ⟨s.decoder, s.buffer, unread, []⟩

/-- **After a header, a connection goes on as a fresh one would**, but for
a lag of the timestamps. -/
theorem header_restarts (own source : Uuid) (d : Decoder) (b : Buffer) (p : Packet)
    (h : (d.decode own b p).result = .ok (some .control)) (unread : Bytes) (turns : List Turn) :
    let s := d.decode own b p
    let s' := Decoder.fresh.decode own b p
    let r := (after s unread).run own source turns
    let r' := (after s' unread).run own source turns
    s'.outcome? = s.outcome? ∧ s'.packet = s.packet ∧ s'.decoder.format = s.decoder.format ∧
      r'.buffer = r.buffer ∧ r'.unread = r.unread ∧
      ∃ us : List Undated,
        r.outcomes = Undated.dateAll d.link.clock us ∧ r'.outcomes = Undated.dateAll .fresh us ∧
        r.outcomes = List.zipWith (Undated.delay (Undated.lag d.link.clock us)) us r'.outcomes ∧
        (Undated.lag d.link.clock us = 0 → r.outcomes = r'.outcomes) := by
  intro s s' r r'
  obtain ⟨f, header, used, hexact, hs, hs'⟩ := decode_of_control h
  obtain ⟨header', b', unread', us, hrun⟩ :=
    exists_run_onClock own source hexact (some header) (b.advance used) unread [] turns
  have hr : r = onClock f header' b' unread' us d.link.clock := by
    rw [← hrun]
    simp only [r, s, hs]
    rfl
  have hr' : r' = onClock f header' b' unread' us .fresh := by
    rw [← hrun]
    simp only [r', s', hs']
    rfl
  have houtcomes : r.outcomes = Undated.dateAll d.link.clock us := congrArg Reception.outcomes hr
  have houtcomes' : r'.outcomes = Undated.dateAll .fresh us := congrArg Reception.outcomes hr'
  refine ⟨?_, ?_, ?_, ?_, ?_, us, houtcomes, houtcomes', ?_, fun hlag => ?_⟩
  · simp only [s, s', hs, hs']
    rfl
  · simp only [s, s', hs, hs']
  · simp only [s, s', hs, hs']
  · rw [hr, hr']
    rfl
  · rw [hr, hr']
    rfl
  · rw [houtcomes, houtcomes']
    exact Undated.dateAll_eq d.link.clock us
  · rw [houtcomes, houtcomes', Undated.dateAll_eq, hlag]
    exact Undated.zipWith_delay_zero .fresh us

/-- A second header comes when the clock of the connection has counted 1000 ticks. -/
theorem header_restarts_second_header :
    let d : Decoder := ⟨some .json, ⟨⟨100, 1000⟩, some (.ofServer .neighbour)⟩⟩
    let b : Buffer :=
      ⟨Buffer.usualCapacity, 0, Wire.Json.write (announced Mlat.clockMHz Mlat.modulus)⟩
    let s := d.decode .nil b (.blank .nil)
    let s' := Decoder.fresh.decode .nil b (.blank .nil)
    s.result = .ok (some .control) ∧ ∀ unread turns, ∃ us : List Undated,
      ((after s unread).run .nil .nil turns).outcomes = Undated.dateAll ⟨100, 1000⟩ us ∧
      ((after s' unread).run .nil .nil turns).outcomes = Undated.dateAll .fresh us ∧
      ((after s unread).run .nil .nil turns).outcomes =
        List.zipWith (Undated.delay (Undated.lag ⟨100, 1000⟩ us)) us
          ((after s' unread).run .nil .nil turns).outcomes := by
  intro d b s s'
  have hcontrol : s.result = .ok (some .control) :=
    Inlet.eq_ok_of_toOption_eq_some (by decide +kernel)
  refine ⟨hcontrol, fun unread turns => ?_⟩
  obtain ⟨-, -, -, -, -, us, hcounted, hfresh, hlag, -⟩ :=
    header_restarts .nil .nil d b (.blank .nil) hcontrol unread turns
  exact ⟨us, hcounted, hfresh, hlag⟩

end Reception

/-! ## Wraps from before a header -/

/-- A json message that is accepted goes in front of a script. -/
theorem Decoder.Script.cons_accept {own source : Uuid} {m : Message Bytes} {l l₁ l' : Link}
    {event : Event} {p : Packet} {ms : List Bytes} {os : List Outcome}
    (hm : ∀ r, m = .packet r → r.payload.length = r.kind.payloadLength)
    (haccept : l.accept own m (.blank source) = .ok (event, p, l₁))
    (h : Script own source .json l₁ ms os l') :
    Script own source .json l (Wire.Json.write m :: ms) (.ofEvent event p l₁ :: os) l' := by
  refine .cons (Format.isMessage_json_write m) (fun rest => ?_) h
  have hread (used : Nat) : Format.accepted own m (.blank source) l used =
      .ok (some ⟨event, p, l₁, used⟩) := by
    simp only [Format.accepted, haccept]
    rfl
  simp only [Format.read, Wire.Json.read?_write_append, Wire.Json.decoded_spelled hm, Format.tail,
    if_true]
  exact hread _

namespace Reception

theorem length_payload_announced (mhz : UInt32) (width : UInt64) :
    ∀ r, announced mhz width = .packet r → r.payload.length = r.kind.payloadLength := by
  rintro r ⟨⟩

theorem length_payload_reported (mlat : UInt64) :
    ∀ r, reported mlat = .packet r → r.payload.length = r.kind.payloadLength := by
  rintro r ⟨⟩
  rfl

/-- A counter of 12 MHz wraps after 1000 ticks, and does so once. Then a header announces one of 120
MHz, which does not wrap. Its reading of 5000 is dated 1000 ticks later than on a connection that
begins with this header. -/
theorem header_keeps_wraps :
    let rest := [announced Mlat.clockMHz Mlat.modulus, reported 5000]
    let whole := [announced 12 1000, reported 900, reported 100] ++ rest
    ∃ h h' p₁ p₂ p p', Delivers .nil .nil (whole.map Wire.Json.write).flatten
        [.control h, .frame p₁, .frame p₂, .control h', .frame p] ∧
      Delivers .nil .nil (rest.map Wire.Json.write).flatten [.control h', .frame p'] ∧
      [p₁, p₂, p].map Packet.mlat = [9000, 11000, 6000] ∧ p'.mlat = 5000 := by
  intro rest whole
  have hlengths : ∀ m ∈ whole.map Wire.Json.write, m.length < Buffer.usualCapacity := by
    decide +kernel
  have hlengths' : ∀ m ∈ rest.map Wire.Json.write, m.length < Buffer.usualCapacity := by
    decide +kernel
  have hscript : Script .nil .nil .json .fresh (whole.map Wire.Json.write) _ _ :=
    .cons_accept (length_payload_announced 12 1000) rfl <|
    .cons_accept (length_payload_reported 900) rfl <|
    .cons_accept (length_payload_reported 100) rfl <|
    .cons_accept (length_payload_announced Mlat.clockMHz Mlat.modulus) rfl <|
    .cons_accept (length_payload_reported 5000) rfl <| .nil _
  have hscript' : Script .nil .nil .json .fresh (rest.map Wire.Json.write) _ _ :=
    .cons_accept (length_payload_announced Mlat.clockMHz Mlat.modulus) rfl <|
    .cons_accept (length_payload_reported 5000) rfl <| .nil _
  exact ⟨_, _, _, _, _, _, delivers_of_short_script (by decide) hscript hlengths,
    delivers_of_short_script (by decide) hscript' hlengths', by decide, by decide⟩

end Reception
end Squitter
