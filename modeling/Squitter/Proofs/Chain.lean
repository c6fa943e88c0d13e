import Squitter.Proofs.Transcripts

/-!
# Conversion chains

Packets are written by one encoder, read by a decoder, written by the next encoder, and so on. A
**stage** (`Stage`) is one such step: a format, a bus that writes, a bus that reads, and a way to
cut the stream into pieces on the way.

**The result** (`chain_faithful`). Whatever the formats of the stages are, no stage ends with an
error or a full buffer, each decoder finds the format of its stage, and what comes out of each stage
are the packets that went into the first one, with their kinds and payloads.
-/

namespace Squitter

/-- The kind and payload of a packet. -/
def Packet.frame (p : Packet) : Kind × Bytes := (p.kind, p.content)

/-! ## Stages -/

/-- One step of a conversion. The reading bus takes the writing one for another bus, whose
greeting fits into its buffer. -/
structure Stage where
  format : Format
  readable : format ∈ Format.readable
  /-- The bus that writes. -/
  sender : Server
  /-- When the encoder was made, and when it writes. -/
  started : Nat
  now : Nat
  greeting : Bytes
  greets : (Encoder.fresh format started).greeting sender now = .ok greeting
  fits : greeting.length ≤ Buffer.usualCapacity
  /-- The bus that reads, and the identity of its connection. -/
  own : Uuid
  source : Uuid
  foreign : greeting ≠ [] → own ≠ sender.id
  /-- The pieces in which the stream arrives. -/
  cut : Bytes → List Bytes
  flatten_cut : ∀ data, (cut data).flatten = data

namespace Stage

/-- What is written for packets: the greeting and all messages. -/
def stream (s : Stage) (packets : List Packet) : Bytes :=
  s.greeting ++ (Encoder.fresh s.format s.started).encodeAll s.now packets

/-- Read a stream, piece by piece, through a buffer of the usual capacity. -/
def read (s : Stage) (data : Bytes) : Decoder.Transcript :=
  (s.cut data).foldl (Decoder.readFrom s.own s.source) (.start (.empty Buffer.usualCapacity))

end Stage

/-- The transcripts of a chain of stages, each of which writes what the one before it read. -/
def chain : List Stage → List Packet → List Decoder.Transcript
  | [], _ => []
  | s :: stages, packets =>
    let t := s.read (s.stream packets)
    t :: chain stages t.packets

/-! ## One stage -/

namespace Decoder

/-- The messages for packets are a script. -/
theorem exists_script_of_packets (own source : Uuid) {f : Format} (hf : f ∈ Format.readable)
    {l : Link} (hl : f.Ready l) (packets : List Packet) :
    ∃ os l', Script own source f l (packets.map (Encoder.frameBytes f)) os l' ∧
      (Outcome.packets os).map Packet.frame = packets.map Packet.frame ∧
      (os = [] ↔ packets = []) := by
  induction packets generalizing l with
  | nil => exact ⟨[], l, .nil l, rfl, by simp⟩
  | cons p packets ih =>
    obtain ⟨q, l₁, hkind, hcontent, hl₁, hread⟩ :=
      Format.read_frameBytes_append hf hl own p (.blank source)
    obtain ⟨os, l', hscript, hframes, -⟩ := ih hl₁
    refine ⟨_, l', .cons (Format.isMessage_frameBytes hf p) hread hscript, ?_, by simp⟩
    have hframe : q.frame = p.frame := by
      rw [Packet.frame, hkind, hcontent]
      rfl
    show (q :: Outcome.packets os).map Packet.frame = (p :: packets).map Packet.frame
    rw [List.map_cons, List.map_cons, hframe, hframes]

end Decoder

namespace Stage

open Decoder

theorem format_ne_stats (s : Stage) : s.format ≠ .stats := by
  intro h
  exact absurd (h ▸ s.readable) (by decide)

/-- The stream of a stage is a script, after the greeting if there is one. -/
theorem exists_script (s : Stage) (packets : List Packet) :
    ∃ ms os l', s.stream packets = ms.flatten ∧ Script s.own s.source s.format .fresh ms os l' ∧
      (∀ m ∈ ms.head?, m.length ≤ Buffer.usualCapacity) ∧
      (∀ m ∈ ms.tail, m.length < Buffer.usualCapacity) ∧
      (Outcome.packets os).map Packet.frame = packets.map Packet.frame ∧
      (os = [] ↔ s.greeting = [] ∧ packets = []) := by
  have hstream : s.stream packets =
      s.greeting ++ (packets.map (Encoder.frameBytes s.format)).flatten := by
    rw [stream, Encoder.encodeAll_eq s.format_ne_stats]
    rfl
  by_cases hgreeting : s.greeting = []
  · have hready := Format.ready_of_greeting_nil (hgreeting ▸ s.greets) .fresh
    obtain ⟨os, l', hscript, hframes, hnil⟩ :=
      exists_script_of_packets s.own s.source s.readable hready packets
    refine ⟨_, os, l', ?_, hscript, ?_, ?_, hframes, ?_⟩
    · rw [hstream, hgreeting, List.nil_append]
    · exact fun m hm => Nat.le_of_lt (Encoder.length_lt_of_mem_messages (List.mem_of_mem_head? hm))
    · exact fun m hm => Encoder.length_lt_of_mem_messages (List.mem_of_mem_tail hm)
    · rw [hnil, and_iff_right hgreeting]
  · have hready : s.format.Ready { Link.fresh with header := some (.ofServer s.sender) } :=
      fun _ => ⟨_, rfl, rfl⟩
    obtain ⟨os, l', hscript, hframes, -⟩ :=
      exists_script_of_packets s.own s.source s.readable hready packets
    have hread := Format.read_greeting_append s.readable s.greets hgreeting (s.foreign hgreeting)
      (.blank s.source) .fresh
    refine ⟨s.greeting :: packets.map (Encoder.frameBytes s.format), _, l', hstream,
      .cons (Format.isMessage_greeting s.greets hgreeting) hread hscript, ?_, ?_, hframes, ?_⟩
    · intro m hm
      rw [Option.some.inj hm.symm]
      exact s.fits
    · exact fun m hm => Encoder.length_lt_of_mem_messages hm
    · simp [hgreeting]

/-- A stage reads all of a script whose messages fit into the buffer. -/
theorem read_script (s : Stage) {ms : List Bytes} {os : List Outcome} {l' : Link}
    (h : Script s.own s.source s.format .fresh ms os l')
    (hfirst : ∀ m ∈ ms.head?, m.length ≤ Buffer.usualCapacity)
    (hlater : ∀ m ∈ ms.tail, m.length < Buffer.usualCapacity) :
    (s.read ms.flatten).ending = none ∧
      (s.read ms.flatten).decoder.format = (if os = [] then none else some s.format) ∧
      (s.read ms.flatten).packets = Outcome.packets os := by
  have hstart : (Transcript.start (.empty Buffer.usualCapacity)).Follows s.own s.source s.format
      ((s.cut ms.flatten).flatten ++ []) os l' := by
    refine ⟨rfl, Buffer.sound_empty _, rfl, by decide, fun g _ => by cases g <;> rfl, [], ms,
      ⟨h, .inr ⟨rfl, rfl⟩, .inl rfl, ?_, hlater⟩, ?_⟩
    · intro m hm
      rw [List.length_nil, Nat.zero_add]
      exact hfirst m hm
    · rw [s.flatten_cut, List.append_nil]
      rfl
  obtain ⟨os₁, os₂, rfl, hfollows, hpackets, hformat⟩ := hstart.foldl_readFrom s.readable
  obtain ⟨rfl, -⟩ := hfollows.eq_nil s.readable
  rw [List.append_nil]
  exact ⟨hfollows.ending, hformat, hpackets⟩

/-- A stage reads what it wrote. -/
theorem read_stream (s : Stage) (packets : List Packet) :
    let t := s.read (s.stream packets)
    t.ending = none ∧
      t.decoder.format = (if s.greeting = [] ∧ packets = [] then none else some s.format) ∧
      t.packets.map Packet.frame = packets.map Packet.frame := by
  obtain ⟨ms, os, l', hstream, hscript, hfirst, hlater, hframes, hnil⟩ := s.exists_script packets
  obtain ⟨hending, hformat, hpackets⟩ := s.read_script hscript hfirst hlater
  simp only [hnil] at hformat
  rw [hstream]
  exact ⟨hending, hformat, hpackets ▸ hframes⟩

end Stage

/-! ## All stages -/

theorem length_chain (stages : List Stage) (packets : List Packet) :
    (chain stages packets).length = stages.length := by
  induction stages generalizing packets with
  | nil => rfl
  | cons s stages ih => rw [chain, List.length_cons, ih, List.length_cons]

/-- **A conversion chain is faithful.** No stage of it ends early, every decoder pins the format of
its stage as soon as there is anything to read, and the packets at its end are those at its
beginning, one for one and in their order, with their kinds and payloads. -/
theorem chain_faithful (stages : List Stage) (packets : List Packet) :
    (chain stages packets).length = stages.length ∧
      ∀ s t, (s, t) ∈ stages.zip (chain stages packets) →
        t.ending = none ∧
        t.decoder.format = (if s.greeting = [] ∧ packets = [] then none else some s.format) ∧
        t.packets.map Packet.frame = packets.map Packet.frame := by
  refine ⟨length_chain stages packets, ?_⟩
  suffices h : ∀ ps : List Packet, ps.map Packet.frame = packets.map Packet.frame →
      ∀ s t, (s, t) ∈ stages.zip (chain stages ps) →
        t.ending = none ∧
        t.decoder.format = (if s.greeting = [] ∧ packets = [] then none else some s.format) ∧
        t.packets.map Packet.frame = packets.map Packet.frame from
    h packets rfl
  induction stages with
  | nil => exact fun ps _ s t h => (List.not_mem_nil h).elim
  | cons s stages ih =>
    intro ps hps s' t ht
    obtain ⟨hending, hformat, hframes⟩ := s.read_stream ps
    have hnil : ps = [] ↔ packets = [] := by
      rw [← List.map_eq_nil_iff (f := Packet.frame), hps, List.map_eq_nil_iff]
    rw [chain, List.zip_cons_cons] at ht
    rcases List.mem_cons.1 ht with heq | hmem
    · cases heq
      simp only [hnil] at hformat
      exact ⟨hending, hformat, hframes.trans hps⟩
    · exact ih _ (hframes.trans hps) s' t hmem

/-- A stage between two buses whose stream arrives byte by byte. -/
def Stage.bytewise (f : Format) (hf : f ∈ Format.readable) : Stage where
  format := f
  readable := hf
  sender := ⟨⟨Vector.replicate 16 1⟩, Server.usualVersion⟩
  started := 0
  now := 0
  greeting :=
    ((Encoder.fresh f 0).greeting ⟨⟨Vector.replicate 16 1⟩, Server.usualVersion⟩ 0).toOption.getD []
  greets := by cases f <;> rfl
  fits := by cases f <;> decide +kernel
  own := .nil
  source := .nil
  foreign := fun _ => by decide
  cut := fun data => data.map fun b => [b]
  flatten_cut := fun data => by induction data <;> simp_all

/-- A short, a Mode-AC and a long frame go through all formats. -/
theorem chain_faithful_all_formats :
    let stages := [Stage.bytewise .json (by decide), .bytewise .beast (by decide),
      .bytewise .proto (by decide), .bytewise .raw (by decide), .bytewise .airspy (by decide)]
    let p : Packet :=
      { Packet.blank ⟨Vector.replicate 16 0x5A⟩ with mlat := 720, rssi := 0x40000000, hops := 3 }
    let frames : List (Kind × Bytes) := [(.short, [0x02, 0xE1, 0x97, 0xB0, 0x7A, 0xD2, 0xC3]),
      (.modeAC, [0x77, 0x01]),
      (.long, [0x8D, 0x48, 0x40, 0xD6, 0x20, 0x2C, 0xC3, 0x71, 0xC3, 0x2C, 0xE0, 0x57, 0x60, 0x98])]
    ∀ s t, (s, t) ∈ stages.zip (chain stages (frames.map fun (k, data) => p.setPayload k data)) →
      t.ending = none ∧ t.decoder.format = some s.format ∧ t.packets.map Packet.frame = frames := by
  intro stages p frames s t h
  have hnonempty : (frames.map fun (k, data) => p.setPayload k data) ≠ [] := List.cons_ne_nil _ _
  have hsent : (frames.map fun (k, data) => p.setPayload k data).map Packet.frame = frames := by
    decide +kernel
  obtain ⟨hending, hformat, hframes⟩ := (chain_faithful stages _).2 s t h
  rw [if_neg fun hnil => hnonempty hnil.2] at hformat
  exact ⟨hending, hformat, hframes.trans hsent⟩

end Squitter
