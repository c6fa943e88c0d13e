import Squitter.Proofs.Grammar.Basic
import Squitter.Proofs.Levels

/-!
# The grammar of frames

A frame of the beast format is spelled (`Wire.Beast.Spelling`) as the escape byte, the
type byte of a kind, and a body of seven bytes and the payload of the kind, in which
every escape byte is doubled.

**Bodies** (`undouble?_eq_some_iff`). A text that reads as a body begins with the doubled form of
that body, and the bytes it takes up are those of the doubled form. By induction along the reading,
which takes one byte of the body at each step: a pair of escape bytes, or one byte that is none.

**The result** (`frames_exact`). The format follows this grammar, and the fields are those of the
body without the doubling. What is written for packets is spelled so, whatever the bytes of their
fields are, and thus the boundaries between the frames of a stream are found again.
-/

namespace Squitter.Wire.Beast

/-! ## Bodies -/

theorem double_escape_cons (body : Bytes) :
    double (escape :: body) = escape :: escape :: double body := by
  rw [double, List.flatMap_cons, if_pos rfl]
  rfl

theorem double_cons_of_ne {b : UInt8} (hb : b ≠ escape) (body : Bytes) :
    double (b :: body) = b :: double body := by
  rw [double, List.flatMap_cons, if_neg hb]
  rfl

/-- What reads as a body begins with its doubled form. -/
theorem exists_double_of_undouble? {n used : Nat} {data body : Bytes}
    (h : undouble? n data = some (body, used)) :
    body.length = n ∧ ∃ rest, data = double body ++ rest := by
  fun_induction undouble? n data generalizing body used with
  | case1 data =>
    obtain ⟨rfl, -⟩ := Prod.mk.inj (Option.some.inj h)
    exact ⟨rfl, data, rfl⟩
  | case2 n data ih =>
    obtain ⟨⟨body', used'⟩, h₁, h₂⟩ := Option.map_eq_some_iff.1 h
    obtain ⟨rfl, -⟩ := Prod.mk.inj h₂
    obtain ⟨hlen, rest, rfl⟩ := ih h₁
    exact ⟨congrArg (· + 1) hlen, rest, by rw [double_escape_cons]; rfl⟩
  | case3 => cases h
  | case4 => cases h
  | case5 n b data hb ih =>
    obtain ⟨⟨body', used'⟩, h₁, h₂⟩ := Option.map_eq_some_iff.1 h
    obtain ⟨rfl, -⟩ := Prod.mk.inj h₂
    obtain ⟨hlen, rest, rfl⟩ := ih h₁
    exact ⟨congrArg (· + 1) hlen, rest, by rw [double_cons_of_ne hb]; rfl⟩
  | case6 => cases h

/-- **Which texts read as a body**: those that begin with its doubled form. -/
theorem undouble?_eq_some_iff {n used : Nat} {data body : Bytes} :
    undouble? n data = some (body, used) ↔
      body.length = n ∧ used = (double body).length ∧ ∃ rest, data = double body ++ rest := by
  constructor
  · intro h
    obtain ⟨rfl, rest, rfl⟩ := exists_double_of_undouble? h
    rw [undouble?_double_append] at h
    exact ⟨rfl, (Prod.mk.inj (Option.some.inj h)).2.symm, rest, rfl⟩
  · rintro ⟨rfl, rfl, rest, rfl⟩
    exact undouble?_double_append body rest

/-- Only one body of a length stands at the front. -/
theorem double_append_inj {body body' rest rest' : Bytes} (hlen : body.length = body'.length)
    (h : double body ++ rest = double body' ++ rest') : body = body' ∧ rest = rest' := by
  have hread := undouble?_double_append body rest
  rw [h, hlen, undouble?_double_append] at hread
  obtain ⟨rfl, -⟩ := Prod.mk.inj (Option.some.inj hread)
  exact ⟨rfl, List.append_cancel_left h⟩

theorem typeByte_of_kindOf? {type : UInt8} {kind : Kind} (h : kindOf? type = some kind) :
    typeByte kind = type := by
  have hfound := List.find?_some h
  exact of_decide_eq_true hfound

/-! ## Frames -/

/-- A kind, and a body of the length for it. -/
structure Spelling where
  kind : Kind
  body : Bytes
  length_body : body.length = 7 + kind.payloadLength

namespace Spelling

/-- The bytes of a frame. -/
def text (s : Spelling) : Bytes :=
  escape :: typeByte s.kind :: double s.body

/-- The contents of a frame: six bytes of the counter, one of the level, and the payload. -/
def frame (s : Spelling) : Frame :=
  ⟨s.kind, UInt64.ofNat (Bytes.ofBigEndian (s.body.take 6)), s.body.getD 6 0, s.body.drop 7⟩

theorem length_payload (s : Spelling) : s.frame.payload.length = s.kind.payloadLength := by
  show (s.body.drop 7).length = _
  rw [List.length_drop, s.length_body, Nat.add_sub_cancel_left]

/-- The six bytes of the counter fit into the reading. -/
theorem toNat_reading (s : Spelling) :
    s.frame.reading.toNat = Bytes.ofBigEndian (s.body.take 6) := by
  have hlt := Bytes.ofBigEndian_lt (s.body.take 6)
  have hlen : (s.body.take 6).length = 6 := by
    rw [List.length_take, s.length_body]
    omega
  rw [hlen] at hlt
  show (UInt64.ofNat _).toNat = _
  rw [UInt64.toNat_ofNat', Nat.mod_eq_of_lt (Nat.lt_trans hlt (by decide))]

theorem length_text_lt (s : Spelling) : s.text.length < Buffer.usualCapacity := by
  have hbody := length_double_le s.body
  have hkind := s.kind.payloadLength_le
  have hlen := s.length_body
  simp only [text, List.length_cons, Buffer.usualCapacity]
  omega

theorem read?_text_append (s : Spelling) (rest : Bytes) :
    read? (s.text ++ rest) = some (s.frame, s.text.length) :=
  read?_eq_some_iff.2 ⟨typeByte s.kind, double s.body ++ rest, s.kind, s.body, _, rfl,
    kindOf?_typeByte s.kind, undouble?_eq_some_iff.2 ⟨s.length_body, rfl, rest, rfl⟩, rfl, rfl⟩

theorem text_append_inj {s s' : Spelling} {rest rest' : Bytes}
    (h : s.text ++ rest = s'.text ++ rest') : s = s' ∧ rest = rest' := by
  obtain ⟨kind, body, hbody⟩ := s
  obtain ⟨kind', body', hbody'⟩ := s'
  obtain ⟨htype, htail⟩ := List.cons.inj (List.cons.inj h).2
  have hkind := kindOf?_typeByte kind
  have hsame : typeByte kind = typeByte kind' := htype
  rw [hsame, kindOf?_typeByte] at hkind
  obtain rfl := Option.some.inj hkind
  obtain ⟨rfl, hrest⟩ := double_append_inj (hbody.trans hbody'.symm) htail
  exact ⟨rfl, hrest⟩

end Spelling

/-- How frames are spelled, and what they make of a packet. -/
def grammar : Grammar where
  Spelling := Spelling
  text := Spelling.text
  fill s := fill s.frame

/-- What reads as a frame begins with a spelling. -/
theorem leads_of_read? {data : Bytes} {f : Frame} {n : Nat} (h : read? data = some (f, n)) :
    grammar.Leads data := by
  obtain ⟨type, tail, kind, body, used, rfl, hkind, hbody, -, -⟩ := read?_eq_some_iff.1 h
  obtain ⟨hlen, -, rest, rfl⟩ := undouble?_eq_some_iff.1 hbody
  obtain rfl := typeByte_of_kindOf? hkind
  exact ⟨⟨kind, body, hlen⟩, rest, rfl⟩

theorem describes : grammar.Describes .beast where
  reads own s rest p l := by
    show Format.beast.read own (s.text ++ rest) p l = _
    rw [Format.read, s.read?_text_append]
    rfl
  ignores own data p l := by
    refine Grammar.eq_none_of_not_leads (fun hread => ?_) fun _ hread => leads_of_read? hread
    rw [Format.read, hread]
    rfl
  unique _ _ _ _ := Spelling.text_append_inj

/-! ## Packets -/

/-- The frame that is written for a packet. -/
def frameOf (p : Packet) : Frame :=
  ⟨p.kind, Mlat.narrow p.mlat width mhz, levelByte p.rssi, p.content⟩

/-- The spelling that is written for a packet. -/
def spelled (p : Packet) : Spelling where
  kind := p.kind
  body := Bytes.bigEndian 6 (Mlat.narrow p.mlat width mhz).toNat ++ levelByte p.rssi :: p.content
  length_body := by
    rw [List.length_append, List.length_cons, Bytes.length_bigEndian, p.length_content]
    omega

theorem text_spelled (p : Packet) : (spelled p).text = write p := rfl

theorem frame_spelled (p : Packet) : (spelled p).frame = frameOf p := by
  have hread := (spelled p).read?_text_append []
  rw [text_spelled, read?_write_append] at hread
  exact (Prod.mk.inj (Option.some.inj hread)).1.symm

theorem map_text_spelled (packets : List Packet) :
    (packets.map spelled).map grammar.text = packets.map write :=
  List.map_map

/-- **Frames are read exactly.** A buffer holds a packet exactly if a frame stands at its front,
whose bytes are then taken, and all fields come from the body without the doubling. The frames that
are written for any packets are read one a call, each of them at its boundary, and are delivered
whatever pieces of their stream arrive together. -/
theorem frames_exact :
    grammar.Exact .beast ∧
    (∀ (s : Spelling) (p : Packet) (clock : Mlat.History),
      let q := (grammar.fill s p clock).1
      q.kind = s.kind ∧ q.content = s.body.drop 7 ∧
        s.frame.reading.toNat = Bytes.ofBigEndian (s.body.take 6) ∧
        q.mlat = (Mlat.widen s.frame.reading width mhz clock).1 ∧
        q.rssi.toNat =
          if s.body.getD 6 0 = unmeasured then 0 else (s.body.getD 6 0).toNat * 0x1010101) ∧
    (∀ (own : Uuid) (i : Intake) (before : List Packet) (p : Packet) (later : List Packet)
      (rest : Bytes), i.buffer.data = ((before ++ p :: later).map write).flatten ++ rest →
        let j := Format.beast.afterCalls own before.length i
        let j' := grammar.after (spelled p) j
        j.buffer.data = write p ++ ((later.map write).flatten ++ rest) ∧
          Format.beast.parse own j = (.ok (some .frame), j') ∧
          j'.buffer.data = (later.map write).flatten ++ rest ∧
          j'.packet = (fill (frameOf p) j.packet j.link.clock).1) ∧
    ∀ (own source : Uuid) (packets : List Packet),
      Reception.Delivers own source (packets.map write).flatten
        ((grammar.packets source .fresh (packets.map spelled)).map .frame) := by
  have hexact := describes.exact
  refine ⟨hexact, fun s p clock => ?_, fun own i before p later rest hdata => ?_,
    fun own source packets => ?_⟩
  · refine ⟨rfl, Packet.content_setPayload p s.kind _ s.length_payload, s.toNat_reading, rfl, ?_⟩
    show (levelOf (s.body.getD 6 0)).toNat = _
    by_cases hlevel : s.body.getD 6 0 = unmeasured
    · rw [if_pos hlevel, hlevel]
      rfl
    · rw [if_neg hlevel, toNat_levelOf hlevel]
  · have hspelled : i.buffer.data =
        ((before.map spelled ++ spelled p :: later.map spelled).map grammar.text).flatten ++
          rest := by
      rw [hdata, ← map_text_spelled, List.map_append, List.map_cons]
    have hnumber : (before.map spelled).length = before.length := List.length_map spelled
    have hnext : (Format.beast.afterCalls own before.length i).buffer.data =
        grammar.text (spelled p) ++ ((later.map write).flatten ++ rest) := by
      rw [← hnumber, ← map_text_spelled later]
      exact hexact.data_afterCalls own hspelled
    obtain ⟨hparse, hrest⟩ := hexact.takes own _ (spelled p) _ hnext
    refine ⟨hnext, hparse, hrest, ?_⟩
    show (fill (spelled p).frame _ _).1 = _
    rw [frame_spelled]
  · rw [← map_text_spelled]
    exact describes.delivers (by decide) Format.noConfusion Spelling.length_text_lt own source _

/-- A packet with escape bytes in all its fields, also at the end. -/
def stuffed : Packet :=
  { (Packet.blank .nil).setPayload .modeAC [0x1A, 0x1A] with mlat := 260, rssi := 0x1A1A1A1A }

/-- The second of two frames is read at its boundary, and the start of a third is left to wait. -/
theorem frames_exact_stuffed :
    let start : Bytes := [0x1A, 0x31, 0x1A]
    let i : Intake := ⟨⟨1024, 0, write stuffed ++ (write stuffed ++ start)⟩, .blank .nil, .fresh⟩
    let j := Format.beast.afterCalls .nil 1 i
    let j' := (Format.beast.parse .nil j).2
    write stuffed = [0x1A, 0x31, 0, 0, 0, 0, 0, 0x1A, 0x1A, 0x1A, 0x1A, 0x1A, 0x1A, 0x1A, 0x1A] ∧
      j.buffer.data = write stuffed ++ start ∧ (Format.beast.parse .nil j).1 = .ok (some .frame) ∧
      j'.buffer.data = start ∧ Format.beast.parse .nil j' = (.ok none, j') := by
  intro start i j j'
  have hdata : i.buffer.data = (([stuffed] ++ stuffed :: []).map write).flatten ++ start := by
    decide
  obtain ⟨hexact, -, hstream, -⟩ := frames_exact
  obtain ⟨hnext, hparse, hrest, -⟩ := hstream .nil i [stuffed] stuffed [] start hdata
  have hstart : j'.buffer.data = start := (congrArg (·.2.buffer.data) hparse).trans hrest
  have hnone : (Format.beast.parse .nil j').1 = .ok none := rfl
  exact ⟨by decide, hnext, congrArg (·.1) hparse, hstart,
    hexact.waits .nil j' (hexact.not_leads hnone)⟩

end Squitter.Wire.Beast
