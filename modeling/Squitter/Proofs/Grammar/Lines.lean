import Squitter.Proofs.Clocks.Widening
import Squitter.Proofs.Grammar.Basic
import Squitter.Proofs.Grammar.Digits
import Squitter.Proofs.Levels

/-!
# The grammars of lines

The lines of the two line formats are spelled as fields of hexadecimal digits of either case,
each with a semicolon behind it, between an asterisk and the end of the line
(`Wire.Airspy.Spelling`, `Wire.Raw.Spelling`).

**One spelling.** Since no digit is a semicolon, the fields of a line are found again from its
bytes, and the length of the first one tells the kind. Thus a line reads in one kind only, and the
order in which the kinds are tried does not matter (`Kind.findSome?_perm`).

**The result** (`Wire.lines_exact`). Both formats follow their grammars, and every field is
read as what its digits write.
-/

namespace Squitter

/-! ## Kinds -/

namespace Kind

/-- The number of digits tells the kind. -/
theorem eq_of_isText {k k' : Kind} {hex : Bytes} (h : Hex.IsText (2 * k.payloadLength) hex)
    (h' : Hex.IsText (2 * k'.payloadLength) hex) : k = k' := by
  have hlen := h.1.symm.trans h'.1
  cases k <;> cases k' <;> first | rfl | cases hlen

variable {β : Type} {f : Kind → Option β} {kinds : List Kind}

/-- Where one kind reads something, it is found wherever it stands. -/
theorem findSome?_of_mem (hunique : ∀ k k', (f k).isSome → (f k').isSome → k = k')
    {k : Kind} {b : β} (hk : k ∈ kinds) (hf : f k = some b) : kinds.findSome? f = some b := by
  cases hfound : kinds.findSome? f with
  | none =>
    rw [List.findSome?_eq_none_iff.1 hfound k hk] at hf
    cases hf
  | some b' =>
    obtain ⟨k', -, hf'⟩ := List.exists_of_findSome?_eq_some hfound
    obtain rfl := hunique k k' (by rw [hf]; rfl) (by rw [hf']; rfl)
    rw [← hf', hf]

/-- **The order of the kinds does not matter**, as only one of them reads something. -/
theorem findSome?_perm (hunique : ∀ k k', (f k).isSome → (f k').isSome → k = k')
    (hkinds : kinds.Perm all) : kinds.findSome? f = all.findSome? f := by
  by_cases hnone : ∀ k, f k = none
  · rw [List.findSome?_eq_none_iff.2 fun k _ => hnone k,
      List.findSome?_eq_none_iff.2 fun k _ => hnone k]
  · obtain ⟨k, hk⟩ := Classical.not_forall.1 hnone
    obtain ⟨b, hf⟩ := Option.ne_none_iff_exists'.1 hk
    rw [findSome?_of_mem hunique (hkinds.mem_iff.2 k.mem_all) hf,
      findSome?_of_mem hunique k.mem_all hf]

end Kind

namespace Wire

/-! ## Ends of lines -/

/-- A line feed, or a carriage return before it. -/
def lineEnds : List Bytes := [[0x0A], [0x0D, 0x0A]]

theorem lineEnd?_of_mem {ending : Bytes} (h : ending ∈ lineEnds) (rest : Bytes) :
    lineEnd? (ending ++ rest) = some ending.length := by
  rcases List.mem_cons.1 h with rfl | h
  · rfl
  · rw [List.mem_singleton.1 h]
    rfl

theorem exists_ending_of_lineEnd? {data : Bytes} {n : Nat} (h : lineEnd? data = some n) :
    ∃ ending ∈ lineEnds, ∃ rest, data = ending ++ rest := by
  unfold lineEnd? at h
  split at h
  · exact ⟨[0x0A], by decide, _, rfl⟩
  · exact ⟨[0x0D, 0x0A], by decide, _, rfl⟩
  · cases h

theorem ending_append_inj {ending ending' rest rest' : Bytes} (hmem : ending ∈ lineEnds)
    (hmem' : ending' ∈ lineEnds) (h : ending ++ rest = ending' ++ rest') :
    ending = ending' ∧ rest = rest' := by
  have hlen := lineEnd?_of_mem hmem rest
  rw [h, lineEnd?_of_mem hmem' rest'] at hlen
  exact List.append_inj h (Option.some.inj hlen).symm

/-! ## Lines with a counter and a level -/

namespace Airspy

/-- A kind, the digits of the four fields, and the end of the line. -/
@[ext]
structure Spelling where
  kind : Kind
  hex : Bytes
  ticks : Bytes
  half : Bytes
  strength : Bytes
  ending : Bytes
  isText_hex : Hex.IsText (2 * kind.payloadLength) hex
  isText_ticks : Hex.IsText 8 ticks
  isText_half : Hex.IsText 2 half
  isText_strength : Hex.IsText 4 strength
  half_pos : 1 ≤ Hex.value half
  half_le : Hex.value half ≤ 60
  ending_mem : ending ∈ lineEnds

namespace Spelling

/-- The bytes of a line. -/
def text (s : Spelling) : Bytes :=
  asterisk :: (s.hex ++ semicolon :: (s.ticks ++ semicolon :: (s.half ++ semicolon ::
    (s.strength ++ semicolon :: s.ending))))

/-- The fields of a line, as the values of their digits. -/
def line (s : Spelling) : Line where
  kind := s.kind
  payload := Hex.pairs s.hex
  reading := .ofNat (Hex.value s.ticks)
  mhz := .ofNat (2 * Hex.value s.half)
  level := .ofNat (Hex.value s.strength)

theorem text_append (s : Spelling) (rest : Bytes) :
    s.text ++ rest = asterisk :: (s.hex ++ semicolon :: (s.ticks ++ semicolon ::
      (s.half ++ semicolon :: (s.strength ++ semicolon :: (s.ending ++ rest))))) := by
  simp only [text, List.cons_append, List.append_assoc]

theorem length_text (s : Spelling) :
    s.text.length = 2 * s.kind.payloadLength + 19 + s.ending.length := by
  simp only [text, List.length_cons, List.length_append, s.isText_hex.1, s.isText_ticks.1,
    s.isText_half.1, s.isText_strength.1]
  omega

theorem toNat_reading (s : Spelling) : s.line.reading.toNat = Hex.value s.ticks :=
  s.isText_ticks.toNat_value (by decide)

theorem toNat_mhz (s : Spelling) : s.line.mhz.toNat = 2 * Hex.value s.half := by
  have hle := s.half_le
  show (UInt32.ofNat _).toNat = _
  rw [UInt32.toNat_ofNat', Nat.mod_eq_of_lt (by omega)]

theorem toNat_level (s : Spelling) : s.line.level.toNat = Hex.value s.strength := by
  have hlt := s.isText_strength.value_lt
  show (UInt32.ofNat _).toNat = _
  rw [UInt32.toNat_ofNat', Nat.mod_eq_of_lt (by omega)]

theorem level_le (s : Spelling) : s.line.level ≤ ceiling := by
  have hlt := s.isText_strength.value_lt
  rw [UInt32.le_iff_toNat_le, toNat_level]
  exact Nat.le_of_lt_succ hlt

theorem validMHz (s : Spelling) : Mlat.validMHz s.line.mhz := by
  have hpos := s.half_pos
  have hle := s.half_le
  rw [Mlat.validMHz_iff, toNat_mhz]
  omega

theorem readKind?_text_append (s : Spelling) (rest : Bytes) :
    readKind? s.kind (s.text ++ rest) = some (s.line, s.text.length) := by
  have hmhz : s.line.mhz = 2 * (UInt64.ofNat (Hex.value s.half)).toUInt32 := by
    have hle := s.half_le
    apply UInt32.toNat_inj.1
    rw [toNat_mhz, UInt32.toNat_mul, UInt64.toNat_toUInt32, s.isText_half.toNat_value (by decide)]
    show _ = 2 * _ % 2 ^ 32
    omega
  have hlevel : s.line.level = (UInt64.ofNat (Hex.value s.strength)).toUInt32 := by
    have hlt := s.isText_strength.value_lt
    apply UInt32.toNat_inj.1
    rw [toNat_level, UInt64.toNat_toUInt32, s.isText_strength.toNat_value (by decide)]
    omega
  have hvalid := s.validMHz
  rw [hmhz] at hvalid
  refine readKind?_eq_some_iff.2 ⟨s.hex, s.ticks, s.half, s.strength, s.ending ++ rest, _, _, _, _,
    _, s.text_append rest, s.isText_hex.1, s.isText_ticks.1, s.isText_half.1, s.isText_strength.1,
    lineEnd?_of_mem s.ending_mem rest, s.isText_half.toInt?_eq (by decide) (by decide), hvalid,
    s.isText_ticks.toInt?_eq (by decide) (by decide),
    s.isText_strength.toInt?_eq (by decide) (by decide), s.isText_hex.decode?_eq, ?_, s.length_text⟩
  rw [← hmhz, ← hlevel]
  rfl

theorem read?_text_append (s : Spelling) (rest : Bytes) :
    read? (s.text ++ rest) = some (s.line, s.text.length) :=
  read?_eq_some_iff.2 ⟨s.kind, s.readKind?_text_append rest⟩

theorem text_append_inj {s s' : Spelling} {rest rest' : Bytes}
    (h : s.text ++ rest = s'.text ++ rest') : s = s' ∧ rest = rest' := by
  rw [text_append, text_append] at h
  obtain ⟨hhex, h⟩ := digits_eq_of_append_eq (List.cons.inj h).2 s.isText_hex.isSome_digit?
    s'.isText_hex.isSome_digit?
  obtain ⟨hticks, h⟩ := digits_eq_of_append_eq h s.isText_ticks.isSome_digit?
    s'.isText_ticks.isSome_digit?
  obtain ⟨hhalf, h⟩ := digits_eq_of_append_eq h s.isText_half.isSome_digit?
    s'.isText_half.isSome_digit?
  obtain ⟨hstrength, h⟩ := digits_eq_of_append_eq h s.isText_strength.isSome_digit?
    s'.isText_strength.isSome_digit?
  obtain ⟨hending, hrest⟩ := ending_append_inj s.ending_mem s'.ending_mem h
  have hkind := Kind.eq_of_isText s.isText_hex (hhex.symm ▸ s'.isText_hex)
  exact ⟨Spelling.ext hkind hhex hticks hhalf hstrength hending, hrest⟩

end Spelling

/-- How lines are spelled, and what they make of a packet. -/
def grammar : Grammar where
  Spelling := Spelling
  text := Spelling.text
  fill s := fill s.line

/-- What reads as a line begins with a spelling. -/
theorem leads_of_read? {data : Bytes} {l : Line} {n : Nat} (h : read? data = some (l, n)) :
    grammar.Leads data := by
  obtain ⟨kind, hkind⟩ := read?_eq_some_iff.1 h
  obtain ⟨hex, ticks, half, strength, tail, _, mhz, _, _, _, rfl, hhex, hticks, hhalf,
    hstrength, hend,
    hmhz, hvalid, hreading, hlevel, hpayload, -, -⟩ := readKind?_eq_some_iff.1 hkind
  obtain ⟨ending, hmem, rest, rfl⟩ := exists_ending_of_lineEnd? hend
  have hhalf' : Hex.IsText 2 half := hhalf ▸ Hex.isText_of_toInt? hmhz
  have hrate : 1 ≤ Hex.value half ∧ Hex.value half ≤ 60 := by
    have hlt := hhalf'.value_lt
    rw [hhalf'.toInt?_eq (by decide) (by decide)] at hmhz
    obtain rfl := Option.some.inj hmhz
    rw [Mlat.validMHz_iff, UInt32.toNat_mul, UInt64.toNat_toUInt32,
      hhalf'.toNat_value (by decide)] at hvalid
    change 0 < 2 * _ % 2 ^ 32 ∧ 2 * _ % 2 ^ 32 ≤ 120 at hvalid
    omega
  let s : Spelling :=
    ⟨kind, hex, ticks, half, strength, ending, hhex ▸ Hex.isText_of_decode? hpayload,
    hticks ▸ Hex.isText_of_toInt? hreading, hhalf',
    hstrength ▸ Hex.isText_of_toInt? hlevel, hrate.1, hrate.2, hmem⟩
  exact ⟨s, rest, (s.text_append rest).symm⟩

theorem describes : grammar.Describes .airspy where
  reads own s rest p l := by
    show Format.airspy.read own (s.text ++ rest) p l = _
    rw [Format.read, s.read?_text_append]
    rfl
  ignores own data p l := by
    refine Grammar.eq_none_of_not_leads (fun hread => ?_) fun _ hread => leads_of_read? hread
    rw [Format.read, hread]
    rfl
  unique _ _ _ _ := Spelling.text_append_inj

end Airspy

/-! ## Lines with a payload only -/

namespace Raw

/-- A kind, the digits of the payload, and the end of the line. -/
@[ext]
structure Spelling where
  kind : Kind
  hex : Bytes
  ending : Bytes
  isText_hex : Hex.IsText (2 * kind.payloadLength) hex
  ending_mem : ending ∈ lineEnds

namespace Spelling

/-- The bytes of a line. -/
def text (s : Spelling) : Bytes :=
  asterisk :: (s.hex ++ semicolon :: s.ending)

theorem text_append (s : Spelling) (rest : Bytes) :
    s.text ++ rest = asterisk :: (s.hex ++ semicolon :: (s.ending ++ rest)) := by
  simp only [text, List.cons_append, List.append_assoc]

theorem length_text (s : Spelling) :
    s.text.length = 2 * s.kind.payloadLength + 2 + s.ending.length := by
  simp only [text, List.length_cons, List.length_append, s.isText_hex.1]
  omega

theorem read?_text_append (s : Spelling) (rest : Bytes) :
    read? (s.text ++ rest) = some (s.kind, Hex.pairs s.hex, s.text.length) :=
  read?_eq_some_iff.2 (readKind?_eq_some_iff.2 ⟨s.hex, s.ending ++ rest, _, s.text_append rest,
    s.isText_hex.1, lineEnd?_of_mem s.ending_mem rest, s.isText_hex.decode?_eq, s.length_text⟩)

theorem text_append_inj {s s' : Spelling} {rest rest' : Bytes}
    (h : s.text ++ rest = s'.text ++ rest') : s = s' ∧ rest = rest' := by
  rw [text_append, text_append] at h
  obtain ⟨hhex, h⟩ := digits_eq_of_append_eq (List.cons.inj h).2 s.isText_hex.isSome_digit?
    s'.isText_hex.isSome_digit?
  obtain ⟨hending, hrest⟩ := ending_append_inj s.ending_mem s'.ending_mem h
  have hkind := Kind.eq_of_isText s.isText_hex (hhex.symm ▸ s'.isText_hex)
  exact ⟨Spelling.ext hkind hhex hending, hrest⟩

end Spelling

/-- How lines are spelled, and what they make of a packet. -/
def grammar : Grammar where
  Spelling := Spelling
  text := Spelling.text
  fill s p clock := (p.setPayload s.kind (Hex.pairs s.hex), clock)

/-- What reads as a line begins with a spelling. -/
theorem leads_of_read? {data payload : Bytes} {kind : Kind} {n : Nat}
    (h : read? data = some (kind, payload, n)) : grammar.Leads data := by
  obtain ⟨hex, tail, _, rfl, hhex, hend, hpayload, -⟩ :=
    readKind?_eq_some_iff.1 (read?_eq_some_iff.1 h)
  obtain ⟨ending, hmem, rest, rfl⟩ := exists_ending_of_lineEnd? hend
  let s : Spelling := ⟨kind, hex, ending, hhex ▸ Hex.isText_of_decode? hpayload, hmem⟩
  exact ⟨s, rest, (s.text_append rest).symm⟩

theorem describes : grammar.Describes .raw where
  reads own s rest p l := by
    show Format.raw.read own (s.text ++ rest) p l = _
    rw [Format.read, s.read?_text_append]
    rfl
  ignores own data p l := by
    refine Grammar.eq_none_of_not_leads (fun hread => ?_) fun _ hread => leads_of_read? hread
    rw [Format.read, hread]
    rfl
  unique _ _ _ _ := Spelling.text_append_inj

end Raw

/-! ## Both formats -/

/-- No line of the one format is a line of the other. -/
theorem not_leads_raw_of_airspy {data : Bytes} (h : Airspy.grammar.Leads data) :
    ¬ Raw.grammar.Leads data := by
  rintro ⟨s, rest, rfl⟩
  obtain ⟨s', rest', heq⟩ := h
  have hraw := Raw.describes.reads .nil s rest (.blank .nil) .fresh
  have hairspy := Airspy.describes.reads .nil s' rest' (.blank .nil) .fresh
  rw [← heq] at hairspy
  rw [Format.read_raw_of_airspy (by rw [hairspy]; simp)] at hraw
  cases hraw

/-- **Lines are read exactly.** A buffer holds a packet of a line format exactly if a line stands at
its front, whose bytes are then taken, and every field is the value of its digits. A line is of one
kind only, in whatever order the kinds are tried, and of one format only. -/
theorem lines_exact :
    (Airspy.grammar.Exact .airspy ∧ Raw.grammar.Exact .raw) ∧
    (∀ (s : Airspy.Spelling) (p : Packet) (clock : Mlat.History),
      let q := (Airspy.grammar.fill s p clock).1
      q.kind = s.kind ∧ q.content = Hex.pairs s.hex ∧
        s.line.reading.toNat = Hex.value s.ticks ∧ s.line.mhz.toNat = 2 * Hex.value s.half ∧
        q.mlat = (Mlat.widen s.line.reading Airspy.width s.line.mhz clock).1 ∧
        q.rssi.toNat = Hex.value s.strength * 65537) ∧
    (∀ (s : Raw.Spelling) (p : Packet) (clock : Mlat.History),
      let q := (Raw.grammar.fill s p clock).1
      q.kind = s.kind ∧ q.content = Hex.pairs s.hex ∧ q.mlat = p.mlat ∧ q.rssi = p.rssi ∧
        (Raw.grammar.fill s p clock).2 = clock) ∧
    ∀ data : Bytes,
      (∀ k k', (Airspy.readKind? k data).isSome → (Airspy.readKind? k' data).isSome → k = k') ∧
      (∀ k k', (Raw.readKind? k data).isSome → (Raw.readKind? k' data).isSome → k = k') ∧
      (∀ kinds : List Kind, kinds.Perm Kind.all →
        (kinds.findSome? fun k => Airspy.readKind? k data) = Airspy.read? data ∧
        (kinds.findSome? fun k => (Raw.readKind? k data).map fun r => (k, r)) = Raw.read? data) ∧
      (Airspy.grammar.Leads data → ¬ Raw.grammar.Leads data) := by
  refine ⟨⟨Airspy.describes.exact, Raw.describes.exact⟩, fun s p clock => ?_, fun s p clock => ?_,
    fun data => ⟨fun _ _ => Airspy.startsAtPayload_readKind?.eq_of_isSome,
      fun _ _ => Raw.startsAtPayload_readKind?.eq_of_isSome,
      fun kinds hkinds => ⟨?_, ?_⟩, not_leads_raw_of_airspy⟩⟩
  · have hpayload : (Hex.pairs s.hex).length = s.kind.payloadLength :=
      Hex.length_pairs s.isText_hex.1
    refine ⟨rfl, Packet.content_setPayload p s.kind _ hpayload, s.toNat_reading,
      s.toNat_mhz, rfl, ?_⟩
    show (Rssi.widen s.line.level Airspy.ceiling).toNat = _
    rw [Rssi.toNat_widen s.level_le, s.toNat_level]
    rfl
  · have hpayload : (Hex.pairs s.hex).length = s.kind.payloadLength :=
      Hex.length_pairs s.isText_hex.1
    exact ⟨rfl, Packet.content_setPayload p s.kind _ hpayload, rfl, rfl, rfl⟩
  · exact Kind.findSome?_perm (fun _ _ => Airspy.startsAtPayload_readKind?.eq_of_isSome) hkinds
  · refine Kind.findSome?_perm (fun k k' h h' => ?_) hkinds
    rw [Option.isSome_map] at h h'
    exact Raw.startsAtPayload_readKind?.eq_of_isSome h h'

/-- A line with digits of both cases and a bare line feed. -/
def mixedCase : Airspy.Spelling where
  kind := .modeAC
  hex := utf8 "0aF0"
  ticks := utf8 "000000fF"
  half := utf8 "3c"
  strength := utf8 "00Ab"
  ending := [0x0A]
  isText_hex := by decide +kernel
  isText_ticks := by decide +kernel
  isText_half := by decide +kernel
  isText_strength := by decide +kernel
  half_pos := by decide
  half_le := by decide
  ending_mem := by decide

/-- Only the line is taken, though another one follows it; and its kind is found in any order. -/
theorem lines_exact_mixedCase :
    let rest : Bytes := utf8 "*7700;"
    let i : Intake := ⟨⟨1024, 0, mixedCase.text ++ rest⟩, .blank .nil, .fresh⟩
    let i' := (Format.airspy.parse .nil i).2
    mixedCase.text = utf8 "*0aF0;000000fF;3c;00Ab;\n" ∧
      (Format.airspy.parse .nil i).1 = .ok (some .frame) ∧ i'.buffer.data = rest ∧
      i'.packet.content = [0x0A, 0xF0] ∧ i'.packet.mlat = 255 ∧ i'.packet.rssi = 171 * 65537 ∧
      Format.raw.parse .nil i' = (.ok none, i') ∧
      ([Kind.long, .modeAC, .short].findSome? fun k => Airspy.readKind? k i.buffer.data) =
        Airspy.read? i.buffer.data := by
  intro rest i i'
  obtain ⟨⟨hairspy, hraw⟩, -, -, hdata⟩ := lines_exact
  have hfront : i.buffer.data = Airspy.grammar.text mixedCase ++ rest := rfl
  obtain ⟨hparse, hrest⟩ := hairspy.takes .nil i mixedCase rest hfront
  have hleft : i'.buffer.data = rest := (congrArg (·.2.buffer.data) hparse).trans hrest
  have hnone : (Format.raw.parse .nil i').1 = .ok none := rfl
  obtain ⟨-, -, horder, -⟩ := hdata i.buffer.data
  have hkinds : [Kind.long, .modeAC, .short].Perm Kind.all := by decide
  exact ⟨by decide, congrArg (·.1) hparse, hleft, by decide, by decide, by decide,
    hraw.waits .nil i' (hraw.not_leads hnone), (horder _ hkinds).1⟩

end Wire
end Squitter
