import Squitter.Proofs.Grammar.Digits

/-!
# Hexadecimal text both ways

Hexadecimal text is appended to what was written before it, digit by digit
(`Hex.push`, `Hex.pushInt`). Read back, it gives what was written, and letters may be
of either case (`Hex.SameLetters`).

**Byte strings** (`Hex.decodeInto_eq_true_iff`, `Hex.decodeInto_eq_iff`). A text fills a buffer if
and only if it has two digits for each byte of the buffer and nothing else. The bytes are those for
which the same text is written, up to the case of letters.

**Numbers** (`Hex.foldl_place_ofInt`, `Hex.toInt?_eq_some_iff`). The digits of a number write its
remainder by the power of 16 they have room for, however many they are. A text is read as a number
if and only if it has 1 to 16 digits and nothing else (`Hex.isSome_toInt?_iff`), and as the number
that it writes, of which no bit is lost.
-/

namespace Squitter.Hex

/-- Two texts are the same but for the case of ASCII letters. -/
def SameLetters (text text' : Bytes) : Prop :=
  text.map Uuid.lowerLetter = text'.map Uuid.lowerLetter

instance (text text' : Bytes) : Decidable (SameLetters text text') :=
  inferInstanceAs (Decidable (_ = _))

/-- Append two digits for each byte. -/
def push (out data : Bytes) : Bytes :=
  data.foldl (fun out (b : UInt8) => out ++ [digit (b >>> 4)] ++ [digit b]) out

/-- Append the lowest hexadecimal digits of a number, the highest of them first. -/
def pushInt (out : Bytes) (value : UInt64) : (digits : Nat) → Bytes
  | 0 => out
  | n + 1 =>
    let nibble := if 64 ≤ 4 * n then digit 0 else digit (value >>> (4 * n).toUInt64).toUInt8
    pushInt (out ++ [nibble]) value n

variable {out text text' data : Bytes} {value : UInt64} {n : Nat}

/-! ## Appending -/

theorem push_eq (out data : Bytes) : push out data = out ++ encode data := by
  induction data generalizing out with
  | nil => exact (List.append_nil out).symm
  | cons b data ih =>
    rw [push, List.foldl_cons, encode_cons]
    show push _ data = _
    rw [ih]
    simp only [List.append_assoc, List.cons_append, List.nil_append]

theorem pushInt_eq (out : Bytes) (value : UInt64) (n : Nat) :
    pushInt out value n = out ++ ofInt value n := by
  induction n generalizing out with
  | zero => exact (List.append_nil out).symm
  | succ n ih =>
    have hroom : (64 ≤ 4 * n) ↔ ¬ n < 16 := by omega
    simp only [pushInt, ofInt, ih, hroom, ite_not, List.append_assoc, List.cons_append,
      List.nil_append]

/-! ## Digits -/

theorem digit_mem (b : UInt8) : digit b ∈ digits.take 16 := by
  have h : ∀ i : Fin 256, digit (.ofFin i) ∈ digits.take 16 := by decide +kernel
  exact h b.toFin

theorem place_digit (b : UInt8) : place (digit b) = b.toNat % 16 := by
  have h : ∀ i : Fin 256, place (digit (.ofFin i)) = i.val % 16 := by decide +kernel
  exact h b.toFin

theorem digit?_lowerLetter (c : UInt8) : digit? (Uuid.lowerLetter c) = digit? c := by
  have h : ∀ i : Fin 256, digit? (Uuid.lowerLetter (.ofFin i)) = digit? (.ofFin i) := by
    decide +kernel
  exact h c.toFin

/-- The case of letters does not matter for what digits stand for. -/
theorem SameLetters.map_digit? (h : SameLetters text text') :
    text.map digit? = text'.map digit? := by
  have hmap (t : Bytes) : t.map digit? = (t.map Uuid.lowerLetter).map digit? := by
    rw [List.map_map]
    exact List.map_congr_left fun c _ => (digit?_lowerLetter c).symm
  rw [hmap, h, ← hmap]

theorem SameLetters.length_eq (h : SameLetters text text') : text.length = text'.length := by
  have hmap := congrArg List.length h
  rwa [List.length_map, List.length_map] at hmap

/-- Two digits are those of the byte that they write. -/
theorem lowerLetter_pair {high low : UInt8} (hhigh : high ∈ digits) (hlow : low ∈ digits) :
    Uuid.lowerLetter high = Uuid.lowerLetter (digit (UInt8.ofNat (Hex.value [high, low]) >>> 4)) ∧
      Uuid.lowerLetter low = Uuid.lowerLetter (digit (.ofNat (Hex.value [high, low]))) := by
  have h : ∀ high ∈ digits, ∀ low ∈ digits,
      Uuid.lowerLetter high = Uuid.lowerLetter (digit (UInt8.ofNat (Hex.value [high, low]) >>> 4)) ∧
        Uuid.lowerLetter low = Uuid.lowerLetter (digit (.ofNat (Hex.value [high, low]))) := by
    decide +kernel
  exact h high hhigh low hlow

/-! ## Byte strings -/

/-- **When a text fills a buffer**: it has two digits for each byte, and nothing else. -/
theorem decodeInto_eq_true_iff : (decodeInto out text).1 = true ↔ IsText (2 * out.length) text := by
  constructor
  · intro h
    rw [decodeInto] at h
    split at h
    · rename_i hlen
      have hfilled : overwrite out text = (true, (overwrite out text).2) := Prod.ext h rfl
      exact ⟨hlen, fun c hc => isSome_digit?_iff.1 (digit?_of_overwrite hfilled hlen c hc)⟩
    · cases h
  · rintro ⟨hlen, hdigits⟩
    rw [decodeInto, if_pos hlen, overwrite_of_digits hdigits hlen]

theorem IsText.decodeInto_eq (h : IsText (2 * out.length) text) :
    decodeInto out text = (true, pairs text) := by
  rw [decodeInto, if_pos h.1, overwrite_of_digits h.2 h.1]

/-- The text is, but for the case of letters, what is written for its bytes. -/
theorem IsText.sameLetters_encode_pairs (h : IsText (2 * n) text) :
    SameLetters text (encode (pairs text)) := by
  obtain ⟨hlen, hdigits⟩ := h
  induction n generalizing text with
  | zero =>
    rw [List.eq_nil_of_length_eq_zero hlen]
    rfl
  | succ n ih =>
    obtain ⟨high, low, rest, rfl, hrest⟩ := exists_pair_of_length hlen
    have hlow := hdigits low (List.mem_cons_of_mem _ List.mem_cons_self)
    have hpair := lowerLetter_pair (hdigits high List.mem_cons_self) hlow
    have htail : SameLetters rest (encode (pairs rest)) :=
      ih hrest fun c hc => hdigits c (List.mem_cons_of_mem _ (List.mem_cons_of_mem _ hc))
    rw [SameLetters] at htail ⊢
    rw [pairs, encode_cons, List.map_cons, List.map_cons, List.map_cons, List.map_cons,
      hpair.1, hpair.2, htail]

/-- **What a text fills a buffer with**: the bytes for which it is written, in
either case of letters. -/
theorem decodeInto_eq_iff :
    decodeInto out text = (true, data) ↔
      data.length = out.length ∧ SameLetters text (encode data) := by
  constructor
  · intro h
    have htext : IsText (2 * out.length) text := decodeInto_eq_true_iff.1 (congrArg Prod.fst h)
    obtain rfl : pairs text = data := congrArg Prod.snd (htext.decodeInto_eq.symm.trans h)
    exact ⟨length_pairs htext.1, htext.sameLetters_encode_pairs⟩
  · rintro ⟨hlen, hletters⟩
    have htwice : text.length = 2 * out.length := by
      rw [hletters.length_eq, length_encode, hlen]
    rw [decodeInto, if_pos htwice, overwrite_congr hletters.map_digit?, overwrite_encode hlen.symm]

/-! ## Numbers -/

theorem isText_ofInt (value : UInt64) (n : Nat) : IsText n (ofInt value n) := by
  refine ⟨length_ofInt value n, fun c hc => ?_⟩
  induction n with
  | zero => cases hc
  | succ n ih =>
    rw [ofInt, ← apply_ite digit] at hc
    rcases List.mem_cons.1 hc with rfl | hrest
    · exact List.mem_of_mem_take (digit_mem _)
    · exact ih hrest

/-- What the highest of some digits stands for. Beyond the sixteenth it is zero. -/
theorem place_head (value : UInt64) (n : Nat) :
    place (if n < 16 then digit (value >>> (4 * n).toUInt64).toUInt8 else digit 0) =
      value.toNat / 16 ^ n % 16 := by
  by_cases hn : n < 16
  · have hlow (m : UInt8) : (m &&& 0x0F).toNat = m.toNat % 16 := by
      rw [UInt8.toNat_and]
      exact Nat.and_two_pow_sub_one_eq_mod m.toNat 4
    rw [if_pos hn, place_digit, ← hlow, toNat_digit_value value hn]
  · have hle : 2 ^ 64 ≤ 16 ^ n := Nat.pow_le_pow_right (n := 16) (by decide) (Nat.le_of_not_lt hn)
    rw [if_neg hn, Nat.div_eq_of_lt (Nat.lt_of_lt_of_le value.toNat_lt hle)]
    rfl

/-- **What the digits of a number write**, however many they are, behind what was read before. -/
theorem foldl_place_ofInt (value : UInt64) (n m : Nat) :
    (ofInt value n).foldl (fun n c => 16 * n + place c) m = m * 16 ^ n + value.toNat % 16 ^ n := by
  induction n generalizing m with
  | zero => rw [ofInt, List.foldl_nil, Nat.pow_zero, Nat.mod_one, Nat.mul_one, Nat.add_zero]
  | succ n ih =>
    have hvalue : value.toNat % 16 ^ (n + 1) =
        value.toNat % 16 ^ n + 16 ^ n * (value.toNat / 16 ^ n % 16) := by
      rw [Nat.pow_succ, Nat.mod_mul]
    rw [ofInt, List.foldl_cons, place_head, ih, hvalue, Nat.pow_succ]
    grind

theorem value_ofInt (value : UInt64) (n : Nat) :
    Hex.value (ofInt value n) = value.toNat % 16 ^ n := by
  rw [Hex.value, foldl_place_ofInt, Nat.zero_mul, Nat.zero_add]

/-- **When a text is read as a number**: it has 1 to 16 digits, and nothing else,
and it writes the number. -/
theorem toInt?_eq_some_iff {number : UInt64} :
    toInt? text = some number ↔
      (1 ≤ text.length ∧ text.length ≤ 16) ∧ (∀ c ∈ text, c ∈ digits) ∧
        number.toNat = Hex.value text := by
  constructor
  · intro h
    have htext := isText_of_toInt? h
    have hlen : ¬ (text.isEmpty ∨ 16 < text.length) := by
      intro hlen
      rw [toInt?, if_pos hlen] at h
      cases h
    rw [List.isEmpty_iff_length_eq_zero] at hlen
    have hread := htext.toInt?_eq (by omega) (by omega)
    obtain rfl : .ofNat (Hex.value text) = number := Option.some.inj (hread.symm.trans h)
    exact ⟨by omega, htext.2, htext.toNat_value (by omega)⟩
  · rintro ⟨⟨hpos, hle⟩, hdigits, hnumber⟩
    have htext : IsText text.length text := ⟨rfl, hdigits⟩
    rw [htext.toInt?_eq hpos hle, ← hnumber, UInt64.ofNat_toNat]

/-- All such texts are read, as what they write fits in a word. -/
theorem isSome_toInt?_iff :
    (toInt? text).isSome ↔ (1 ≤ text.length ∧ text.length ≤ 16) ∧ ∀ c ∈ text, c ∈ digits := by
  rw [Option.isSome_iff_exists]
  constructor
  · rintro ⟨number, h⟩
    obtain ⟨hlen, hdigits, -⟩ := toInt?_eq_some_iff.1 h
    exact ⟨hlen, hdigits⟩
  · rintro ⟨⟨hpos, hle⟩, hdigits⟩
    exact ⟨_, IsText.toInt?_eq ⟨rfl, hdigits⟩ hpos hle⟩

/-! ## Both ways -/

/-- **Hexadecimal text is exact both ways.** Bytes come back from what is appended for them,
in either case of letters, and from nothing else; a buffer is filled if and only if a text
has two digits for each of its bytes. A number comes back from the digits appended for it as
far as they have room for it; the digits are as many as asked for, and stand behind what was
there before. A text is read as a number if and only if it has 1 to 16 digits, and as exactly
the number that it writes. -/
theorem written_and_read :
    (∀ out data : Bytes, push out data = out ++ encode data) ∧
    (∀ out text data : Bytes,
      decodeInto out text = (true, data) ↔
        data.length = out.length ∧ SameLetters text (push [] data)) ∧
    (∀ out text : Bytes,
      (decodeInto out text).1 = true ↔
        text.length = 2 * out.length ∧ ∀ c ∈ text, c ∈ digits) ∧
    (∀ (out : Bytes) (value : UInt64) (n : Nat),
      pushInt out value n = out ++ ofInt value n ∧ (ofInt value n).length = n ∧
        (∀ c ∈ ofInt value n, c ∈ digits) ∧ Hex.value (ofInt value n) = value.toNat % 16 ^ n) ∧
    (∀ (value : UInt64) (n : Nat), 1 ≤ n → n ≤ 16 →
      ∃ number, toInt? (pushInt [] value n) = some number ∧ number.toNat = value.toNat % 16 ^ n) ∧
    (∀ text : Bytes,
      (toInt? text).isSome ↔ (1 ≤ text.length ∧ text.length ≤ 16) ∧ ∀ c ∈ text, c ∈ digits) ∧
    ∀ (text : Bytes) (number : UInt64),
      toInt? text = some number ↔
        (1 ≤ text.length ∧ text.length ≤ 16) ∧ (∀ c ∈ text, c ∈ digits) ∧
          number.toNat = Hex.value text := by
  refine ⟨push_eq, fun out text data => ?_, fun _ _ => decodeInto_eq_true_iff,
    fun out value n => ?_,
    fun value n hpos hle => ?_, fun _ => isSome_toInt?_iff, fun _ _ => toInt?_eq_some_iff⟩
  · rw [push_eq, List.nil_append]
    exact decodeInto_eq_iff
  · have htext := isText_ofInt value n
    exact ⟨pushInt_eq out value n, htext.1, htext.2, value_ofInt value n⟩
  · have htext := isText_ofInt value n
    refine ⟨.ofNat (Hex.value (ofInt value n)), ?_, ?_⟩
    · rw [pushInt_eq, List.nil_append]
      exact htext.toInt?_eq hpos hle
    · rw [htext.toNat_value hle, value_ofInt]

/-- A buffer of two bytes, a whole word in sixteen digits, and a text that begins with zeros. -/
theorem written_and_read_full_word :
    decodeInto [0, 0] (utf8 "aBcD") = (true, [0xAB, 0xCD]) ∧
      (1 ≤ 16 ∧ 16 ≤ (16 : Nat) ∧
        ∃ number, toInt? (pushInt [] 0xFEDCBA9876543210 16) = some number ∧
        number.toNat = 0xFEDCBA9876543210) ∧
      toInt? (utf8 "00fedCBA98765432") = some 0xFEDCBA98765432 := by
  obtain ⟨-, hbytes, -, -, hnumber, -, htext⟩ := written_and_read
  refine ⟨(hbytes _ _ _).2 ⟨rfl, by decide⟩, ⟨by decide, by decide, ?_⟩,
    (htext _ _).2 ⟨by decide, by decide +kernel, by decide⟩⟩
  exact hnumber 0xFEDCBA9876543210 16 (by decide) (by decide)

end Squitter.Hex
