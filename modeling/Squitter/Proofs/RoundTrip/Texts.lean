import Squitter.Json.Quoted
import Squitter.Proofs.RoundTrip.Numerals
import Squitter.Proofs.Stability.Text
import Squitter.Uuid

/-!
# Texts read back

A text reads back from its bytes (`Utf8.decode?_utf8`) and from a JSON string
(`Json.readText?_quote`), whatever its characters are. Digits and identities are written without
escapes: **plain** bytes (`Json.Plain`) are printable ASCII characters that stand for themselves.
-/

namespace Squitter

/-! ## UTF-8 -/

theorem Utf8.decode?_utf8 (text : String) : decode? (utf8 text) = some text := by
  have hbytes : (utf8 text).toByteArray = text.toByteArray := String.utf8Encode_toList
  rw [decode?, hbytes, String.fromUTF8?, dif_pos text.isValidUTF8]
  rfl

/-- ASCII characters are encoded as themselves. -/
theorem utf8_latin {bytes : Bytes} (h : ∀ b ∈ bytes, b.toNat < 128) :
    utf8 (latin bytes) = bytes := by
  have hchar : ∀ i : Fin 128, String.utf8EncodeChar (Char.ofNat i) = [UInt8.ofNat i] := by
    decide +kernel
  rw [utf8, latin, String.toList_ofList]
  induction bytes with
  | nil => rfl
  | cons b bytes ih =>
    have hb := hchar ⟨b.toNat, h b List.mem_cons_self⟩
    rw [List.map_cons, List.flatMap_cons, hb, ih fun b hb => h b (List.mem_cons_of_mem _ hb)]
    simp

namespace Json

/-! ## JSON strings -/

theorem hexValue?_hexDigit {n : Nat} (h : n < 16) : hexValue? (hexDigit n) = some n := by
  have hdigit : ∀ i : Fin 16, hexValue? (hexDigit i) = some i.val := by decide
  exact hdigit ⟨n, h⟩

theorem ofUnit?_toNat (c : Char) : ofUnit? c.toNat = some c := by
  have hvalid : c.toNat.isValidChar := c.valid
  rw [ofUnit?, dif_pos hvalid]
  rfl

theorem escaped?_control {c : Char} (h : c.toNat < 0x20) (rest : Bytes) :
    escaped? (0x75 :: 0x30 :: 0x30 :: hexDigit (c.toNat / 16) :: hexDigit (c.toNat % 16) :: rest) =
      some (c, rest) := by
  have hzero : hexValue? 0x30 = some 0 := by decide
  have hunit : unit? 0x30 0x30 (hexDigit (c.toNat / 16)) (hexDigit (c.toNat % 16)) =
      some c.toNat := by
    have hhigh : hexValue? (hexDigit (c.toNat / 16)) = some (c.toNat / 16) :=
      hexValue?_hexDigit (by omega)
    have hlow : hexValue? (hexDigit (c.toNat % 16)) = some (c.toNat % 16) :=
      hexValue?_hexDigit (by omega)
    simp only [unit?, hzero, hhigh, hlow, Option.bind_eq_bind, Option.bind_some, Option.some.injEq]
    omega
  simp only [escaped?, hunit, ofUnit?_toNat, Option.bind_eq_bind, Option.bind_some]

/-- A character that is not escaped begins with a byte that stands for no escape and no end. -/
theorem exists_utf8EncodeChar_eq_cons {c : Char} (hcontrol : ¬ c.toNat < 0x20) (hquote : c ≠ '"')
    (hbackslash : c ≠ '\\') :
    ∃ b t, String.utf8EncodeChar c = b :: t ∧ ¬ b < 0x20 ∧ b ≠ 0x22 ∧ b ≠ 0x5C := by
  have hne {d : Char} (h : c ≠ d) : c.val.toNat ≠ d.val.toNat := fun heq => h (Char.toNat_inj.1 heq)
  have h₀ : ¬ c.val.toNat < 0x20 := hcontrol
  have h₁ : c.val.toNat ≠ 0x22 := hne hquote
  have h₂ : c.val.toNat ≠ 0x5C := hne hbackslash
  have hmax : c.val.toNat < 0x110000 := by
    rcases c.valid with h | h
    · exact Nat.lt_trans h (by decide)
    · exact h.2
  simp only [UInt8.lt_iff_toNat_lt, ne_eq, ← UInt8.toNat_inj, String.utf8EncodeChar]
  split
  · refine ⟨_, _, rfl, ?_, ?_, ?_⟩ <;> simp only [UInt8.toNat_ofNat', UInt8.reduceToNat] <;> omega
  · split
    · refine ⟨_, _, rfl, ?_, ?_, ?_⟩ <;> simp only [UInt8.toNat_ofNat', UInt8.reduceToNat] <;> omega
    · split <;>
      · refine ⟨_, _, rfl, ?_, ?_, ?_⟩ <;>
          simp only [UInt8.toNat_ofNat', UInt8.reduceToNat] <;> omega

theorem char?_of_ne {b : UInt8} (hcontrol : ¬ b < 0x20) (hbackslash : b ≠ 0x5C) (rest : Bytes) :
    char? (b :: rest) = Utf8.next? (b :: rest) := by
  unfold char?
  split
  · rename_i heq
    cases heq
  · rename_i heq
    exact absurd (List.cons.inj heq).1 hbackslash
  · rename_i heq
    obtain ⟨rfl, rfl⟩ := List.cons.inj heq
    rw [if_neg hcontrol]

/-- A character reads back, and does not look like the end of the string. -/
theorem char?_quoteChar_append (c : Char) (rest : Bytes) :
    ∃ b t, quoteChar c = b :: t ∧ b ≠ 0x22 ∧ char? (quoteChar c ++ rest) = some (c, rest) := by
  unfold quoteChar
  split
  case h_8 hquote hbackslash _ _ _ _ _ =>
    by_cases hcontrol : c.toNat < 0x20
    · rw [if_pos hcontrol]
      exact ⟨_, _, rfl, by decide, escaped?_control hcontrol rest⟩
    · rw [if_neg hcontrol]
      obtain ⟨b, t, heq, h₀, h₁, h₂⟩ := exists_utf8EncodeChar_eq_cons hcontrol hquote hbackslash
      refine ⟨b, t, heq, h₁, ?_⟩
      rw [← Utf8.next?_encode_append, heq]
      exact char?_of_ne h₀ h₂ _
  all_goals exact ⟨_, _, rfl, by decide, rfl⟩

theorem readChars?_quoted (cs : List Char) (rest : Bytes) :
    readChars? (cs.flatMap quoteChar ++ 0x22 :: rest) = some (cs, rest) := by
  induction cs with
  | nil => rw [List.flatMap_nil, List.nil_append, readChars?]
  | cons c cs ih =>
    obtain ⟨b, t, hb, hne, hchar⟩ :=
      char?_quoteChar_append c (cs.flatMap quoteChar ++ 0x22 :: rest)
    rw [List.flatMap_cons, List.append_assoc]
    rw [hb, List.cons_append] at hchar ⊢
    unfold readChars?
    split
    · rename_i heq
      exact absurd (List.cons.inj heq).1 hne
    · split
      · rename_i hnone
        rw [hchar] at hnone
        cases hnone
      · rename_i c' rest' hsome
        rw [hchar] at hsome
        cases hsome
        rw [ih]
        rfl

/-- **A text reads back** from the string it is written as. -/
theorem readText?_quoted (text : String) (rest : Bytes) :
    readText? (text.toList.flatMap quoteChar ++ 0x22 :: rest) = some (text, rest) := by
  rw [readText?, readChars?_quoted, Option.map_some]
  simp only [String.ofList_toList]

/-! ## Plain bytes -/

/-- A printable ASCII character that is written without an escape. -/
def Plain (b : UInt8) : Prop :=
  0x20 ≤ b.toNat ∧ b.toNat < 0x80 ∧ b ≠ 0x22 ∧ b ≠ 0x5C

theorem quote_latin {bytes : Bytes} (h : ∀ b ∈ bytes, Plain b) :
    quote (latin bytes) = 0x22 :: bytes ++ [0x22] := by
  have hchar : ∀ i : Fin 128, 0x20 ≤ i.val → UInt8.ofNat i ≠ 0x22 → UInt8.ofNat i ≠ 0x5C →
      quoteChar (Char.ofNat i) = [UInt8.ofNat i] := by
    decide +kernel
  have hall : (latin bytes).toList.flatMap quoteChar = bytes := by
    rw [latin, String.toList_ofList]
    induction bytes with
    | nil => rfl
    | cons b bytes ih =>
      obtain ⟨h₁, h₂, h₃, h₄⟩ := h b List.mem_cons_self
      have hb := hchar ⟨b.toNat, h₂⟩ h₁
      simp only [UInt8.ofNat_toNat] at hb
      rw [List.map_cons, List.flatMap_cons, hb h₃ h₄,
        ih fun b hb => h b (List.mem_cons_of_mem _ hb)]
      rfl
  rw [quote, hall]

end Json

/-! ## Digits -/

namespace Hex

theorem plain_digit (n : UInt8) : Json.Plain (digit n) := by
  have h : ∀ i : Fin 256, 0x20 ≤ (digit (.ofFin i)).toNat ∧ (digit (.ofFin i)).toNat < 0x80 ∧
      digit (.ofFin i) ≠ 0x22 ∧ digit (.ofFin i) ≠ 0x5C := by
    decide +kernel
  exact h n.toFin

theorem plain_of_mem_encode {data : Bytes} : ∀ c ∈ encode data, Json.Plain c := by
  intro c hc
  simp only [encode, List.mem_flatMap, List.mem_cons, List.not_mem_nil, or_false] at hc
  obtain ⟨b, -, rfl | rfl⟩ := hc
  · exact plain_digit _
  · exact plain_digit _

end Hex

/-! ## Identities -/

namespace Uuid

theorem digit?_lowerDigit (c : UInt8) : Hex.digit? (lowerDigit c) = Hex.digit? c := by
  have h : ∀ i : Fin 256, Hex.digit? (lowerDigit (.ofFin i)) = Hex.digit? (.ofFin i) := by
    decide +kernel
  exact h c.toFin

theorem plain_lowerDigit_digit (n : UInt8) : Json.Plain (lowerDigit (Hex.digit n)) := by
  have h : ∀ i : Fin 256, 0x20 ≤ (lowerDigit (Hex.digit (.ofFin i))).toNat ∧
      (lowerDigit (Hex.digit (.ofFin i))).toNat < 0x80 ∧ lowerDigit (Hex.digit (.ofFin i)) ≠ 0x22 ∧
      lowerDigit (Hex.digit (.ofFin i)) ≠ 0x5C := by
    decide +kernel
  exact h n.toFin

/-- The 32 lower-case digits of an identity. -/
def hexDigits (id : Uuid) : Bytes := (Hex.encode id.toBytes).map lowerDigit

@[simp] theorem length_hexDigits (id : Uuid) : id.hexDigits.length = 32 := by
  simp [hexDigits]

theorem ascii_eq (id : Uuid) :
    id.ascii = id.hexDigits.take 8 ++ 0x2D :: (id.hexDigits.drop 8).take 4 ++
      0x2D :: (id.hexDigits.drop 12).take 4 ++ 0x2D :: (id.hexDigits.drop 16).take 4 ++
      0x2D :: id.hexDigits.drop 20 := rfl

theorem length_ascii (id : Uuid) : id.ascii.length = 36 := by
  simp [ascii_eq]

theorem plain_of_mem_ascii (id : Uuid) : ∀ c ∈ id.ascii, Json.Plain c := by
  have hdigit : ∀ c ∈ id.hexDigits, Json.Plain c := by
    intro c hc
    simp only [hexDigits, Hex.encode, List.mem_map, List.mem_flatMap, List.mem_cons,
      List.not_mem_nil, or_false] at hc
    obtain ⟨_, ⟨b, -, rfl | rfl⟩, rfl⟩ := hc
    · exact plain_lowerDigit_digit _
    · exact plain_lowerDigit_digit _
  have hhyphen : Json.Plain 0x2D := by
    unfold Json.Plain
    decide
  intro c hc
  simp only [ascii_eq, List.mem_append, List.mem_cons] at hc
  rcases hc with (((hc | rfl | hc) | rfl | hc) | rfl | hc) | rfl | hc
  · exact hdigit c (List.mem_of_mem_take hc)
  · exact hhyphen
  · exact hdigit c (List.mem_of_mem_drop (List.mem_of_mem_take hc))
  · exact hhyphen
  · exact hdigit c (List.mem_of_mem_drop (List.mem_of_mem_take hc))
  · exact hhyphen
  · exact hdigit c (List.mem_of_mem_drop (List.mem_of_mem_take hc))
  · exact hhyphen
  · exact hdigit c (List.mem_of_mem_drop hc)

theorem simple?_hexDigits (id : Uuid) : simple? id.hexDigits = some id := by
  have hvalues : id.hexDigits.map Hex.digit? = (Hex.encode id.toBytes).map Hex.digit? := by
    rw [hexDigits, List.map_map]
    exact List.map_congr_left fun c _ => digit?_lowerDigit c
  have hdecode := Hex.decode?_of_map_digit? hvalues
  rw [length_toBytes] at hdecode
  rw [simple?, hdecode, Option.bind_some, ofBytes?_toBytes]

/-- The digits between the hyphens. -/
theorem hyphenated?_append {a b c d e : Bytes} (ha : a.length = 8) (hb : b.length = 4)
    (hc : c.length = 4) (hd : d.length = 4) (he : e.length = 12) :
    hyphenated? (a ++ 0x2D :: b ++ 0x2D :: c ++ 0x2D :: d ++ 0x2D :: e) =
      simple? (a ++ b ++ c ++ d ++ e) := by
  simp [hyphenated?, List.drop_append, List.drop_eq_nil_of_le, ha, hb, hc, hd, he]

/-- An identity reads back from its text. -/
theorem parse?_text (id : Uuid) : parse? (utf8 id.text) = some id := by
  have hascii : utf8 id.text = id.ascii := utf8_latin fun c hc => (plain_of_mem_ascii id c hc).2.1
  have hparts : id.hexDigits.take 8 ++ (id.hexDigits.drop 8).take 4 ++
      (id.hexDigits.drop 12).take 4 ++ (id.hexDigits.drop 16).take 4 ++ id.hexDigits.drop 20 =
        id.hexDigits := by
    rw [← List.take_add, ← List.take_add, ← List.take_add, List.take_append_drop]
  have hhyphens : hyphenated? id.ascii = some id := by
    rw [ascii_eq, hyphenated?_append (by simp) (by simp) (by simp) (by simp) (by simp), hparts,
      simple?_hexDigits]
  rw [hascii, parse?, if_neg (by rw [length_ascii]; decide), if_pos (length_ascii id), hhyphens]

end Uuid
end Squitter
