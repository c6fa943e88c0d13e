import Squitter.Json.Number
import Squitter.Json.Quoted

/-!
# Reading text that arrives in pieces

A reader takes a value off the front of a byte string and leaves the rest. When a stream arrives in
pieces the reader is tried on a front of it, and later on a longer one, and what it read must not
change.

**Self-delimiting** (`SelfDelimiting`): what was read stays read whatever bytes come after it.
Characters, JSON strings and words are read in this way, because they show where they end.

**Stable** (`Stable`): the same, provided the reader left something over. A numeral ends only where
something else begins, so no more than this holds of numbers.
-/

namespace Squitter

variable {α β : Type}

/-! ## Two kinds of readers -/

/-- What was read stays read, whatever bytes come after it. -/
def SelfDelimiting (read : Bytes → Option (α × Bytes)) : Prop :=
  ∀ ⦃bytes : Bytes⦄ ⦃a : α⦄ ⦃rest : Bytes⦄, read bytes = some (a, rest) →
    ∀ more, read (bytes ++ more) = some (a, rest ++ more)

/-- What was read stays read, whatever bytes come after it, if there were bytes after it. -/
def Stable (read : Bytes → Option (α × Bytes)) : Prop :=
  ∀ ⦃bytes : Bytes⦄ ⦃a : α⦄ ⦃rest : Bytes⦄, read bytes = some (a, rest) → rest ≠ [] →
    ∀ more, read (bytes ++ more) = some (a, rest ++ more)

/-! ## Characters -/

namespace Utf8

theorem next?_encode_append (c : Char) (rest : Bytes) :
    next? (String.utf8EncodeChar c ++ rest) = some (c, rest) := by
  have hlen : (String.utf8EncodeChar c).length ≤ 4 := by
    rw [String.length_utf8EncodeChar]
    exact c.utf8Size_le_four
  have htake : (String.utf8EncodeChar c ++ rest).take 4 =
      String.utf8EncodeChar c ++ rest.take (4 - (String.utf8EncodeChar c).length) := by
    rw [List.take_append, List.take_of_length_le hlen]
  have hdrop : (String.utf8EncodeChar c ++ rest).drop c.utf8Size = rest := by
    rw [← String.length_utf8EncodeChar]
    exact List.drop_left
  unfold next?
  rw [htake, List.toByteArray_append, ByteArray.utf8DecodeChar?_utf8EncodeChar_append,
    Option.map_some, hdrop]

/-- One character is read exactly from its encoding. -/
theorem next?_eq_some_iff {bytes rest : Bytes} {c : Char} :
    next? bytes = some (c, rest) ↔ bytes = String.utf8EncodeChar c ++ rest := by
  constructor
  · intro h
    obtain ⟨c', hc, heq⟩ := Option.map_eq_some_iff.1 h
    obtain ⟨rfl, rfl⟩ := Prod.mk.inj heq
    have hex := String.toByteArray_utf8EncodeChar_of_utf8DecodeChar?_eq_some hc
    have hfront : String.utf8EncodeChar c' = (bytes.take 4).take c'.utf8Size := by
      simpa using congrArg (fun b : ByteArray => b.data.toList) hex
    rw [List.take_take, Nat.min_eq_left c'.utf8Size_le_four] at hfront
    rw [hfront, List.take_append_drop]
  · rintro rfl
    exact next?_encode_append c rest

theorem selfDelimiting_next? : SelfDelimiting next? := by
  intro bytes c rest h more
  rw [next?_eq_some_iff] at h ⊢
  rw [h, List.append_assoc]

end Utf8

/-! ## JSON strings -/

namespace Json

theorem selfDelimiting_escaped? : SelfDelimiting escaped? := by
  intro bytes c rest h more
  unfold escaped? at h
  split at h
  case h_9 a b c' d rest' =>
    simp only [Option.bind_eq_bind, Option.bind_eq_some_iff] at h
    obtain ⟨n, hn, h⟩ := h
    simp only [List.cons_append, escaped?, hn, Option.bind_eq_bind, Option.bind_some]
    split at h
    · obtain ⟨rfl, rfl⟩ := Prod.mk.inj (Option.some.inj h)
      rfl
    · split at h
      · simp only [Option.bind_eq_some_iff] at h
        obtain ⟨low, hlow, c'', hc, h⟩ := h
        obtain ⟨rfl, rfl⟩ := Prod.mk.inj (Option.some.inj h)
        simp only [List.cons_append, hlow, hc, Option.bind_some]
      · cases h
  case h_10 => cases h
  all_goals
    obtain ⟨rfl, rfl⟩ := Prod.mk.inj (Option.some.inj h)
    rfl

theorem selfDelimiting_char? : SelfDelimiting char? := by
  intro bytes c rest h more
  unfold char? at h
  split at h
  · cases h
  · exact selfDelimiting_escaped? h more
  · rename_i b rest' hb
    split at h
    · cases h
    · rename_i hctl
      rw [List.cons_append]
      unfold char?
      split
      · rename_i heq; cases heq
      · rename_i heq; exact absurd (List.cons.inj heq).1 hb
      · rename_i heq
        obtain ⟨rfl, rfl⟩ := List.cons.inj heq
        rw [if_neg hctl]
        exact Utf8.selfDelimiting_next? h more

theorem selfDelimiting_readChars? : SelfDelimiting readChars? := by
  intro bytes cs rest h more
  fun_induction readChars? bytes generalizing cs rest with
  | case1 rest' =>
    obtain ⟨rfl, rfl⟩ := Prod.mk.inj (Option.some.inj h)
    rw [List.cons_append, readChars?]
  | case2 => cases h
  | case3 bytes hquote c rest' hc ih =>
    obtain ⟨⟨cs', rest''⟩, h₁, h₂⟩ := Option.map_eq_some_iff.1 h
    obtain ⟨rfl, rfl⟩ := Prod.mk.inj h₂
    have hmore := selfDelimiting_char? hc more
    rw [readChars?]
    · rw [hmore]
      simp only [ih h₁, Option.map_some]
    · intro r hr
      cases bytes with
      | nil => cases hc
      | cons b bytes =>
        obtain ⟨rfl, -⟩ := List.cons.inj hr
        exact hquote _ rfl

/-- A string ends with its closing quotation mark. -/
theorem selfDelimiting_readText? : SelfDelimiting readText? := by
  intro bytes text rest h more
  obtain ⟨⟨cs, rest'⟩, h₁, h₂⟩ := Option.map_eq_some_iff.1 h
  obtain ⟨rfl, rfl⟩ := Prod.mk.inj h₂
  rw [readText?, selfDelimiting_readChars? h₁ more, Option.map_some]

/-! ## JSON numbers -/

theorem digits_append {bytes rest ds : Bytes} (h : digits bytes = (ds, rest)) (hrest : rest ≠ [])
    (more : Bytes) : digits (bytes ++ more) = (ds, rest ++ more) := by
  obtain ⟨rfl, rfl⟩ := Prod.mk.inj h
  have hdrop : (bytes.dropWhile Decimal.isDigit).isEmpty = false := by
    simpa using hrest
  have htake : (bytes.takeWhile Decimal.isDigit).length ≠ bytes.length := by
    intro hlen
    have happ : bytes.takeWhile Decimal.isDigit ++ bytes.dropWhile Decimal.isDigit = bytes :=
      List.takeWhile_append_dropWhile
    have hsum := congrArg List.length happ
    rw [List.length_append, hlen] at hsum
    exact hrest (List.eq_nil_of_length_eq_zero (by omega))
  simp only [digits, List.takeWhile_append, List.dropWhile_append, hdrop, if_neg htake,
    Bool.false_eq_true, if_false]

theorem stable_whole? : Stable whole? := by
  intro bytes ds rest h hrest more
  unfold whole? at h
  split at h
  · cases h
  · rename_i d ds' rest' hd
    split at h
    · cases h
    · rename_i hzero
      obtain ⟨rfl, rfl⟩ := Prod.mk.inj (Option.some.inj h)
      simp only [whole?, digits_append hd hrest more, if_neg hzero]

theorem stable_fraction? : Stable fraction? := by
  intro bytes ds rest h hrest more
  unfold fraction? at h
  split at h
  · rename_i rest'
    split at h
    · cases h
    · rename_i ds' r hds hd
      obtain ⟨rfl, rfl⟩ := Prod.mk.inj (Option.some.inj h)
      rw [List.cons_append]
      unfold fraction?
      simp only [digits_append hd hrest more]
  · rename_i hpoint
    obtain ⟨rfl, rfl⟩ := Prod.mk.inj (Option.some.inj h)
    obtain ⟨b, bytes', rfl⟩ := List.exists_cons_of_ne_nil hrest
    rw [List.cons_append]
    unfold fraction?
    split
    · rename_i heq
      exact absurd (by rw [(List.cons.inj heq).1]) (hpoint bytes')
    · rfl

theorem exponentSign_append {bytes : Bytes} (h : bytes ≠ []) (more : Bytes) :
    exponentSign (bytes ++ more) = ((exponentSign bytes).1, (exponentSign bytes).2 ++ more) := by
  obtain ⟨b, bytes', rfl⟩ := List.exists_cons_of_ne_nil h
  by_cases hplus : b = 0x2B
  · subst hplus; rfl
  · by_cases hminus : b = 0x2D
    · subst hminus; rfl
    · simp [exponentSign, hplus, hminus]

theorem sign_append {bytes : Bytes} (h : bytes ≠ []) (more : Bytes) :
    sign (bytes ++ more) = ((sign bytes).1, (sign bytes).2 ++ more) := by
  obtain ⟨b, bytes', rfl⟩ := List.exists_cons_of_ne_nil h
  by_cases hminus : b = 0x2D
  · subst hminus; rfl
  · simp [sign, hminus]

theorem ne_nil_of_length_lt {bytes rest : Bytes} (h : rest.length < bytes.length) : bytes ≠ [] := by
  rintro rfl
  simp at h

theorem stable_exponent? : Stable exponent? := by
  intro bytes e rest h hrest more
  unfold exponent? at h
  split at h
  · rename_i c rest'
    split at h
    · rename_i hc
      simp only at h
      split at h
      · cases h
      · rename_i ds r hds hd
        obtain ⟨rfl, rfl⟩ := Prod.mk.inj (Option.some.inj h)
        have hne : rest' ≠ [] := by
          rintro rfl
          have := length_digits_le (exponentSign []).2
          rw [hd] at this
          exact hrest (List.eq_nil_of_length_eq_zero (by simpa [exponentSign] using this))
        simp only [List.cons_append, exponent?, if_pos hc, exponentSign_append hne more,
          digits_append hd hrest more]
    · rename_i hc
      obtain ⟨rfl, rfl⟩ := Prod.mk.inj (Option.some.inj h)
      simp only [List.cons_append, exponent?, if_neg hc]
  · obtain ⟨rfl, rfl⟩ := Prod.mk.inj (Option.some.inj h)
    exact absurd rfl hrest

/-- A number that something follows ends there for good. -/
theorem stable_readNumber? : Stable readNumber? := by
  intro bytes n rest h hrest more
  have hne := ne_nil_of_length_lt (length_lt_of_readNumber? h)
  simp only [readNumber?, Option.bind_eq_bind, Option.bind_eq_some_iff] at h ⊢
  obtain ⟨⟨whole, r₁⟩, h₁, ⟨fraction, r₂⟩, h₂, ⟨exponent, r₃⟩, h₃, h⟩ := h
  have hr₃ : r₃ = rest := by
    simp only at h
    split at h
    · split at h <;> exact (Prod.mk.inj (Option.some.inj h)).2
    · cases h
  subst hr₃
  have hpos : 0 < r₃.length := List.length_pos_iff.2 hrest
  have hr₂ : r₂ ≠ [] := by
    rintro rfl
    have hle := length_le_of_exponent? h₃
    rw [List.length_nil] at hle
    omega
  have hr₁ : r₁ ≠ [] := by
    rintro rfl
    have hle := length_le_of_fraction? h₂
    have hpos₂ := List.length_pos_iff.2 hr₂
    rw [List.length_nil] at hle
    omega
  rw [sign_append hne]
  refine ⟨(whole, r₁ ++ more), stable_whole? h₁ hr₁ more, (fraction, r₂ ++ more),
    stable_fraction? h₂ hr₂ more, (exponent, r₃ ++ more), stable_exponent? h₃ hrest more, ?_⟩
  simp only at h ⊢
  split at h
  · rename_i hrange
    rw [if_pos hrange]
    split at h
    · rename_i hnat
      obtain ⟨rfl, -⟩ := Prod.mk.inj (Option.some.inj h)
      rw [if_pos hnat]
    · rename_i hnat
      obtain ⟨rfl, -⟩ := Prod.mk.inj (Option.some.inj h)
      rw [if_neg hnat]
  · cases h

end Json

end Squitter
