import Squitter.Proofs.Stability.Text
import Squitter.Text.Lines

/-!
# Characters of a line

The bytes of a line are read as characters as well as they can be, and **white space** at its end
is dropped. The byte of a line feed is no part of any other character, so lines can be read one
by one (`Utf8.lossy_lineFeed`), and with or without their line feeds (`Lines.text_lineFeed`).
Nothing but the white space is dropped (`Lines.exists_text`), and what is well-formed is read as
it is (`Utf8.lossy_utf8`).
-/

namespace Squitter

/-! ## Characters -/

namespace Utf8

variable {lead b : UInt8} {bytes rest : Bytes}

/-- An ASCII byte is a character of its own, and no part of another one. -/
theorem encode_eq_of_mem {c : Char} (hb : b ∈ String.utf8EncodeChar c) (hascii : b < 0x80) :
    String.utf8EncodeChar c = [b] := by
  have hlow : b.toNat < 128 := UInt8.lt_iff_toNat_lt.1 hascii
  simp only [String.utf8EncodeChar] at hb ⊢
  split at hb
  · rename_i hone
    rw [if_pos hone, List.mem_singleton.1 hb]
  -- all bytes of a longer encoding have the highest bit
  · exfalso
    split at hb
    · simp only [List.mem_cons, List.not_mem_nil, or_false] at hb
      rcases hb with rfl | rfl <;> rw [UInt8.toNat_ofNat'] at hlow <;> omega
    · split at hb <;> simp only [List.mem_cons, List.not_mem_nil, or_false] at hb
      · rcases hb with rfl | rfl | rfl <;> rw [UInt8.toNat_ofNat'] at hlow <;> omega
      · rcases hb with rfl | rfl | rfl | rfl <;> rw [UInt8.toNat_ofNat'] at hlow <;> omega

/-- Bytes that begin with no character begin with none if a line feed follows. -/
theorem next?_lineFeed_eq_none (hnone : next? (lead :: rest) = none) (more : Bytes) :
    next? (lead :: rest ++ 0x0A :: more) = none := by
  rw [Option.eq_none_iff_forall_ne_some]
  rintro ⟨c, after⟩ h
  rw [next?_eq_some_iff] at h
  rcases List.append_eq_append_iff.1 h with ⟨front, hfront, hafter⟩ | ⟨behind, hbehind, -⟩
  · cases front with
    | nil =>
      rw [List.append_nil] at hfront
      have hread := next?_encode_append c []
      rw [List.append_nil, hfront, hnone] at hread
      cases hread
    | cons b front =>
      -- the character goes beyond the line feed, which is then the whole of it
      obtain ⟨rfl, -⟩ := List.cons.inj hafter
      have hmem : 0x0A ∈ String.utf8EncodeChar c := by
        rw [hfront]
        exact List.mem_append_right _ List.mem_cons_self
      have hone := congrArg List.length (encode_eq_of_mem hmem (by decide))
      rw [hfront, List.length_append, List.length_cons, List.length_cons,
        List.length_singleton] at hone
      omega
  · rw [next?_eq_some_iff.2 hbehind] at hnone
    cases hnone

theorem continuation_le (low high : UInt8) (n : Nat) (bytes : Bytes) :
    continuation low high n bytes ≤ bytes.length := by
  fun_induction continuation low high n bytes with
  | case1 low high n b bytes hb ih => exact Nat.succ_le_succ ih
  | case2 => exact Nat.zero_le _
  | case3 => exact Nat.zero_le _

theorem continuation_lineFeed {low : UInt8} (hlow : 0x80 ≤ low) (high : UInt8) (n : Nat)
    (bytes more : Bytes) :
    continuation low high n (bytes ++ 0x0A :: more) = continuation low high n bytes := by
  induction bytes generalizing low high n with
  | nil =>
    have hbelow : ¬ low ≤ 0x0A := by
      rw [UInt8.not_le]
      exact UInt8.lt_of_lt_of_le (by decide) hlow
    cases n with
    | zero => rfl
    | succ n =>
      rw [List.nil_append, continuation, if_neg fun h => hbelow h.1]
      rfl
  | cons b bytes ih =>
    cases n with
    | zero => rfl
    | succ n => rw [List.cons_append, continuation, continuation, ih (UInt8.le_refl _)]

/-- A byte that follows a leading byte is not an ASCII byte. -/
theorem le_of_following? {low high : UInt8} {n : Nat} (h : following? lead = some (low, high, n)) :
    0x80 ≤ low := by
  have hall : ∀ i : Fin 256, ∀ f ∈ following? (.ofFin i), 0x80 ≤ f.1 := by decide +kernel
  exact hall lead.toFin _ h

theorem pieceLength_lineFeed (lead : UInt8) (rest more : Bytes) :
    pieceLength lead (rest ++ 0x0A :: more) = pieceLength lead rest := by
  unfold pieceLength
  split
  · rename_i low high n hfollowing
    rw [continuation_lineFeed (le_of_following? hfollowing)]
  · rfl

theorem pieceLength_le (lead : UInt8) (rest : Bytes) : pieceLength lead rest ≤ rest.length + 1 := by
  unfold pieceLength
  split
  · rename_i low high n _
    have hle := continuation_le low high n rest
    omega
  · omega

theorem lossy_of_some {c : Char} {after : Bytes} (h : next? bytes = some (c, after)) :
    lossy bytes = c :: lossy after := by
  cases bytes with
  | nil => cases h
  | cons lead rest =>
    rw [lossy]
    split
    · rename_i c' after' h'
      obtain ⟨rfl, rfl⟩ := Prod.mk.inj (Option.some.inj (h'.symm.trans h))
      rfl
    · rename_i h'
      rw [h'] at h
      cases h

theorem lossy_of_none (h : next? (lead :: rest) = none) :
    lossy (lead :: rest) = Char.ofNat 0xFFFD :: lossy (rest.drop (pieceLength lead rest - 1)) := by
  rw [lossy]
  split
  · rename_i h'
    rw [h'] at h
    cases h
  · rfl

/-- **Lines are read one by one**: whatever is before a line feed and behind it. -/
theorem lossy_lineFeed (bytes more : Bytes) :
    lossy (bytes ++ 0x0A :: more) = lossy bytes ++ '\n' :: lossy more := by
  fun_induction lossy bytes with
  | case1 => exact lossy_of_some (next?_encode_append '\n' more)
  | case2 lead rest c after h ih =>
    rw [lossy_of_some (selfDelimiting_next? h _), ih, List.cons_append]
  | case3 lead rest h ih =>
    have hle := pieceLength_le lead rest
    have hnone : next? (lead :: (rest ++ 0x0A :: more)) = none := next?_lineFeed_eq_none h more
    rw [List.cons_append, lossy_of_none hnone, pieceLength_lineFeed,
      List.drop_append_of_le_length (by omega), ih, List.cons_append]

/-- **What is well-formed is read as it is.** -/
theorem lossy_utf8 (s : String) : lossy (utf8 s) = s.toList := by
  unfold utf8
  induction s.toList with
  | nil => rw [List.flatMap_nil, lossy]
  | cons c cs ih => rw [List.flatMap_cons, lossy_of_some (next?_encode_append c _), ih]

end Utf8

/-! ## White space at the end -/

namespace Text

theorem trimRight_concat {c : Char} (hc : isBlank c = true) (cs : List Char) :
    trimRight (cs ++ [c]) = trimRight cs := by
  rw [trimRight, List.reverse_concat, List.dropWhile_cons_of_pos hc, trimRight]

/-- White space is dropped, and the last character that is kept is no white space. -/
theorem exists_trimRight (cs : List Char) :
    ∃ blanks, cs = trimRight cs ++ blanks ∧ (∀ c ∈ blanks, isBlank c = true) ∧
      ∀ c ∈ (trimRight cs).getLast?, isBlank c = false := by
  refine ⟨(cs.reverse.takeWhile isBlank).reverse, ?_, ?_, ?_⟩
  · rw [trimRight, ← List.reverse_append, List.takeWhile_append_dropWhile, List.reverse_reverse]
  · intro c hc
    exact List.all_eq_true.1 List.all_takeWhile c (List.mem_reverse.1 hc)
  · intro c hc
    have hhead := List.head?_dropWhile_not isBlank cs.reverse
    rw [trimRight, List.getLast?_reverse] at hc
    rw [hc] at hhead
    exact hhead

end Text

/-! ## Lines -/

namespace Lines

/-- A line feed at its end does not change the text of a line. -/
theorem text_lineFeed (line : Bytes) : text (line ++ [0x0A]) = text line := by
  have hlossy := Utf8.lossy_lineFeed line []
  rw [Utf8.lossy] at hlossy
  rw [text, hlossy, Text.trimRight_concat (by decide), text]

/-- **All of a line is in its text**, but for the white space at its end. -/
theorem exists_text (line : Bytes) :
    ∃ blanks, Utf8.lossy line = (text line).toList ++ blanks ∧
      (∀ c ∈ blanks, Text.isBlank c = true) ∧
      ∀ c ∈ (text line).toList.getLast?, Text.isBlank c = false := by
  rw [text, String.toList_ofList]
  exact Text.exists_trimRight _

theorem text_utf8 (s : String) : text (utf8 s) = String.ofList (Text.trimRight s.toList) := by
  rw [text, Utf8.lossy_utf8]

end Lines

end Squitter
