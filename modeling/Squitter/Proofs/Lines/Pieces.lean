import Squitter.Proofs.Lines.Characters

/-!
# Lines do not depend on the pieces

A stream **splits** (`Splits`) into lines, each before a line feed, and a rest without one, in
exactly one way (`splits_split`, `Splits.split_eq`). A rest that is kept is the beginning of a
line or of the rest of the whole stream, so that none is told too early as long as all of
these are short (`Splits.cut`).

**The loop** (`drain`). Lines are taken off the front one after the other, each through
its line feed. Every round makes the bytes fewer, and the lines are those that the bytes
split into (`takeEach_eq`).

**The result** (`told_exact`). However a stream of short lines is cut into pieces,
what is told is the texts of its lines in order, and of its rest at the end if there
is one, and nothing is kept then.
-/

namespace Squitter.Lines

variable {bytes more kept rest line : Bytes} {lines : List Bytes}

/-! ## The lines of a stream -/

/-- Some bytes are some lines, each with a line feed behind it, and a rest. -/
structure Splits (bytes : Bytes) (lines : List Bytes) (rest : Bytes) : Prop where
  eq : bytes = (lines.flatMap fun line => line ++ [0x0A]) ++ rest
  line : ∀ line ∈ lines, 0x0A ∉ line
  rest : 0x0A ∉ rest

/-- All lines, and the rest, are kept until they are complete. -/
def Short (lines : List Bytes) (rest : Bytes) : Prop :=
  ∀ line ∈ lines ++ [rest], line.length < limit

theorem split_of_notMem (h : 0x0A ∉ rest) : split rest = ([], rest) := by
  induction rest with
  | nil => rfl
  | cons b rest ih =>
    obtain ⟨hb, hrest⟩ := List.ne_and_not_mem_of_not_mem_cons h
    rw [split, ih hrest]
    exact if_neg (Ne.symm hb)

theorem split_line_append (h : 0x0A ∉ line) (more : Bytes) :
    split (line ++ 0x0A :: more) = (line :: (split more).1, (split more).2) := by
  induction line with
  | nil => rfl
  | cons b line ih =>
    obtain ⟨hb, hline⟩ := List.ne_and_not_mem_of_not_mem_cons h
    rw [List.cons_append, split, ih hline]
    exact if_neg (Ne.symm hb)

/-- **There is one way to split** some bytes. -/
theorem Splits.split_eq (h : Splits bytes lines rest) : split bytes = (lines, rest) := by
  obtain ⟨rfl, hlines, hrest⟩ := h
  induction lines with
  | nil => exact split_of_notMem hrest
  | cons line lines ih =>
    obtain ⟨hline, hlines⟩ := List.forall_mem_cons.1 hlines
    rw [List.flatMap_cons, List.append_assoc, List.append_assoc, List.singleton_append,
      split_line_append hline, ih hlines]

theorem splits_of_notMem (h : 0x0A ∉ rest) : Splits rest [] rest :=
  ⟨rfl, fun _ hline => (List.not_mem_nil hline).elim, h⟩

theorem splits_split (bytes : Bytes) : Splits bytes (split bytes).1 (split bytes).2 := by
  induction bytes with
  | nil => exact splits_of_notMem List.not_mem_nil
  | cons b bytes ih =>
    rcases hsplit : split bytes with ⟨lines, rest⟩
    rw [hsplit] at ih
    obtain ⟨heq, hlines, hrest⟩ := ih
    simp only [split, hsplit]
    by_cases hb : b = 10
    · rw [if_pos hb, hb]
      refine ⟨?_, List.forall_mem_cons.2 ⟨List.not_mem_nil, hlines⟩, hrest⟩
      rw [heq, List.flatMap_cons]
      rfl
    · rw [if_neg hb]
      cases lines with
      | nil =>
        rw [heq]
        exact splits_of_notMem (List.not_mem_cons_of_ne_of_not_mem (Ne.symm hb) hrest)
      | cons line lines =>
        obtain ⟨hline, hlines⟩ := List.forall_mem_cons.1 hlines
        refine ⟨?_, List.forall_mem_cons.2 ⟨?_, hlines⟩, hrest⟩
        · rw [heq, List.flatMap_cons, List.flatMap_cons]
          rfl
        · exact List.not_mem_cons_of_ne_of_not_mem (Ne.symm hb) hline

/-- What is before a cut, and what goes on behind it. -/
theorem Splits.append {lines' : List Bytes} {rest' : Bytes} (h : Splits bytes lines rest)
    (h' : Splits (rest ++ more) lines' rest') : Splits (bytes ++ more) (lines ++ lines') rest' := by
  refine ⟨?_, fun line hline => ?_, h'.rest⟩
  · rw [h.eq, List.append_assoc, h'.eq, List.flatMap_append, List.append_assoc]
  · rcases List.mem_append.1 hline with hbefore | hbehind
    · exact h.line line hbefore
    · exact h'.line line hbehind

/-- The beginning of a line is the beginning of the first line, or of the rest if there is none. -/
theorem Splits.exists_prefix (h : Splits (kept ++ more) lines rest) (hkept : 0x0A ∉ kept) :
    ∃ line ∈ lines ++ [rest], kept <+: line := by
  cases lines with
  | nil => exact ⟨rest, List.mem_singleton_self rest, more, h.eq⟩
  | cons line lines =>
    refine ⟨line, List.mem_cons_self, ?_⟩
    have heq := h.eq
    rw [List.flatMap_cons, List.append_assoc, List.append_assoc] at heq
    rcases List.append_eq_append_iff.1 heq with ⟨front, hfront, -⟩ | ⟨behind, hbehind, hmore⟩
    · exact ⟨front, hfront.symm⟩
    · cases behind with
      | nil =>
        rw [List.append_nil] at hbehind
        exact hbehind ▸ List.prefix_refl _
      | cons b behind =>
        obtain ⟨rfl, -⟩ := List.cons.inj hmore
        exact absurd (hbehind ▸ List.mem_append_right _ List.mem_cons_self) hkept

/-- **What a cut does.** The lines of a stream are those of its front and those of the rest of the
front with what comes behind it; and if the former are short, so are these. -/
theorem Splits.cut (h : Splits (bytes ++ more) lines rest) (hshort : Short lines rest) :
    ∃ before kept behind, lines = before ++ behind ∧ Splits bytes before kept ∧ Short before kept ∧
      Splits (kept ++ more) behind rest ∧ Short behind rest := by
  have hbefore := splits_split bytes
  have hbehind := splits_split ((split bytes).2 ++ more)
  obtain ⟨hlines, hrest⟩ := Prod.mk.inj (h.split_eq.symm.trans (hbefore.append hbehind).split_eq)
  rw [← hrest] at hbehind
  obtain ⟨line, hline, hprefix⟩ := hbehind.exists_prefix hbefore.rest
  have hshort' : Short (split ((split bytes).2 ++ more)).1 rest := fun line hline =>
    hshort line (hlines ▸ List.append_assoc .. ▸ List.mem_append_right _ hline)
  refine ⟨_, _, _, hlines, hbefore, fun line' hline' => ?_, hbehind, hshort'⟩
  rcases List.mem_append.1 hline' with hold | hkept
  · exact hshort line' (List.mem_append_left _ (hlines ▸ List.mem_append_left _ hold))
  · rw [List.mem_singleton.1 hkept]
    exact Nat.lt_of_le_of_lt hprefix.length_le (hshort' line hline)

/-! ## The loop -/

/-- The texts of the lines at the front, taken off one after the other, and the rest. -/
def drain (bytes : Bytes) : List String × Bytes :=
  match _h : bytes.findIdx? (· = 0x0A) with
  | none => ([], bytes)
  | some place =>
    let (told, rest) := drain (bytes.drop (place + 1))
    (text (bytes.take (place + 1)) :: told, rest)
termination_by bytes.length
decreasing_by
  obtain ⟨hplace, -⟩ := List.findIdx?_eq_some_iff_getElem.1 _h
  rw [List.length_drop]
  omega

/-- What is told when the lines are taken off one after the other, and what is kept for later. -/
def takeEach (bytes : Bytes) (last : Bool) : List String × Bytes :=
  let (told, rest) := drain bytes
  if (last ∧ rest ≠ []) ∨ limit ≤ rest.length then (told ++ [text rest], []) else (told, rest)

/-- The line at the front goes to the first line feed. -/
theorem split_of_findIdx? {place : Nat} (h : bytes.findIdx? (· = 0x0A) = some place) :
    ∃ line, bytes.take (place + 1) = line ++ [0x0A] ∧
      split bytes =
        (line :: (split (bytes.drop (place + 1))).1, (split (bytes.drop (place + 1))).2) := by
  obtain ⟨hplace, hfeed, hbefore⟩ := List.findIdx?_eq_some_iff_getElem.1 h
  have htake : bytes.take (place + 1) = bytes.take place ++ [0x0A] := by
    rw [List.take_succ_eq_append_getElem hplace, of_decide_eq_true hfeed]
  have hline : 0x0A ∉ bytes.take place := by
    intro hmem
    obtain ⟨i, hi, heq⟩ := List.mem_take_iff_getElem.1 hmem
    exact hbefore i (by omega) (decide_eq_true heq)
  refine ⟨_, htake, ?_⟩
  have hsplit := split_line_append hline (bytes.drop (place + 1))
  rwa [← List.singleton_append, ← List.append_assoc, ← htake, List.take_append_drop] at hsplit

theorem drain_eq (bytes : Bytes) : drain bytes = ((split bytes).1.map text, (split bytes).2) := by
  fun_induction drain bytes with
  | case1 bytes h =>
    have hnone : 0x0A ∉ bytes := fun hmem =>
      absurd (List.findIdx?_eq_none_iff.1 h 0x0A hmem) (by decide)
    rw [split_of_notMem hnone]
    rfl
  | case2 bytes place h told rest hrest ih =>
    obtain ⟨line, hline, hsplit⟩ := split_of_findIdx? h
    rw [ih] at hrest
    obtain ⟨rfl, rfl⟩ := Prod.mk.inj hrest
    rw [hsplit, hline, text_lineFeed, List.map_cons]

/-- **The loop is the function**: it ends, with the same lines and the same rest. -/
theorem takeEach_eq (bytes : Bytes) (last : Bool) : takeEach bytes last = take bytes last := by
  simp only [takeEach, take, drain_eq, List.map_append, List.map_cons, List.map_nil]

/-! ## Pieces -/

/-- What is told as pieces arrive, more of which may follow, and what is kept after them. -/
def feed (kept : Bytes) : List Bytes → List String × Bytes
  | [] => ([], kept)
  | piece :: pieces =>
    let (told, kept) := take (kept ++ piece) false
    let (more, kept) := feed kept pieces
    (told ++ more, kept)

/-- What is told of a whole stream, of which one piece is known to be the last, and what is kept. -/
def collect (pieces : List Bytes) (last : Bytes) : List String × Bytes :=
  let (told, kept) := feed [] pieces
  let (more, kept) := take (kept ++ last) true
  (told ++ more, kept)

/-- The rest is a line as well, if there is one. -/
def ended (lines : List Bytes) (rest : Bytes) : List Bytes :=
  lines ++ if rest = [] then [] else [rest]

theorem Splits.take_eq (h : Splits bytes lines rest) (last : Bool) :
    take bytes last =
      if (last ∧ rest ≠ []) ∨ limit ≤ rest.length then ((lines ++ [rest]).map text, [])
      else (lines.map text, rest) := by
  rw [take, h.split_eq]

theorem Short.length_rest_lt (h : Short lines rest) : rest.length < limit :=
  h rest (List.mem_append_right _ (List.mem_singleton_self rest))

theorem take_false (h : Splits bytes lines rest) (hshort : Short lines rest) :
    take bytes false = (lines.map text, rest) := by
  have hrest := hshort.length_rest_lt
  rw [h.take_eq, if_neg]
  rintro (⟨hlast, -⟩ | hle)
  · cases hlast
  · omega

theorem take_true (h : Splits bytes lines rest) (hshort : Short lines rest) :
    take bytes true = ((ended lines rest).map text, []) := by
  have hrest := hshort.length_rest_lt
  rw [h.take_eq, ended]
  by_cases hnil : rest = []
  · rw [if_neg, if_pos hnil, List.append_nil, hnil]
    rintro (⟨-, hne⟩ | hle)
    · exact hne hnil
    · omega
  · rw [if_pos (.inl ⟨rfl, hnil⟩), if_neg hnil]

/-- While a stream goes on, its lines are told and its rest is kept. -/
theorem feed_eq {pieces : List Bytes} (hkept : 0x0A ∉ kept)
    (h : Splits (kept ++ pieces.flatten) lines rest)
    (hshort : Short lines rest) : feed kept pieces = (lines.map text, rest) := by
  induction pieces generalizing kept lines with
  | nil =>
    rw [List.flatten_nil, List.append_nil] at h
    obtain ⟨rfl, rfl⟩ := Prod.mk.inj ((splits_of_notMem hkept).split_eq.symm.trans h.split_eq)
    rfl
  | cons piece pieces ih =>
    rw [List.flatten_cons, ← List.append_assoc] at h
    obtain ⟨before, kept', behind, rfl, hbefore, hshort₁, hbehind, hshort₂⟩ := h.cut hshort
    simp only [feed, take_false hbefore hshort₁, ih hbefore.rest hbehind hshort₂, List.map_append]

/-- **However a stream is cut**, its lines are told in order, and its rest at the
end, and nothing is kept. -/
theorem collect_eq {pieces : List Bytes} {last : Bytes}
    (h : Splits (pieces.flatten ++ last) lines rest)
    (hshort : Short lines rest) : collect pieces last = ((ended lines rest).map text, []) := by
  obtain ⟨before, kept, behind, rfl, hbefore, hshort₁, hbehind, hshort₂⟩ := h.cut hshort
  have hfeed : feed [] pieces = (before.map text, kept) := feed_eq List.not_mem_nil hbefore hshort₁
  simp only [collect, hfeed, take_true hbehind hshort₂, ended, List.map_append, List.append_assoc]

/-- **What is told does not depend on the pieces.** Some bytes split into lines and a rest in one
way. Taking the lines off one after the other ends, with these. However a stream of short lines is
cut into pieces, and the last piece may be empty: at the end its lines are told in order, and its
rest if there is one, and nothing is kept; until then its lines are told and its rest is kept. The
text of a line is all that is read of it but for the white space at its end, which is all of the
line if it is well-formed. -/
theorem told_exact :
    (∀ bytes, ∃ lines rest, Splits bytes lines rest ∧
      ∀ lines' rest', Splits bytes lines' rest' → lines' = lines ∧ rest' = rest) ∧
    (∀ bytes last, takeEach bytes last = take bytes last) ∧
    (∀ pieces last lines rest, Splits (pieces.flatten ++ last) lines rest →
      (∀ line ∈ lines ++ [rest], line.length < 4096) →
        collect pieces last = ((lines ++ if rest = [] then [] else [rest]).map text, [])) ∧
    (∀ pieces lines rest, Splits pieces.flatten lines rest →
      (∀ line ∈ lines ++ [rest], line.length < 4096) → feed [] pieces = (lines.map text, rest)) ∧
    (∀ line, ∃ blanks, Utf8.lossy line = (text line).toList ++ blanks ∧
      (∀ c ∈ blanks, Text.isBlank c = true) ∧
        ∀ c ∈ (text line).toList.getLast?, Text.isBlank c = false) ∧
    ∀ s : String, Utf8.lossy (utf8 s) = s.toList := by
  refine ⟨fun bytes => ⟨_, _, splits_split bytes, fun lines' rest' h => ?_⟩, takeEach_eq,
    fun _ _ _ _ => collect_eq, fun _ _ _ => feed_eq List.not_mem_nil, exists_text, Utf8.lossy_utf8⟩
  rw [h.split_eq]
  exact ⟨rfl, rfl⟩

/-- The pieces are cut in a line end and in a character, and the stream ends without a line feed. -/
theorem told_exact_cut_character :
    let pieces : List Bytes := [[0x6F, 0x6B, 0x0D], [0x0A, 0xC3]]
    Splits (pieces.flatten ++ [0xA9]) [utf8 "ok\r"] (utf8 "é") ∧
      (∀ line ∈ [utf8 "ok\r"] ++ [utf8 "é"], line.length < 4096) ∧
      collect pieces [0xA9] = (["ok", "é"], []) ∧ feed [] pieces = (["ok"], [0xC3]) := by
  intro pieces
  obtain ⟨-, -, hcollect, hfeed, -⟩ := told_exact
  have hall : Splits (pieces.flatten ++ [0xA9]) [utf8 "ok\r"] (utf8 "é") :=
    ⟨by decide, by decide, by decide⟩
  have hopen : Splits pieces.flatten [utf8 "ok\r"] [0xC3] := ⟨by decide, by decide, by decide⟩
  have hshort : ∀ line ∈ [utf8 "ok\r"] ++ [utf8 "é"], line.length < 4096 := by decide
  have hok : text (utf8 "ok\r") = "ok" := (text_utf8 _).trans (by decide)
  have hletter : text (utf8 "é") = "é" := (text_utf8 _).trans (by decide)
  refine ⟨hall, hshort, ?_, ?_⟩
  · rw [hcollect pieces _ _ _ hall hshort]
    show ([text (utf8 "ok\r"), text (utf8 "é")], []) = _
    rw [hok, hletter]
  · rw [hfeed pieces _ _ hopen (by decide)]
    show ([text (utf8 "ok\r")], _) = _
    rw [hok]

end Squitter.Lines
