import Squitter.Proofs.InPlace.Access
import Squitter.Proofs.InPlace.Suffix

/-!
# Reading by index

The readers of the formats take a message apart field by field, and each leaves the rest to the next
one. A program looks at the places where the fields must be. It computes the places once, makes sure
that the data are long enough, and from then on relies on it: so it can read outside of the data,
and for many fields and kinds of packets the places have to be right.

Here each format is read in the second way (`scan`), by accesses that fail outside of the data. For
all data that is what the reader reads, and so no access fails (`scan_eq`).
-/

namespace Squitter

namespace Wire

open InPlace

/-! ## Steps of lines -/

section

variable {β : Type} {data : Bytes}

/-- A field at a place, if the data goes on behind it. -/
theorem field?_drop {k n : Nat} (h : k + n < data.length) :
    field? n (data.drop k) =
      if data[k + n]? = some semicolon then some ((data.drop k).take n, data.drop (k + n + 1))
      else none := by
  unfold field?
  rw [List.drop_drop, List.drop_eq_getElem_cons h]
  simp only [List.getElem?_eq_getElem h, Option.some_inj]

/-- To expect a semicolon is to read the field before it. -/
theorem expect_bind {k n i : Nat} (h : k + n < data.length) (hi : i = k + n)
    {f : Unit → Except Stop β} {g : Bytes × Bytes → Option β}
    (hrest : f () = present (g ((data.drop k).take n, data.drop (k + n + 1)))) :
    (expect data i semicolon >>= f) = present (field? n (data.drop k) >>= g) := by
  subst hi
  rw [expect_eq h, field?_drop h]
  by_cases hc : data[k + n]? = some semicolon
  · rw [if_pos hc, require_of hc]
    exact hrest
  · rw [if_neg hc, require_bind_of_not hc]
    rfl

theorem lineEndAt_bind {i k : Nat} (h : i < data.length) (hi : i = k) {f : Nat → Except Stop β}
    {g : Nat → Option β} (hrest : ∀ n, f n = present (g n)) :
    (lineEndAt data i >>= f) = present (lineEnd? (data.drop k) >>= g) := by
  subst hi
  rw [lineEndAt_eq h]
  exact present_bind_congr rfl hrest

end

namespace Airspy

/-- Read a line with a payload of the given kind by the places of its fields. -/
def scanKind (kind : Kind) (data : Bytes) : Except Stop (Line × Nat) := do
  let hexEnd := 1 + 2 * kind.payloadLength
  let bodyEnd := hexEnd + 18
  require (bodyEnd < data.length)
  expect data 0 asterisk
  let trailer ← slice data hexEnd bodyEnd
  expect trailer 0 semicolon
  expect trailer 9 semicolon
  expect trailer 12 semicolon
  expect trailer 17 semicolon
  let ending ← lineEndAt data bodyEnd
  let mhz := 2 * (← present (Hex.toInt? (← slice trailer 10 12))).toUInt32
  require (Mlat.validMHz mhz)
  let reading ← present (Hex.toInt? (← slice trailer 1 9))
  let level := (← present (Hex.toInt? (← slice trailer 13 17))).toUInt32
  let payload ← Hex.scan kind.payloadLength (← slice data 1 hexEnd)
  return (⟨kind, payload, reading, mhz, level⟩, bodyEnd + ending)

theorem readKind?_of_length_lt {kind : Kind} {data : Bytes}
    (h : data.length < 2 * kind.payloadLength + 20) : readKind? kind data = none := by
  refine Option.eq_none_iff_forall_ne_some.2 fun ⟨l, n⟩ hread => ?_
  obtain ⟨hex, ticks, half, strength, rest, ending, _, _, _, _, rfl, l₁, l₂, l₃, l₄, hend, -⟩ :=
    readKind?_eq_some_iff.1 hread
  have hrest : rest ≠ [] := by rintro rfl; cases hend
  have hpos := List.length_pos_iff.2 hrest
  simp only [List.length_cons, List.length_append] at h
  omega

theorem scanKind_eq (kind : Kind) (data : Bytes) :
    scanKind kind data = present (readKind? kind data) := by
  by_cases hlen : data.length < 2 * kind.payloadLength + 20
  · have hshort : ¬ 1 + 2 * kind.payloadLength + 18 < data.length := by omega
    rw [readKind?_of_length_lt hlen, scanKind, require_bind_of_not hshort]
    rfl
  · have hlong : 1 + 2 * kind.payloadLength + 18 < data.length := by omega
    obtain ⟨c, rest, rfl⟩ := List.exists_cons_of_length_pos (by omega : 0 < data.length)
    have hstart : expect (c :: rest) 0 asterisk = require (c = asterisk) := rfl
    show _ = present (if c = asterisk then field? _ (List.drop 1 (c :: rest)) >>= _ else none)
    simp (disch := omega) only [scanKind, require_of, ok_bind, hstart, slice_of_le, expect_window,
      slice_window, Hex.scan_eq]
    -- No access has failed; from here on the two go through the line side by side.
    refine require_bind_congr ?_
    refine expect_bind (by omega) (by omega) ?_
    refine expect_bind (by omega) (by omega) ?_
    refine expect_bind (by omega) (by omega) ?_
    refine expect_bind (by omega) (by omega) ?_
    refine lineEndAt_bind (by omega) (by omega) fun ending => ?_
    refine present_bind_congr (by congr 2; omega) fun half => ?_
    refine require_bind_congr ?_
    refine present_bind_congr (by congr 2; omega) fun ticks => ?_
    refine present_bind_congr (by congr 2; omega) fun strength => ?_
    refine present_bind_congr (by congr 2; omega) fun payload => ?_
    rw [show 1 + 2 * kind.payloadLength + 18 + ending =
      2 * kind.payloadLength + 19 + ending by omega]
    rfl

/-- Read a line of any kind by the places of its fields. -/
def scan (data : Bytes) : Except Stop (Line × Nat) :=
  firstOf (fun kind => scanKind kind data) Kind.all

theorem scan_eq (data : Bytes) : scan data = present (read? data) := by
  simp only [scan, scanKind_eq, firstOf_present]
  rfl

end Airspy

namespace Raw

/-- Read a line with a payload of the given kind, of which the first byte was seen, by
the places of its fields. -/
def scanKind (kind : Kind) (data : Bytes) : Except Stop (Bytes × Nat) := do
  let hexEnd := 1 + 2 * kind.payloadLength
  require (hexEnd + 1 < data.length)
  expect data hexEnd semicolon
  let ending ← lineEndAt data (hexEnd + 1)
  let payload ← Hex.scan kind.payloadLength (← slice data 1 hexEnd)
  return (payload, hexEnd + 1 + ending)

theorem readKind?_of_length_lt {kind : Kind} {data : Bytes}
    (h : data.length < 2 * kind.payloadLength + 3) : readKind? kind data = none := by
  refine Option.eq_none_iff_forall_ne_some.2 fun ⟨payload, n⟩ hread => ?_
  obtain ⟨hex, rest, ending, rfl, l₁, hend, -⟩ := readKind?_eq_some_iff.1 hread
  have hrest : rest ≠ [] := by rintro rfl; cases hend
  have hpos := List.length_pos_iff.2 hrest
  simp only [List.length_cons, List.length_append] at h
  omega

theorem scanKind_eq {kind : Kind} {data : Bytes} (h : data[0]? = some asterisk) :
    scanKind kind data = present (readKind? kind data) := by
  by_cases hlen : data.length < 2 * kind.payloadLength + 3
  · have hshort : ¬ 1 + 2 * kind.payloadLength + 1 < data.length := by omega
    rw [readKind?_of_length_lt hlen, scanKind, require_bind_of_not hshort]
    rfl
  · have hlong : 1 + 2 * kind.payloadLength + 1 < data.length := by omega
    obtain ⟨c, rest, rfl⟩ := List.exists_cons_of_length_pos (by omega : 0 < data.length)
    rw [readKind?, if_pos (Option.some.inj h)]
    show _ = present (field? _ (List.drop 1 (c :: rest)) >>= _)
    simp (disch := omega) only [scanKind, require_of, ok_bind, slice_of_le, Hex.scan_eq]
    refine expect_bind (by omega) (by omega) ?_
    refine lineEndAt_bind (by omega) (by omega) fun ending => ?_
    refine present_bind_congr (by congr 2; omega) fun payload => ?_
    rw [show 1 + 2 * kind.payloadLength + 1 + ending = 2 * kind.payloadLength + 2 + ending by omega]
    rfl

/-- Read a line of any kind by the places of its fields. -/
def scan (data : Bytes) : Except Stop (Kind × Bytes × Nat) := do
  require (data[0]? = some asterisk)
  firstOf (fun kind => do return (kind, ← scanKind kind data)) Kind.all

theorem scan_eq (data : Bytes) : scan data = present (read? data) := by
  by_cases h : data[0]? = some asterisk
  · simp only [scan, require_of h, ok_bind, scanKind_eq h, pure_eq_present, present_bind,
      firstOf_present, read?, Option.map_eq_bind]
    rfl
  · have hnone (kind : Kind) : readKind? kind data = none := by
      cases data with
      | nil => rfl
      | cons c rest => exact if_neg (mt (congrArg some) h)
    rw [scan, require_bind_of_not h]
    simp only [read?, hnone]
    rfl

end Raw

namespace Beast

/-- The first `n` bytes at a place without their doubling, and the place behind them. The first byte
of all is never doubled. -/
def unescape (input : Bytes) : (n i : Nat) → Option (Bytes × Nat)
  | 0, i => some ([], i)
  | n + 1, i =>
    match input[i]? with
    | none => none
    | some b =>
      if 0 < i ∧ b = escape then
        if input[i + 1]? = some escape then
          (unescape input n (i + 2)).map fun (out, i) => (b :: out, i)
        else none
      else (unescape input n (i + 1)).map fun (out, i) => (b :: out, i)

theorem unescape_eq {input : Bytes} {i : Nat} (h : 0 < i) (n : Nat) :
    unescape input n i = (undouble? n (input.drop i)).map fun (body, used) => (body, i + used) := by
  induction n generalizing i with
  | zero => rfl
  | succ n ih =>
    cases hdrop : input.drop i with
    | nil =>
      rw [unescape, List.getElem?_eq_none (List.drop_eq_nil_iff.1 hdrop)]
      rfl
    | cons b rest =>
      obtain ⟨hb, hrest⟩ := getElem?_and_drop_of_drop_eq_cons hdrop
      have hnext : input[i + 1]? = rest[0]? := by rw [← hrest, List.getElem?_drop]
      by_cases hesc : b = escape
      · simp only [unescape, hb, hnext, undouble?, h, hesc, true_and, if_true]
        cases rest with
        | nil => rfl
        | cons c rest =>
          have hrest' := (getElem?_and_drop_of_drop_eq_cons hrest).2
          simp only [List.getElem?_cons_zero, Option.some_inj]
          split
          · rw [ih (i := i + 2) (by omega), hrest', Option.map_map, Option.map_map]
            congr 1
            funext found
            exact congrArg (escape :: found.1, ·) (by omega : i + 2 + found.2 = i + (found.2 + 2))
          · rfl
      · simp only [unescape, hb, undouble?, hesc, and_false, if_false]
        rw [ih (i := i + 1) (by omega), hrest, Option.map_map, Option.map_map]
        congr 1
        funext found
        exact congrArg (b :: found.1, ·) (by omega : i + 1 + found.2 = i + (found.2 + 1))

theorem length_of_undouble? {n used : Nat} {data body : Bytes}
    (h : undouble? n data = some (body, used)) : body.length = n := by
  fun_induction undouble? n data generalizing body used with
  | case1 =>
    obtain ⟨rfl, -⟩ := Prod.mk.inj (Option.some.inj h)
    rfl
  | case2 n data ih =>
    obtain ⟨⟨body', used'⟩, h₁, h₂⟩ := Option.map_eq_some_iff.1 h
    obtain ⟨rfl, -⟩ := Prod.mk.inj h₂
    rw [List.length_cons, ih h₁]
  | case3 => cases h
  | case4 => cases h
  | case5 n b data hb ih =>
    obtain ⟨⟨body', used'⟩, h₁, h₂⟩ := Option.map_eq_some_iff.1 h
    obtain ⟨rfl, -⟩ := Prod.mk.inj h₂
    rw [List.length_cons, ih h₁]
  | case6 => cases h

/-- The first two bytes of a frame are taken as they are. -/
theorem unescape_frame {type : UInt8} (h : type ≠ escape) (rest : Bytes) (n : Nat) :
    unescape (escape :: type :: rest) (n + 2) 0 =
      (undouble? n rest).map fun (body, used) => (escape :: type :: body, used + 2) := by
  have hbody : unescape (escape :: type :: rest) n 2 =
      (undouble? n rest).map fun (body, used) => (body, 2 + used) := unescape_eq (by omega) n
  simp only [unescape, List.getElem?_cons_zero, List.getElem?_cons_succ, h,
    Nat.lt_irrefl, false_and, and_false, if_false, hbody, Option.map_map]
  congr 1
  funext found
  exact congrArg (escape :: type :: found.1, ·) (Nat.add_comm 2 found.2)

/-- Read the frame at the front by the places of its parts. -/
def scan (data : Bytes) : Except Stop (Frame × Nat) := do
  require (2 ≤ data.length)
  expect data 0 escape
  let kind ← present (kindOf? (← byteAt data 1))
  let (frame, n) ← present (unescape data (9 + kind.payloadLength) 0)
  let reading := UInt64.ofNat (Bytes.ofBigEndian (← slice frame 2 8))
  let level ← byteAt frame 8
  let payload ← slice frame 9 (9 + kind.payloadLength)
  return (⟨kind, reading, level, payload⟩, n)

theorem kindOf?_escape : kindOf? escape = none := by
  decide

/-- The parts of a frame without its doubling. -/
theorem slices_of_body (type : UInt8) {body : Bytes} {n : Nat} (h : body.length = 7 + n) :
    slice (escape :: type :: body) 2 8 = .ok (body.take 6) ∧
      byteAt (escape :: type :: body) 8 = .ok (body.getD 6 0) ∧
      slice (escape :: type :: body) 9 (9 + n) = .ok (body.drop 7) := by
  have hlen : (escape :: type :: body).length = 9 + n := by
    rw [List.length_cons, List.length_cons, h]
    omega
  refine ⟨slice_of_le (by omega) (by omega), ?_, ?_⟩
  · rw [byteAt, List.getElem?_cons_succ, List.getElem?_cons_succ, List.getD_eq_getElem?_getD,
      List.getElem?_eq_getElem (by omega), Option.getD_some, certain]
  · rw [slice_of_le (by omega) (by omega), Nat.add_sub_cancel_left]
    exact congrArg Except.ok (List.take_of_length_le (by rw [List.length_drop]; omega))

theorem scan_eq (data : Bytes) : scan data = present (read? data) := by
  rcases data with _ | ⟨start, _ | ⟨type, rest⟩⟩
  · rfl
  · rfl
  · have hlen : 2 ≤ (start :: type :: rest).length := by simp only [List.length_cons]; omega
    have htype : byteAt (start :: type :: rest) 1 = .ok type := rfl
    have hstart : expect (start :: type :: rest) 0 escape = require (start = escape) := rfl
    simp only [scan, require_of hlen, ok_bind, hstart, htype, read?]
    by_cases hescape : start = escape
    · rw [require_of hescape, if_pos hescape]
      subst hescape
      cases hkind : kindOf? type with
      | none => rfl
      | some kind =>
        have hne : type ≠ escape := by
          rintro rfl
          rw [kindOf?_escape] at hkind
          cases hkind
        have hframe := unescape_frame hne rest (7 + kind.payloadLength)
        rw [show 7 + kind.payloadLength + 2 = 9 + kind.payloadLength by omega] at hframe
        cases hbody : undouble? (7 + kind.payloadLength) rest with
        | none =>
          rw [hbody] at hframe
          simp only [present_some, ok_bind, hframe, Option.bind_some, Option.bind_eq_bind, hbody]
          rfl
        | some found =>
          obtain ⟨body, used⟩ := found
          obtain ⟨hreading, hlevel, hpayload⟩ :=
            slices_of_body type (length_of_undouble? hbody)
          rw [hbody] at hframe
          simp only [present_some, ok_bind, hframe, Option.map_some, hreading, hlevel, hpayload,
            Option.bind_some, Option.bind_eq_bind, hbody]
          rfl
    · rw [require_bind_of_not hescape, if_neg hescape]
      rfl

end Beast

namespace Proto

/-- Read the message at the front by the places of its parts. -/
def scan (data : Bytes) : Except Stop (Message Bytes × Nat) := do
  let front ← present (slice? data 0 lengthBytes)
  let n := Bytes.ofBigEndian
    [← byteAt front 0, ← byteAt front 1, ← byteAt front 2, ← byteAt front 3]
  require (0 < n ∧ n ≤ maxBody)
  let body ← present (slice? data lengthBytes (lengthBytes + n))
  let message ← present (readBody? body)
  return (message, lengthBytes + n)

theorem scan_eq (data : Bytes) : scan data = present (read? data) := by
  unfold scan read? Bytes.split?
  by_cases hlen : lengthBytes ≤ data.length
  · obtain ⟨a, b, c, d, rest, rfl⟩ : ∃ a b c d rest, data = a :: b :: c :: d :: rest := by
      match data, hlen with
      | a :: b :: c :: d :: rest, _ => exact ⟨a, b, c, d, rest, rfl⟩
    have hfront : slice? (a :: b :: c :: d :: rest) 0 lengthBytes = some [a, b, c, d] :=
      slice?_of_le (Nat.zero_le _) hlen
    have hbody (n : Nat) : slice? (a :: b :: c :: d :: rest) lengthBytes (lengthBytes + n) =
        if n ≤ rest.length then some (rest.take n) else none := by
      simp only [slice?, lengthBytes, List.length_cons, Nat.add_sub_cancel_left,
        List.drop_succ_cons,
        List.drop_zero,
        show 4 ≤ 4 + n ∧ 4 + n ≤ rest.length + 1 + 1 + 1 + 1 ↔ n ≤ rest.length by omega]
    rw [hfront, if_pos hlen]
    show (do
        require (0 < Bytes.ofBigEndian [a, b, c, d] ∧ Bytes.ofBigEndian [a, b, c, d] ≤ maxBody)
        let body ← present (slice? (a :: b :: c :: d :: rest) lengthBytes
          (lengthBytes + Bytes.ofBigEndian [a, b, c, d]))
        let message ← present (readBody? body)
        return (message, lengthBytes + Bytes.ofBigEndian [a, b, c, d])) = _
    rw [show (a :: b :: c :: d :: rest).take lengthBytes = [a, b, c, d] from rfl,
      show (a :: b :: c :: d :: rest).drop lengthBytes = rest from rfl]
    simp only [hbody, pure_eq_present, present_bind, require_bind_present, Option.bind_eq_bind,
      Option.bind_some]
    by_cases hn : Bytes.ofBigEndian [a, b, c, d] ≤ rest.length
    · rw [if_pos hn, if_pos hn]
      rfl
    · rw [if_neg hn, if_neg hn]
      rfl
  · rw [slice?, if_neg fun h => hlen h.2, if_neg hlen]
    rfl

end Proto

namespace Json

open Squitter.Json

/-- The place behind the line ends at a place. -/
def skipLineEnds (data : Bytes) (i : Nat) : Nat :=
  if h : i < data.length then
    if isLineEnd data[i] then skipLineEnds data (i + 1) else i
  else i
termination_by data.length - i

theorem skipLineEnds_eq {data : Bytes} {i : Nat} (h : i ≤ data.length) :
    skipLineEnds data i = data.length - ((data.drop i).dropWhile isLineEnd).length := by
  fun_induction skipLineEnds data i with
  | case1 i hlt hend ih =>
    rw [ih hlt, List.drop_eq_getElem_cons hlt, List.dropWhile_cons_of_pos hend]
  | case2 i hlt hend =>
    rw [List.drop_eq_getElem_cons hlt, List.dropWhile_cons_of_neg hend,
      ← List.drop_eq_getElem_cons hlt, List.length_drop]
    omega
  | case3 i hge =>
    rw [List.drop_eq_nil_of_le (by omega), List.dropWhile_nil, List.length_nil]
    omega

/-- Read the message at the front, and skip line ends from the place where its document ends. -/
def scan (data : Bytes) : Except Stop (Message String × Nat) := do
  let (document, rest) ← present (readDocument? data)
  let message ← present (message? document)
  return (message, skipLineEnds data (data.length - rest.length))

theorem scan_eq (data : Bytes) : scan data = present (read? data) := by
  cases hread : readDocument? data with
  | none => simp only [scan, read?, hread]; rfl
  | some found =>
    obtain ⟨document, rest⟩ := found
    have hends : skipLineEnds data (data.length - rest.length) =
        data.length - (rest.dropWhile isLineEnd).length := by
      rw [skipLineEnds_eq (Nat.sub_le _ _), leavesEnd_readDocument?.drop hread]
    simp only [scan, read?, hread, hends, pure_eq_present, present_bind, Option.bind_eq_bind,
      Option.bind_some]

end Json

end Wire
end Squitter
