import Squitter.Json.Document
import Squitter.Proofs.RoundTrip.Texts
import Squitter.Proofs.Stability.Document
import Squitter.Wire.Json

/-!
# Objects read back

An object of texts and naturals that is written on a line reads back with its members in their order
(`readDocument?_line_append`). The scanner goes through the line token by token: a key, a colon and
a value for each member (`Scan.run_member`), and a comma or the closing bracket after it.
-/

namespace Squitter.Json

open Wire.Json (member line)

/-! ## Values -/

/-- A value as it is written. -/
def Item.write : Item → Bytes
  | .text value => quote value
  | .natural value => Decimal.digits value.toNat
  | .other => utf8 "null"

theorem scalar?_of_isDigit {d : UInt8} (hd : Decimal.isDigit d) (rest : Bytes) :
    scalar? (d :: rest) = (readNumber? (d :: rest)).map fun (value, rest) =>
      ((value.map Item.natural).getD .other, rest) := by
  unfold scalar?
  split
  iterate 4
    rename_i heq
    rw [(List.cons.inj heq).1] at hd
    cases hd
  rfl

/-- A value that was written reads back, and begins neither with a blank nor with a bracket. -/
theorem scalar?_write_append (item : Item) {c : UInt8} (hc : Terminates c) (rest : Bytes) :
    ∃ b t, item.write = b :: t ∧ ¬ isBlank b ∧ b ≠ 0x5B ∧ b ≠ 0x7B ∧
      scalar? (item.write ++ c :: rest) = some (item, c :: rest) := by
  cases item with
  | text value =>
    refine ⟨_, _, rfl, by decide, by decide, by decide, ?_⟩
    simp only [Item.write, quote, List.cons_append, List.append_assoc, List.nil_append, scalar?,
      readText?_quoted, Option.map_some]
  | natural value =>
    have hread : readNumber? (Decimal.digits value.toNat ++ c :: rest) =
        some (some (.ofNat value.toNat), c :: rest) :=
      readNumber?_digits_append value.toNat_lt hc
    have hall := Decimal.all_isDigit_digits value.toNat
    cases hds : Decimal.digits value.toNat with
    | nil => exact absurd hds (Decimal.digits_ne_nil _)
    | cons d ds =>
      have hd : Decimal.isDigit d := hall d (by rw [hds]; exact List.mem_cons_self)
      have hrange : 48 ≤ d.toNat ∧ d.toNat ≤ 57 := by
        simpa [Decimal.isDigit, UInt8.le_iff_toNat_le] using hd
      refine ⟨d, ds, hds, ?_, ?_, ?_, ?_⟩
      · simp only [isBlank, Bool.or_eq_true, decide_eq_true_eq, ← UInt8.toNat_inj,
          UInt8.reduceToNat]
        omega
      · rintro rfl
        cases hd
      · rintro rfl
        cases hd
      · rw [hds, List.cons_append] at hread
        rw [Item.write, hds, List.cons_append, scalar?_of_isDigit hd, hread]
        simp
  | other =>
    exact ⟨_, _, rfl, by decide, by decide, by decide, rfl⟩

/-! ## Members -/

/-- A member as it is written. -/
def memberBytes (m : String × Item) : Bytes :=
  member m.1 m.2.write

namespace Scan

theorem skipBlanks_of_not_isBlank {b : UInt8} (hb : ¬ isBlank b) (t : Bytes) :
    skipBlanks (b :: t) = b :: t :=
  List.dropWhile_cons_of_neg hb

theorem value?_of_scalar? {s : Scan} {b : UInt8} {t rest : Bytes} {item : Item} (h₁ : b ≠ 0x5B)
    (h₂ : b ≠ 0x7B) (h : scalar? (b :: t) = some (item, rest)) :
    s.value? (b :: t) = some (s.took item, rest) := by
  unfold value?
  split
  · rename_i heq
    exact absurd (List.cons.inj heq).1 h₁
  · rename_i heq
    exact absurd (List.cons.inj heq).1 h₂
  · rw [h]
    rfl

/-- The scanner goes through a member of the outermost object. -/
theorem run_member {s : Scan} (hstack : s.stack = [.curly])
    (hexpect : s.expect = .key ∨ s.expect = .keyOrClose) (m : String × Item) {c : UInt8}
    (hc : Terminates c) (rest : Bytes) :
    s.run (memberBytes m ++ c :: rest) =
      run ⟨[.curly], .commaOrClose, m.1, m :: s.members⟩ (c :: rest) := by
  obtain ⟨stack, expect, key, members⟩ := s
  obtain ⟨name, item⟩ := m
  simp only at hstack hexpect
  subst hstack
  obtain ⟨b, t, hb, hblank, hsquare, hcurly, hscalar⟩ := scalar?_write_append item hc rest
  rw [hb, List.cons_append] at hscalar
  have hkey : step ⟨[.curly], expect, key, members⟩ (quote name ++ 0x3A :: b :: (t ++ c :: rest)) =
      some (⟨[.curly], .colon, name, members⟩, 0x3A :: b :: (t ++ c :: rest)) := by
    rcases hexpect with rfl | rfl <;>
      simp [step, quote, key?, readText?_quoted, keyed, closing?]
  have hcolon : step ⟨[.curly], .colon, name, members⟩ (0x3A :: b :: (t ++ c :: rest)) =
      some (⟨[.curly], .value, name, members⟩, b :: (t ++ c :: rest)) := rfl
  have hvalue : step ⟨[.curly], .value, name, members⟩ (b :: (t ++ c :: rest)) =
      some (⟨[.curly], .commaOrClose, name, (name, item) :: members⟩, c :: rest) :=
    value?_of_scalar? hsquare hcurly hscalar
  have hbytes : memberBytes (name, item) ++ c :: rest =
      quote name ++ 0x3A :: b :: (t ++ c :: rest) := by
    simp only [memberBytes, member, hb, List.append_assoc, List.cons_append]
  rw [hbytes, run_of_step hkey, if_neg (List.cons_ne_nil _ _), run_of_step hcolon,
    if_neg (List.cons_ne_nil _ _)]
  rw [← skipBlanks_of_not_isBlank hblank] at hvalue
  rw [run_of_step hvalue, if_neg (List.cons_ne_nil _ _)]

theorem run_members {s : Scan} (hstack : s.stack = [.curly])
    (hexpect : s.expect = .key ∨ s.expect = .keyOrClose) {ms : List (String × Item)} (hms : ms ≠ [])
    (rest : Bytes) :
    s.run (List.intercalate [0x2C] (ms.map memberBytes) ++ 0x7D :: rest) =
      some (s.members.reverse ++ ms, rest) := by
  have hcomma : Terminates 0x2C := ⟨by decide, by decide, by decide, by decide⟩
  have hclose : Terminates 0x7D := ⟨by decide, by decide, by decide, by decide⟩
  induction ms generalizing s with
  | nil => exact absurd rfl hms
  | cons m ms ih =>
    cases ms with
    | nil =>
      have hstep : step ⟨[.curly], .commaOrClose, m.1, m :: s.members⟩ (0x7D :: rest) =
          some (⟨[], .commaOrClose, m.1, m :: s.members⟩, rest) := rfl
      have hbytes : List.intercalate [0x2C] ([m].map memberBytes) ++ 0x7D :: rest =
          memberBytes m ++ 0x7D :: rest := by
        simp [List.intercalate]
      rw [hbytes, run_member hstack hexpect m hclose, run_of_step hstep, if_pos rfl,
        List.reverse_cons]
    | cons m' ms =>
      have hstep (t : Bytes) : step ⟨[.curly], .commaOrClose, m.1, m :: s.members⟩ (0x2C :: t) =
          some (⟨[.curly], .key, m.1, m :: s.members⟩, t) := rfl
      have hbytes : List.intercalate [0x2C] ((m :: m' :: ms).map memberBytes) ++ 0x7D :: rest =
          memberBytes m ++
            0x2C :: (List.intercalate [0x2C] ((m' :: ms).map memberBytes) ++ 0x7D :: rest) := by
        simp [List.intercalate]
      rw [hbytes, run_member hstack hexpect m hcomma, run_of_step (hstep _),
        if_neg (List.cons_ne_nil _ _), ih rfl (.inl rfl) (List.cons_ne_nil _ _),
        List.reverse_cons, List.append_assoc, List.singleton_append]

end Scan

/-- **An object reads back** from the line it is written on. -/
theorem readDocument?_line_append {ms : List (String × Item)} (hms : ms ≠ []) (rest : Bytes) :
    readDocument? (line (ms.map memberBytes) ++ rest) = some (⟨.curly, ms⟩, 0x0A :: rest) := by
  have hrun := Scan.run_members (s := Scan.start .curly) rfl (.inr rfl) hms (0x0A :: rest)
  have hbytes : line (ms.map memberBytes) ++ rest =
      0x7B :: (List.intercalate [0x2C] (ms.map memberBytes) ++ 0x7D :: 0x0A :: rest) := by
    simp [line]
  have hskip (t : Bytes) : skipBlanks (0x7B :: t) = 0x7B :: t := rfl
  simp only [hbytes, readDocument?, hskip, hrun, Option.map_some]
  rfl

end Squitter.Json
