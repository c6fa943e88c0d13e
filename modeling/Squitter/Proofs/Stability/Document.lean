import Squitter.Json.Document
import Squitter.Proofs.Stability.Text

/-!
# Reading JSON documents that arrive in pieces

A document is an object or an array, so its last token is a closing bracket. Every token before it
has something after it, and so all tokens stay what they are when more bytes come: a document is
self-delimiting (`selfDelimiting_readDocument?`), although the numbers in it are only stable.
-/

namespace Squitter.Json

/-! ## Tokens -/

theorem skipBlanks_append {bytes : Bytes} (h : skipBlanks bytes ≠ []) (more : Bytes) :
    skipBlanks (bytes ++ more) = skipBlanks bytes ++ more := by
  have hdrop : (bytes.dropWhile isBlank).isEmpty = false := by
    simpa [skipBlanks] using h
  simp only [skipBlanks, List.dropWhile_append, hdrop, Bool.false_eq_true, if_false]

theorem selfDelimiting_word? (w : Bytes) :
    ∀ ⦃bytes rest : Bytes⦄, word? w bytes = some rest →
      ∀ more, word? w (bytes ++ more) = some (rest ++ more) := by
  intro bytes rest h more
  unfold word? at h
  split at h
  · rename_i hw
    obtain rfl := Option.some.inj h
    obtain ⟨rest, rfl⟩ := List.isPrefixOf_iff_prefix.1 hw
    simp [word?]
  · cases h

theorem stable_scalar? : Stable scalar? := by
  intro bytes item rest h hrest more
  unfold scalar? at h
  split at h
  · obtain ⟨⟨value, r⟩, h₁, h₂⟩ := Option.map_eq_some_iff.1 h
    obtain ⟨rfl, rfl⟩ := Prod.mk.inj h₂
    simp only [List.cons_append, scalar?, selfDelimiting_readText? h₁ more, Option.map_some]
  iterate 3
    obtain ⟨r, h₁, h₂⟩ := Option.map_eq_some_iff.1 h
    obtain ⟨rfl, rfl⟩ := Prod.mk.inj h₂
    simp only [List.cons_append, scalar?, selfDelimiting_word? _ h₁ more, Option.map_some]
  · rename_i hquote hnull htrue hfalse
    obtain ⟨⟨value, r⟩, h₁, h₂⟩ := Option.map_eq_some_iff.1 h
    obtain ⟨rfl, rfl⟩ := Prod.mk.inj h₂
    obtain ⟨b, bytes', rfl⟩ := List.exists_cons_of_ne_nil
      (ne_nil_of_length_lt (length_lt_of_readNumber? h₁))
    have hmore := stable_readNumber? h₁ hrest more
    rw [List.cons_append] at hmore ⊢
    unfold scalar?
    split
    · rename_i heq; exact absurd (by rw [(List.cons.inj heq).1]) (hquote bytes')
    · rename_i heq; exact absurd (by rw [(List.cons.inj heq).1]) (hnull bytes')
    · rename_i heq; exact absurd (by rw [(List.cons.inj heq).1]) (htrue bytes')
    · rename_i heq; exact absurd (by rw [(List.cons.inj heq).1]) (hfalse bytes')
    · rw [hmore, Option.map_some]

namespace Scan

theorem stable_value? (s : Scan) : Stable s.value? := by
  intro bytes s' rest h hrest more
  unfold value? at h
  split at h
  iterate 2
    obtain ⟨t, h₁, h₂⟩ := Option.map_eq_some_iff.1 h
    obtain ⟨rfl, rfl⟩ := Prod.mk.inj h₂
    simp only [List.cons_append, value?, h₁, Option.map_some]
  · rename_i hsquare hcurly
    obtain ⟨⟨item, r⟩, h₁, h₂⟩ := Option.map_eq_some_iff.1 h
    obtain ⟨rfl, rfl⟩ := Prod.mk.inj h₂
    obtain ⟨b, bytes', rfl⟩ := List.exists_cons_of_ne_nil
      (ne_nil_of_length_lt (length_lt_of_scalar? h₁))
    have hmore := stable_scalar? h₁ hrest more
    rw [List.cons_append] at hmore ⊢
    unfold value?
    split
    · rename_i heq; exact absurd (by rw [(List.cons.inj heq).1]) (hsquare bytes')
    · rename_i heq; exact absurd (by rw [(List.cons.inj heq).1]) (hcurly bytes')
    · rw [hmore, Option.map_some]

theorem selfDelimiting_key? (s : Scan) : SelfDelimiting s.key? := by
  intro bytes s' rest h more
  unfold key? at h
  split at h
  · obtain ⟨⟨key, r⟩, h₁, h₂⟩ := Option.map_eq_some_iff.1 h
    obtain ⟨rfl, rfl⟩ := Prod.mk.inj h₂
    simp only [List.cons_append, key?, selfDelimiting_readText? h₁ more, Option.map_some]
  · cases h

/-- A value leaves the brackets around it open. -/
theorem stack_ne_nil_of_value? {s s' : Scan} {bytes rest : Bytes}
    (h : s.value? bytes = some (s', rest)) (hs : s.stack ≠ []) : s'.stack ≠ [] := by
  unfold value? at h
  split at h
  iterate 2
    obtain ⟨t, h₁, h₂⟩ := Option.map_eq_some_iff.1 h
    obtain ⟨rfl, -⟩ := Prod.mk.inj h₂
    unfold opened at h₁
    split at h₁
    · obtain rfl := Option.some.inj h₁
      exact List.cons_ne_nil _ _
    · cases h₁
  · obtain ⟨⟨item, r⟩, -, h₂⟩ := Option.map_eq_some_iff.1 h
    obtain ⟨rfl, -⟩ := Prod.mk.inj h₂
    exact hs

/-! ## The scanner -/

/-- A token stays what it is if something follows it, or if it closes the document. -/
theorem step_append {s s' : Scan} {bytes rest : Bytes} (h : s.step bytes = some (s', rest))
    (hs : s.stack ≠ []) (hend : s'.stack = [] ∨ rest ≠ []) (more : Bytes) :
    s.step (bytes ++ more) = some (s', rest ++ more) := by
  cases bytes with
  | nil => cases h
  | cons c bytes' =>
    have hvalue (hv : s.value? (c :: bytes') = some (s', rest)) :
        s.value? (c :: (bytes' ++ more)) = some (s', rest ++ more) :=
      stable_value? s hv (hend.resolve_left (stack_ne_nil_of_value? hv hs)) more
    have hkey (hk : s.key? (c :: bytes') = some (s', rest)) :
        s.key? (c :: (bytes' ++ more)) = some (s', rest ++ more) :=
      selfDelimiting_key? s hk more
    rw [List.cons_append]
    unfold step at h ⊢
    simp only at h ⊢
    split at h
    · exact hvalue h
    · split at h
      · rename_i hclose
        obtain ⟨rfl, rfl⟩ := Prod.mk.inj (Option.some.inj h)
        rw [if_pos hclose]
      · rename_i hclose
        rw [if_neg hclose]
        exact hvalue h
    · exact hkey h
    · split at h
      · rename_i hclose
        obtain ⟨rfl, rfl⟩ := Prod.mk.inj (Option.some.inj h)
        rw [if_pos hclose]
      · rename_i hclose
        rw [if_neg hclose]
        exact hkey h
    · split at h
      · rename_i hcolon
        obtain ⟨rfl, rfl⟩ := Prod.mk.inj (Option.some.inj h)
        rw [if_pos hcolon]
      · cases h
    · split at h
      · rename_i hclose
        obtain ⟨rfl, rfl⟩ := Prod.mk.inj (Option.some.inj h)
        rw [if_pos hclose]
      · rename_i hclose
        rw [if_neg hclose]
        split at h
        · rename_i hcomma
          obtain ⟨rfl, rfl⟩ := Prod.mk.inj (Option.some.inj h)
          rw [if_pos hcomma]
        · cases h

/-- The scanner goes on after a token, unless it closed the document. -/
theorem run_of_step {s s' : Scan} {bytes rest : Bytes}
    (h : s.step (skipBlanks bytes) = some (s', rest)) :
    s.run bytes = if s'.stack = [] then some (s'.members.reverse, rest) else s'.run rest := by
  rw [run]
  split
  · rename_i hnone
    rw [h] at hnone
    cases hnone
  · rename_i hsome
    rw [h] at hsome
    obtain ⟨rfl, rfl⟩ := Prod.mk.inj (Option.some.inj hsome)
    rfl

theorem step_nil (s : Scan) : s.step [] = none := rfl

theorem skipBlanks_ne_nil_of_step {s s' : Scan} {bytes rest : Bytes}
    (h : s.step (skipBlanks bytes) = some (s', rest)) : skipBlanks bytes ≠ [] := by
  intro hnil
  rw [hnil, step_nil] at h
  cases h

/-- The members of a document that was read to its end stay the same. -/
theorem run_append {s : Scan} {bytes rest : Bytes} {members : List (String × Item)}
    (h : s.run bytes = some (members, rest)) (hs : s.stack ≠ []) (more : Bytes) :
    s.run (bytes ++ more) = some (members, rest ++ more) := by
  fun_induction run s bytes with
  | case1 => cases h
  | case2 s bytes s' rest' hstep hend =>
    obtain ⟨rfl, rfl⟩ := Prod.mk.inj (Option.some.inj h)
    have hmore := step_append hstep hs (.inl hend) more
    rw [← skipBlanks_append (skipBlanks_ne_nil_of_step hstep)] at hmore
    rw [run_of_step hmore, if_pos hend]
  | case3 s bytes s' rest' hstep hend ih =>
    have hrest : rest' ≠ [] := ne_nil_of_length_lt (length_lt_of_run h)
    have hmore := step_append hstep hs (.inr hrest) more
    rw [← skipBlanks_append (skipBlanks_ne_nil_of_step hstep)] at hmore
    rw [run_of_step hmore, if_neg hend]
    exact ih h hend

end Scan

/-! ## Documents -/

/-- A document ends with its last bracket, whatever comes after it. -/
theorem selfDelimiting_readDocument? : SelfDelimiting readDocument? := by
  intro bytes d rest h more
  unfold readDocument? at h
  split at h
  iterate 2
    rename_i rest' hskip
    obtain ⟨⟨members, r⟩, h₁, h₂⟩ := Option.map_eq_some_iff.1 h
    obtain ⟨rfl, rfl⟩ := Prod.mk.inj h₂
    have hne : skipBlanks bytes ≠ [] := by
      rw [hskip]
      exact List.cons_ne_nil _ _
    have hblanks := skipBlanks_append hne more
    rw [hskip] at hblanks
    have hrun := Scan.run_append h₁ (List.cons_ne_nil _ _) more
    simp only [readDocument?, hblanks, List.cons_append, hrun, Option.map_some]
  · cases h

end Squitter.Json
