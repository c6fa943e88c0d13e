import Squitter.Json.Document

/-!
# What a reader leaves is the end of the bytes

A reader of a value says what comes after it, and not how many bytes it took. Each of the readers of
a JSON document leaves an end of the bytes that it was given (`LeavesEnd`), so that the number of
bytes that it took tells where it stopped (`LeavesEnd.drop`).
-/

namespace Squitter

variable {α : Type}

/-- Whatever is read, an end of the bytes is left. -/
def LeavesEnd (read : Bytes → Option (α × Bytes)) : Prop :=
  ∀ ⦃bytes : Bytes⦄ ⦃a : α⦄ ⦃rest : Bytes⦄, read bytes = some (a, rest) → rest <:+ bytes

/-- What is left begins behind the bytes that were taken. -/
theorem LeavesEnd.drop {read : Bytes → Option (α × Bytes)} (h : LeavesEnd read) {bytes rest : Bytes}
    {a : α} (hread : read bytes = some (a, rest)) :
    bytes.drop (bytes.length - rest.length) = rest :=
  (List.suffix_iff_eq_drop.1 (h hread)).symm

theorem suffix_cons_of_suffix {c : UInt8} {rest bytes : Bytes} (h : rest <:+ bytes) :
    rest <:+ c :: bytes :=
  h.trans (List.suffix_cons c bytes)

theorem Utf8.leavesEnd_next? : LeavesEnd next? := by
  intro bytes c rest h
  obtain ⟨c', -, heq⟩ := Option.map_eq_some_iff.1 h
  obtain ⟨rfl, rfl⟩ := Prod.mk.inj heq
  exact List.drop_suffix _ _

namespace Json

/-! ## Texts -/

theorem leavesEnd_escaped? : LeavesEnd escaped? := by
  intro bytes c rest h
  unfold escaped? at h
  split at h
  case h_9 a b c d rest =>
    have hskip : rest <:+ 0x75 :: a :: b :: c :: d :: rest :=
      ⟨[0x75, a, b, c, d], rfl⟩
    simp only [Option.bind_eq_bind, Option.bind_eq_some_iff] at h
    obtain ⟨n, -, h⟩ := h
    split at h
    · obtain ⟨-, rfl⟩ := Prod.mk.inj (Option.some.inj h)
      exact hskip
    · split at h
      · rename_i a' b' c' d' rest'
        simp only [Option.bind_eq_some_iff] at h
        obtain ⟨_, -, _, -, h⟩ := h
        obtain ⟨-, rfl⟩ := Prod.mk.inj (Option.some.inj h)
        exact .trans ⟨[0x5C, 0x75, a', b', c', d'], rfl⟩ hskip
      · cases h
  case h_10 => cases h
  all_goals
    obtain ⟨-, rfl⟩ := Prod.mk.inj (Option.some.inj h)
    exact List.suffix_cons _ _

theorem leavesEnd_char? : LeavesEnd char? := by
  intro bytes c rest h
  unfold char? at h
  split at h
  · cases h
  · exact suffix_cons_of_suffix (leavesEnd_escaped? h)
  · split at h
    · cases h
    · exact Utf8.leavesEnd_next? h

theorem leavesEnd_readChars? : LeavesEnd readChars? := by
  intro bytes cs rest h
  fun_induction readChars? bytes generalizing cs rest with
  | case1 rest' =>
    obtain ⟨-, rfl⟩ := Prod.mk.inj (Option.some.inj h)
    exact List.suffix_cons _ _
  | case2 => cases h
  | case3 bytes _ c rest' hc ih =>
    obtain ⟨⟨cs', rest''⟩, h₁, h₂⟩ := Option.map_eq_some_iff.1 h
    obtain ⟨-, rfl⟩ := Prod.mk.inj h₂
    exact (ih h₁).trans (leavesEnd_char? hc)

theorem leavesEnd_readText? : LeavesEnd readText? := by
  intro bytes text rest h
  obtain ⟨⟨cs, rest'⟩, h₁, h₂⟩ := Option.map_eq_some_iff.1 h
  obtain ⟨-, rfl⟩ := Prod.mk.inj h₂
  exact leavesEnd_readChars? h₁

/-! ## Numbers -/

theorem digits_suffix {bytes ds rest : Bytes} (h : digits bytes = (ds, rest)) : rest <:+ bytes := by
  obtain ⟨-, rfl⟩ := Prod.mk.inj h
  exact List.dropWhile_suffix _

theorem leavesEnd_whole? : LeavesEnd whole? := by
  intro bytes ds rest h
  unfold whole? at h
  split at h
  · cases h
  · rename_i hd
    split at h
    · cases h
    · obtain ⟨-, rfl⟩ := Prod.mk.inj (Option.some.inj h)
      exact digits_suffix hd

theorem leavesEnd_fraction? : LeavesEnd fraction? := by
  intro bytes ds rest h
  unfold fraction? at h
  split at h
  · split at h
    · cases h
    · rename_i hd
      obtain ⟨-, rfl⟩ := Prod.mk.inj (Option.some.inj h)
      exact suffix_cons_of_suffix (digits_suffix hd)
  · obtain ⟨-, rfl⟩ := Prod.mk.inj (Option.some.inj h)
    exact List.suffix_rfl

theorem exponentSign_suffix (bytes : Bytes) : (exponentSign bytes).2 <:+ bytes := by
  unfold exponentSign
  split
  · exact List.suffix_cons _ _
  · exact List.suffix_cons _ _
  · exact List.suffix_rfl

theorem leavesEnd_exponent? : LeavesEnd exponent? := by
  intro bytes e rest h
  unfold exponent? at h
  split at h
  · split at h
    · simp only at h
      split at h
      · cases h
      · rename_i hd
        obtain ⟨-, rfl⟩ := Prod.mk.inj (Option.some.inj h)
        exact suffix_cons_of_suffix ((digits_suffix hd).trans (exponentSign_suffix _))
    · obtain ⟨-, rfl⟩ := Prod.mk.inj (Option.some.inj h)
      exact List.suffix_rfl
  · obtain ⟨-, rfl⟩ := Prod.mk.inj (Option.some.inj h)
    exact List.suffix_rfl

theorem sign_suffix (bytes : Bytes) : (sign bytes).2 <:+ bytes := by
  unfold sign
  split
  · exact List.suffix_cons _ _
  · exact List.suffix_rfl

theorem leavesEnd_readNumber? : LeavesEnd readNumber? := by
  intro bytes n rest h
  simp only [readNumber?, Option.bind_eq_bind, Option.bind_eq_some_iff] at h
  obtain ⟨⟨whole, r₁⟩, h₁, ⟨fraction, r₂⟩, h₂, ⟨exponent, r₃⟩, h₃, h⟩ := h
  have hrest : r₃ <:+ bytes := (leavesEnd_exponent? h₃).trans ((leavesEnd_fraction? h₂).trans
    ((leavesEnd_whole? h₁).trans (sign_suffix bytes)))
  split at h
  · split at h <;>
    · obtain ⟨-, rfl⟩ := Prod.mk.inj (Option.some.inj h)
      exact hrest
  · cases h

/-! ## Tokens -/

theorem word?_suffix {w bytes rest : Bytes} (h : word? w bytes = some rest) : rest <:+ bytes := by
  unfold word? at h
  split at h
  · obtain rfl := Option.some.inj h
    exact List.drop_suffix _ _
  · cases h

theorem leavesEnd_scalar? : LeavesEnd scalar? := by
  intro bytes item rest h
  unfold scalar? at h
  split at h
  · obtain ⟨⟨value, r⟩, h₁, h₂⟩ := Option.map_eq_some_iff.1 h
    obtain ⟨-, rfl⟩ := Prod.mk.inj h₂
    exact suffix_cons_of_suffix (leavesEnd_readText? h₁)
  iterate 3
    obtain ⟨r, h₁, h₂⟩ := Option.map_eq_some_iff.1 h
    obtain ⟨-, rfl⟩ := Prod.mk.inj h₂
    exact suffix_cons_of_suffix (word?_suffix h₁)
  · obtain ⟨⟨value, r⟩, h₁, h₂⟩ := Option.map_eq_some_iff.1 h
    obtain ⟨-, rfl⟩ := Prod.mk.inj h₂
    exact leavesEnd_readNumber? h₁

namespace Scan

theorem leavesEnd_value? (s : Scan) : LeavesEnd s.value? := by
  intro bytes s' rest h
  unfold value? at h
  split at h
  iterate 2
    obtain ⟨t, -, h₂⟩ := Option.map_eq_some_iff.1 h
    obtain ⟨-, rfl⟩ := Prod.mk.inj h₂
    exact List.suffix_cons _ _
  · obtain ⟨⟨item, r⟩, h₁, h₂⟩ := Option.map_eq_some_iff.1 h
    obtain ⟨-, rfl⟩ := Prod.mk.inj h₂
    exact leavesEnd_scalar? h₁

theorem leavesEnd_key? (s : Scan) : LeavesEnd s.key? := by
  intro bytes s' rest h
  unfold key? at h
  split at h
  · obtain ⟨⟨key, r⟩, h₁, h₂⟩ := Option.map_eq_some_iff.1 h
    obtain ⟨-, rfl⟩ := Prod.mk.inj h₂
    exact suffix_cons_of_suffix (leavesEnd_readText? h₁)
  · cases h

theorem leavesEnd_step (s : Scan) : LeavesEnd s.step := by
  intro bytes s' rest h
  unfold step at h
  split at h
  · cases h
  · rename_i c rest'
    have hcons : rest' <:+ c :: rest' := List.suffix_cons _ _
    simp only at h
    split at h
    · exact leavesEnd_value? s h
    · split at h
      · obtain ⟨-, rfl⟩ := Prod.mk.inj (Option.some.inj h); exact hcons
      · exact leavesEnd_value? s h
    · exact leavesEnd_key? s h
    · split at h
      · obtain ⟨-, rfl⟩ := Prod.mk.inj (Option.some.inj h); exact hcons
      · exact leavesEnd_key? s h
    · split at h
      · obtain ⟨-, rfl⟩ := Prod.mk.inj (Option.some.inj h); exact hcons
      · cases h
    · split at h
      · obtain ⟨-, rfl⟩ := Prod.mk.inj (Option.some.inj h); exact hcons
      · split at h
        · obtain ⟨-, rfl⟩ := Prod.mk.inj (Option.some.inj h); exact hcons
        · cases h

theorem leavesEnd_run (s : Scan) : LeavesEnd s.run := by
  intro bytes members rest h
  fun_induction run s bytes with
  | case1 => cases h
  | case2 s bytes s' rest' hs _ =>
    obtain ⟨-, rfl⟩ := Prod.mk.inj (Option.some.inj h)
    exact (leavesEnd_step s hs).trans (List.dropWhile_suffix _)
  | case3 s bytes s' rest' hs _ ih =>
    exact (ih h).trans ((leavesEnd_step s hs).trans (List.dropWhile_suffix _))

end Scan

/-- **A document leaves the end of the bytes.** -/
theorem leavesEnd_readDocument? : LeavesEnd readDocument? := by
  intro bytes d rest h
  unfold readDocument? at h
  split at h
  iterate 2
    rename_i rest' hblanks
    obtain ⟨⟨members, r⟩, h₁, h₂⟩ := Option.map_eq_some_iff.1 h
    obtain ⟨-, rfl⟩ := Prod.mk.inj h₂
    have hbytes : skipBlanks bytes <:+ bytes := List.dropWhile_suffix _
    rw [hblanks] at hbytes
    exact (suffix_cons_of_suffix (Scan.leavesEnd_run _ h₁)).trans hbytes
  · cases h

end Json

end Squitter
