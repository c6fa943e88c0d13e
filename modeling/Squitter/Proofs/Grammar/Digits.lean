import Squitter.Proofs.RoundTrip.Numerals
import Squitter.Proofs.Stability.Wire

/-!
# Values of hexadecimal digits

The readers of hexadecimal text work on bits (`Hex.digit?`, `Hex.toInt?`, `Hex.decode?`). Here they
are compared with what the digits stand for: the place of a digit among the digits (`Hex.place`),
the number in base 16 that is written by a text (`Hex.value`), and the bytes that are written by its
pairs of digits (`Hex.pairs`). A text is read exactly if it has only digits, of either case, and as
what they write (`Hex.IsText.toInt?_eq`, `Hex.IsText.decode?_eq`).
-/

namespace Squitter.Hex

/-- The digits, by their values, and the lower case of those that are letters. -/
def digits : Bytes := utf8 "0123456789ABCDEFabcdef"

/-- What a digit stands for: its place among the digits, where a letter of lower case takes the
place of its upper case. -/
def place (c : UInt8) : Nat :=
  let k := digits.idxOf c
  if k < 16 then k else k - 6

/-- A text of `n` digits. -/
def IsText (n : Nat) (text : Bytes) : Prop :=
  text.length = n ∧ ∀ c ∈ text, c ∈ digits

instance (n : Nat) (text : Bytes) : Decidable (IsText n text) :=
  inferInstanceAs (Decidable (_ ∧ _))

/-- The number that is written, the most significant digit first. -/
def value (text : Bytes) : Nat :=
  text.foldl (fun n c => 16 * n + place c) 0

/-- The bytes that are written, two digits each. -/
def pairs : Bytes → Bytes
  | high :: low :: text => .ofNat (value [high, low]) :: pairs text
  | _ => []

variable {c : UInt8} {text : Bytes} {n : Nat}

/-! ## Digits -/

theorem digit?_eq_place (c : UInt8) :
    digit? c = if c ∈ digits then some (.ofNat (place c)) else none := by
  have h : ∀ i : Fin 256, digit? (.ofFin i) =
      if .ofFin i ∈ digits then some (.ofNat (place (.ofFin i))) else none := by
    decide +kernel
  exact h c.toFin

theorem digit?_of_mem (hc : c ∈ digits) : digit? c = some (.ofNat (place c)) := by
  rw [digit?_eq_place, if_pos hc]

theorem isSome_digit?_iff : (digit? c).isSome ↔ c ∈ digits := by
  rw [digit?_eq_place]
  by_cases hc : c ∈ digits
  · rw [if_pos hc]
    exact iff_of_true rfl hc
  · rw [if_neg hc]
    exact iff_of_false Bool.noConfusion hc

theorem place_lt (hc : c ∈ digits) : place c < 16 := by
  have h : ∀ c ∈ digits, place c < 16 := by decide +kernel
  exact h c hc

theorem toNat_place (hc : c ∈ digits) : (UInt8.ofNat (place c)).toNat = place c := by
  have hlt := place_lt hc
  rw [UInt8.toNat_ofNat']
  omega

/-! ## Numbers -/

theorem foldl_place_lt (htext : ∀ c ∈ text, c ∈ digits) {m k : Nat} (hm : m < 16 ^ k) :
    text.foldl (fun n c => 16 * n + place c) m < 16 ^ (k + text.length) := by
  induction text generalizing m k with
  | nil => exact hm
  | cons c text ih =>
    have hc := place_lt (htext c List.mem_cons_self)
    have hnext : 16 * m + place c < 16 ^ (k + 1) := by
      rw [Nat.pow_succ]
      omega
    rw [List.foldl_cons, List.length_cons, Nat.add_comm text.length, ← Nat.add_assoc]
    exact ih (fun c hc => htext c (List.mem_cons_of_mem _ hc)) hnext

theorem IsText.value_lt (h : IsText n text) : value text < 16 ^ n := by
  obtain ⟨rfl, hdigits⟩ := h
  have hlt := foldl_place_lt hdigits (m := 0) (k := 0) Nat.one_pos
  rwa [Nat.zero_add] at hlt

/-- The loop over the digits on bits is the one on numbers, modulo the word. -/
theorem foldlM_eq_foldl (htext : ∀ c ∈ text, c ∈ digits) (m : Nat) :
    text.foldlM (fun (acc : UInt64) c => (digit? c).map fun d => (acc <<< 4) ||| d.toUInt64)
        (.ofNat m)
      = some (.ofNat (text.foldl (fun n c => 16 * n + place c) m)) := by
  induction text generalizing m with
  | nil => rfl
  | cons c text ih =>
    have hc := htext c List.mem_cons_self
    have hplace := toNat_place hc
    have hsmall : (UInt8.ofNat (place c)).toNat < 16 := hplace.symm ▸ place_lt hc
    have hstep : (UInt64.ofNat m <<< 4) ||| (UInt8.ofNat (place c)).toUInt64 =
        .ofNat (16 * m + place c) := by
      apply UInt64.toNat_inj.1
      rw [toNat_shiftLeft_or_digit _ hsmall, hplace, UInt64.toNat_ofNat', UInt64.toNat_ofNat']
      omega
    rw [List.foldlM_cons, digit?_of_mem hc, List.foldl_cons]
    show text.foldlM _ ((UInt64.ofNat m <<< 4) ||| (UInt8.ofNat (place c)).toUInt64) = _
    rw [hstep]
    exact ih (fun c hc => htext c (List.mem_cons_of_mem _ hc)) _

/-- A number of at most 16 digits fits into the word. -/
theorem IsText.toNat_value (h : IsText n text) (hn : n ≤ 16) :
    (UInt64.ofNat (value text)).toNat = value text := by
  have hlt := h.value_lt
  have hle : 16 ^ n ≤ 2 ^ 64 := Nat.pow_le_pow_right (n := 16) (by decide) hn
  rw [UInt64.toNat_ofNat', Nat.mod_eq_of_lt (Nat.lt_of_lt_of_le hlt hle)]

/-- **Digits are read as the number they write.** -/
theorem IsText.toInt?_eq (h : IsText n text) (hpos : 0 < n) (hn : n ≤ 16) :
    toInt? text = some (.ofNat (value text)) := by
  obtain ⟨rfl, hdigits⟩ := h
  have hshape : ¬ (text.isEmpty ∨ 16 < text.length) := by
    rw [List.isEmpty_iff_length_eq_zero]
    omega
  rw [toInt?, if_neg hshape]
  exact foldlM_eq_foldl hdigits 0

/-- Nothing else is read as a number. -/
theorem isText_of_toInt? {number : UInt64} (h : toInt? text = some number) :
    IsText text.length text :=
  ⟨rfl, fun c hc => isSome_digit?_iff.1 (digit?_of_toInt? h c hc)⟩

/-! ## Byte strings -/

theorem pair_eq {high low : UInt8} (hhigh : high ∈ digits) (hlow : low ∈ digits) :
    UInt8.ofNat (place high) <<< 4 ||| UInt8.ofNat (place low) = .ofNat (value [high, low]) := by
  have h : ∀ high ∈ digits, ∀ low ∈ digits,
      UInt8.ofNat (place high) <<< 4 ||| UInt8.ofNat (place low) = .ofNat (value [high, low]) := by
    decide +kernel
  exact h high hhigh low hlow

theorem exists_pair_of_length (hlen : text.length = 2 * (n + 1)) :
    ∃ high low rest, text = high :: low :: rest ∧ rest.length = 2 * n := by
  obtain ⟨high, text, rfl⟩ := List.exists_cons_of_length_pos (by omega : 0 < text.length)
  rw [List.length_cons] at hlen
  obtain ⟨low, text, rfl⟩ := List.exists_cons_of_length_pos (by omega : 0 < text.length)
  rw [List.length_cons] at hlen
  exact ⟨high, low, text, rfl, by omega⟩

theorem overwrite_of_digits {out : Bytes} (htext : ∀ c ∈ text, c ∈ digits)
    (hlen : text.length = 2 * out.length) : overwrite out text = (true, pairs text) := by
  induction out generalizing text with
  | nil =>
    rw [List.eq_nil_of_length_eq_zero hlen]
    rfl
  | cons old out ih =>
    obtain ⟨high, low, rest, rfl, hrest⟩ := exists_pair_of_length hlen
    have hhigh := htext high List.mem_cons_self
    have hlow := htext low (List.mem_cons_of_mem _ List.mem_cons_self)
    have hdigits (c : UInt8) (hc : c ∈ rest) : c ∈ digits :=
      htext c (List.mem_cons_of_mem _ (List.mem_cons_of_mem _ hc))
    simp only [overwrite, digit?_of_mem hhigh, digit?_of_mem hlow, ih hdigits hrest,
      pair_eq hhigh hlow, pairs]

/-- **Digits are read as the bytes they write.** -/
theorem IsText.decode?_eq (h : IsText (2 * n) text) : decode? n text = some (pairs text) := by
  obtain ⟨hlen, hdigits⟩ := h
  have hzeros : text.length = 2 * (List.replicate n (0 : UInt8)).length := by
    rw [List.length_replicate, hlen]
  rw [decode?, decodeInto, if_pos hzeros, overwrite_of_digits hdigits hzeros]

/-- Nothing else is read as bytes. -/
theorem isText_of_decode? {payload : Bytes} (h : decode? n text = some payload) :
    IsText text.length text :=
  ⟨rfl, fun c hc => isSome_digit?_iff.1 (digit?_of_decode? h c hc)⟩

theorem IsText.isSome_digit? (h : IsText n text) : ∀ c ∈ text, (digit? c).isSome :=
  fun c hc => isSome_digit?_iff.2 (h.2 c hc)

theorem length_pairs (hlen : text.length = 2 * n) : (pairs text).length = n := by
  induction n generalizing text with
  | zero =>
    rw [List.eq_nil_of_length_eq_zero hlen]
    rfl
  | succ n ih =>
    obtain ⟨high, low, rest, rfl, hrest⟩ := exists_pair_of_length hlen
    rw [pairs, List.length_cons, ih hrest]

end Squitter.Hex
