import Squitter.Buffer

/-!
# Receive buffers

The bytes of a **sound** buffer (`Buffer.Sound`) lie in its storage. All operations on a buffer keep
it so (`sound_append`, `sound_advance`), and then there is room for more bytes unless it is full
(`room_pos`): moving the bytes to the front makes room if there is none behind them.
-/

namespace Squitter.Buffer

/-! ## Soundness -/

/-- The bytes end within the storage. -/
def Sound (b : Buffer) : Prop :=
  b.start + b.data.length ≤ b.capacity

theorem sound_empty (capacity : Nat) : (empty capacity).Sound :=
  Nat.zero_le _

theorem isFull_iff {b : Buffer} : b.isFull ↔ b.data.length = b.capacity := by
  simp only [isFull, decide_eq_true_eq]

@[simp] theorem capacity_compact (b : Buffer) : b.compact.capacity = b.capacity := by
  unfold compact
  split <;> rfl

@[simp] theorem capacity_append (b : Buffer) (bytes : Bytes) :
    (b.append bytes).capacity = b.capacity :=
  capacity_compact b

@[simp] theorem data_append (b : Buffer) (bytes : Bytes) :
    (b.append bytes).data = b.data ++ bytes :=
  rfl

theorem start_compact_le {b : Buffer} (h : b.Sound) :
    b.compact.start + b.data.length ≤ b.capacity := by
  unfold Sound at h
  unfold compact
  split
  · show 0 + b.data.length ≤ b.capacity
    omega
  · exact h

theorem room_pos {b : Buffer} (h : b.Sound) (hfull : b.data.length < b.capacity) : 0 < b.room := by
  unfold Sound at h
  unfold room compact
  split
  · show 0 < b.capacity - (0 + b.data.length)
    omega
  · show 0 < b.capacity - (b.start + b.data.length)
    omega

theorem sound_append {b : Buffer} (h : b.Sound) {bytes : Bytes} (hlen : bytes.length ≤ b.room) :
    (b.append bytes).Sound := by
  have hstart := start_compact_le h
  unfold room at hlen
  unfold Sound append
  rw [capacity_compact] at hlen ⊢
  show b.compact.start + (b.data ++ bytes).length ≤ b.capacity
  rw [List.length_append]
  omega

/-! ## Filling -/

theorem exists_data_fill (b : Buffer) (available : Bytes) :
    ∃ taken, (b.fill available).2.data = b.data ++ taken := by
  by_cases hfull : b.isFull
  · exact ⟨[], by rw [fill, if_pos hfull, List.append_nil]⟩
  · exact ⟨available.take b.room, by rw [fill, if_neg hfull]; rfl⟩

theorem data_fill_of_eq {b : Buffer} {available : Bytes}
    (h : (b.fill available).1 = some available.length) :
    (b.fill available).2.data = b.data ++ available := by
  by_cases hfull : b.isFull
  · rw [fill, if_pos hfull] at h
    cases h
  · rw [fill, if_neg hfull] at h ⊢
    have hlen := Option.some.inj h
    rw [List.length_take] at hlen
    show b.data ++ available.take b.room = _
    rw [List.take_of_length_le (by omega)]

@[simp] theorem capacity_fill (b : Buffer) (available : Bytes) :
    (b.fill available).2.capacity = b.capacity := by
  unfold fill
  split
  · rfl
  · exact capacity_append b _

theorem sound_fill {b : Buffer} (h : b.Sound) (available : Bytes) : (b.fill available).2.Sound := by
  unfold fill
  split
  · exact h
  · exact sound_append h (List.length_take_le _ _)

/-! ## Consuming -/

/-- The buffer without its first bytes. -/
def advance (b : Buffer) (n : Nat) : Buffer :=
  { b with start := if (b.data.drop n).isEmpty then 0 else b.start + n, data := b.data.drop n }

@[simp] theorem data_advance (b : Buffer) (n : Nat) : (b.advance n).data = b.data.drop n := rfl

@[simp] theorem capacity_advance (b : Buffer) (n : Nat) : (b.advance n).capacity = b.capacity := rfl

theorem consume?_of_le {b : Buffer} {n : Nat} (h : n ≤ b.data.length) :
    b.consume? n = some (b.advance n) := by
  rw [consume?, if_neg (Nat.not_lt.2 h), advance]

theorem sound_advance {b : Buffer} (h : b.Sound) (n : Nat) : (b.advance n).Sound := by
  unfold Sound at h ⊢
  by_cases hlen : n < b.data.length
  · have hne : (b.data.drop n).isEmpty = false := by
      simp only [List.isEmpty_eq_false_iff, ne_eq, List.drop_eq_nil_iff]
      omega
    simp only [advance, hne, Bool.false_eq_true, if_false, List.length_drop]
    omega
  · have hnil : b.data.drop n = [] := List.drop_eq_nil_of_le (by omega)
    simp only [advance, hnil, List.isEmpty_nil, if_true, List.length_nil]
    omega

end Squitter.Buffer
