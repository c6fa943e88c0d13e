import Squitter.Proofs.Buffer

/-!
# A buffer is a bounded queue

A **storage** (`Storage`) is what a buffer is kept in: cells, and which of them are in use. Reading
writes into the cells behind those in use. When they end at the last cell, they are copied to the
front first, cell by cell, onto cells of which some may still be in use (`Storage.copyDown`); the
copy is right because a cell is overwritten only after it was read (`copyDown_eq`). A storage does
what the buffer does that it holds (`Storage.Backs.act`).

To its user a buffer is a queue. A **ledger** (`Buffer.Ledger`) keeps all bytes that were ever
taken and how many of them were dropped, going only by the answers of the buffer. The buffer
**holds** what is left (`Buffer.Holds`). Each act keeps this up (`Holds.act`), hence so does every
list of acts (`Holds.course`).
-/

namespace Squitter

namespace Buffer

/-! ## Acts and their ledger -/

/-- What is done to a buffer. -/
inductive Act where
  | fill (available : Bytes)
  | consume (n : Nat)
  | clear

/-- One act on a buffer. The answer is how many bytes were taken or dropped (`none`: it failed);
clearing answers nothing of use. -/
def act (b : Buffer) : Act → Option Nat × Buffer
  | .fill available => b.fill available
  | .consume n =>
    match b.consume? n with
    | some b' => (some n, b')
    | none => (none, b)
  | .clear => (some 0, b.clear)

/-- All bytes that a buffer ever took, in order, and how many of them it dropped. -/
structure Ledger where
  taken : Bytes
  dropped : Nat
deriving DecidableEq

namespace Ledger

/-- The bytes that are left. -/
def left (l : Ledger) : Bytes :=
  l.taken.drop l.dropped

/-- Enter an act with its answer. Of what was available, the first bytes were taken. -/
def enter (l : Ledger) : Act → Option Nat → Ledger
  | .fill available, some n => { l with taken := l.taken ++ available.take n }
  | .consume _, some n => { l with dropped := l.dropped + n }
  | .clear, _ => { l with dropped := l.taken.length }
  | _, none => l

end Ledger

/-- Perform acts one after the other and keep the ledger of them. -/
def course {σ : Type} (perform : σ → Act → Option Nat × σ) (s : σ) (l : Ledger) :
    List Act → σ × Ledger
  | [] => (s, l)
  | a :: acts => course perform (perform s a).2 (l.enter a (perform s a).1) acts

/-- An empty buffer after some acts, and their ledger. -/
def run (capacity : Nat) (acts : List Act) : Buffer × Ledger :=
  course act (empty capacity) ⟨[], 0⟩ acts

/-! ## Filling and consuming -/

theorem data_compact (b : Buffer) : b.compact.data = b.data := by
  unfold compact
  split <;> rfl

theorem fill_of_full {b : Buffer} (h : b.data.length = b.capacity) (available : Bytes) :
    b.fill available = (none, b) :=
  if_pos (isFull_iff.2 h)

theorem fill_of_not_full {b : Buffer} (h : b.data.length ≠ b.capacity) (available : Bytes) :
    b.fill available =
      (some (available.take b.room).length, b.append (available.take b.room)) :=
  if_neg (mt isFull_iff.1 h)

theorem act_consume_of_lt {b : Buffer} {n : Nat} (h : b.data.length < n) :
    b.act (.consume n) = (none, b) := by
  rw [act, consume?, if_pos h]

theorem act_consume_of_le {b : Buffer} {n : Nat} (h : n ≤ b.data.length) :
    b.act (.consume n) = (some n, b.advance n) := by
  rw [act, consume?_of_le h]

end Buffer

/-! ## Storages -/

/-- Cells of which `length`, from `start` on, are in use. -/
structure Storage where
  cells : Bytes
  start : Nat
  length : Nat
deriving DecidableEq

namespace Storage

open Buffer (Act Ledger course)

/-- A storage without a cell in use. -/
def empty (capacity : Nat) : Storage := ⟨List.replicate capacity 0, 0, 0⟩

/-- The bytes in the cells in use. -/
def data (s : Storage) : Bytes := (s.cells.drop s.start).take s.length

/-- The cells in use end within the storage. -/
def Sound (s : Storage) : Prop := s.start + s.length ≤ s.cells.length

/-- Copy `n` cells from `source` on to the front, the first one first. -/
def copyDown (cells : Bytes) (source : Nat) : Nat → Bytes
  | 0 => cells
  | n + 1 =>
    let before := copyDown cells source n
    before.set n (before.getD (source + n) 0)

/-- Move the cells in use to the front. -/
def compact (s : Storage) : Storage :=
  if s.start = 0 then s
  else { s with cells := copyDown s.cells s.start s.length, start := 0 }

/-- Move the cells in use to the front, if there are none behind them. -/
def makeRoom (s : Storage) : Storage :=
  if s.start + s.length = s.cells.length then s.compact else s

/-- Replace the cells from `place` on. -/
def overwrite (cells : Bytes) (place : Nat) (bytes : Bytes) : Bytes :=
  cells.take place ++ bytes ++ cells.drop (place + bytes.length)

/-- Write bytes into the cells behind those in use. -/
def write (s : Storage) (bytes : Bytes) : Storage :=
  { s with
    cells := overwrite s.cells (s.start + s.length) bytes
    length := s.length + bytes.length }

/-- The cells behind those in use. -/
def tail (s : Storage) : Bytes := s.cells.drop (s.start + s.length)

/-- Read once from a source with the given bytes available, into all cells behind those in use. -/
def fill (s : Storage) (available : Bytes) : Option Nat × Storage :=
  if s.length = s.cells.length then (none, s)
  else
    let taken := available.take s.makeRoom.tail.length
    (some taken.length, s.makeRoom.write taken)

/-- No longer use the first `n` of the cells in use, if there are as many. -/
def consume (s : Storage) (n : Nat) : Option Nat × Storage :=
  if s.length < n then (none, s)
  else
    let length := s.length - n
    (some n, { s with start := if length = 0 then 0 else s.start + n, length := length })

/-- No longer use any cell. -/
def clear (s : Storage) : Storage :=
  { s with start := 0, length := 0 }

/-- One act on a storage, with its answer. -/
def act (s : Storage) : Act → Option Nat × Storage
  | .fill available => s.fill available
  | .consume n => s.consume n
  | .clear => (some 0, s.clear)

/-- An empty storage after some acts, and their ledger. -/
def run (capacity : Nat) (acts : List Act) : Storage × Ledger :=
  course act (empty capacity) ⟨[], 0⟩ acts

/-! ## Copying -/

/-- The cells that are read are those of before, however much they overlap with those written. -/
theorem copyDown_eq {cells : Bytes} {source n : Nat} (h : source + n ≤ cells.length) :
    copyDown cells source n = (cells.drop source).take n ++ cells.drop n := by
  induction n with
  | zero => rfl
  | succ n ih =>
    have hfront : ((cells.drop source).take n).length = n := by
      rw [List.length_take, List.length_drop]
      omega
    obtain ⟨b, rest, hrest⟩ : ∃ b rest, cells.drop n = b :: rest :=
      List.exists_cons_of_length_pos (by rw [List.length_drop]; omega)
    have hrest' : cells.drop (n + 1) = rest := by
      rw [← List.drop_drop, hrest]
      rfl
    -- Cell `source + n` is behind the `n` cells that are already overwritten.
    have hread : (copyDown cells source n).getD (source + n) 0 = cells[source + n] := by
      rw [ih (by omega), List.getD_eq_getElem?_getD, List.getElem?_append_right (by omega), hfront,
        List.getElem?_drop, show n + (source + n - n) = source + n by omega,
        List.getElem?_eq_getElem (by omega), Option.getD_some]
    have htake : (cells.drop source).take (n + 1) =
        (cells.drop source).take n ++ [cells[source + n]] := by
      rw [List.take_add_one, List.getElem?_drop, List.getElem?_eq_getElem (by omega)]
      rfl
    show (copyDown cells source n).set n _ = _
    rw [hread, ih (by omega), List.set_append_right _ _ (by omega), hfront, Nat.sub_self,
      hrest, htake, hrest', List.set_cons_zero, List.append_assoc, List.singleton_append]

theorem length_copyDown (cells : Bytes) (source n : Nat) :
    (copyDown cells source n).length = cells.length := by
  induction n with
  | zero => rfl
  | succ n ih => rw [copyDown, List.length_set, ih]

/-! ## Buffers in storages -/

/-- A storage backs a buffer that has its bytes in the cells in use. -/
structure Backs (s : Storage) (b : Buffer) : Prop where
  sound : s.Sound
  capacity_eq : b.capacity = s.cells.length
  start_eq : b.start = s.start
  data_eq : b.data = s.data

theorem Sound.length_data {s : Storage} (h : s.Sound) : s.data.length = s.length := by
  unfold Sound at h
  rw [data, List.length_take, List.length_drop]
  omega

theorem Backs.length_eq {s : Storage} {b : Buffer} (h : s.Backs b) : b.data.length = s.length := by
  rw [h.data_eq, h.sound.length_data]

theorem backs_empty (capacity : Nat) : (empty capacity).Backs (Buffer.empty capacity) where
  sound := Nat.zero_le _
  capacity_eq := List.length_replicate.symm
  start_eq := rfl
  data_eq := rfl

theorem Backs.compact {s : Storage} {b : Buffer} (h : s.Backs b) :
    s.compact.Backs { b with start := 0 } := by
  unfold Storage.compact
  have hsound := h.sound
  unfold Sound at hsound
  split
  case isTrue hzero => exact ⟨h.sound, h.capacity_eq, hzero.symm, h.data_eq⟩
  case isFalse =>
    refine ⟨?_, ?_, rfl, ?_⟩
    · show 0 + s.length ≤ (copyDown s.cells s.start s.length).length
      rw [length_copyDown]
      omega
    · show b.capacity = (copyDown s.cells s.start s.length).length
      rw [length_copyDown, h.capacity_eq]
    · show b.data = (copyDown s.cells s.start s.length).take s.length
      rw [copyDown_eq hsound, h.data_eq]
      exact (List.take_left' h.sound.length_data).symm

theorem Backs.makeRoom {s : Storage} {b : Buffer} (h : s.Backs b) : s.makeRoom.Backs b.compact := by
  unfold Storage.makeRoom Buffer.compact
  rw [h.start_eq, h.length_eq, h.capacity_eq]
  split
  · exact h.capacity_eq ▸ h.compact
  · exact h

theorem Backs.write {s : Storage} {b : Buffer} (h : s.Backs b) {bytes : Bytes}
    (hlen : s.start + s.length + bytes.length ≤ s.cells.length) :
    (s.write bytes).Backs { b with data := b.data ++ bytes } := by
  have hbehind : (overwrite s.cells (s.start + s.length) bytes).length = s.cells.length := by
    simp only [overwrite, List.length_append, List.length_take, List.length_drop]
    omega
  refine ⟨?_, h.capacity_eq.trans hbehind.symm, h.start_eq, ?_⟩
  · show s.start + (s.length + bytes.length) ≤ (overwrite s.cells (s.start + s.length) bytes).length
    omega
  · show b.data ++ bytes =
      ((overwrite s.cells (s.start + s.length) bytes).drop s.start).take (s.length + bytes.length)
    have hfront : ((s.cells.take (s.start + s.length)).drop s.start) = s.data := by
      rw [List.drop_take, Nat.add_sub_cancel_left]
      rfl
    rw [overwrite, List.append_assoc, List.drop_append_of_le_length
      (by rw [List.length_take]; omega), hfront, ← List.append_assoc, h.data_eq]
    exact (List.take_left' (by rw [List.length_append, h.sound.length_data])).symm

theorem Backs.length_tail {s : Storage} {b : Buffer} (h : s.Backs b) :
    s.makeRoom.tail.length = b.room := by
  have hroom := h.makeRoom
  rw [tail, List.length_drop, Buffer.room, hroom.capacity_eq, hroom.start_eq, ← hroom.length_eq,
    Buffer.data_compact]

/-- A storage is filled as the buffer is that it backs. -/
theorem Backs.fill {s : Storage} {b : Buffer} (h : s.Backs b) (available : Bytes) :
    (s.fill available).1 = (b.fill available).1 ∧
      (s.fill available).2.Backs (b.fill available).2 := by
  by_cases hfull : b.data.length = b.capacity
  · have hfull' : s.length = s.cells.length := by rw [← h.length_eq, hfull, h.capacity_eq]
    rw [Storage.fill, if_pos hfull', Buffer.fill_of_full hfull]
    exact ⟨rfl, h⟩
  · have hfull' : s.length ≠ s.cells.length := by rwa [← h.length_eq, ← h.capacity_eq]
    rw [Storage.fill, if_neg hfull', Buffer.fill_of_not_full hfull]
    refine ⟨by rw [h.length_tail], ?_⟩
    have hfits : s.makeRoom.start + s.makeRoom.length +
      (available.take s.makeRoom.tail.length).length
        ≤ s.makeRoom.cells.length := by
      have hsound := h.makeRoom.sound
      unfold Sound at hsound
      simp only [List.length_take, tail, List.length_drop]
      omega
    have hwrite := h.makeRoom.write hfits
    rw [Buffer.data_compact] at hwrite
    rw [← h.length_tail]
    exact hwrite

/-! ## Acts -/

theorem data_of_consumed (s : Storage) (n : Nat) :
    (s.cells.drop (s.start + n)).take (s.length - n) = s.data.drop n := by
  rw [data, List.drop_take, List.drop_drop]

theorem Backs.consume {s : Storage} {b : Buffer} (h : s.Backs b) (n : Nat) :
    (s.consume n).1 = (b.act (.consume n)).1 ∧ (s.consume n).2.Backs (b.act (.consume n)).2 := by
  by_cases hlt : s.length < n
  · rw [Storage.consume, if_pos hlt, Buffer.act_consume_of_lt (by rwa [h.length_eq])]
    exact ⟨rfl, h⟩
  · have hsound := h.sound
    unfold Sound at hsound
    rw [Storage.consume, if_neg hlt, Buffer.act_consume_of_le (by rw [h.length_eq]; omega)]
    refine ⟨rfl, ?_, h.capacity_eq, ?_, ?_⟩
    · show (if s.length - n = 0 then 0 else s.start + n) + (s.length - n) ≤ s.cells.length
      split <;> omega
    · show (if (b.data.drop n).isEmpty then 0 else b.start + n) =
        if s.length - n = 0 then 0 else s.start + n
      simp only [h.start_eq, List.isEmpty_iff_length_eq_zero, List.length_drop, h.length_eq]
    · show b.data.drop n =
        (s.cells.drop (if s.length - n = 0 then 0 else s.start + n)).take (s.length - n)
      rw [h.data_eq, ← data_of_consumed]
      split
      case isTrue hzero => rw [hzero, List.take_zero, List.take_zero]
      case isFalse => rfl

theorem Backs.clear {s : Storage} {b : Buffer} (h : s.Backs b) : s.clear.Backs b.clear where
  sound := Nat.zero_le _
  capacity_eq := h.capacity_eq
  start_eq := rfl
  data_eq := rfl

/-- A storage answers as the buffer that it backs, and goes on to back it. -/
theorem Backs.act {s : Storage} {b : Buffer} (h : s.Backs b) (a : Act) :
    (s.act a).1 = (b.act a).1 ∧ (s.act a).2.Backs (b.act a).2 := by
  cases a with
  | fill available => exact h.fill available
  | consume n => exact h.consume n
  | clear => exact ⟨rfl, h.clear⟩

theorem Backs.course {s : Storage} {b : Buffer} (h : s.Backs b) (l : Ledger) (acts : List Act) :
    (Buffer.course Storage.act s l acts).2 = (Buffer.course Buffer.act b l acts).2 ∧
      (Buffer.course Storage.act s l acts).1.Backs (Buffer.course Buffer.act b l acts).1 := by
  induction acts generalizing s b l with
  | nil => exact ⟨rfl, h⟩
  | cons a acts ih =>
    obtain ⟨hanswer, hbacks⟩ := h.act a
    rw [Buffer.course, Buffer.course, hanswer]
    exact ih hbacks _

end Storage

/-! ## Queues -/

namespace Buffer

/-- A buffer holds the bytes that were taken and not dropped, within its capacity. -/
structure Holds (capacity : Nat) (l : Ledger) (b : Buffer) : Prop where
  capacity_eq : b.capacity = capacity
  within : b.start + b.data.length ≤ capacity
  start_of_nil : b.data = [] → b.start = 0
  data_eq : b.data = l.left
  dropped_le : l.dropped ≤ l.taken.length

variable {capacity : Nat} {l : Ledger} {b : Buffer}

theorem holds_empty (capacity : Nat) : Holds capacity ⟨[], 0⟩ (empty capacity) where
  capacity_eq := rfl
  within := Nat.zero_le _
  start_of_nil _ := rfl
  data_eq := rfl
  dropped_le := Nat.le_refl 0

theorem Holds.sound (h : Holds capacity l b) : b.Sound := by
  rw [Sound, h.capacity_eq]
  exact h.within

theorem start_compact_of_eq_zero (h : b.start = 0) : b.compact.start = 0 := by
  unfold compact
  split
  · rfl
  · exact h

theorem Holds.fill (h : Holds capacity l b) (available : Bytes) :
    Holds capacity (l.enter (.fill available) (b.fill available).1) (b.fill available).2 := by
  by_cases hfull : b.data.length = b.capacity
  · rw [fill_of_full hfull]
    exact h
  · have htaken : available.take (available.take b.room).length = available.take b.room := by
      rw [List.length_take, ← List.take_eq_take_min]
    rw [fill_of_not_full hfull, Ledger.enter, htaken]
    refine ⟨(capacity_append b _).trans h.capacity_eq, ?_, fun hnil => ?_, ?_, ?_⟩
    · have hafter := sound_append h.sound (List.length_take_le b.room available)
      rwa [Sound, capacity_append, h.capacity_eq] at hafter
    · exact start_compact_of_eq_zero (h.start_of_nil (List.append_eq_nil_iff.1 hnil).1)
    · rw [data_append, h.data_eq]
      exact (List.drop_append_of_le_length h.dropped_le).symm
    · exact Nat.le_trans h.dropped_le (by rw [List.length_append]; omega)

theorem Holds.consume (h : Holds capacity l b) (n : Nat) :
    Holds capacity (l.enter (.consume n) (b.act (.consume n)).1) (b.act (.consume n)).2 := by
  by_cases hlt : b.data.length < n
  · rw [act_consume_of_lt hlt]
    exact h
  · have hle := Nat.not_lt.1 hlt
    rw [act_consume_of_le hle]
    refine ⟨h.capacity_eq, h.capacity_eq ▸ sound_advance h.sound n, fun hnil => ?_, ?_, ?_⟩
    · exact if_pos (List.isEmpty_iff.2 hnil)
    · rw [data_advance, h.data_eq, Ledger.left, List.drop_drop]
      rfl
    · show l.dropped + n ≤ l.taken.length
      rw [h.data_eq, Ledger.left, List.length_drop] at hle
      have := h.dropped_le
      omega

theorem Holds.clear (h : Holds capacity l b) :
    Holds capacity (l.enter .clear (some 0)) b.clear where
  capacity_eq := h.capacity_eq
  within := Nat.zero_le _
  start_of_nil _ := rfl
  data_eq := List.drop_length.symm
  dropped_le := Nat.le_refl _

/-- Each act leaves a buffer that holds what its ledger then says. -/
theorem Holds.act (h : Holds capacity l b) (a : Act) :
    Holds capacity (l.enter a (b.act a).1) (b.act a).2 := by
  cases a with
  | fill available => exact h.fill available
  | consume n => exact h.consume n
  | clear => exact h.clear

theorem Holds.course (h : Holds capacity l b) (acts : List Act) :
    Holds capacity (Buffer.course Buffer.act b l acts).2 (Buffer.course Buffer.act b l acts).1 := by
  induction acts generalizing b l with
  | nil => exact h
  | cons a acts ih => exact ih (h.act a)

/-! ## The next act -/

/-- A buffer that is not full reads as much as is available and as it has space for behind its
bytes, and that is nothing only at the end of the source. -/
theorem fill_answer (hsound : b.Sound) (hfull : b.data.length ≠ b.capacity) (available : Bytes) :
    0 < b.room ∧ (b.fill available).1 = some (min available.length b.room) ∧
      ((b.fill available).1 = some 0 ↔ available = []) := by
  have hroom : 0 < b.room := room_pos hsound (by unfold Sound at hsound; omega)
  have hanswer : (b.fill available).1 = some (min available.length b.room) := by
    rw [fill_of_not_full hfull, List.length_take, Nat.min_comm]
  refine ⟨hroom, hanswer, ?_⟩
  rw [hanswer, Option.some_inj, ← List.length_eq_zero_iff]
  omega

/-- **A buffer is a bounded queue.** After any acts on an empty buffer of any capacity, it holds, in
order and within its capacity, the bytes that were taken and not dropped, and starts at the front if
there are none. So does its storage, with the same answers, on this and on the next act. Filling
fails just if the bytes fill the capacity, and changes nothing then; otherwise at least one cell is
offered to the source, as much is taken as fits, and nothing only if nothing is available. Consuming
fails just if there are fewer bytes, and changes nothing then. -/
theorem run_bounded_queue (capacity : Nat) (acts : List Act) :
    let b := (run capacity acts).1
    let s := (Storage.run capacity acts).1
    Holds capacity (run capacity acts).2 b ∧
    (Storage.run capacity acts).2 = (run capacity acts).2 ∧ s.Backs b ∧
    (∀ a, (s.act a).1 = (b.act a).1 ∧ (s.act a).2.Backs (b.act a).2) ∧
    (∀ available,
      (b.data.length = capacity → b.fill available = (none, b) ∧ s.fill available = (none, s)) ∧
      (b.data.length ≠ capacity →
        0 < s.makeRoom.tail.length ∧
        (b.fill available).1 = some (min available.length s.makeRoom.tail.length) ∧
        ((b.fill available).1 = some 0 ↔ available = []))) ∧
    ∀ n,
      (b.data.length < n → b.act (.consume n) = (none, b) ∧ s.act (.consume n) = (none, s)) ∧
      (n ≤ b.data.length → (b.act (.consume n)).1 = some n) := by
  intro b s
  have hholds : Holds capacity (run capacity acts).2 b := (holds_empty capacity).course acts
  obtain ⟨hledger, hbacks⟩ : (Storage.run capacity acts).2 = (run capacity acts).2 ∧ s.Backs b :=
    (Storage.backs_empty capacity).course ⟨[], 0⟩ acts
  have hlength : b.data.length = s.length := hbacks.length_eq
  have hcapacity : capacity = s.cells.length := hholds.capacity_eq ▸ hbacks.capacity_eq
  refine ⟨hholds, hledger, hbacks, hbacks.act, fun available => ⟨fun hfull => ?_, fun hfull => ?_⟩,
    fun n => ⟨fun hlt => ?_, fun hle => ?_⟩⟩
  · exact ⟨fill_of_full (hfull.trans hholds.capacity_eq.symm) available,
      if_pos (by rw [← hlength, hfull, hcapacity])⟩
  · rw [hbacks.length_tail]
    exact fill_answer hholds.sound (by rwa [hholds.capacity_eq]) available
  · exact ⟨act_consume_of_lt hlt, if_pos (by rwa [← hlength])⟩
  · rw [act_consume_of_le hle]

/-- Three bytes move to the front, and of the cells they leave, the next fill uses all. -/
example : (Storage.run 8 [.fill (utf8 "01234567"), .consume 5, .fill (utf8 "abcdef")]).1 =
    ⟨utf8 "567abcde", 0, 8⟩ := by
  decide

end Buffer

end Squitter
