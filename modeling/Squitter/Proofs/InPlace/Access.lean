import Squitter.Proofs.Stability.Wire

/-!
# Access by index

A parser looks into the buffered bytes by place. Some places it has made sure of, and if there is no
byte after all, it **stops** as a program that reads outside of its memory (`Stop.outside`); of
others it asks whether there is a byte, and if not, there is no message yet (`Stop.absent`).

Steps that can stop only in the second way are **present** (`present`), and so is what is made of
them (`present_bind`). Each kind of access comes with the condition under which it is.
-/

namespace Squitter

theorem Wire.lineEnd?_cons (c : UInt8) (rest : Bytes) :
    lineEnd? (c :: rest) =
      if c = 0x0A then some 1 else if c = 0x0D ∧ rest[0]? = some 0x0A then some 2 else none := by
  unfold lineEnd?
  split
  case h_1 heq => rw [if_pos (List.cons.inj heq).1]
  case h_2 heq =>
    obtain ⟨rfl, rfl⟩ := List.cons.inj heq
    rfl
  case h_3 hfeed hreturn =>
    rw [if_neg fun hc => hfeed rest (by rw [hc]), if_neg]
    rintro ⟨rfl, hrest⟩
    cases rest with
    | nil => cases hrest
    | cons d rest => exact hreturn rest (by rw [Option.some.inj hrest])

namespace InPlace

/-- Why a parser stops before it has read a message. -/
inductive Stop
  /-- It asked for a byte where there is none. -/
  | outside
  /-- It took off more bytes than there are. -/
  | underflow (requested available : Nat)
  /-- There is no message, or none yet. -/
  | absent
  /-- The message breaks the protocol. -/
  | refused (e : Error)
deriving DecidableEq

variable {α β : Type} {data : Bytes}

/-! ## Access -/

/-- Go on with what is there. -/
def present : Option α → Except Stop α
  | some a => .ok a
  | none => .error .absent

/-- Go on only if a condition holds. -/
def require (c : Prop) [Decidable c] : Except Stop Unit :=
  if c then return () else throw .absent

/-- Go on with what must be there. -/
def certain : Option α → Except Stop α
  | some a => .ok a
  | none => .error .outside

/-- The byte at a place where there must be one. -/
def byteAt (data : Bytes) (i : Nat) : Except Stop UInt8 :=
  certain data[i]?

/-- The bytes between two places, if they are in order and within the data. -/
def slice? (data : Bytes) (low high : Nat) : Option Bytes :=
  if low ≤ high ∧ high ≤ data.length then some ((data.drop low).take (high - low)) else none

/-- The bytes between two places that must be in order and within the data. -/
def slice (data : Bytes) (low high : Nat) : Except Stop Bytes :=
  certain (slice? data low high)

/-- Go on only if a byte is the given one. -/
def expect (data : Bytes) (i : Nat) (c : UInt8) : Except Stop Unit := do
  require ((← byteAt data i) = c)

/-- The length of the line end at a place. Its second byte need not be there. -/
def lineEndAt (data : Bytes) (i : Nat) : Except Stop Nat := do
  let c ← byteAt data i
  if c = 0x0A then return 1
  else if c = 0x0D ∧ data[i + 1]? = some 0x0A then return 2
  else throw .absent

/-- The first kind for which there is something. -/
def firstOf (scan : Kind → Except Stop α) : List Kind → Except Stop α
  | [] => throw .absent
  | kind :: kinds =>
    match scan kind with
    | .error .absent => firstOf scan kinds
    | result => result

@[simp] theorem present_some (a : α) : present (some a) = .ok a := rfl

theorem present_bind (o : Option α) (f : α → Option β) :
    (present o >>= fun a => present (f a)) = present (o >>= f) := by
  cases o <;> rfl

/-- A step and what follows it, of which both are present. -/
theorem present_bind_congr {o o' : Option α} (ho : o = o') {f : α → Except Stop β}
    {g : α → Option β} (h : ∀ a, f a = present (g a)) : (present o >>= f) = present (o' >>= g) := by
  subst ho
  cases o with
  | none => rfl
  | some a => exact h a

theorem pure_eq_present (a : α) : (pure a : Except Stop α) = present (some a) := rfl

theorem ok_bind (a : α) (f : α → Except Stop β) : (Except.ok a >>= f) = f a := rfl

theorem require_of {c : Prop} [Decidable c] (h : c) : require c = .ok () :=
  if_pos h

theorem require_bind_of_not {c : Prop} [Decidable c] (h : ¬ c) (f : Unit → Except Stop α) :
    (require c >>= f) = .error .absent := by
  rw [require, if_neg h]
  rfl

theorem require_bind_congr {c : Prop} [Decidable c] {f : Unit → Except Stop β} {o : Option β}
    (h : f () = present o) : (require c >>= f) = present (if c then o else none) := by
  by_cases hc : c
  · rw [require_of hc, if_pos hc]
    exact h
  · rw [require_bind_of_not hc, if_neg hc]
    rfl

theorem require_bind_present (c : Prop) [Decidable c] (o : Option α) :
    (require c >>= fun _ => present o) = present (if c then o else none) :=
  require_bind_congr rfl

theorem byteAt_of_lt {i : Nat} (h : i < data.length) : byteAt data i = .ok data[i] := by
  rw [byteAt, List.getElem?_eq_getElem h, certain]

theorem slice?_of_le {low high : Nat} (h : low ≤ high) (hhigh : high ≤ data.length) :
    slice? data low high = some ((data.drop low).take (high - low)) :=
  if_pos ⟨h, hhigh⟩

theorem slice_of_le {low high : Nat} (h : low ≤ high) (hhigh : high ≤ data.length) :
    slice data low high = .ok ((data.drop low).take (high - low)) := by
  rw [slice, slice?_of_le h hhigh, certain]

theorem expect_eq {i : Nat} (h : i < data.length) (c : UInt8) :
    expect data i c = require (data[i]? = some c) := by
  rw [expect, byteAt_of_lt h, ok_bind]
  simp only [List.getElem?_eq_getElem h, Option.some_inj]

/-- A place in a slice is a place in the data. -/
theorem expect_window {start n i : Nat} (hi : i < n) (c : UInt8) :
    expect ((data.drop start).take n) i c = expect data (start + i) c := by
  unfold expect byteAt
  rw [List.getElem?_take, if_pos hi, List.getElem?_drop]

theorem slice_window {start n low high : Nat} (h : low ≤ high) (hn : high ≤ n)
    (hlen : start + n ≤ data.length) :
    slice ((data.drop start).take n) low high = slice data (start + low) (start + high) := by
  rw [slice_of_le h (by rw [List.length_take, List.length_drop]; omega),
    slice_of_le (by omega) (by omega), List.drop_take, List.drop_drop, List.take_take,
    show min (high - low) (n - low) = start + high - (start + low) by omega]

theorem firstOf_present (read : Kind → Option α) (kinds : List Kind) :
    firstOf (fun kind => present (read kind)) kinds = present (kinds.findSome? read) := by
  induction kinds with
  | nil => rfl
  | cons kind kinds ih =>
    rw [firstOf, List.findSome?_cons]
    cases read kind with
    | none => exact ih
    | some a => rfl

theorem getElem?_and_drop_of_drop_eq_cons {i : Nat} {b : UInt8} {rest : Bytes}
    (h : data.drop i = b :: rest) : data[i]? = some b ∧ data.drop (i + 1) = rest := by
  constructor
  · have hfirst : (data.drop i)[0]? = some b := by rw [h, List.getElem?_cons_zero]
    rwa [List.getElem?_drop] at hfirst
  · rw [← List.drop_drop, h, List.drop_one, List.tail_cons]

theorem lineEndAt_eq {i : Nat} (h : i < data.length) :
    lineEndAt data i = present (Wire.lineEnd? (data.drop i)) := by
  rw [lineEndAt, byteAt_of_lt h, ok_bind, List.drop_eq_getElem_cons h]
  have hnext : data[i + 1]? = (data.drop (i + 1))[0]? := by
    rw [List.getElem?_drop]
  rw [hnext, Wire.lineEnd?_cons]
  split
  · rfl
  · split <;> rfl

end InPlace

/-! ## Hexadecimal digits -/

namespace Hex

open InPlace

/-- The bytes written by `n` pairs of digits, from the `k`th pair on. -/
def scanPairs (hex : Bytes) : (k n : Nat) → Except Stop Bytes
  | _, 0 => return []
  | k, n + 1 => do
    let high ← byteAt hex (2 * k)
    let low ← byteAt hex (2 * k + 1)
    let b := (← present (digit? high)) <<< 4 ||| (← present (digit? low))
    return b :: (← scanPairs hex (k + 1) n)

/-- The `n` bytes written by exactly `2 * n` digits. -/
def scan (n : Nat) (hex : Bytes) : Except Stop Bytes := do
  require (hex.length = 2 * n)
  scanPairs hex 0 n

/-- What overwriting yields if all went well. -/
def overwritten? (result : Bool × Bytes) : Option Bytes :=
  if result.1 then some result.2 else none

theorem scanPairs_eq {hex : Bytes} {k n : Nat} (h : 2 * (k + n) ≤ hex.length) :
    scanPairs hex k n =
      present (overwritten? (overwrite (List.replicate n 0) (hex.drop (2 * k)))) := by
  induction n generalizing k with
  | zero => simp only [scanPairs, List.replicate_zero, overwrite]; rfl
  | succ n ih =>
    have hhigh : 2 * k < hex.length := by omega
    have hlow : 2 * k + 1 < hex.length := by omega
    have hnext : 2 * k + 1 + 1 = 2 * (k + 1) := by omega
    rw [scanPairs, byteAt_of_lt hhigh, byteAt_of_lt hlow, ih (by omega), ok_bind, ok_bind,
      List.drop_eq_getElem_cons hhigh, List.drop_eq_getElem_cons hlow, hnext, List.replicate_succ,
      overwrite]
    cases digit? hex[2 * k] with
    | none => rfl
    | some high =>
      cases digit? hex[2 * k + 1] with
      | none => rfl
      | some low =>
        rcases overwrite (List.replicate n 0) (hex.drop (2 * (k + 1))) with ⟨_ | _, rest⟩ <;> rfl

theorem scan_eq (n : Nat) (hex : Bytes) : scan n hex = present (decode? n hex) := by
  unfold scan decode? decodeInto
  rw [List.length_replicate]
  by_cases h : hex.length = 2 * n
  · rw [require_of h, ok_bind, scanPairs_eq (by omega), if_pos h]
    show present (overwritten? (overwrite (List.replicate n 0) hex)) = _
    rcases overwrite (List.replicate n 0) hex with ⟨_ | _, out⟩ <;> rfl
  · rw [require_bind_of_not h, if_neg h]
    rfl

end Hex

end Squitter
