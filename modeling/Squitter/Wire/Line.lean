import Squitter.Bytes

/-!
# Fields and ends of lines

The two line formats are made of fields that end in a semicolon (`field?`), after an asterisk and
before a line feed that a carriage return may precede (`lineEnd?`).
-/

namespace Squitter.Wire

/-- The byte that starts a line. -/
def asterisk : UInt8 := 0x2A

/-- The byte that ends a field. -/
def semicolon : UInt8 := 0x3B

/-- A field of `n` bytes at the front, and what follows its semicolon. -/
def field? (n : Nat) (data : Bytes) : Option (Bytes × Bytes) :=
  match data.drop n with
  | c :: rest => if c = semicolon then some (data.take n, rest) else none
  | [] => none

/-- The length of the line end at the front. -/
def lineEnd? : Bytes → Option Nat
  | 0x0A :: _ => some 1
  | 0x0D :: 0x0A :: _ => some 2
  | _ => none

theorem field?_append (front rest : Bytes) :
    field? front.length (front ++ semicolon :: rest) = some (front, rest) := by
  simp [field?]

theorem field?_eq_some_iff {n : Nat} {data front rest : Bytes} :
    field? n data = some (front, rest) ↔
      front.length = n ∧ data = front ++ semicolon :: rest := by
  constructor
  · intro h
    unfold field? at h
    split at h
    · rename_i c rest' hdrop
      split at h
      · rename_i hc
        obtain ⟨rfl, rfl⟩ := Prod.mk.inj (Option.some.inj h)
        have hlen : n < data.length := by
          have := congrArg List.length hdrop
          simp only [List.length_drop, List.length_cons] at this
          omega
        refine ⟨by simp; omega, ?_⟩
        rw [← hc, ← hdrop, List.take_append_drop]
      · simp at h
    · simp at h
  · rintro ⟨rfl, rfl⟩
    exact field?_append front rest

end Squitter.Wire
