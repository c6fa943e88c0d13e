/-!
# Timers

**Timers** (`Timers`) hold what is to be done later, each with its deadline, the next first. What
has the same deadline keeps the order in which it was scheduled. Only an entry whose deadline has
come can be taken out.
-/

namespace Squitter

/-- Pending work in the order of its deadlines. -/
structure Timers (ω : Type) where
  entries : List (Nat × ω)
  ascending : entries.Pairwise fun a b => a.1 ≤ b.1

namespace Timers

variable {ω : Type}

/-- No work is pending. -/
def empty : Timers ω := ⟨[], .nil⟩

instance : Inhabited (Timers ω) := ⟨empty⟩

/-- Number of pending entries. -/
def size (t : Timers ω) : Nat := t.entries.length

/-- No work is pending. -/
def isEmpty (t : Timers ω) : Bool := t.entries.isEmpty

/-- Put an entry behind those that are due no later. -/
def place (deadline : Nat) (work : ω) : List (Nat × ω) → List (Nat × ω)
  | [] => [(deadline, work)]
  | e :: rest =>
    if e.1 ≤ deadline then e :: place deadline work rest else (deadline, work) :: e :: rest

theorem mem_place {deadline : Nat} {work : ω} {es : List (Nat × ω)} {e : Nat × ω} :
    e ∈ place deadline work es ↔ e = (deadline, work) ∨ e ∈ es := by
  fun_induction place deadline work es with
  | case1 => simp
  | case2 e' rest hle ih => simp [ih, or_left_comm]
  | case3 e' rest hgt => simp

theorem pairwise_place (deadline : Nat) (work : ω) {es : List (Nat × ω)}
    (h : es.Pairwise fun a b => a.1 ≤ b.1) :
    (place deadline work es).Pairwise fun a b => a.1 ≤ b.1 := by
  fun_induction place deadline work es with
  | case1 => simp
  | case2 e rest hle ih =>
    obtain ⟨he, hrest⟩ := List.pairwise_cons.1 h
    refine List.pairwise_cons.2 ⟨fun e' he' => ?_, ih hrest⟩
    rcases mem_place.1 he' with rfl | he'
    · exact hle
    · exact he e' he'
  | case3 e rest hgt =>
    obtain ⟨he, hrest⟩ := List.pairwise_cons.1 h
    refine List.pairwise_cons.2 ⟨?_, h⟩
    simp only [List.mem_cons, forall_eq_or_imp]
    exact ⟨by omega, fun e' he' => Nat.le_trans (by omega) (he e' he')⟩

/-- Schedule work for a time. -/
def schedule (t : Timers ω) (deadline : Nat) (work : ω) : Timers ω :=
  ⟨place deadline work t.entries, pairwise_place deadline work t.ascending⟩

/-- The time that is left until the earliest deadline. -/
def remaining? (t : Timers ω) (now : Nat) : Option Nat :=
  t.entries.head?.map fun e => e.1 - now

/-- The earliest entry, if it is due, and the others. -/
def pop? (t : Timers ω) (now : Nat) : Option (ω × Timers ω) :=
  match t with
  | ⟨[], _⟩ => none
  | ⟨(deadline, work) :: rest, h⟩ =>
    if deadline ≤ now then some (work, ⟨rest, (List.pairwise_cons.1 h).2⟩) else none

/-- Number of entries that are due. -/
def countDue (t : Timers ω) (now : Nat) : Nat :=
  (t.entries.filter fun e => e.1 ≤ now).length

/-- Taking an entry out leaves one less that is due. -/
theorem countDue_of_pop? {t t' : Timers ω} {now : Nat} {work : ω}
    (h : t.pop? now = some (work, t')) : t.countDue now = t'.countDue now + 1 := by
  obtain ⟨entries, ha⟩ := t
  cases entries with
  | nil => simp [pop?] at h
  | cons e rest =>
    simp only [pop?] at h
    split at h
    case isTrue hdue =>
      cases h
      simp [countDue, hdue]
    case isFalse => cases h

end Timers

end Squitter
