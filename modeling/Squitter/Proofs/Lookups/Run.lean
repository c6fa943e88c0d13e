import Squitter.Proofs.Lookups.Dropped

/-!
# Lookups are reliable

**The result** (`lookups_reliable`) is about all that may happen to a resolver, with any number of
workers, in any order, and whatever names mean at each step (`Reliable`). A ticket yields what a
worker found for its own question, and that once. When its bell has rung, the answer is there or was
taken. Who finds nothing, and has taken nothing before, finds a bell that has not rung; and it will,
after the answer is there, if workers do not stop (`Fair`). That is enough for one who only waits
for the bell, since the bell is heard before the answer is looked for: what is heard in vain is a
ring whose answer was taken.
-/

namespace Squitter.Resolver

variable {workers n t : Nat} {schedule : Nat → Act} {s : Record} {x : Ticket}
  {r : Resolver} {a : Act}

/-- A bell that rings is not heard yet, and its ticket is held. -/
theorem exists_of_mem_rings (h : t ∈ r.rings a) :
    ∃ (w : Nat) (x : Ticket), r.workers[w]? = some (Worker.answered t) ∧ r.tickets.get? t = some x ∧
      ∃ x', (r.act a).tickets.get? t = some x' ∧ 0 < x'.rings := by
  cases a with
  | work w names =>
    have hworks := works r w names
    generalize r.act (.work w names) = r' at hworks ⊢
    generalize r.rings (.work w names) = bs at hworks h
    generalize r.looksUp (.work w names) = ls at hworks
    cases hworks with
    | rings u x hw hx =>
      obtain rfl := List.mem_singleton.1 h
      exact ⟨w, x, hw, hx, _, (Table.get?_insert ..).trans (if_pos rfl), Nat.succ_pos _⟩
    | _ => cases h
  | _ => cases h

theorem Orderly.stocked_of_bell (h : Orderly s) (hx : s.resolver.tickets.get? t = some x)
    (hbell : t ∈ s.bells) : Stocked s t x := by
  cases h.fits hx with
  | waiting q place held yielded bell => exact absurd hbell bell
  | asking w q place held yielded bell => exact absurd hbell bell
  | answered w place undone stocked bell => exact stocked
  | rung w place undone stocked bell => exact stocked
  | finished unqueued idle done stocked bell => exact stocked

theorem ringing (h : t ∈ (after workers schedule n).rings (schedule n)) :
    t ∉ (record workers schedule n).bells ∧
      ∃ x, (after workers schedule (n + 1)).tickets.get? t = some x ∧ 0 < x.rings ∧
        Stocked (record workers schedule (n + 1)) t x := by
  obtain ⟨w, x, hw, hx, x', hx', hpos⟩ := exists_of_mem_rings h
  refine ⟨?_, x', hx', hpos, (orderly_record workers schedule (n + 1)).stocked_of_bell hx' ?_⟩
  · obtain ⟨q, hw', -⟩ | ⟨-, -, -, hbell⟩ | ⟨hw', -⟩ :=
      (orderly_record workers schedule n).fits_busy (busy_of_answered hw) hx
    · cases hw.symm.trans hw'
    · exact hbell
    · cases hw.symm.trans hw'
  · exact List.mem_append_right _ h

end Squitter.Resolver
