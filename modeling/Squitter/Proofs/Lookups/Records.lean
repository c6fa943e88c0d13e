import Squitter.Resolver

/-!
# Lookups in any order

Questions are asked, workers step, and the holders of tickets hear the bell, collect or throw a
ticket away (`Resolver.Act`), in any order: workers run beside the rest of the program, so a worker
may well step between the moment at which a holder has heard the bell and the one at which it looks
for the answer. What names mean may be something else at each step of a worker. A **record**
(`Resolver.Record`) is a resolver with all that came of it: the questions in the order in which they
were asked, which is that of their tickets, what workers looked up and what names meant then, the
answers that tickets have yielded, and the bells that have rung.

All that a worker may do in one step is `Works`; what one who collects may do is `collect_cases`.
-/

namespace Squitter.Resolver

/-! ## Acts -/

/-- What may happen to a resolver. -/
inductive Act
  | ask (q : Query)
  /-- A worker steps, and names have a meaning at that time. -/
  | work (worker : Nat) (names : NameService)
  | hear (ticket : Nat)
  | collect (ticket : Nat)
  | drop (ticket : Nat)

/-- The resolver after an act. -/
def act (r : Resolver) : Act → Resolver
  | .ask q => (r.ask q).2
  | .work w names => r.step names w
  | .hear t => r.hear t
  | .collect t => (r.collect t).2
  | .drop t => r.drop t

/-- The question that is asked. -/
def Act.question? : Act → Option Query
  | .ask q => some q
  | _ => none

/-- The worker that steps. -/
def Act.worker? : Act → Option Nat
  | .work w _ => some w
  | _ => none

/-- What a worker looks up in an act: for which ticket, and what names mean to it. -/
def looksUp (r : Resolver) : Act → List (Nat × Query × NameService)
  | .work w names =>
    match r.workers[w]? with
    | some (.asking t q) => [(t, q, names)]
    | _ => []
  | _ => []

/-- The answer that an act takes from a ticket. -/
def yields (r : Resolver) : Act → List (Nat × Answer)
  | .collect t =>
    match (r.collect t).1 with
    | .answer a => [(t, a)]
    | _ => []
  | _ => []

/-- The bell that an act rings. That of a ticket that was thrown away does not ring. -/
def rings (r : Resolver) : Act → List Nat
  | .work w _ =>
    match r.workers[w]? with
    | some (.answered t) => if r.tickets.contains t then [t] else []
    | _ => []
  | _ => []

/-- A resolver and what came of it so far. -/
structure Record where
  resolver : Resolver
  /-- In the order of their tickets. -/
  questions : List Query
  /-- What workers have looked up: for which ticket, and what names meant then. -/
  lookups : List (Nat × Query × NameService)
  answers : List (Nat × Answer)
  bells : List Nat

namespace Record

/-- Nothing has happened yet. -/
def start (workers : Nat) : Record :=
  ⟨.start workers, [], [], [], []⟩

/-- What there is after an act. -/
def act (s : Record) (a : Act) : Record where
  resolver := s.resolver.act a
  questions := s.questions ++ a.question?.toList
  lookups := s.lookups ++ s.resolver.looksUp a
  answers := s.answers ++ s.resolver.yields a
  bells := s.bells ++ s.resolver.rings a

/-- The answers that a ticket has yielded. -/
def yielded (s : Record) (t : Nat) : List Answer :=
  (s.answers.filter (·.1 = t)).map Prod.snd

end Record

/-! ## What one act does -/

/-- The ticket that a worker is busy with. -/
def busy (r : Resolver) (w : Nat) : Option Nat :=
  r.workers[w]?.bind Worker.ticket?

/-- What a worker may do in one step, the bell that it rings, and what it looks up. -/
inductive Works (r : Resolver) (w : Nat) (names : NameService) :
    Resolver → List Nat → List (Nat × Query × NameService) → Prop
  | nothing (h : ∀ t, r.busy w ≠ some t) : Works r w names r [] []
  | begins (t : Nat) (q : Query) (rest : List (Nat × Query)) (h : r.workers[w]? = some .free)
      (hq : r.waiting = (t, q) :: rest) :
      Works r w names
        { r with workers := r.workers.set w (.asking t q), waiting := rest } [] []
  | answers (t : Nat) (q : Query) (x : Ticket) (h : r.workers[w]? = some (.asking t q))
      (hx : r.tickets.get? t = some x) :
      Works r w names
        { r with
          workers := r.workers.set w (.answered t)
          tickets := r.tickets.insert t { x with answer := some (q.answer names) } }
        [] [(t, q, names)]
  | discards (t : Nat) (q : Query) (h : r.workers[w]? = some (.asking t q))
      (hx : r.tickets.get? t = none) :
      Works r w names { r with workers := r.workers.set w .free } [] [(t, q, names)]
  | rings (t : Nat) (x : Ticket) (h : r.workers[w]? = some (.answered t))
      (hx : r.tickets.get? t = some x) :
      Works r w names
        { r with
          workers := r.workers.set w (.rung t)
          tickets := r.tickets.insert t { x with rings := x.rings + 1, silent := true } } [t] []
  | skips (t : Nat) (h : r.workers[w]? = some (.answered t)) (hx : r.tickets.get? t = none) :
      Works r w names { r with workers := r.workers.set w (.rung t) } [] []
  | ends (t : Nat) (x : Ticket) (h : r.workers[w]? = some (.rung t))
      (hx : r.tickets.get? t = some x) :
      Works r w names
        { r with
          workers := r.workers.set w .free
          tickets := r.tickets.insert t { x with done := true } } [] []
  | leaves (t : Nat) (h : r.workers[w]? = some (.rung t)) (hx : r.tickets.get? t = none) :
      Works r w names { r with workers := r.workers.set w .free } [] []

theorem works (r : Resolver) (w : Nat) (names : NameService) :
    Works r w names (r.act (.work w names)) (r.rings (.work w names))
      (r.looksUp (.work w names)) := by
  simp only [act, rings, looksUp, step]
  cases hw : r.workers[w]? with
  | none => exact .nothing fun t => by simp [busy, hw]
  | some worker =>
    cases worker with
    | free =>
      cases hq : r.waiting with
      | nil => exact .nothing fun t => by simp [busy, hw, Worker.ticket?]
      | cons e rest => exact .begins e.1 e.2 rest hw hq
    | asking t q =>
      cases hx : r.tickets.get? t with
      | none =>
        simp only [Table.contains, hx, Option.isSome_none, Bool.false_eq_true, if_false]
        exact .discards t q hw hx
      | some x =>
        simp only [Table.contains, hx, Option.isSome_some, if_true, Table.modify]
        exact .answers t q x hw hx
    | answered t =>
      cases hx : r.tickets.get? t with
      | none =>
        simp only [Table.contains, hx, Option.isSome_none, Bool.false_eq_true, if_false,
          Table.modify]
        exact .skips t hw hx
      | some x =>
        simp only [Table.contains, hx, Option.isSome_some, if_true, Table.modify]
        exact .rings t x hw hx
    | rung t =>
      cases hx : r.tickets.get? t with
      | none =>
        simp only [Table.modify, hx]
        exact .leaves t hw hx
      | some x =>
        simp only [Table.modify, hx]
        exact .ends t x hw hx

/-- What a resolver is after a step of a worker. -/
theorem exists_works (r : Resolver) (w : Nat) (names : NameService) :
    ∃ r' bs ls, r.act (.work w names) = r' ∧ Works r w names r' bs ls :=
  ⟨_, _, _, rfl, works r w names⟩

/-- Who collects takes an answer that is there, or changes nothing. -/
theorem collect_cases (r : Resolver) (t : Nat) :
    (∃ x a, r.tickets.get? t = some x ∧ x.answer = some a ∧
      r.collect t =
        (.answer a, { r with tickets := r.tickets.insert t { x with answer := none } })) ∨
    (∃ x, r.tickets.get? t = some x ∧ x.answer = none ∧
      r.collect t = (if x.done then .over else .pending, r)) ∨
    r.tickets.get? t = none ∧ r.collect t = (.over, r) := by
  cases hx : r.tickets.get? t with
  | none => exact .inr (.inr ⟨rfl, by simp only [collect, hx]⟩)
  | some x =>
    cases ha : x.answer with
    | none => exact .inr (.inl ⟨x, rfl, ha, by simp only [collect, hx, ha]⟩)
    | some a => exact .inl ⟨x, a, rfl, ha, by simp only [collect, hx, ha]⟩

end Squitter.Resolver
