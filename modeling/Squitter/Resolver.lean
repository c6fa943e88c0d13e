import Squitter.Address
import Squitter.Table

/-!
# The resolver

Lookups take time, so **workers** answer them in the background. The **resolver** (`Resolver`) holds
the questions that wait, what each worker does, and a **ticket** for each question that was asked. A
worker takes the oldest question, looks it up in what the computer knows of names at that time, puts
the answer where the ticket finds it, rings the ticket's bell, and is free for the next. Whoever
holds the ticket is woken by the bell and takes the answer; a ticket that is thrown away changes
nothing for the others.
-/

namespace Squitter

/-- What a worker does. -/
inductive Worker
  | free
  /-- It looks the question up. -/
  | asking (ticket : Nat) (query : Query)
  /-- It has left the answer. -/
  | answered (ticket : Nat)
  /-- It has rung the bell. -/
  | rung (ticket : Nat)
deriving DecidableEq

/-- The ticket that a worker is busy with. -/
def Worker.ticket? : Worker → Option Nat
  | free => none
  | asking t _ => some t
  | answered t => some t
  | rung t => some t

/-- What the holder of a ticket has: the answer once it is there, and the rings of the bell that
were not heard yet. -/
structure Ticket where
  query : Query
  answer : Option Answer
  rings : Nat
  /-- The bell can ring no more. -/
  silent : Bool
  /-- There will be no more answers. -/
  done : Bool

/-- What taking the answer of a ticket yields. -/
inductive Taken
  | answer (a : Answer)
  /-- It is not there yet. -/
  | pending
  /-- It was taken, and no other will come. -/
  | over

/-- Questions, workers and tickets. -/
structure Resolver where
  waiting : List (Nat × Query)
  workers : List Worker
  tickets : Table Ticket
  next : Nat

namespace Resolver

/-- A resolver with workers that are free, at least one. -/
def start (workers : Nat) : Resolver :=
  ⟨[], List.replicate (max workers 1) .free, .empty, 0⟩

/-- Ask a question. -/
def ask (r : Resolver) (q : Query) : Nat × Resolver :=
  (r.next,
    { r with
      waiting := r.waiting ++ [(r.next, q)]
      tickets := r.tickets.insert r.next ⟨q, none, 0, false, false⟩
      next := r.next + 1 })

/-- Replace what a worker does. -/
def setWorker (r : Resolver) (w : Nat) (state : Worker) : Resolver :=
  { r with workers := r.workers.set w state }

/-- One step of a worker; nothing happens if there is nothing to do. Names mean what they mean to
the computer when the worker steps. -/
def step (r : Resolver) (names : NameService) (w : Nat) : Resolver :=
  match r.workers[w]? with
  | none => r
  | some .free =>
    match r.waiting with
    | [] => r
    | (ticket, query) :: waiting =>
      { r.setWorker w (.asking ticket query) with waiting }
  | some (.asking ticket query) =>
    if r.tickets.contains ticket then
      { r.setWorker w (.answered ticket) with
        tickets := r.tickets.modify ticket fun t => { t with answer := some (query.answer names) } }
    else r.setWorker w .free
  | some (.answered ticket) =>
    { r.setWorker w (.rung ticket) with
      tickets := r.tickets.modify ticket fun t => { t with rings := t.rings + 1, silent := true } }
  | some (.rung ticket) =>
    { r.setWorker w .free with
      tickets := r.tickets.modify ticket fun t => { t with done := true } }

/-- Hear all that the bell has rung. -/
def hear (r : Resolver) (ticket : Nat) : Resolver :=
  { r with tickets := r.tickets.modify ticket fun t => { t with rings := 0 } }

/-- Take the answer, if it is there. -/
def collect (r : Resolver) (ticket : Nat) : Taken × Resolver :=
  match r.tickets.get? ticket with
  | none => (.over, r)
  | some t =>
    match t.answer with
    | some a => (.answer a, { r with tickets := r.tickets.insert ticket { t with answer := none } })
    | none => (if t.done then .over else .pending, r)

/-- Hear the bell and take the answer, if it is there. The bell is first: what rings later comes
with an answer that was not looked for yet. -/
def take (r : Resolver) (ticket : Nat) : Taken × Resolver :=
  (r.hear ticket).collect ticket

/-- Throw a ticket away. -/
def drop (r : Resolver) (ticket : Nat) : Resolver :=
  { r with tickets := r.tickets.erase ticket }

/-- The ticket's bell was not heard, or it can ring no more. -/
def wakes (r : Resolver) (ticket : Nat) : Bool :=
  match r.tickets.get? ticket with
  | some t => 0 < t.rings ∨ t.silent
  | none => false

end Resolver

end Squitter
