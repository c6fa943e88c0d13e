import Mathlib.Data.List.Nodup
import Squitter.Proofs.Lookups.Records

/-!
# Where a lookup is

**A lookup is in one place at a time** (`Orderly`). It waits, or one worker is busy with it, or it
is finished; and what its ticket holds and has yielded fits the place where it is (`Fits`). Every
act keeps this (`Orderly.act`).

To keep it is easy for the lookups that an act is not about, since nothing about them changes
(`SameFor`). For the one that it is about, the place before the act is known: no lookup has two
workers, or waits while a worker is busy with it (`Distinct`).
-/

namespace Squitter.Resolver

/-- Each lookup waits once or has one worker, and was asked for. -/
structure Distinct (r : Resolver) : Prop where
  waits_once : (r.waiting.map Prod.fst).Nodup
  works_once : ∀ {w v t : Nat}, r.busy w = some t → r.busy v = some t → w = v
  apart : ∀ {w t : Nat} {q : Query}, r.busy w = some t → (t, q) ∉ r.waiting
  waits_lt : ∀ {t : Nat} {q : Query}, (t, q) ∈ r.waiting → t < r.next
  works_lt : ∀ {w t : Nat}, r.busy w = some t → t < r.next
  held_lt : ∀ {t : Nat} {x : Ticket}, r.tickets.get? t = some x → t < r.next

/-- The ticket of a question that was not answered yet. -/
def unanswered (q : Query) : Ticket :=
  ⟨q, none, 0, false, false⟩

variable {r : Resolver} {w v t u : Nat} {q : Query} {x : Ticket}

theorem busy_of_asking (h : r.workers[w]? = some (.asking t q)) : r.busy w = some t := by
  simp [busy, h, Worker.ticket?]

theorem busy_of_answered (h : r.workers[w]? = some (.answered t)) : r.busy w = some t := by
  simp [busy, h, Worker.ticket?]

theorem busy_of_rung (h : r.workers[w]? = some (.rung t)) : r.busy w = some t := by
  simp [busy, h, Worker.ticket?]

/-- What the others are busy with stays. -/
theorem busy_set {r' : Resolver} {s₀ s : Worker} (h : r.workers[w]? = some s₀)
    (hr : r'.workers = r.workers.set w s) :
    r'.busy v = if v = w then s.ticket? else r.busy v := by
  have hlt := (List.getElem?_eq_some_iff.1 h).1
  rw [busy, hr]
  split
  · rename_i heq
    rw [heq, List.getElem?_set_self hlt]
    rfl
  · rename_i hne
    rw [List.getElem?_set_ne (Ne.symm hne)]
    rfl

/-! ## Each lookup is in one place -/

theorem distinct_start (workers : Nat) : (start workers).Distinct := by
  have hfree (w : Nat) : (start workers).busy w = none := by
    rw [busy, start, List.getElem?_replicate]
    split
    · rfl
    · rfl
  exact
    { waits_once := List.nodup_nil
      works_once := fun h => by simp [hfree] at h
      apart := fun h => by simp [hfree] at h
      waits_lt := fun h => by simp [start] at h
      works_lt := fun h => by simp [hfree] at h
      held_lt := fun h => by simp [start] at h }

/-- A worker that goes on with what it is busy with, or stops. -/
theorem Distinct.of_set {r' : Resolver} {s₀ s : Worker} (h : r.Distinct)
    (hw : r.workers[w]? = some s₀) (hs : ∀ t, s.ticket? = some t → s₀.ticket? = some t)
    (hworkers : r'.workers = r.workers.set w s) (hwaiting : r'.waiting = r.waiting)
    (hnext : r'.next = r.next) (ht : ∀ t x, r'.tickets.get? t = some x → t < r.next) :
    r'.Distinct := by
  have hbusy {v t : Nat} (hv : r'.busy v = some t) : r.busy v = some t := by
    rw [busy_set hw hworkers] at hv
    split at hv
    · rename_i heq
      rw [heq, busy, hw]
      exact hs t hv
    · exact hv
  exact
    { waits_once := hwaiting ▸ h.waits_once
      works_once := fun hv hv' => h.works_once (hbusy hv) (hbusy hv')
      apart := fun hv => hwaiting ▸ h.apart (hbusy hv)
      waits_lt := fun hq => hnext ▸ h.waits_lt (hwaiting ▸ hq)
      works_lt := fun hv => hnext ▸ h.works_lt (hbusy hv)
      held_lt := fun hx => hnext ▸ ht _ _ hx }

/-- A worker that takes the question in front. -/
theorem Distinct.begins {rest : List (Nat × Query)} (h : r.Distinct)
    (hw : r.workers[w]? = some .free) (hq : r.waiting = (t, q) :: rest) :
    Distinct { r with workers := r.workers.set w (.asking t q), waiting := rest } := by
  have hmem : (t, q) ∈ r.waiting := by
    rw [hq]
    exact List.mem_cons_self
  have hfirst := h.waits_once
  rw [hq, List.map_cons, List.nodup_cons] at hfirst
  have hbusy {v u : Nat}
      (hv : busy { r with workers := r.workers.set w (.asking t q), waiting := rest } v = some u) :
      v = w ∧ u = t ∨ v ≠ w ∧ r.busy v = some u := by
    rw [busy_set hw rfl] at hv
    split at hv
    · exact .inl ⟨‹_›, (Option.some.inj hv).symm⟩
    · exact .inr ⟨‹_›, hv⟩
  refine
    { waits_once := hfirst.2
      works_once := fun {v v' u} hv hv' => ?_
      apart := fun {v u q'} hv hmem' => ?_
      waits_lt := fun hmem' => h.waits_lt (hq ▸ List.mem_cons_of_mem _ hmem')
      works_lt := fun {v u} hv => ?_
      held_lt := h.held_lt }
  · rcases hbusy hv with ⟨hvw, hu⟩ | ⟨-, hold⟩
    · rcases hbusy hv' with ⟨hvw', -⟩ | ⟨-, hold'⟩
      · rw [hvw, hvw']
      · exact absurd hmem (h.apart (hu ▸ hold'))
    · rcases hbusy hv' with ⟨-, hu⟩ | ⟨-, hold'⟩
      · exact absurd hmem (h.apart (hu ▸ hold))
      · exact h.works_once hold hold'
  · rcases hbusy hv with ⟨-, rfl⟩ | ⟨-, hold⟩
    · exact hfirst.1 (List.mem_map.2 ⟨_, hmem', rfl⟩)
    · exact h.apart hold (hq ▸ List.mem_cons_of_mem _ hmem')
  · rcases hbusy hv with ⟨-, rfl⟩ | ⟨-, hold⟩
    · exact h.waits_lt hmem
    · exact h.works_lt hold

/-- A question that is asked waits behind all others. -/
theorem Distinct.ask (h : r.Distinct) (q : Query) : (r.ask q).2.Distinct := by
  have hnew (q' : Query) : (r.next, q') ∉ r.waiting := fun hmem => Nat.lt_irrefl _ (h.waits_lt hmem)
  have hcases {t : Nat} {q' : Query} (hmem : (t, q') ∈ (r.ask q).2.waiting) :
      (t, q') ∈ r.waiting ∨ t = r.next := by
    rcases List.mem_append.1 hmem with hold | hlast
    · exact .inl hold
    · exact .inr (congrArg Prod.fst (List.mem_singleton.1 hlast))
  refine
    { waits_once := ?_
      works_once := h.works_once
      apart := fun {w t q'} hw hmem => ?_
      waits_lt := fun {t q'} hmem => ?_
      works_lt := fun hw => Nat.lt_succ_of_lt (h.works_lt hw)
      held_lt := fun {t x} hx => ?_ }
  · show ((r.waiting ++ [(r.next, q)]).map Prod.fst).Nodup
    rw [List.map_append, List.nodup_append]
    refine ⟨h.waits_once, List.pairwise_singleton _ _, fun a ha b hb heq => ?_⟩
    obtain ⟨⟨t, q'⟩, hmem, rfl⟩ := List.mem_map.1 ha
    rw [List.map_cons, List.map_nil, List.mem_singleton] at hb
    have ht : t = r.next := heq.trans hb
    exact hnew q' (ht ▸ hmem)
  · rcases hcases hmem with hold | hlast
    · exact h.apart hw hold
    · exact absurd (h.works_lt hw) (hlast ▸ Nat.lt_irrefl _)
  · rcases hcases hmem with hold | rfl
    · exact Nat.lt_succ_of_lt (h.waits_lt hold)
    · exact Nat.lt_succ_self _
  · have hx' : (if t = r.next then _ else r.tickets.get? t) = some x :=
      (Table.get?_insert ..).symm.trans hx
    split at hx'
    · rename_i heq
      exact heq ▸ Nat.lt_succ_self _
    · exact Nat.lt_succ_of_lt (h.held_lt hx')

/-- What is done with tickets alone moves no lookup. -/
theorem Distinct.of_tickets {r' : Resolver} (h : r.Distinct) (hworkers : r'.workers = r.workers)
    (hwaiting : r'.waiting = r.waiting) (hnext : r'.next = r.next)
    (ht : ∀ t x, r'.tickets.get? t = some x → ∃ y, r.tickets.get? t = some y) :
    r'.Distinct := by
  have hbusy (w : Nat) : r'.busy w = r.busy w := by rw [busy, busy, hworkers]
  exact
    { waits_once := hwaiting ▸ h.waits_once
      works_once := fun hw hv => h.works_once (hbusy _ ▸ hw) (hbusy _ ▸ hv)
      apart := fun hw => hwaiting ▸ h.apart (hbusy _ ▸ hw)
      waits_lt := fun hq => hnext ▸ h.waits_lt (hwaiting ▸ hq)
      works_lt := fun hw => hnext ▸ h.works_lt (hbusy _ ▸ hw)
      held_lt := fun hx => hnext ▸ h.held_lt (ht _ _ hx).choose_spec }

/-! ## What a ticket holds -/

/-- A worker has looked the question of the ticket up. The answer that it found is in the ticket, or
has been taken from there, once. -/
def Stocked (s : Record) (t : Nat) (x : Ticket) : Prop :=
  ∃ names, (t, x.query, names) ∈ s.lookups ∧
    (x.answer = some (x.query.answer names) ∧ s.yielded t = [] ∨
      x.answer = none ∧ s.yielded t = [x.query.answer names])

/-- What a ticket holds, what it has yielded and whether its bell has rung fit the place where its
lookup is. -/
inductive Fits (s : Record) (t : Nat) (x : Ticket) : Prop
  | waiting (q : Query) (place : (t, q) ∈ s.resolver.waiting) (held : x = unanswered q)
      (yielded : s.yielded t = []) (bell : t ∉ s.bells)
  | asking (w : Nat) (q : Query) (place : s.resolver.workers[w]? = some (.asking t q))
      (held : x = unanswered q) (yielded : s.yielded t = []) (bell : t ∉ s.bells)
  | answered (w : Nat) (place : s.resolver.workers[w]? = some (.answered t))
      (undone : x.done = false) (stocked : Stocked s t x) (bell : t ∉ s.bells)
  | rung (w : Nat) (place : s.resolver.workers[w]? = some (.rung t)) (undone : x.done = false)
      (stocked : Stocked s t x) (bell : t ∈ s.bells)
  | finished (unqueued : ∀ q, (t, q) ∉ s.resolver.waiting) (idle : ∀ w, s.resolver.busy w ≠ some t)
      (done : x.done = true) (stocked : Stocked s t x) (bell : t ∈ s.bells)

/-- **A lookup is in one place at a time**, and its ticket fits it. Whatever a ticket has yielded,
even one that was thrown away since, is one answer that a worker found to its question. -/
structure Orderly (s : Record) : Prop where
  distinct : s.resolver.Distinct
  numbered : s.resolver.next = s.questions.length
  asked : ∀ {t : Nat} {x : Ticket}, s.resolver.tickets.get? t = some x →
    s.questions[t]? = some x.query
  fits : ∀ {t : Nat} {x : Ticket}, s.resolver.tickets.get? t = some x → Fits s t x
  own : ∀ t, s.yielded t = [] ∨ ∃ q names, s.questions[t]? = some q ∧ (t, q, names) ∈ s.lookups ∧
    s.yielded t = [q.answer names]
  bells_lt : ∀ {t : Nat}, t ∈ s.bells → t < s.resolver.next

/-- Nothing about a lookup has changed; what was looked up stays so. -/
structure SameFor (t : Nat) (s s' : Record) : Prop where
  waiting : ∀ q, (t, q) ∈ s'.resolver.waiting ↔ (t, q) ∈ s.resolver.waiting
  workers : ∀ (w : Nat) (state : Worker), state.ticket? = some t →
    (s'.resolver.workers[w]? = some state ↔ s.resolver.workers[w]? = some state)
  lookups : ∀ e ∈ s.lookups, e ∈ s'.lookups
  yielded : s'.yielded t = s.yielded t
  bells : t ∈ s'.bells ↔ t ∈ s.bells

variable {s s' : Record}

theorem SameFor.busy (h : SameFor t s s') (w : Nat) :
    s'.resolver.busy w = some t ↔ s.resolver.busy w = some t := by
  simp only [Resolver.busy, Option.bind_eq_some_iff]
  constructor
  · rintro ⟨state, hw, hs⟩
    exact ⟨state, (h.workers w state hs).1 hw, hs⟩
  · rintro ⟨state, hw, hs⟩
    exact ⟨state, (h.workers w state hs).2 hw, hs⟩

theorem SameFor.stocked (h : SameFor t s s') (hx : Stocked s t x) : Stocked s' t x := by
  obtain ⟨names, hnames, hx⟩ := hx
  rw [← h.yielded] at hx
  exact ⟨names, h.lookups _ hnames, hx⟩

theorem Fits.same (hx : Fits s t x) (h : SameFor t s s') : Fits s' t x := by
  cases hx with
  | waiting q place held yielded bell =>
    exact .waiting q ((h.waiting q).2 place) held (h.yielded ▸ yielded) (mt h.bells.1 bell)
  | asking w q place held yielded bell =>
    exact .asking w q ((h.workers w _ rfl).2 place) held (h.yielded ▸ yielded) (mt h.bells.1 bell)
  | answered w place undone stocked bell =>
    exact .answered w ((h.workers w _ rfl).2 place) undone (h.stocked stocked) (mt h.bells.1 bell)
  | rung w place undone stocked bell =>
    exact .rung w ((h.workers w _ rfl).2 place) undone (h.stocked stocked) (h.bells.2 bell)
  | finished unqueued idle done stocked bell =>
    exact .finished (fun q => mt (h.waiting q).1 (unqueued q)) (fun w => mt (h.busy w).1 (idle w))
      done (h.stocked stocked) (h.bells.2 bell)

/-- Where a lookup is that one worker is busy with. -/
theorem Orderly.fits_busy (h : Orderly s) (hw : s.resolver.busy w = some t)
    (hx : s.resolver.tickets.get? t = some x) :
    (∃ q, s.resolver.workers[w]? = some (.asking t q) ∧ x = unanswered q ∧ s.yielded t = [] ∧
        t ∉ s.bells) ∨
      (s.resolver.workers[w]? = some (.answered t) ∧ x.done = false ∧ Stocked s t x ∧ t ∉ s.bells) ∨
      (s.resolver.workers[w]? = some (.rung t) ∧ x.done = false ∧ Stocked s t x ∧ t ∈ s.bells) := by
  cases h.fits hx with
  | waiting q place => exact absurd place (h.distinct.apart hw)
  | asking v q place held yielded bell =>
    obtain rfl := h.distinct.works_once hw (busy_of_asking place)
    exact .inl ⟨q, place, held, yielded, bell⟩
  | answered v place undone stocked bell =>
    obtain rfl := h.distinct.works_once hw (busy_of_answered place)
    exact .inr (.inl ⟨place, undone, stocked, bell⟩)
  | rung v place undone stocked bell =>
    obtain rfl := h.distinct.works_once hw (busy_of_rung place)
    exact .inr (.inr ⟨place, undone, stocked, bell⟩)
  | finished unqueued idle => exact absurd hw (idle w)

/-- The ticket of a question that waits. -/
theorem Orderly.fits_waiting (h : Orderly s) (hq : (t, q) ∈ s.resolver.waiting)
    (hx : s.resolver.tickets.get? t = some x) :
    x = unanswered q ∧ s.yielded t = [] ∧ t ∉ s.bells := by
  cases h.fits hx with
  | waiting q' place held yielded bell =>
    have heq := List.inj_on_of_nodup_map h.distinct.waits_once place hq rfl
    obtain rfl : q' = q := congrArg Prod.snd heq
    exact ⟨held, yielded, bell⟩
  | asking v q' place => exact absurd hq (h.distinct.apart (busy_of_asking place))
  | answered v place => exact absurd hq (h.distinct.apart (busy_of_answered place))
  | rung v place => exact absurd hq (h.distinct.apart (busy_of_rung place))
  | finished unqueued => exact absurd hq (unqueued q)

/-! ## What a worker's step keeps -/

/-- What there is after a worker's step. -/
def Record.worked (s : Record) (r' : Resolver) (bs : List Nat)
    (ls : List (Nat × Query × NameService)) : Record :=
  { s with resolver := r', lookups := s.lookups ++ ls, bells := s.bells ++ bs }

theorem Record.mem_bells_worked {r' : Resolver} {bs : List Nat}
    {ls : List (Nat × Query × NameService)} :
    t ∈ (s.worked r' bs ls).bells ↔ t ∈ s.bells ∨ t ∈ bs :=
  List.mem_append

/-- What is in a ticket stays there while workers step. -/
theorem Stocked.worked {r' : Resolver} {bs : List Nat} {ls : List (Nat × Query × NameService)}
    {x' : Ticket} (hx : Stocked s t x) (hquery : x'.query = x.query)
    (hanswer : x'.answer = x.answer) : Stocked (s.worked r' bs ls) t x' := by
  obtain ⟨names, hnames, hx⟩ := hx
  rw [← hquery] at hnames hx
  rw [← hanswer] at hx
  exact ⟨names, List.mem_append_left ls hnames, hx⟩

/-- A worker's step changes nothing about a lookup that it is not busy with, before or after. -/
theorem SameFor.of_set {s₀ s₁ : Worker} (hw : s.resolver.workers[w]? = some s₀)
    (h₀ : s₀.ticket? ≠ some u) (h₁ : s₁.ticket? ≠ some u)
    (hworkers : s'.resolver.workers = s.resolver.workers.set w s₁)
    (hwaiting : ∀ q, (u, q) ∈ s'.resolver.waiting ↔ (u, q) ∈ s.resolver.waiting)
    (hlookups : ∀ e ∈ s.lookups, e ∈ s'.lookups) (hanswers : s'.answers = s.answers)
    (hbells : u ∈ s'.bells ↔ u ∈ s.bells) : SameFor u s s' where
  waiting := hwaiting
  lookups := hlookups
  workers v state hs := by
    rw [hworkers]
    by_cases hvw : v = w
    · rw [hvw, List.getElem?_set_self (List.getElem?_eq_some_iff.1 hw).1, hw]
      constructor
      · rintro ⟨⟩
        exact absurd hs h₁
      · rintro ⟨⟩
        exact absurd hs h₀
    · rw [List.getElem?_set_ne (Ne.symm hvw)]
  yielded := by rw [Record.yielded, hanswers, Record.yielded]
  bells := hbells

/-- A step that is about one lookup. -/
theorem Orderly.of_same {r' : Resolver} {bs : List Nat} {ls : List (Nat × Query × NameService)}
    (h : Orderly s) (hd : r'.Distinct) (hnext : r'.next = s.resolver.next)
    (hsame : ∀ u, u ≠ t → SameFor u s (s.worked r' bs ls))
    (htickets : ∀ u, u ≠ t → r'.tickets.get? u = s.resolver.tickets.get? u)
    (hself : ∀ x, r'.tickets.get? t = some x →
      s.questions[t]? = some x.query ∧ Fits (s.worked r' bs ls) t x)
    (hbells : ∀ u ∈ bs, u = t) (ht : t < s.resolver.next) : Orderly (s.worked r' bs ls) where
  distinct := hd
  numbered := hnext.trans h.numbered
  asked {u x} hx := by
    by_cases hut : u = t
    · subst hut
      exact (hself x hx).1
    · exact h.asked (htickets u hut ▸ hx)
  fits {u x} hx := by
    by_cases hut : u = t
    · subst hut
      exact (hself x hx).2
    · exact (h.fits (htickets u hut ▸ hx)).same (hsame u hut)
  own u := (h.own u).imp id fun ⟨q, names, hq, hnames, hyielded⟩ =>
    ⟨q, names, hq, List.mem_append_left ls hnames, hyielded⟩
  bells_lt {u} hu := by
    show u < r'.next
    rw [hnext]
    rcases List.mem_append.1 hu with hold | hnew
    · exact h.bells_lt hold
    · exact hbells u hnew ▸ ht

/-- A step of a worker that goes on with its lookup or leaves it. -/
theorem Orderly.of_busy {tickets : Table Ticket} {s₀ s₁ : Worker} {bs : List Nat}
    {ls : List (Nat × Query × NameService)} (h : Orderly s)
    (hw : s.resolver.workers[w]? = some s₀) (h₀ : s₀.ticket? = some t)
    (h₁ : ∀ u, s₁.ticket? = some u → u = t)
    (htickets : ∀ u, u ≠ t → tickets.get? u = s.resolver.tickets.get? u)
    (hself : ∀ x, tickets.get? t = some x → s.questions[t]? = some x.query ∧
      Fits (s.worked { s.resolver with workers := s.resolver.workers.set w s₁, tickets } bs ls) t x)
    (hbells : ∀ u ∈ bs, u = t) :
    Orderly
      (s.worked { s.resolver with workers := s.resolver.workers.set w s₁, tickets } bs ls) := by
  have hbusy : s.resolver.busy w = some t := by
    rw [busy, hw]
    exact h₀
  have hlt : t < s.resolver.next := h.distinct.works_lt hbusy
  refine h.of_same ?_ rfl (fun u hut => ?_) htickets hself hbells hlt
  · refine h.distinct.of_set hw (fun u hu => h₁ u hu ▸ h₀) rfl rfl rfl fun u x hx => ?_
    by_cases hut : u = t
    · exact hut ▸ hlt
    · exact h.distinct.held_lt (htickets u hut ▸ hx)
  · refine .of_set hw (fun hu => ?_) (fun hu => hut (h₁ u hu)) rfl (fun _ => Iff.rfl)
      (fun _ => List.mem_append_left ls) rfl ?_
    · exact hut (Option.some.inj (hu.symm.trans h₀))
    · show u ∈ s.bells ++ bs ↔ u ∈ s.bells
      rw [List.mem_append, or_iff_left fun hu => hut (hbells u hu)]

theorem get?_insert_self {x' : Ticket}
    (hx' : (r.tickets.insert t x).get? t = some x') : x' = x := by
  rw [Table.get?_insert, if_pos rfl] at hx'
  exact (Option.some.inj hx').symm

theorem get?_insert_of_ne (hut : u ≠ t) : (r.tickets.insert t x).get? u = r.tickets.get? u := by
  rw [Table.get?_insert, if_neg hut]

theorem Orderly.works {r' : Resolver} {names : NameService} {bs : List Nat}
    {ls : List (Nat × Query × NameService)} (h : Orderly s)
    (hw : Works s.resolver w names r' bs ls) : Orderly (s.worked r' bs ls) := by
  cases hw with
  | nothing hidle =>
    rw [Record.worked, List.append_nil, List.append_nil]
    exact h
  | begins t q rest hw hq =>
    have hmem : (t, q) ∈ s.resolver.waiting := by
      rw [hq]
      exact List.mem_cons_self
    refine h.of_same (t := t) (h.distinct.begins hw hq) rfl (fun u hut => ?_) (fun _ _ => rfl)
      (fun x hx => ⟨h.asked hx, ?_⟩) (by simp) (h.distinct.waits_lt hmem)
    · refine .of_set hw (by simp [Worker.ticket?]) (by simpa [Worker.ticket?] using Ne.symm hut) rfl
        (fun q' => ?_) (fun _ => List.mem_append_left []) rfl (by simp [Record.mem_bells_worked])
      show (u, q') ∈ rest ↔ (u, q') ∈ s.resolver.waiting
      simp [hq, hut]
    · obtain ⟨held, yielded, bell⟩ := h.fits_waiting hmem hx
      refine .asking w q ?_ held yielded (by simpa [Record.mem_bells_worked] using bell)
      exact List.getElem?_set_self (List.getElem?_eq_some_iff.1 hw).1
  | answers t q x hw hx =>
    refine h.of_busy hw rfl (fun u hu => (Option.some.inj hu).symm) (fun _ => get?_insert_of_ne)
      (fun x' hx' => ?_) (by simp)
    obtain rfl := get?_insert_self hx'
    have hasked := h.asked hx
    obtain ⟨q', hw', rfl, yielded, bell⟩ | ⟨hw', -⟩ | ⟨hw', -⟩ :=
      h.fits_busy (busy_of_asking hw) hx
    · obtain rfl : q' = q := by simpa [hw] using hw'.symm
      have hfound (r' : Resolver) : Stocked (s.worked r' [] [(t, q', names)]) t
          { unanswered q' with answer := some (q'.answer names) } :=
        ⟨names, List.mem_append_right _ (List.mem_singleton_self _), .inl ⟨rfl, yielded⟩⟩
      exact ⟨hasked, .answered w (List.getElem?_set_self (List.getElem?_eq_some_iff.1 hw).1) rfl
        (hfound _) (by simpa [Record.mem_bells_worked] using bell)⟩
    · simp [hw] at hw'
    · simp [hw] at hw'
  | discards t q hw hx =>
    refine h.of_busy hw rfl (by simp [Worker.ticket?]) (fun _ _ => rfl) (fun x hx' => ?_) (by simp)
    simp [hx] at hx'
  | rings t x hw hx =>
    refine h.of_busy hw rfl (fun u hu => (Option.some.inj hu).symm) (fun _ => get?_insert_of_ne)
      (fun x' hx' => ?_) (by simp)
    obtain rfl := get?_insert_self hx'
    have hasked := h.asked hx
    obtain ⟨q, hw', -⟩ | ⟨-, undone, stocked, -⟩ | ⟨hw', -⟩ := h.fits_busy (busy_of_answered hw) hx
    · simp [hw] at hw'
    · exact ⟨hasked, .rung w (List.getElem?_set_self (List.getElem?_eq_some_iff.1 hw).1) undone
        (stocked.worked rfl rfl) (by simp [Record.mem_bells_worked])⟩
    · simp [hw] at hw'
  | skips t hw hx =>
    refine h.of_busy hw rfl (fun u hu => (Option.some.inj hu).symm) (fun _ _ => rfl)
      (fun x hx' => ?_) (by simp)
    simp [hx] at hx'
  | ends t x hw hx =>
    refine h.of_busy hw rfl (by simp [Worker.ticket?]) (fun _ => get?_insert_of_ne)
      (fun x' hx' => ?_) (by simp)
    obtain rfl := get?_insert_self hx'
    have hasked := h.asked hx
    have hbusy := busy_of_rung hw
    obtain ⟨q, hw', -⟩ | ⟨hw', -⟩ | ⟨-, -, stocked, bell⟩ := h.fits_busy hbusy hx
    · simp [hw] at hw'
    · simp [hw] at hw'
    · refine ⟨hasked, .finished (fun q => h.distinct.apart hbusy) (fun v hv => ?_) rfl
        (stocked.worked rfl rfl) (Record.mem_bells_worked.2 (.inl bell))⟩
      rw [busy_set hw rfl] at hv
      split at hv
      · simp [Worker.ticket?] at hv
      · exact absurd (h.distinct.works_once hv hbusy) ‹_›
  | leaves t hw hx =>
    refine h.of_busy hw rfl (by simp [Worker.ticket?]) (fun _ _ => rfl) (fun x hx' => ?_) (by simp)
    simp [hx] at hx'

/-! ## What the other acts keep -/

theorem Orderly.yielded_of_le (h : Orderly s) (ht : s.resolver.next ≤ t) : s.yielded t = [] := by
  rcases h.own t with hnone | ⟨q, -, hq, -⟩
  · exact hnone
  · rw [h.numbered] at ht
    rw [List.getElem?_eq_none ht] at hq
    cases hq

theorem Orderly.ask (h : Orderly s) (q : Query) :
    Orderly { s with resolver := (s.resolver.ask q).2, questions := s.questions ++ [q] } := by
  have hget {t : Nat} {x : Ticket} (hx : (s.resolver.ask q).2.tickets.get? t = some x) :
      t = s.resolver.next ∧ x = unanswered q ∨ t < s.resolver.next ∧
        s.resolver.tickets.get? t = some x := by
    have hx' : (if t = s.resolver.next then some (unanswered q) else s.resolver.tickets.get? t) =
        some x := (Table.get?_insert ..).symm.trans hx
    split at hx'
    · exact .inl ⟨‹_›, (Option.some.inj hx').symm⟩
    · exact .inr ⟨h.distinct.held_lt hx', hx'⟩
  have hold {t : Nat} (ht : t < s.resolver.next) :
      (s.questions ++ [q])[t]? = s.questions[t]? :=
    List.getElem?_append_left (h.numbered ▸ ht)
  have hlast : (s.questions ++ [q])[s.resolver.next]? = some q := by
    rw [h.numbered, List.getElem?_concat_length]
  refine
    { distinct := h.distinct.ask q
      numbered := ?_
      asked := fun {t x} hx => ?_
      fits := fun {t x} hx => ?_
      own := fun t => ?_
      bells_lt := fun hb => Nat.lt_succ_of_lt (h.bells_lt hb) }
  · show s.resolver.next + 1 = (s.questions ++ [q]).length
    rw [List.length_append, List.length_singleton, h.numbered]
  · rcases hget hx with ⟨rfl, rfl⟩ | ⟨hlt, hx⟩
    · exact hlast
    · exact (hold hlt).trans (h.asked hx)
  · rcases hget hx with ⟨rfl, rfl⟩ | ⟨hlt, hx⟩
    · exact .waiting q (List.mem_append_right _ List.mem_cons_self) rfl
        (h.yielded_of_le (Nat.le_refl _)) fun hb => Nat.lt_irrefl _ (h.bells_lt hb)
    · refine (h.fits hx).same ⟨fun q' => ?_, fun _ _ _ => Iff.rfl, fun _ => id, rfl, Iff.rfl⟩
      show (t, q') ∈ s.resolver.waiting ++ [(s.resolver.next, q)] ↔ _
      simp [Nat.ne_of_lt hlt]
  · rcases h.own t with hnone | ⟨q', names, hq, hyielded⟩
    · exact .inl hnone
    · have hlt : t < s.resolver.next := by
        rw [h.numbered]
        exact (List.getElem?_eq_some_iff.1 hq).1
      exact .inr ⟨q', names, (hold hlt).trans hq, hyielded⟩

/-- Looking into tickets and throwing them away moves no lookup. -/
theorem Orderly.of_tickets {r' : Resolver} (h : Orderly s)
    (hworkers : r'.workers = s.resolver.workers) (hwaiting : r'.waiting = s.resolver.waiting)
    (hnext : r'.next = s.resolver.next)
    (ht : ∀ t x, r'.tickets.get? t = some x → ∃ y, s.resolver.tickets.get? t = some y ∧
      x.query = y.query ∧ (Fits s t y → Fits s t x)) :
    Orderly { s with resolver := r' } where
  distinct := h.distinct.of_tickets hworkers hwaiting hnext fun t x hx =>
    (ht t x hx).imp fun _ hy => hy.1
  numbered := hnext.trans h.numbered
  asked {t x} hx := by
    obtain ⟨y, hy, hquery, -⟩ := ht t x hx
    rw [hquery]
    exact h.asked hy
  fits {t x} hx := by
    obtain ⟨y, hy, -, hfits⟩ := ht t x hx
    refine (hfits (h.fits hy)).same ⟨fun _ => ?_, fun _ _ _ => ?_, fun _ => id, rfl, Iff.rfl⟩
    · rw [hwaiting]
    · rw [hworkers]
  own := h.own
  bells_lt hb := hnext ▸ h.bells_lt hb

/-- To have heard the bell changes nothing else. -/
theorem Fits.hear (h : Fits s t x) : Fits s t { x with rings := 0 } := by
  cases h with
  | waiting q place held yielded bell => exact .waiting q place (by rw [held]; rfl) yielded bell
  | asking w q place held yielded bell => exact .asking w q place (by rw [held]; rfl) yielded bell
  | answered w place undone stocked bell => exact .answered w place undone stocked bell
  | rung w place undone stocked bell => exact .rung w place undone stocked bell
  | finished unqueued idle done stocked bell => exact .finished unqueued idle done stocked bell

theorem Orderly.hear (h : Orderly s) (t : Nat) :
    Orderly { s with resolver := s.resolver.hear t } := by
  refine h.of_tickets rfl rfl rfl fun u x hx => ?_
  have hx' : (if u = t then _ else s.resolver.tickets.get? u) = some x :=
    (Table.get?_modify ..).symm.trans hx
  split at hx'
  · rename_i heq
    obtain ⟨y, hy, rfl⟩ := Option.map_eq_some_iff.1 hx'
    exact ⟨y, heq ▸ hy, rfl, Fits.hear⟩
  · exact ⟨x, hx', rfl, id⟩

theorem Orderly.drop (h : Orderly s) (t : Nat) :
    Orderly { s with resolver := s.resolver.drop t } := by
  refine h.of_tickets rfl rfl rfl fun u x hx => ?_
  have hx' : (if u = t then none else s.resolver.tickets.get? u) = some x :=
    (Table.get?_erase ..).symm.trans hx
  split at hx'
  · cases hx'
  · exact ⟨x, hx', rfl, id⟩

/-- What a ticket yields is an answer that a worker found to its question, and it has
yielded nothing before. -/
theorem Fits.of_answer {a : Answer} (h : Fits s t x) (ha : x.answer = some a) :
    (∃ names, (t, x.query, names) ∈ s.lookups ∧ a = x.query.answer names) ∧ s.yielded t = [] := by
  have hstocked (h : Stocked s t x) :
      (∃ names, (t, x.query, names) ∈ s.lookups ∧ a = x.query.answer names) ∧
        s.yielded t = [] := by
    obtain ⟨names, hnames, ⟨hanswer, hyielded⟩ | ⟨hanswer, -⟩⟩ := h
    · exact ⟨⟨names, hnames, Option.some.inj (ha.symm.trans hanswer)⟩, hyielded⟩
    · cases ha.symm.trans hanswer
  cases h with
  | waiting q place held => cases held ▸ ha
  | asking w q place held => cases held ▸ ha
  | answered w place undone stocked => exact hstocked stocked
  | rung w place undone stocked => exact hstocked stocked
  | finished unqueued idle done stocked => exact hstocked stocked

theorem yielded_append (s : Record) (answers : List (Nat × Answer)) (u : Nat) :
    Record.yielded { s with answers := s.answers ++ answers } u =
      s.yielded u ++ (answers.filter (·.1 = u)).map Prod.snd := by
  rw [Record.yielded, Record.yielded, List.filter_append, List.map_append]

/-- An answer is taken. -/
theorem Orderly.answer {a : Answer} (h : Orderly s) (hx : s.resolver.tickets.get? t = some x)
    (ha : x.answer = some a) :
    Orderly { s with
      resolver := { s.resolver with
        tickets := s.resolver.tickets.insert t { x with answer := none } }
      answers := s.answers ++ [(t, a)] } := by
  obtain ⟨⟨names, hnames, hown⟩, hnone⟩ := (h.fits hx).of_answer ha
  set s' : Record := { s with
    resolver := { s.resolver with tickets := s.resolver.tickets.insert t { x with answer := none } }
    answers := s.answers ++ [(t, a)] } with hs'
  have hself : s'.yielded t = [x.query.answer names] := by
    show Record.yielded { s with answers := s.answers ++ [(t, a)] } t = _
    rw [yielded_append, hnone, hown]
    simp
  have hother {u : Nat} (hut : u ≠ t) : s'.yielded u = s.yielded u := by
    show Record.yielded { s with answers := s.answers ++ [(t, a)] } u = _
    rw [yielded_append]
    simp [Ne.symm hut]
  have hget {u : Nat} {y : Ticket} (hy : s'.resolver.tickets.get? u = some y) :
      u = t ∧ y = { x with answer := none } ∨ u ≠ t ∧ s.resolver.tickets.get? u = some y := by
    by_cases hut : u = t
    · subst hut
      exact .inl ⟨rfl, get?_insert_self hy⟩
    · exact .inr ⟨hut, get?_insert_of_ne hut ▸ hy⟩
  have hstocked : Stocked s' t { x with answer := none } :=
    ⟨names, hnames, .inr ⟨rfl, hself⟩⟩
  refine
    { distinct := h.distinct.of_tickets rfl rfl rfl fun u y hy => ?_
      numbered := h.numbered
      asked := fun {u y} hy => ?_
      fits := fun {u y} hy => ?_
      own := fun u => ?_
      bells_lt := h.bells_lt }
  · rcases hget hy with ⟨rfl, -⟩ | ⟨-, hy⟩
    · exact ⟨x, hx⟩
    · exact ⟨y, hy⟩
  · rcases hget hy with ⟨rfl, rfl⟩ | ⟨-, hy⟩
    · have hasked := h.asked hx
      exact hasked
    · exact h.asked hy
  · rcases hget hy with ⟨rfl, rfl⟩ | ⟨hut, hy⟩
    · cases h.fits hx with
      | waiting q place held => cases held ▸ ha
      | asking w q place held => cases held ▸ ha
      | answered w place undone _ bell => exact .answered w place undone hstocked bell
      | rung w place undone _ bell => exact .rung w place undone hstocked bell
      | finished unqueued idle done _ bell => exact .finished unqueued idle done hstocked bell
    · exact (h.fits hy).same
        ⟨fun _ => Iff.rfl, fun _ _ _ => Iff.rfl, fun _ => id, hother hut, Iff.rfl⟩
  · by_cases hut : u = t
    · subst hut
      exact .inr ⟨x.query, names, h.asked hx, hnames, hself⟩
    · rw [hother hut]
      exact h.own u

/-- **Every act keeps the order.** -/
theorem Orderly.act (h : Orderly s) (a : Act) : Orderly (s.act a) := by
  cases a with
  | ask q =>
    have := h.ask q
    simpa [Record.act, Resolver.act, Act.question?, looksUp, yields, rings] using this
  | work w names =>
    have := h.works (Resolver.works s.resolver w names)
    simpa [Record.act, Record.worked, Act.question?, yields] using this
  | hear t =>
    have := h.hear t
    simpa [Record.act, Resolver.act, Act.question?, looksUp, yields, rings] using this
  | collect t =>
    simp only [Record.act, Resolver.act, Act.question?, looksUp, yields, rings, List.append_nil,
      Option.toList_none]
    rcases collect_cases s.resolver t with ⟨x, a, hx, ha, heq⟩ | ⟨x, -, -, heq⟩ | ⟨-, heq⟩
    · simpa [heq] using h.answer hx ha
    · cases hd : x.done <;> simpa [heq, hd] using h
    · simpa [heq] using h
  | drop t =>
    have := h.drop t
    simpa [Record.act, Resolver.act, Act.question?, looksUp, yields, rings] using this

theorem orderly_start (workers : Nat) : Orderly (.start workers) where
  distinct := distinct_start workers
  numbered := rfl
  asked hx := by cases hx
  fits hx := by cases hx
  own _ := .inl rfl
  bells_lt hb := by cases hb

end Squitter.Resolver
