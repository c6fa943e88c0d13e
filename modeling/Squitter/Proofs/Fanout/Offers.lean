import Squitter.Fanout

/-!
# Offers

An **offer** (`Offer`) is some bytes for one sender. Offers are made one after the other
(`makeAll`); a sender whose stream does not take all of its bytes has **refused**, and its stream is
written to no more. The table of the senders lists each sender once, so that senders can be offered
things by going through the table.
-/

namespace Squitter

/-! ## Tables -/

namespace Table

variable {α : Type}

/-- The table with each value changed. -/
def map (t : Table α) (g : Nat → α → α) : Table α :=
  ⟨t.entries.map fun e => (e.1, g e.1 e.2), List.pairwise_map.2 t.ascending⟩

theorem lookup_map (g : Nat → α → α) (k : Nat) (es : List (Nat × α)) :
    lookup k (es.map fun e => (e.1, g e.1 e.2)) = (lookup k es).map (g k) := by
  induction es with
  | nil => rfl
  | cons e es ih =>
    rw [List.map_cons, lookup, lookup, ih]
    split
    · rename_i h
      rw [h]
      rfl
    · rfl

@[simp] theorem get?_map (t : Table α) (g : Nat → α → α) (k : Nat) :
    (t.map g).get? k = (t.get? k).map (g k) :=
  lookup_map g k t.entries

end Table

/-! ## Offers -/

/-- A sender is on the stream that a packet came from. -/
def Sender.IsOrigin (s : Sender) (origin : Option Nat) : Prop :=
  origin.isSome ∧ s.stream.identity = origin

/-- Some bytes for a sender. -/
structure Offer where
  id : Nat
  stream : Stream
  bytes : Bytes
deriving DecidableEq

/-- The senders that did not take all. -/
def refused (done : List (Offer × Bool)) : List Nat :=
  (done.filter fun a => ¬ a.2).map fun a => a.1.id

theorem refused_append (done more : List (Offer × Bool)) :
    refused (done ++ more) = refused done ++ refused more := by
  rw [refused, List.filter_append, List.map_append]
  rfl

/-- Only who was offered something can refuse. -/
theorem exists_of_mem_refused {done : List (Offer × Bool)} {id : Nat} (h : id ∈ refused done) :
    ∃ o ∈ done.map Prod.fst, o.id = id := by
  obtain ⟨a, ha, hid⟩ := List.mem_map.1 h
  exact ⟨a.1, List.mem_map_of_mem (List.mem_filter.1 ha).1, hid⟩

/-- Nobody refuses more often than they are offered something. -/
theorem count_refused_le (done : List (Offer × Bool)) (id : Nat) :
    (refused done).count id ≤ ((done.map Prod.fst).filter fun o => o.id = id).length := by
  have hsub : (refused done).Sublist (done.map fun a => a.1.id) := List.filter_sublist.map _
  refine Nat.le_trans (hsub.count_le id) (Nat.le_of_eq ?_)
  rw [← List.countP_eq_length_filter, List.count, List.countP_map, List.countP_map]
  rfl

section

variable {σ : Type} [Streams σ]

/-- Make an offer. The answer tells whether the stream took all; one that did not is shut. -/
def Offer.make (o : Offer) (host : σ) : Bool × σ :=
  match Streams.write o.stream o.bytes host with
  | (.ok n, host) =>
    if n = o.bytes.length then (true, host) else (false, Streams.shutdownWrite o.stream host)
  | (.error _, host) => (false, Streams.shutdownWrite o.stream host)

/-- Make offers one after the other, with the answer to each. -/
def makeAll : List Offer → σ → List (Offer × Bool) × σ
  | [], host => ([], host)
  | o :: os, host =>
    let (taken, host) := o.make host
    let (done, host) := makeAll os host
    ((o, taken) :: done, host)

/-- Whatever the answers, all offers are made. -/
theorem map_fst_makeAll (os : List Offer) (host : σ) :
    (makeAll os host).1.map Prod.fst = os := by
  induction os generalizing host with
  | nil => rfl
  | cons o os ih => exact congrArg (o :: ·) (ih (o.make host).2)

theorem makeAll_append (os more : List Offer) (host : σ) :
    makeAll (os ++ more) host =
      ((makeAll os host).1 ++ (makeAll more (makeAll os host).2).1,
        (makeAll more (makeAll os host).2).2) := by
  induction os generalizing host with
  | nil => rfl
  | cons o os ih =>
    simp only [List.cons_append, makeAll, ih]

end

end Squitter
