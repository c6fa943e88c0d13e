import Squitter.Proofs.Fanout.Exact

/-!
# Exactness over a run

Senders come and go, streams are greeted, failures are taken and packets are passed on, in any
order: a **run** (`run`) of **acts** (`Act`). Between the passes anything may happen to the
computer, so each pass has its own. What is seen on the way is collected by `along`.

A number is **dead** (`Dead`) if the sender under it has failed or is gone. A dead number stays
dead, as long as no sender is inserted under it again, and is offered nothing. Every number that
waits to be reported is dead (`Accounted`), so a sender that refuses in a pass does not wait yet,
waits once after it, and is reported once and never again (`send_exact`).
-/

namespace Squitter

namespace Fanout

variable {σ : Type}

/-! ## Acts -/

/-- What happens to a fan-out. -/
inductive Act (σ : Type)
  | insert (id : Nat) (s : Sender)
  | remove (id : Nat)
  | greet (format : Format) (server : Server) (now : Nat)
  | takeFailures
  | send (p : Packet) (origin : Option Nat) (now : Nat) (host : σ)

/-- The number under which an act inserts a sender. -/
def Act.inserted : Act σ → List Nat
  | .insert id _ => [id]
  | _ => []

/-- What an act reports as failed. -/
def reports (f : Fanout) : Act σ → List (List Nat)
  | .takeFailures => [f.takeFailures.1]
  | _ => []

/-- What an act offers. -/
def offersOf (f : Fanout) : Act σ → List Offer
  | .send p origin now _ => f.offers p origin now
  | _ => []

/-- No sender that has not failed is under the number. -/
def Dead (f : Fanout) (id : Nat) : Prop := ∀ s, f.senders.get? id = some s → s.failed = true

/-- Nothing is offered to a dead number. -/
theorem Dead.ne_of_mem_offersOf {f : Fanout} {id : Nat} (h : f.Dead id) (a : Act σ) :
    ∀ o ∈ f.offersOf a, o.id ≠ id := by
  cases a with
  | send p origin now host =>
    intro o ho heq
    obtain ⟨s, hs, hfailed, -⟩ := exists_of_mem_offers ho
    rw [h s (heq ▸ hs)] at hfailed
    cases hfailed
  | _ => exact fun o ho => (List.not_mem_nil ho).elim

/-! ## Runs -/

variable [Streams σ]

/-- One act. -/
def step (f : Fanout) : Act σ → Fanout
  | .insert id s => f.insert id s
  | .remove id => f.remove id
  | .greet format server now => (f.greeting format server now).2
  | .takeFailures => f.takeFailures.2
  | .send p origin now host => (f.send p origin now host).fanout

/-- Acts one after the other. -/
def run (f : Fanout) (acts : List (Act σ)) : Fanout := acts.foldl step f

/-- What is seen along a run. -/
def along {α : Type} (see : Fanout → Act σ → List α) (f : Fanout) : List (Act σ) → List α
  | [] => []
  | a :: acts => see f a ++ along see (f.step a) acts

/-- If an invariant holds and all that can be seen under it is good, then all that is
seen along a run is good. -/
theorem forall_mem_along {α : Type} {see : Fanout → Act σ → List α} (inv : Fanout → Prop)
    {good : α → Prop} {acts : List (Act σ)} (hstep : ∀ f, ∀ a ∈ acts, inv f → inv (f.step a))
    (hsee : ∀ f a, inv f → ∀ x ∈ see f a, good x) {f : Fanout} (hf : inv f) :
    ∀ x ∈ along see f acts, good x := by
  induction acts generalizing f with
  | nil => exact fun x hx => (List.not_mem_nil hx).elim
  | cons a acts ih =>
    intro x hx
    rcases List.mem_append.1 hx with hnow | hlater
    · exact hsee f a hf x hnow
    · exact ih (fun g b hb => hstep g b (List.mem_cons_of_mem a hb))
        (hstep f a List.mem_cons_self hf) x hlater

/-! ## Dead numbers along a run -/

/-- Who refuses is dead after the pass. -/
theorem dead_of_mem_refusals {f : Fanout} {p : Packet} {origin : Option Nat} {now : Nat} {host : σ}
    {id : Nat} (h : id ∈ f.refusals p origin now host) :
    (f.send p origin now host).fanout.Dead id := by
  intro s hs
  rw [get?_send] at hs
  obtain ⟨s', -, rfl⟩ := Option.map_eq_some_iff.1 hs
  simp [h]

namespace Dead

variable {f : Fanout} {id : Nat}

theorem notMem_refusals (h : f.Dead id) (p : Packet) (origin : Option Nat) (now : Nat) (host : σ) :
    id ∉ f.refusals p origin now host := by
  intro hmem
  obtain ⟨s, hs, hfailed, -⟩ := exists_of_mem_refusals hmem
  rw [h s hs] at hfailed
  cases hfailed

/-- A dead number stays dead, unless it is used again. -/
theorem step (h : f.Dead id) {a : Act σ} (ha : id ∉ a.inserted) : (f.step a).Dead id := by
  intro s hs
  cases a with
  | insert i t =>
    have hne : id ≠ i := fun heq => ha (List.mem_singleton.2 heq)
    rw [Fanout.step, Fanout.insert, Table.get?_insert, if_neg hne] at hs
    exact h s hs
  | remove i =>
    rw [Fanout.step, remove, Table.get?_erase] at hs
    split at hs
    · cases hs
    · exact h s hs
  | greet format server now => exact h s hs
  | takeFailures => exact h s hs
  | send p origin now host =>
    rw [Fanout.step, get?_send] at hs
    obtain ⟨s', hs', rfl⟩ := Option.map_eq_some_iff.1 hs
    simp [h s' hs']

/-- How often a dead number waits to be reported does not change until it is reported. -/
theorem count_failures_step (h : f.Dead id) (a : Act σ) :
    (f.step a).failures.count id =
      match a with
      | .takeFailures => 0
      | _ => f.failures.count id := by
  cases a with
  | takeFailures => rfl
  | send p origin now host =>
    rw [Fanout.step, failures_send, List.count_append,
      List.count_eq_zero_of_not_mem (h.notMem_refusals p origin now host)]
    rfl
  | _ => rfl

/-- A dead number that does not wait is not reported. -/
theorem notMem_reports (h : f.Dead id) (hwaits : f.failures.count id = 0) {acts : List (Act σ)}
    (hacts : ∀ a ∈ acts, id ∉ a.inserted) : ∀ report ∈ along reports f acts, id ∉ report := by
  refine forall_mem_along (fun g => g.Dead id ∧ g.failures.count id = 0) ?_ ?_ ⟨h, hwaits⟩
  · rintro g a ha ⟨hdead, hcount⟩
    refine ⟨hdead.step (hacts a ha), ?_⟩
    rw [hdead.count_failures_step a]
    cases a <;> first | rfl | exact hcount
  · rintro g a ⟨-, hcount⟩ report hreport
    cases a with
    | takeFailures =>
      rw [reports, List.mem_singleton] at hreport
      rw [hreport]
      exact List.count_eq_zero.1 hcount
    | _ => exact (List.not_mem_nil hreport).elim

/-- The first report names a dead number as often as it waits, and no later report names it. -/
theorem count_reports (h : f.Dead id) {acts : List (Act σ)} (hacts : ∀ a ∈ acts, id ∉ a.inserted)
    {first : List Nat} {rest : List (List Nat)} (heq : along reports f acts = first :: rest) :
    first.count id = f.failures.count id ∧ ∀ report ∈ rest, id ∉ report := by
  induction acts generalizing f with
  | nil => cases heq
  | cons a acts ih =>
    have hstep := h.step (hacts a List.mem_cons_self)
    have hcount := h.count_failures_step a
    have hlater : ∀ b ∈ acts, id ∉ b.inserted := fun b hb => hacts b (List.mem_cons_of_mem a hb)
    cases a with
    | takeFailures =>
      obtain ⟨rfl, rfl⟩ := List.cons.inj heq
      exact ⟨rfl, hstep.notMem_reports hcount hlater⟩
    | _ =>
      obtain ⟨hfirst, hrest⟩ := ih hstep hlater heq
      exact ⟨hfirst.trans hcount, hrest⟩

/-- Nothing is offered to a dead number along a run. -/
theorem ne_of_mem_along (h : f.Dead id) {acts : List (Act σ)}
    (hacts : ∀ a ∈ acts, id ∉ a.inserted) :
    ∀ o ∈ along offersOf f acts, o.id ≠ id :=
  forall_mem_along (fun g => g.Dead id) (fun _ a ha hdead => hdead.step (hacts a ha))
    (fun _ a hdead => hdead.ne_of_mem_offersOf a) h

end Dead

/-! ## The invariant -/

/-- All senders are under numbers that were used, and those that wait to be reported are dead. -/
structure Accounted (f : Fanout) (used : List Nat) : Prop where
  senders : ∀ id s, f.senders.get? id = some s → id ∈ used
  waiting : ∀ id ∈ f.failures, id ∈ used ∧ f.Dead id

theorem accounted_fresh (maxHops : UInt16) : Accounted (fresh maxHops) [] where
  senders := fun id s h => by simp [fresh] at h
  waiting := fun id h => (List.not_mem_nil h).elim

namespace Accounted

variable {f : Fanout} {used : List Nat}

/-- Every act preserves the invariant, if it inserts under a number that was not used. -/
theorem step (h : Accounted f used) {a : Act σ} (ha : ∀ id ∈ a.inserted, id ∉ used) :
    Accounted (f.step a) (used ++ a.inserted) := by
  have hdead : ∀ id ∈ f.failures, (f.step a).Dead id := fun id hid =>
    (h.waiting id hid).2.step fun hmem => ha id hmem (h.waiting id hid).1
  have hused : ∀ id ∈ f.failures, id ∈ used ++ a.inserted := fun id hid =>
    List.mem_append_left _ (h.waiting id hid).1
  cases a with
  | insert i t =>
    refine ⟨fun id s hs => ?_, fun id hid => ⟨hused id hid, hdead id hid⟩⟩
    rw [Fanout.step, Fanout.insert, Table.get?_insert] at hs
    split at hs
    · exact List.mem_append_right _ (List.mem_singleton.2 ‹_›)
    · exact List.mem_append_left _ (h.senders id s hs)
  | remove i =>
    refine ⟨fun id s hs => ?_, fun id hid => ⟨hused id hid, hdead id hid⟩⟩
    rw [Fanout.step, remove, Table.get?_erase] at hs
    split at hs
    · cases hs
    · exact List.mem_append_left _ (h.senders id s hs)
  | greet format server now =>
    exact ⟨fun id s hs => List.mem_append_left _ (h.senders id s hs),
      fun id hid => ⟨hused id hid, hdead id hid⟩⟩
  | takeFailures =>
    exact ⟨fun id s hs => List.mem_append_left _ (h.senders id s hs),
      fun id hid => (List.not_mem_nil hid).elim⟩
  | send p origin now host =>
    refine ⟨fun id s hs => ?_, fun id hid => ?_⟩
    · rw [Fanout.step, get?_send] at hs
      obtain ⟨s', hs', -⟩ := Option.map_eq_some_iff.1 hs
      exact List.mem_append_left _ (h.senders id s' hs')
    · rw [Fanout.step, failures_send] at hid
      rcases List.mem_append.1 hid with hold | hnew
      · exact ⟨hused id hold, hdead id hold⟩
      · obtain ⟨s, hs, -⟩ := exists_of_mem_refusals hnew
        exact ⟨List.mem_append_left _ (h.senders id s hs), dead_of_mem_refusals hnew⟩

/-- A run that inserts under new numbers only preserves the invariant. -/
theorem run (h : Accounted f used) {acts : List (Act σ)}
    (hfresh : (used ++ acts.flatMap Act.inserted).Nodup) :
    Accounted (f.run acts) (used ++ acts.flatMap Act.inserted) := by
  induction acts generalizing f used with
  | nil => rw [List.flatMap_nil, List.append_nil]; exact h
  | cons a acts ih =>
    rw [List.flatMap_cons, ← List.append_assoc] at hfresh ⊢
    obtain ⟨hnow, -, -⟩ := List.nodup_append.1 hfresh
    obtain ⟨-, -, hdisjoint⟩ := List.nodup_append.1 hnow
    exact ih (h.step fun id hid hmem => hdisjoint id hmem id hid rfl) hfresh

/-- Who refuses in a pass waits once after it. -/
theorem count_failures_send (h : Accounted f used) {p : Packet} {origin : Option Nat} {now : Nat}
    {host : σ} {id : Nat} (hid : id ∈ f.refusals p origin now host) :
    (f.send p origin now host).fanout.failures.count id = 1 := by
  obtain ⟨s, hs, hfailed, -⟩ := exists_of_mem_refusals hid
  have hold : f.failures.count id = 0 := List.count_eq_zero.2 fun hmem => by
    rw [(h.waiting id hmem).2 s hs] at hfailed
    cases hfailed
  rw [failures_send, List.count_append, hold, Nat.zero_add, count_refusals hid]

end Accounted

/-! ## Exactness -/

/-- A number was given up, whatever acts follow. -/
structure GivenUp (f : Fanout) (id : Nat) (after : List (Act σ)) : Prop where
  /-- Its sender is marked. -/
  failed : ∃ s, f.senders.get? id = some s ∧ s.failed = true
  /-- The next report names it once, and no later one names it. -/
  reported : ∀ first rest, along reports f after = first :: rest →
    first.count id = 1 ∧ ∀ report ∈ rest, id ∉ report
  /-- Nothing is offered to it any more. -/
  unoffered : ∀ o ∈ along offersOf f after, o.id ≠ id

theorem Accounted.givenUp {f : Fanout} {used : List Nat} (h : Accounted f used) {p : Packet}
    {origin : Option Nat} {now : Nat} {host : σ} {id : Nat}
    (hid : id ∈ f.refusals p origin now host)
    {after : List (Act σ)} (hafter : ∀ a ∈ after, id ∉ a.inserted) :
    GivenUp (f.send p origin now host).fanout id after where
  failed := by
    obtain ⟨s, hs, -⟩ := exists_of_mem_refusals hid
    refine ⟨_, (f.get?_send p origin now host id).trans (congrArg _ hs), ?_⟩
    simp [hid]
  reported := by
    intro first rest heq
    rw [← h.count_failures_send hid]
    exact (dead_of_mem_refusals hid).count_reports hafter heq
  unoffered := (dead_of_mem_refusals hid).ne_of_mem_along hafter

/-- **The fan-out is exact.** In every state that a run reaches, a packet with too many hops
leaves everything as it is, and every other pass is exact. Whoever refuses in it is given up,
whatever happens after it. -/
theorem send_exact {maxHops : UInt16} {before after : List (Act σ)}
    (hfresh : ((before ++ after).flatMap Act.inserted).Nodup) (p : Packet) (origin : Option Nat)
    (now : Nat) (host : σ) :
    let f := (fresh maxHops).run before
    let r := f.send p origin now host
    (f.maxHops ≤ p.hops → r = ⟨0, p, f, host⟩) ∧
      (p.hops < f.maxHops → ∃ done, Exact f p origin now host done r ∧
        ∀ id ∈ refused done, GivenUp r.fanout id after) := by
  intro f r
  refine ⟨fun h => send_of_le h origin now host, fun h => ⟨_, exact_send h origin now host, ?_⟩⟩
  intro id hid
  rw [List.flatMap_append] at hfresh
  obtain ⟨hbefore, -, hdisjoint⟩ := List.nodup_append.1 hfresh
  have haccounted := (accounted_fresh maxHops).run hbefore
  obtain ⟨s, hs, -⟩ := exists_of_mem_refusals hid
  refine haccounted.givenUp hid fun a ha hmem => ?_
  exact hdisjoint id (haccounted.senders id s hs) id (List.mem_flatMap.2 ⟨a, ha, hmem⟩) rfl

/-- Streams of which only the one with the handle 0 takes anything. -/
structure Valve where
  taken : List Bytes

instance : Streams Valve where
  arrivals := fun _ _ => []
  took := fun _ _ host => host
  write := fun s bytes host =>
    if s.handle = 0 then (.ok bytes.length, ⟨host.taken ++ [bytes]⟩) else (.ok 0, host)
  shutdownWrite := fun _ host => host
  duplicate := fun s host => (.ok s, host)
  close := fun _ host => host

/-- One of two senders refuses a packet. -/
theorem send_exact_valve :
    let before : List (Act Valve) :=
      [.insert 4 (.fresh ⟨0, none, true, false⟩ .raw .loose),
        .insert 7 (.fresh ⟨1, none, true, false⟩ .raw .loose)]
    let after : List (Act Valve) := [.takeFailures, .send (.blank .nil) none 1 ⟨[]⟩, .takeFailures]
    let f := (fresh 5).run before
    let r := f.send (.blank .nil) none 0 (⟨[]⟩ : Valve)
    ((before ++ after).flatMap Act.inserted).Nodup ∧ f.maxHops = 5 ∧ r.delivered = 1 ∧
      GivenUp r.fanout 7 after := by
  intro before after f r
  have hfresh : ((before ++ after).flatMap Act.inserted).Nodup := by decide
  refine ⟨hfresh, rfl, by decide +kernel, ?_⟩
  obtain ⟨done, hexact, hgiven⟩ : ∃ done, Exact f (.blank .nil) none 0 ⟨[]⟩ done r ∧
      ∀ id ∈ refused done, GivenUp r.fanout id after :=
    (send_exact hfresh (.blank .nil) none 0 ⟨[]⟩).2 (by decide)
  have hrefused : [7] = refused done := calc
    _ = r.fanout.failures := by decide +kernel
    _ = refused done := hexact.failures
  exact hgiven 7 (hrefused ▸ List.mem_singleton_self 7)

end Fanout

end Squitter
