import Squitter.Proofs.Dispatch.Deeds

/-!
# The callbacks of a turn

The callbacks of a turn change the very tables that the turn has read, by any deeds
(`Handler.Modest`). To tell which callbacks are made, a program is run that also writes them down
(`Handler.logging`); it does the same as without (`logging_turn`).

**The result** (`turn_disciplined`). A turn calls back for signals, then for what is ready, then for
what is due. The **candidates** for the second phase are found when the turn begins: what was
reported and is watched, in that order, then what is always ready, by token. Each of them is called
once if it is still registered when its place comes, and not otherwise. It is the old registration
then, since tokens are never used again, and nothing that was registered in the turn is called.
-/

namespace Squitter

/-- A callback. -/
inductive Call (ρ ω : Type)
  | signal (signal : Signal)
  | ready (route : ρ) (readiness : Readiness)
  | due (work : ω)
deriving DecidableEq

namespace Handler

open Reactor

variable {α ρ ω σ : Type}

/-! ## Writing down the callbacks -/

/-- A running program, with what was written down. -/
def noted (r : Running α ρ ω σ) (log : List (Call ρ ω)) : Running (α × List (Call ρ ω)) ρ ω σ :=
  ⟨(r.state, log), r.reactor, r.host⟩

/-- Call back, and write it down. -/
def note (call : Call ρ ω) (callback : Running α ρ ω σ → Running α ρ ω σ)
    (r : Running (α × List (Call ρ ω)) ρ ω σ) : Running (α × List (Call ρ ω)) ρ ω σ :=
  noted (callback ⟨r.state.1, r.reactor, r.host⟩) (r.state.2 ++ [call])

/-- The program that also writes down its callbacks. -/
def logging (h : Handler α ρ ω σ) : Handler (α × List (Call ρ ω)) ρ ω σ where
  onReady route readiness := note (.ready route readiness) (h.onReady route readiness)
  onDue work := note (.due work) (h.onDue work)
  onSignal signal := note (.signal signal) (h.onSignal signal)
  live a := h.live a.1

/-- The callbacks change the reactor by deeds only. -/
structure Modest [Poller σ] (h : Handler α ρ ω σ) : Prop where
  ready : ∀ route readiness r, ∃ deeds : List (Deed ρ ω σ),
    (h.onReady route readiness r).reactor = r.reactor.after deeds
  due : ∀ work r, ∃ deeds : List (Deed ρ ω σ), (h.onDue work r).reactor = r.reactor.after deeds
  signal : ∀ signal r, ∃ deeds : List (Deed ρ ω σ),
    (h.onSignal signal r).reactor = r.reactor.after deeds

/-- The candidates that are called, one after the other: those that are still registered. -/
def called (h : Handler α ρ ω σ) (r : Running α ρ ω σ) :
    List (Nat × ρ × Readiness) → List (Nat × ρ × Readiness)
  | [] => []
  | c :: cs =>
    if r.reactor.isRegistered c.1 then c :: called h (h.ready r c) cs else called h (h.ready r c) cs

/-- The work that is done, one piece after the other. -/
def done (h : Handler α ρ ω σ) (now : Nat) : Nat → Running α ρ ω σ → List ω
  | 0, _ => []
  | n + 1, r =>
    match r.reactor.timers.pop? now with
    | none => []
    | some (work, timers) =>
      work :: done h now n (h.onDue work { r with reactor := { r.reactor with timers } })

theorem logging_signalled (h : Handler α ρ ω σ) (signals : List Signal) (r : Running α ρ ω σ)
    (log : List (Call ρ ω)) :
    signals.foldl h.logging.signalled (noted r log) =
      noted (signals.foldl h.signalled r) (log ++ (signals.filter (· = .child)).map .signal) := by
  induction signals generalizing r log with
  | nil => simp
  | cons signal signals ih =>
    have hstep : h.logging.signalled (noted r log) signal =
        noted (h.signalled r signal) (log ++ ([signal].filter (· = .child)).map .signal) := by
      cases signal <;> simp [signalled, logging, note, noted]
    rw [List.foldl_cons, hstep, ih, List.append_assoc, ← List.map_append, ← List.filter_append]
    rfl

theorem logging_ready (h : Handler α ρ ω σ) (cs : List (Nat × ρ × Readiness))
    (r : Running α ρ ω σ) (log : List (Call ρ ω)) :
    cs.foldl h.logging.ready (noted r log) =
      noted (cs.foldl h.ready r) (log ++ (h.called r cs).map fun c => .ready c.2.1 c.2.2) := by
  induction cs generalizing r log with
  | nil => simp [called]
  | cons c cs ih =>
    rw [List.foldl_cons, List.foldl_cons, called]
    by_cases hc : r.reactor.isRegistered c.1 = true
    · have hstep : h.logging.ready (noted r log) c =
          noted (h.ready r c) (log ++ [.ready c.2.1 c.2.2]) := by
        rw [ready, ready, if_pos hc]
        exact if_pos hc
      rw [if_pos hc, hstep, ih, List.append_assoc]
      rfl
    · have hstep : h.logging.ready (noted r log) c = noted (h.ready r c) log := by
        rw [ready, ready, if_neg hc]
        exact if_neg hc
      rw [if_neg hc, hstep, ih]

theorem logging_fire (h : Handler α ρ ω σ) (now n : Nat) (r : Running α ρ ω σ)
    (log : List (Call ρ ω)) :
    h.logging.fire now n (noted r log) =
      noted (h.fire now n r) (log ++ (h.done now n r).map .due) := by
  induction n generalizing r log with
  | zero => simp [fire, done]
  | succ n ih =>
    rw [fire, fire, done]
    show (match r.reactor.timers.pop? now with
      | none => noted r log
      | some (work, timers) => _) = _
    cases r.reactor.timers.pop? now with
    | none => simp
    | some popped =>
      obtain ⟨work, timers⟩ := popped
      refine (ih _ (log ++ [.due work])).trans ?_
      rw [List.append_assoc]
      rfl

/-! ## Who is called -/

theorem called_sublist (h : Handler α ρ ω σ) (r : Running α ρ ω σ)
    (cs : List (Nat × ρ × Readiness)) : (h.called r cs).Sublist cs := by
  induction cs generalizing r with
  | nil => exact .slnil
  | cons c cs ih =>
    rw [called]
    split
    · exact (ih _).cons_cons c
    · exact (ih _).cons c

/-- A candidate is called exactly if it is registered when its place comes. -/
theorem mem_called_iff {h : Handler α ρ ω σ} {r : Running α ρ ω σ}
    {cs : List (Nat × ρ × Readiness)} (hnodup : (cs.map (·.1)).Nodup) {i : Nat}
    {c : Nat × ρ × Readiness} (hc : cs[i]? = some c) :
    c ∈ h.called r cs ↔ ((cs.take i).foldl h.ready r).reactor.isRegistered c.1 = true := by
  induction cs generalizing r i with
  | nil => cases hc
  | cons c' cs ih =>
    obtain ⟨hnot, hnodup'⟩ := List.nodup_cons.1 hnodup
    rw [called]
    cases i with
    | zero =>
      obtain rfl : c' = c := Option.some.inj hc
      have hlater : c' ∉ h.called (h.ready r c') cs := fun hmem =>
        hnot (List.mem_map_of_mem ((called_sublist h _ cs).subset hmem))
      by_cases hreg : r.reactor.isRegistered c'.1 = true
      · rw [if_pos hreg]
        exact ⟨fun _ => hreg, fun _ => List.mem_cons_self⟩
      · rw [if_neg hreg]
        exact ⟨fun hmem => absurd hmem hlater, fun hreg' => absurd hreg' hreg⟩
    | succ i =>
      have hc' : cs[i]? = some c := hc
      have hne : c ≠ c' := fun heq =>
        hnot (heq ▸ List.mem_map_of_mem (List.mem_of_getElem? hc'))
      rw [List.take_succ_cons, List.foldl_cons, ← ih hnodup' hc']
      split
      · exact List.mem_cons.trans (or_iff_right hne)
      · exact .rfl

/-! ## The bound on the work -/

/-- **The bound on the work of a turn is no restriction** for callbacks that schedule nothing for
the present: when as many pieces are done as were due, nothing is due any more. -/
theorem pop?_fire {h : Handler α ρ ω σ} {now : Nat}
    (hlater : ∀ work r,
      (h.onDue work r).reactor.timers.countDue now ≤ r.reactor.timers.countDue now)
    {n : Nat} {r : Running α ρ ω σ} (hn : r.reactor.timers.countDue now ≤ n) :
    (h.fire now n r).reactor.timers.pop? now = none := by
  induction n generalizing r with
  | zero =>
    rw [fire]
    rcases hpop : r.reactor.timers.pop? now with _ | ⟨work, timers⟩
    · rfl
    · rw [Timers.countDue_of_pop? hpop] at hn
      cases hn
  | succ n ih =>
    rw [fire]
    rcases hpop : r.reactor.timers.pop? now with _ | ⟨work, timers⟩
    · exact hpop
    · rw [Timers.countDue_of_pop? hpop] at hn
      exact ih (Nat.le_trans (hlater work _) (Nat.le_of_succ_le_succ hn))

variable [Poller σ]

/-! ## The parts of a turn -/

/-- What a turn waits for, and the computer after that. -/
def awaited (limit : Option Nat) (r : Running α ρ ω σ) : Polled × σ :=
  let wait := match limit, patience r with
    | some a, some b => some (min a b)
    | a, b => a.or b
  Poller.poll wait r.host

/-- What was reported ready. -/
def reported (limit : Option Nat) (r : Running α ρ ω σ) : List (Nat × Readiness) :=
  (awaited limit r).1.ready

/-- The signals of a turn that the program is called back for. -/
def heard (limit : Option Nat) (r : Running α ρ ω σ) : List Signal :=
  (awaited limit r).1.signals.filter (· = .child)

/-- What may be called back when it is ready, in order. -/
def candidates (limit : Option Nat) (r : Running α ρ ω σ) : List (Nat × ρ × Readiness) :=
  callbacks r.reactor (reported limit r)

/-- The program when the place of a candidate comes: signals and earlier candidates are done. -/
def atPlace (h : Handler α ρ ω σ) (limit : Option Nat) (r : Running α ρ ω σ) (i : Nat) :
    Running α ρ ω σ :=
  ((candidates limit r).take i).foldl h.ready
    ((awaited limit r).1.signals.foldl h.signalled { r with host := (awaited limit r).2 })

/-- The program when all candidates are done. -/
def afterReady (h : Handler α ρ ω σ) (limit : Option Nat) (r : Running α ρ ω σ) :
    Running α ρ ω σ :=
  h.atPlace limit r (candidates limit r).length

/-- The calls for what is ready. -/
def calls (h : Handler α ρ ω σ) (limit : Option Nat) (r : Running α ρ ω σ) :
    List (Nat × ρ × Readiness) :=
  h.called (h.atPlace limit r 0) (candidates limit r)

/-- The work that is done. -/
def works (h : Handler α ρ ω σ) (limit : Option Nat) (r : Running α ρ ω σ) : List ω :=
  let now := Poller.now (h.afterReady limit r).host
  h.done now ((h.afterReady limit r).reactor.timers.countDue now) (h.afterReady limit r)

theorem turn_eq (h : Handler α ρ ω σ) (limit : Option Nat) (r : Running α ρ ω σ) :
    h.turn limit r =
      let now := Poller.now (h.afterReady limit r).host
      h.fire now ((h.afterReady limit r).reactor.timers.countDue now) (h.afterReady limit r) := by
  rw [afterReady, atPlace, List.take_length]
  rfl

/-- **What a turn calls back**: for signals, then for what is ready, then for what is due. -/
theorem logging_turn (h : Handler α ρ ω σ) (limit : Option Nat) (r : Running α ρ ω σ)
    (log : List (Call ρ ω)) :
    h.logging.turn limit (noted r log) = noted (h.turn limit r)
      (log ++ (heard limit r).map .signal ++ (h.calls limit r).map (fun c => .ready c.2.1 c.2.2) ++
        (h.works limit r).map .due) := by
  have hready : h.logging.afterReady limit (noted r log) = noted (h.afterReady limit r)
      (log ++ (heard limit r).map .signal ++
        (h.calls limit r).map fun c => .ready c.2.1 c.2.2) := by
    have hsignals := logging_signalled h (awaited limit r).1.signals
      { r with host := (awaited limit r).2 } log
    rw [afterReady, afterReady, atPlace, atPlace, List.take_length, List.take_length]
    refine (congrArg ((candidates limit r).foldl h.logging.ready) hsignals).trans ?_
    exact logging_ready h (candidates limit r) _ _
  rw [turn_eq, hready, turn_eq]
  exact logging_fire h _ _ _ _

/-! ## Deeds of a turn -/

variable {h : Handler α ρ ω σ} {r : Running α ρ ω σ} {limit : Option Nat}

theorem exists_deeds_signalled (hh : h.Modest) (signals : List Signal) (r : Running α ρ ω σ) :
    ∃ deeds : List (Deed ρ ω σ), (signals.foldl h.signalled r).reactor = r.reactor.after deeds := by
  induction signals generalizing r with
  | nil => exact ⟨[], rfl⟩
  | cons signal signals ih =>
    have hstep : ∃ deeds : List (Deed ρ ω σ),
        (h.signalled r signal).reactor = r.reactor.after deeds := by
      cases signal with
      | interrupt => exact ⟨[.stop], rfl⟩
      | terminate => exact ⟨[.stop], rfl⟩
      | child => exact hh.signal .child r
    obtain ⟨deeds, hdeeds⟩ := hstep
    obtain ⟨deeds', hdeeds'⟩ := ih (h.signalled r signal)
    exact ⟨deeds ++ deeds', by rw [List.foldl_cons, hdeeds', hdeeds, after_append]⟩

/-- What the callbacks do up to some place is the first part of what they do. -/
theorem exists_deeds_ready (hh : h.Modest) (cs : List (Nat × ρ × Readiness))
    (r : Running α ρ ω σ) :
    ∃ deeds : List (Deed ρ ω σ), (cs.foldl h.ready r).reactor = r.reactor.after deeds ∧
      ∀ i, ∃ first, first <+: deeds ∧
        ((cs.take i).foldl h.ready r).reactor = r.reactor.after first := by
  induction cs generalizing r with
  | nil => exact ⟨[], rfl, fun i => ⟨[], List.prefix_refl _, by rw [List.take_nil]; rfl⟩⟩
  | cons c cs ih =>
    have hstep : ∃ deeds : List (Deed ρ ω σ),
        (h.ready r c).reactor = r.reactor.after deeds := by
      unfold ready
      split
      · exact hh.ready c.2.1 c.2.2 r
      · exact ⟨[], rfl⟩
    obtain ⟨deeds, hdeeds⟩ := hstep
    obtain ⟨deeds', hdeeds', hplaces⟩ := ih (h.ready r c)
    refine ⟨deeds ++ deeds', by rw [List.foldl_cons, hdeeds', hdeeds, after_append], fun i => ?_⟩
    cases i with
    | zero => exact ⟨[], List.nil_prefix, rfl⟩
    | succ i =>
      obtain ⟨first, hfirst, heq⟩ := hplaces i
      refine ⟨deeds ++ first, (List.prefix_append_right_inj deeds).2 hfirst, ?_⟩
      rw [List.take_succ_cons, List.foldl_cons, heq, hdeeds, after_append]

theorem exists_deeds_fire (hh : h.Modest) (now n : Nat) (r : Running α ρ ω σ) :
    ∃ deeds : List (Deed ρ ω σ), (h.fire now n r).reactor = r.reactor.after deeds := by
  induction n generalizing r with
  | zero => exact ⟨[], rfl⟩
  | succ n ih =>
    rw [fire]
    rcases hpop : r.reactor.timers.pop? now with _ | ⟨work, timers⟩
    · exact ⟨[], rfl⟩
    · have hexpire : (r.reactor.deed (.expire now : Deed ρ ω σ)).2 = { r.reactor with timers } := by
        simp only [deed, hpop]
      obtain ⟨deeds, hdeeds⟩ := hh.due work { r with reactor := { r.reactor with timers } }
      obtain ⟨deeds', hdeeds'⟩ := ih (h.onDue work { r with reactor := { r.reactor with timers } })
      refine ⟨.expire now :: (deeds ++ deeds'), ?_⟩
      show _ = (r.reactor.deed (.expire now)).2.after (deeds ++ deeds')
      rw [hexpire, after_append, ← hdeeds, ← hdeeds']

/-- **A turn is a list of deeds**, and each place comes after some of them. -/
theorem exists_deeds_turn (hh : h.Modest) (limit : Option Nat) (r : Running α ρ ω σ) :
    ∃ deeds : List (Deed ρ ω σ), (h.turn limit r).reactor = r.reactor.after deeds ∧
      ∀ i, ∃ first, first <+: deeds ∧ (h.atPlace limit r i).reactor = r.reactor.after first := by
  obtain ⟨deeds, hsignals⟩ := exists_deeds_signalled hh (awaited limit r).1.signals
    { r with host := (awaited limit r).2 }
  obtain ⟨deeds', hready, hplaces⟩ := exists_deeds_ready hh (candidates limit r)
    ((awaited limit r).1.signals.foldl h.signalled { r with host := (awaited limit r).2 })
  rw [turn_eq]
  obtain ⟨deeds'', hfire⟩ := exists_deeds_fire hh _ _ (h.afterReady limit r)
  refine ⟨deeds ++ deeds' ++ deeds'', hfire.trans ?_, fun i => ?_⟩
  · rw [afterReady, atPlace, List.take_length, hready, hsignals, after_append, after_append]
  · obtain ⟨first, hfirst, heq⟩ := hplaces i
    refine ⟨deeds ++ first, ?_, by rw [atPlace, heq, hsignals, after_append]⟩
    exact ((List.prefix_append_right_inj deeds).2 hfirst).trans (List.prefix_append _ _)

/-! ## Candidates -/

/-- The candidates among what was reported. -/
def polled (limit : Option Nat) (r : Running α ρ ω σ) : List (Nat × ρ × Readiness) :=
  (reported limit r).filterMap fun (token, readiness) =>
    (r.reactor.watched.get? token).map fun route => (token, route, readiness)

/-- The candidates that are always ready. -/
def always (r : Running α ρ ω σ) : List (Nat × ρ × Readiness) :=
  r.reactor.alwaysReady.entries.map fun (token, route) => (token, route, .always)

theorem map_polled (limit : Option Nat) (r : Running α ρ ω σ) :
    (polled limit r).map (fun c => (c.1, c.2.2)) =
      (reported limit r).filter fun e => r.reactor.watched.contains e.1 := by
  rw [polled]
  induction reported limit r with
  | nil => rfl
  | cons e es ih =>
    obtain ⟨token, readiness⟩ := e
    rcases h : r.reactor.watched.get? token with _ | route
    · simpa [Table.contains, h] using ih
    · simpa [Table.contains, h] using ih

theorem mem_polled {c : Nat × ρ × Readiness} (hc : c ∈ polled limit r) :
    r.reactor.watched.get? c.1 = some c.2.1 := by
  obtain ⟨e, -, he⟩ := List.mem_filterMap.1 hc
  obtain ⟨route, hroute, rfl⟩ := Option.map_eq_some_iff.1 he
  exact hroute

omit [Poller σ] in
theorem mem_always {c : Nat × ρ × Readiness} (hc : c ∈ always r) :
    r.reactor.alwaysReady.get? c.1 = some c.2.1 := by
  obtain ⟨e, he, rfl⟩ := List.mem_map.1 hc
  exact Table.get?_of_mem he

omit [Poller σ] in
theorem ascending_always (r : Running α ρ ω σ) : ((always r).map (·.1)).Pairwise (· < ·) := by
  rw [always, List.map_map]
  exact List.pairwise_map.2 r.reactor.alwaysReady.ascending

/-- Candidates are registered when the turn begins. -/
theorem route?_of_mem_candidates (hr : r.reactor.Numbered) {c : Nat × ρ × Readiness}
    (hc : c ∈ candidates limit r) : r.reactor.route? c.1 = some c.2.1 := by
  rcases List.mem_append.1 hc with hc | hc
  · rw [route?, mem_polled hc, Option.some_or]
  · have halways := mem_always hc
    have hnone := (hr.apart c.1).resolve_right (by rw [halways]; exact Option.some_ne_none _)
    rw [route?, hnone, Option.none_or, halways]

theorem lt_of_mem_candidates (hr : r.reactor.Numbered) {c : Nat × ρ × Readiness}
    (hc : c ∈ candidates limit r) : c.1 < r.reactor.nextToken := by
  refine Nat.lt_of_not_le fun hle => ?_
  have hnone := hr.bounded c.1 hle
  have hroute := route?_of_mem_candidates hr hc
  rw [route?, hnone.1, hnone.2] at hroute
  cases hroute

/-- No token has two candidates, if none was reported twice. -/
theorem nodup_candidates (hr : r.reactor.Numbered)
    (hreported : (((reported limit r).filter fun e => r.reactor.watched.contains e.1).map
      (·.1)).Nodup) : ((candidates limit r).map (·.1)).Nodup := by
  show ((polled limit r ++ always r).map (·.1)).Nodup
  rw [List.map_append]
  refine List.nodup_append.2 ⟨?_, ?_, ?_⟩
  · rw [← map_polled, List.map_map] at hreported
    exact hreported
  · exact (ascending_always r).imp Nat.ne_of_lt
  · intro t ht t' ht' heq
    obtain ⟨c, hc, rfl⟩ := List.mem_map.1 ht
    obtain ⟨c', hc', rfl⟩ := List.mem_map.1 ht'
    have hw := mem_polled hc
    have ha := mem_always hc'
    rw [← heq] at ha
    rcases hr.apart c.1 with hnone | hnone
    · rw [hnone] at hw
      cases hw
    · rw [hnone] at ha
      cases ha

/-! ## The discipline -/

/-- A turn as it should be; the deeds are what is done to the reactor during the turn. -/
structure Disciplined (h : Handler α ρ ω σ) (limit : Option Nat) (r : Running α ρ ω σ)
    (during : List (Deed ρ ω σ)) : Prop where
  /-- Callbacks for signals come first, then those for what is ready, and work that is due last. -/
  logged : ∀ log, h.logging.turn limit (noted r log) = noted (h.turn limit r)
    (log ++ (heard limit r).map .signal ++ (h.calls limit r).map (fun c => .ready c.2.1 c.2.2) ++
      (h.works limit r).map .due)
  candidates : candidates limit r = polled limit r ++ always r
  /-- Of what was reported, what is watched when the turn begins, as it was reported. -/
  polled : (polled limit r).map (fun c => (c.1, c.2.2)) =
    (reported limit r).filter fun e => r.reactor.watched.contains e.1
  /-- All that is always ready when the turn begins. -/
  always : (always r).map (fun c => (c.1, c.2.1)) = r.reactor.alwaysReady.entries
  ascending : ((Handler.always r).map (·.1)).Pairwise (· < ·)
  existing : ∀ c ∈ Handler.candidates limit r, r.reactor.route? c.1 = some c.2.1
  order : (h.calls limit r).Sublist (Handler.candidates limit r)
  once : ((h.calls limit r).map (·.1)).Nodup
  called : ∀ i c, (Handler.candidates limit r)[i]? = some c →
    (c ∈ h.calls limit r ↔ (h.atPlace limit r i).reactor.isRegistered c.1 = true)
  /-- What is registered then is what was registered when the turn began. -/
  unchanged : ∀ i c, (Handler.candidates limit r)[i]? = some c →
    (h.atPlace limit r i).reactor.isRegistered c.1 = true →
      (h.atPlace limit r i).reactor.route? c.1 = some c.2.1
  /-- Nothing that is registered during the turn is called. -/
  new : ∀ t ∈ r.reactor.granted during, ∀ c ∈ h.calls limit r, c.1 ≠ t
  places : ∀ i, ∃ first, first <+: during ∧
    (h.atPlace limit r i).reactor = r.reactor.after first
  turned : (h.turn limit r).reactor = r.reactor.after during

theorem Modest.disciplined (hh : h.Modest) (hr : r.reactor.Numbered)
    (hreported : (((reported limit r).filter fun e => r.reactor.watched.contains e.1).map
      (·.1)).Nodup) : ∃ during : List (Deed ρ ω σ), h.Disciplined limit r during := by
  obtain ⟨during, hturned, hplaces⟩ := exists_deeds_turn hh limit r
  have horder : (h.calls limit r).Sublist (candidates limit r) := called_sublist h _ _
  have hnodup := nodup_candidates hr hreported
  refine ⟨during, {
    logged := logging_turn h limit r
    candidates := rfl
    polled := map_polled limit r
    always := by rw [always, List.map_map]; exact List.map_id _
    ascending := ascending_always r
    existing := fun c hc => route?_of_mem_candidates hr hc
    order := horder
    once := (horder.map _).nodup hnodup
    called := fun i c hc => mem_called_iff hnodup hc
    unchanged := fun i c hc hreg => ?_
    new := fun t ht c hc heq => ?_
    places := hplaces
    turned := hturned }⟩
  · -- the token was in use when the turn began, so it was not given out again since
    obtain ⟨first, -, hplace⟩ := hplaces i
    have hmem := List.mem_of_getElem? hc
    rw [hplace, isRegistered_eq, Option.isSome_iff_exists] at hreg
    obtain ⟨route, hroute⟩ := hreg
    have hold := (dwindles_after r.reactor first).route?_eq hr (lt_of_mem_candidates hr hmem) hroute
    rw [hplace, hroute, ← hold]
    exact route?_of_mem_candidates hr hmem
  · have hlt := lt_of_mem_candidates hr (horder.subset hc)
    have hle := le_of_mem_granted ht
    omega

/-- **Turns are disciplined** in every state of a reactor, whatever the callbacks do to it; its
tokens are never used again, and none is both watched and always ready, at any time. -/
theorem turn_disciplined (h : Handler α ρ ω σ) (hh : h.Modest) (limit : Option Nat)
    (past : List (Deed ρ ω σ)) (state : α) (host : σ)
    (hreported : (((reported limit ⟨state, (fresh : Reactor ρ ω).after past, host⟩).filter fun e =>
      ((fresh : Reactor ρ ω).after past).watched.contains e.1).map (·.1)).Nodup) :
    ∃ during : List (Deed ρ ω σ),
      h.Disciplined limit ⟨state, (fresh : Reactor ρ ω).after past, host⟩ during ∧
      ((fresh : Reactor ρ ω).granted (past ++ during)).Pairwise (· < ·) ∧
      ∀ deeds, deeds <+: past ++ during → ∀ t,
        ((fresh : Reactor ρ ω).after deeds).watched.get? t = none ∨
          ((fresh : Reactor ρ ω).after deeds).alwaysReady.get? t = none := by
  have hnumbered (deeds : List (Deed ρ ω σ)) : ((fresh : Reactor ρ ω).after deeds).Numbered :=
    numbered_after numbered_fresh deeds
  obtain ⟨during, hdisciplined⟩ :=
    hh.disciplined (r := ⟨state, fresh.after past, host⟩) (hnumbered past) hreported
  exact ⟨during, hdisciplined, granted_ascending _ _, fun deeds _ => (hnumbered deeds).apart⟩

/-! ## An instance -/

/-- A computer that always reports the same. -/
structure Bells where
  ringing : List (Nat × Readiness)

instance : Poller Bells where
  now _ := 0
  watch handle _ _ b := (.ok (handle ≠ 0), b)
  unwatch _ b := b
  poll _ b := (⟨b.ringing, []⟩, b)
  hearSignals b := b

/-- A program whose routes are tokens: it unregisters that token, and watches and schedules anew. -/
def swaps : Handler Unit Nat Unit Bells where
  onReady token _ r :=
    let deeds : List (Deed Nat Unit Bells) :=
      [.unregister token r.host, .register 1 .readable token r.host, .schedule 0 () r.host]
    { r with reactor := r.reactor.after deeds }
  onDue _ r := r
  onSignal _ r := r
  live _ := true

/-- Two tokens that are watched, of which the first unregisters the second, and one that is always
ready. -/
def swapped : List (Deed Nat Unit Bells) :=
  [.register 1 .readable 3 ⟨[]⟩, .register 1 .readable 9 ⟨[]⟩, .register 0 .readable 2 ⟨[]⟩]

/-- Of two that were reported, the second is gone when its place comes. -/
theorem turn_disciplined_swaps :
    let r : Running Unit Nat Unit Bells :=
      ⟨(), (fresh : Reactor Nat Unit).after swapped, ⟨[(2, .always), (3, .always)]⟩⟩
    swaps.calls none r = [(2, 3, .always), (5, 2, .always)] ∧ swaps.works none r = [(), ()] ∧
      ∃ during, swaps.Disciplined none r during ∧
        ((fresh : Reactor Nat Unit).granted (swapped ++ during)).Pairwise (· < ·) ∧
        ∀ deeds, deeds <+: swapped ++ during → ∀ t,
          ((fresh : Reactor Nat Unit).after deeds).watched.get? t = none ∨
            ((fresh : Reactor Nat Unit).after deeds).alwaysReady.get? t = none :=
  ⟨by decide, by decide, turn_disciplined swaps
    ⟨fun _ _ _ => ⟨_, rfl⟩, fun _ _ => ⟨[], rfl⟩, fun _ _ => ⟨[], rfl⟩⟩ none swapped () _
    (by decide)⟩

end Handler

end Squitter
