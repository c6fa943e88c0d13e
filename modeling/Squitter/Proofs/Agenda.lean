import Squitter.Timers

/-!
# Timers are a stable priority queue

To its user, what is pending is an **agenda** (`Timers.Agenda`): the entries in the order in which
they were scheduled. What comes out next is the entry with the least deadline, and of several the
one that was scheduled first (`Agenda.Step`). Nothing there is sorted.

The timers keep the same entries in the order of their deadlines. They **list** the agenda
(`Timers.Lists`) if for every deadline they hold the same entries in the same order; so entries with
equal deadlines have never changed places. Each act keeps this up (`Lists.act`), hence so does every
list of acts (`Lists.run`), in which an act may well depend on the answers before it, as in a loop
that takes out what is due and schedules what follows on it.

The place of a new entry is found by halving (`Timers.bisect`). That is right only because the
entries are in order (`bisect_eq`).
-/

namespace Squitter.Timers

variable {ω : Type}

/-! ## The place of an entry -/

/-- The place behind the entries that are due by a deadline, between `low` and `high`, found by
halving. -/
def bisect (es : List (Nat × ω)) (deadline low high : Nat) : Nat :=
  if low < high then
    let middle := low + (high - low) / 2
    if es[middle]?.any fun e => e.1 ≤ deadline then bisect es deadline (middle + 1) high
    else bisect es deadline low middle
  else low
termination_by high - low

/-- How many entries at the front are due by a deadline. -/
def front (es : List (Nat × ω)) (deadline : Nat) : Nat :=
  (es.takeWhile fun e => e.1 ≤ deadline).length

theorem front_le (es : List (Nat × ω)) (deadline : Nat) : front es deadline ≤ es.length :=
  (List.takeWhile_sublist _).length_le

theorem place_eq_insertIdx (deadline : Nat) (work : ω) (es : List (Nat × ω)) :
    place deadline work es = es.insertIdx (front es deadline) (deadline, work) := by
  fun_induction place deadline work es with
  | case1 => rfl
  | case2 e rest hle ih => simp [front, hle, ih]
  | case3 e rest hgt => simp [front, hgt]

/-- If the entries are in order, those at the front are all that are due. -/
theorem lt_front_iff {es : List (Nat × ω)} (h : es.Pairwise fun a b => a.1 ≤ b.1)
    (deadline i : Nat) : i < front es deadline ↔ es[i]?.any fun e => e.1 ≤ deadline := by
  induction es generalizing i with
  | nil => simp [front]
  | cons e rest ih =>
    obtain ⟨he, hrest⟩ := List.pairwise_cons.1 h
    by_cases hle : e.1 ≤ deadline
    · have hfront : front (e :: rest) deadline = front rest deadline + 1 := by
        simp [front, hle]
      cases i with
      | zero => simp [hfront, hle]
      | succ i => simpa [hfront] using ih hrest i
    · -- Nothing behind an entry that is not due is due.
      have hfront : front (e :: rest) deadline = 0 := by simp [front, hle]
      have hnot : ∀ e' ∈ e :: rest, ¬ e'.1 ≤ deadline := by
        intro e' he'
        rcases List.mem_cons.1 he' with rfl | he'
        · exact hle
        · exact fun hle' => hle (Nat.le_trans (he e' he') hle')
      rw [hfront]
      cases hget : (e :: rest)[i]? with
      | none => simp
      | some e' => simp [hnot e' (List.mem_of_getElem? hget)]

/-- **Halving finds the place** of an entry among entries that are in order. -/
theorem bisect_eq {es : List (Nat × ω)} (h : es.Pairwise fun a b => a.1 ≤ b.1)
    {deadline low high : Nat} (hlow : low ≤ front es deadline) (hhigh : front es deadline ≤ high) :
    bisect es deadline low high = front es deadline := by
  fun_induction bisect es deadline low high with
  | case1 low high hlt middle hdue ih =>
    exact ih ((lt_front_iff h deadline middle).2 hdue) hhigh
  | case2 low high hlt middle hdue ih =>
    exact ih hlow (Nat.le_of_not_lt fun hfront => hdue ((lt_front_iff h deadline middle).1 hfront))
  | case3 low high hge => omega

/-- Scheduling inserts an entry at the place that halving finds. -/
theorem entries_schedule (t : Timers ω) (deadline : Nat) (work : ω) :
    (t.schedule deadline work).entries =
      t.entries.insertIdx (bisect t.entries deadline 0 t.entries.length) (deadline, work) := by
  rw [bisect_eq t.ascending (Nat.zero_le _) (front_le _ _)]
  exact place_eq_insertIdx deadline work t.entries

/-! ## Acts -/

/-- What a user of timers does. -/
inductive Act (ω : Type)
  | schedule (deadline : Nat) (work : ω)
  /-- Take out an entry, if one is due. -/
  | pop (now : Nat)
  /-- Ask how long nothing is due. -/
  | ask (now : Nat)

/-- What the user is told. -/
inductive Answer (ω : Type)
  | scheduled
  | popped (work : Option ω)
  | remaining (time : Option Nat)
deriving DecidableEq

/-- One act: the answer, and the timers after it. -/
def act (t : Timers ω) : Act ω → Answer ω × Timers ω
  | .schedule deadline work => (.scheduled, t.schedule deadline work)
  | .pop now =>
    match t.pop? now with
    | some (work, t) => (.popped (some work), t)
    | none => (.popped none, t)
  | .ask now => (.remaining (t.remaining? now), t)

/-- One act after the other: the answers, and the timers after them. -/
def run (t : Timers ω) : List (Act ω) → List (Answer ω) × Timers ω
  | [] => ([], t)
  | act :: acts =>
    let (answer, t) := t.act act
    let (answers, t) := t.run acts
    (answer :: answers, t)

/-! ## Agendas -/

/-- What is pending, in the order of scheduling. -/
abbrev Agenda (ω : Type) := List (Nat × ω)

namespace Agenda

/-- What an act does to an agenda, and the answer to it. -/
inductive Step : Agenda ω → Act ω → Answer ω → Agenda ω → Prop
  | schedule {a : Agenda ω} {deadline : Nat} {work : ω} :
    Step a (.schedule deadline work) .scheduled (a ++ [(deadline, work)])
  /-- The least deadline has come; of the entries that have it, the first one is taken out. -/
  | pop {before after : Agenda ω} {deadline now : Nat} {work : ω} (hdue : deadline ≤ now)
      (hbefore : ∀ e ∈ before, deadline < e.1) (hafter : ∀ e ∈ after, deadline ≤ e.1) :
    Step (before ++ (deadline, work) :: after) (.pop now) (.popped (some work)) (before ++ after)
  | wait {a : Agenda ω} {now : Nat} (hnone : ∀ e ∈ a, now < e.1) :
    Step a (.pop now) (.popped none) a
  | ask {a : Agenda ω} {e : Nat × ω} {now : Nat} (he : e ∈ a) (hleast : ∀ e' ∈ a, e.1 ≤ e'.1) :
    Step a (.ask now) (.remaining (some (e.1 - now))) a
  | askEmpty {now : Nat} : Step [] (.ask now) (.remaining none) []

/-- One act after the other. -/
inductive Course : Agenda ω → List (Act ω) → List (Answer ω) → Agenda ω → Prop
  | done {a : Agenda ω} : Course a [] [] a
  | next {a a' a'' : Agenda ω} {act : Act ω} {answer : Answer ω} {acts : List (Act ω)}
      {answers : List (Answer ω)} (hstep : Step a act answer a')
      (hrest : Course a' acts answers a'') :
    Course a (act :: acts) (answer :: answers) a''

/-- There is one first entry with the least deadline. -/
theorem eq_of_first {before before' after after' : Agenda ω} {e e' : Nat × ω}
    (h : before ++ e :: after = before' ++ e' :: after') (hbefore : ∀ x ∈ before, e.1 < x.1)
    (hafter : ∀ x ∈ after, e.1 ≤ x.1) (hbefore' : ∀ x ∈ before', e'.1 < x.1)
    (hafter' : ∀ x ∈ after', e'.1 ≤ x.1) : before = before' ∧ e = e' ∧ after = after' := by
  rcases List.append_eq_append_iff.1 h with ⟨between, rfl, heq⟩ | ⟨between, rfl, heq⟩
  · cases between with
    | nil => simpa using heq
    | cons x between =>
      obtain ⟨rfl, rfl⟩ := List.cons.inj heq
      have hlt := hbefore' e (by simp)
      have hle := hafter e' (by simp)
      omega
  · cases between with
    | nil => simpa [eq_comm] using heq
    | cons x between =>
      obtain ⟨rfl, rfl⟩ := List.cons.inj heq
      have hlt := hbefore e' (by simp)
      have hle := hafter' e (by simp)
      omega

variable {a a₁ a₂ : Agenda ω}

theorem Step.unique {act : Act ω} {x y : Answer ω} (h₁ : Step a act x a₁) (h₂ : Step a act y a₂) :
    x = y ∧ a₁ = a₂ := by
  cases h₁ with
  | schedule => cases h₂; exact ⟨rfl, rfl⟩
  | @pop before after deadline now work hdue hbefore hafter =>
    generalize hb : before ++ (deadline, work) :: after = b at h₂
    cases h₂ with
    | pop _ hbefore' hafter' =>
      obtain ⟨rfl, heq, rfl⟩ := eq_of_first hb hbefore hafter hbefore' hafter'
      cases heq
      exact ⟨rfl, rfl⟩
    | wait hnone =>
      have hlt := hnone (deadline, work) (by simp [← hb])
      exact absurd hdue (Nat.not_le.2 hlt)
  | wait hnone =>
    cases h₂ with
    | @pop _ _ deadline _ work hdue =>
      exact absurd hdue (Nat.not_le.2 (hnone (deadline, work) (by simp)))
    | wait => exact ⟨rfl, rfl⟩
  | ask he hleast =>
    cases h₂ with
    | ask he' hleast' =>
      rw [Nat.le_antisymm (hleast _ he') (hleast' _ he)]
      exact ⟨rfl, rfl⟩
    | askEmpty => cases he
  | askEmpty =>
    generalize hb : ([] : Agenda ω) = b at h₂
    cases h₂ with
    | ask he => cases hb; cases he
    | askEmpty => exact ⟨rfl, rfl⟩

/-- The acts determine the answers. -/
theorem Course.unique {acts : List (Act ω)} {xs ys : List (Answer ω)} (h₁ : Course a acts xs a₁)
    (h₂ : Course a acts ys a₂) : xs = ys ∧ a₁ = a₂ := by
  induction h₁ generalizing ys with
  | done => cases h₂; exact ⟨rfl, rfl⟩
  | next hstep _ ih =>
    cases h₂ with
    | next hstep' hrest' =>
      obtain ⟨rfl, rfl⟩ := hstep.unique hstep'
      obtain ⟨rfl, rfl⟩ := ih hrest'
      exact ⟨rfl, rfl⟩

end Agenda

/-! ## Timers list an agenda -/

/-- For every deadline, the same entries in the same order. -/
def Lists (t : Timers ω) (a : Agenda ω) : Prop :=
  ∀ deadline, (t.entries.filter fun e => e.1 = deadline) = a.filter fun e => e.1 = deadline

namespace Lists

variable {t t' : Timers ω} {a : Agenda ω}

theorem mem_iff (h : t.Lists a) (e : Nat × ω) : e ∈ t.entries ↔ e ∈ a := by
  have hmem (es : List (Nat × ω)) : (e ∈ es.filter fun e' => e'.1 = e.1) ↔ e ∈ es := by simp
  rw [← hmem t.entries, h e.1, hmem a]

/-- No entry is missing, and none is there more often. -/
theorem perm (h : t.Lists a) : t.entries.Perm a := by
  classical
  refine List.perm_iff_count.2 fun e => ?_
  have hcount (es : List (Nat × ω)) : (es.filter fun e' => e'.1 = e.1).count e = es.count e :=
    List.count_filter (by simp)
  rw [← hcount t.entries, h e.1, hcount a]

/-- An entry is put behind the others with its deadline. -/
theorem filter_place {es : List (Nat × ω)} (h : es.Pairwise fun a b => a.1 ≤ b.1)
    (deadline d : Nat) (work : ω) : ((place deadline work es).filter fun e => e.1 = d) =
      (es.filter fun e => e.1 = d) ++ [(deadline, work)].filter fun e => e.1 = d := by
  fun_induction place deadline work es with
  | case1 => rfl
  | case2 e rest hle ih =>
    rw [List.filter_cons, List.filter_cons, ih (List.pairwise_cons.1 h).2]
    split <;> rfl
  | case3 e rest hgt =>
    by_cases hd : deadline = d
    · have hnone : (e :: rest).filter (fun e => e.1 = d) = [] := by
        refine List.filter_eq_nil_iff.2 fun e' he' => ?_
        have hle : e.1 ≤ e'.1 := by
          rcases List.mem_cons.1 he' with rfl | he'
          · exact Nat.le_refl _
          · exact (List.pairwise_cons.1 h).1 e' he'
        simp only [decide_eq_true_eq]
        omega
      rw [List.filter_cons, hnone]
      simp [hd]
    · simp [List.filter_cons, hd]

theorem schedule (h : t.Lists a) (deadline : Nat) (work : ω) :
    (t.schedule deadline work).Lists (a ++ [(deadline, work)]) := by
  intro d
  rw [List.filter_append, ← h d]
  exact filter_place t.ascending deadline d work

theorem eq_nil (h : t.Lists a) (ht : t.entries = []) : a = [] := by
  refine List.eq_nil_iff_forall_not_mem.2 fun e he => ?_
  have hmem := (h.mem_iff e).2 he
  rw [ht] at hmem
  cases hmem

/-- The first entry has the least deadline. -/
theorem le_of_mem (h : t.Lists a) {e e' : Nat × ω} {rest : List (Nat × ω)}
    (ht : t.entries = e :: rest) (he' : e' ∈ a) : e.1 ≤ e'.1 := by
  have hmem := (h.mem_iff e').2 he'
  rw [ht] at hmem
  rcases List.mem_cons.1 hmem with rfl | hmem
  · exact Nat.le_refl _
  · exact (List.pairwise_cons.1 (ht ▸ t.ascending)).1 e' hmem

/-- On the agenda, all before the first entry have a later deadline. -/
theorem exists_eq_append (h : t.Lists a) {e : Nat × ω} {rest : List (Nat × ω)}
    (ht : t.entries = e :: rest) : ∃ before after, a = before ++ e :: after ∧
      (∀ e' ∈ before, e.1 < e'.1) ∧
        ∀ d, (rest.filter fun e' => e'.1 = d) = (before ++ after).filter fun e' => e'.1 = d := by
  have hfirst := (h e.1).symm
  rw [ht, List.filter_cons_of_pos (by simp)] at hfirst
  obtain ⟨before, after, rfl, hbefore, -, -⟩ := List.filter_eq_cons_iff.1 hfirst
  refine ⟨before, after, rfl, fun e' he' => ?_, fun d => ?_⟩
  · have hle := h.le_of_mem ht (List.mem_append_left _ he')
    have hne : e'.1 ≠ e.1 := by simpa using hbefore e' he'
    omega
  · have hd := h d
    rw [ht, List.filter_cons, List.filter_append, List.filter_cons] at hd
    rw [List.filter_append]
    by_cases hed : e.1 = d
    · have hnone : before.filter (fun e' => e'.1 = d) = [] := by
        refine List.filter_eq_nil_iff.2 fun e' he' => ?_
        simpa [hed] using hbefore e' he'
      simp only [hed, decide_true, if_true, hnone, List.nil_append, List.cons.injEq] at hd ⊢
      exact hd.2
    · simpa [hed] using hd

theorem pop (h : t.Lists a) (now : Nat) :
    ∃ a', Agenda.Step a (.pop now) (t.act (.pop now)).1 a' ∧ (t.act (.pop now)).2.Lists a' := by
  obtain ⟨entries, ascending⟩ := t
  cases entries with
  | nil =>
    obtain rfl := h.eq_nil rfl
    exact ⟨[], .wait (by simp), h⟩
  | cons e rest =>
    by_cases hdue : e.1 ≤ now
    · have hpop : Timers.act ⟨e :: rest, ascending⟩ (.pop now) =
          (.popped (some e.2), ⟨rest, (List.pairwise_cons.1 ascending).2⟩) := by
        simp only [Timers.act, pop?, if_pos hdue]
      obtain ⟨before, after, rfl, hbefore, hrest⟩ := h.exists_eq_append rfl
      rw [hpop]
      refine ⟨before ++ after, .pop hdue hbefore fun e' he' => ?_, hrest⟩
      exact h.le_of_mem rfl (List.mem_append_right _ (List.mem_cons_of_mem _ he'))
    · have hpop : Timers.act ⟨e :: rest, ascending⟩ (.pop now) =
          (.popped none, ⟨e :: rest, ascending⟩) := by
        simp only [Timers.act, pop?, if_neg hdue]
      rw [hpop]
      exact ⟨a, .wait fun e' he' =>
        Nat.lt_of_lt_of_le (Nat.lt_of_not_le hdue) (h.le_of_mem rfl he'), h⟩

theorem ask (h : t.Lists a) (now : Nat) :
    Agenda.Step a (.ask now) (.remaining (t.remaining? now)) a := by
  obtain ⟨entries, ascending⟩ := t
  cases entries with
  | nil =>
    obtain rfl := h.eq_nil rfl
    exact .askEmpty
  | cons e rest => exact .ask ((h.mem_iff e).1 List.mem_cons_self) fun e' he' => h.le_of_mem rfl he'

/-- **Every act** on timers does what it does on the agenda. -/
theorem act (h : t.Lists a) (act : Act ω) :
    ∃ a', Agenda.Step a act (t.act act).1 a' ∧ (t.act act).2.Lists a' := by
  cases act with
  | schedule deadline work => exact ⟨_, .schedule, h.schedule deadline work⟩
  | pop now => exact h.pop now
  | ask now => exact ⟨a, h.ask now, h⟩

/-- Many acts, of which each does to the agenda what it should. -/
theorem run (h : t.Lists a) (acts : List (Act ω)) :
    ∃ a', Agenda.Course a acts (t.run acts).1 a' ∧ (t.run acts).2.Lists a' := by
  induction acts generalizing t a with
  | nil => exact ⟨a, .done, h⟩
  | cons act acts ih =>
    obtain ⟨a', hstep, h'⟩ := h.act act
    obtain ⟨a'', hcourse, h''⟩ := ih h'
    exact ⟨a'', .next hstep hcourse, h''⟩

end Lists

/-! ## What becomes of an entry -/

/-- What was scheduled, in its order. -/
def scheduled (acts : List (Act ω)) : List (Nat × ω) :=
  acts.filterMap fun
    | .schedule deadline work => some (deadline, work)
    | _ => none

/-- What was taken out, in its order, with the time at which it was. -/
def takenOut : List (Act ω) → List (Answer ω) → List (Nat × ω)
  | .pop now :: acts, .popped (some work) :: answers => (now, work) :: takenOut acts answers
  | _ :: acts, _ :: answers => takenOut acts answers
  | _, _ => []

/-- What was taken out and what is left, with the deadlines, is what there was and what was
scheduled; and all that was taken out was due. -/
theorem Agenda.Course.exists_taken {a a' : Agenda ω} {acts : List (Act ω)}
    {answers : List (Answer ω)} (h : Course a acts answers a') : ∃ taken : List (Nat × Nat × ω),
      taken.map (fun r => (r.1, r.2.2)) = takenOut acts answers ∧ (∀ r ∈ taken, r.2.1 ≤ r.1) ∧
        (a ++ scheduled acts).Perm (taken.map (·.2) ++ a') := by
  induction h with
  | done => exact ⟨[], rfl, by simp, by simp [scheduled]⟩
  | next hstep _ ih =>
    obtain ⟨taken, htaken, hdue, hperm⟩ := ih
    cases hstep with
    | schedule => exact ⟨taken, htaken, hdue, by simpa [scheduled] using hperm⟩
    | @pop before after deadline now work hle =>
      refine ⟨(now, deadline, work) :: taken, by simp [takenOut, htaken], ?_, ?_⟩
      · rintro r (_ | ⟨_, hr⟩)
        · exact hle
        · exact hdue r hr
      · rw [List.append_assoc, List.cons_append]
        exact List.perm_middle.trans (by simpa [scheduled] using hperm.cons (deadline, work))
    | wait => exact ⟨taken, htaken, hdue, hperm⟩
    | ask => exact ⟨taken, htaken, hdue, hperm⟩
    | askEmpty => exact ⟨taken, htaken, hdue, hperm⟩

/-- **Timers are a stable priority queue.** Whatever is done to them, in whatever order, their
answers are those of an agenda, from which the entry with the least deadline is taken out, the first
that was scheduled of those, once that deadline has come. They hold the entries of the agenda, in
its order for each deadline. What was scheduled is taken out or still pending, once each, and
nothing is taken out before its deadline. They say how long nothing is due unless they are empty.
The place of a new entry is the one that halving finds. -/
theorem run_eq_agenda (acts : List (Act ω)) :
    (∀ answers, (∃ agenda, Agenda.Course [] acts answers agenda ∧ (empty.run acts).2.Lists agenda) ↔
      answers = (empty.run acts).1) ∧
    (∃ taken : List (Nat × Nat × ω),
      taken.map (fun r => (r.1, r.2.2)) = takenOut acts (empty.run acts).1 ∧
      (∀ r ∈ taken, r.2.1 ≤ r.1) ∧
      (scheduled acts).Perm (taken.map (·.2) ++ (empty.run acts).2.entries)) ∧
    (∀ now, (empty.run acts).2.remaining? now = none ↔ (empty.run acts).2.isEmpty) ∧
    ∀ deadline work, ((empty.run acts).2.schedule deadline work).entries =
      (empty.run acts).2.entries.insertIdx
        (bisect (empty.run acts).2.entries deadline 0 (empty.run acts).2.size)
        (deadline, work) := by
  have hempty : (empty : Timers ω).Lists [] := fun _ => rfl
  obtain ⟨agenda, hcourse, hlists⟩ := hempty.run acts
  obtain ⟨taken, htaken, hdue, hperm⟩ := hcourse.exists_taken
  refine ⟨fun answers => ⟨?_, ?_⟩, ⟨taken, htaken, hdue, ?_⟩, fun now => ?_,
    entries_schedule (empty.run acts).2⟩
  · rintro ⟨agenda', hcourse', -⟩
    exact (hcourse'.unique hcourse).1
  · rintro rfl
    exact ⟨agenda, hcourse, hlists⟩
  · exact hperm.trans (hlists.perm.symm.append_left _)
  · simp [remaining?, isEmpty]

/-- Work that is scheduled while what is due is taken out comes behind what has the same
deadline. -/
example : ((empty : Timers Nat).run [.schedule 20 1, .schedule 10 2, .schedule 20 3, .pop 5, .ask 5,
    .pop 30, .schedule 20 4, .pop 30, .pop 30, .pop 19, .ask 30, .pop 30, .ask 30]).1 =
    [.scheduled, .scheduled, .scheduled, .popped none, .remaining (some 5),
      .popped (some 2), .scheduled,
      .popped (some 1), .popped (some 3), .popped none, .remaining (some 0), .popped (some 4),
      .remaining none] := by
  decide

end Squitter.Timers
