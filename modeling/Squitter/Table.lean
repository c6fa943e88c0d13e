/-!
# Tables

A **table** (`Table`) gives values to numbers, and lists them in the order of the numbers. Each
number occurs at most once, so a table is determined by what it gives (`ext_get?`): what is inserted
under a new number and erased again leaves no trace.
-/

namespace Squitter

/-- Values under numbers, in ascending order of the numbers. -/
structure Table (α : Type) where
  entries : List (Nat × α)
  ascending : entries.Pairwise fun a b => a.1 < b.1

namespace Table

variable {α : Type}

/-- The table without values. -/
def empty : Table α := ⟨[], .nil⟩

instance : Inhabited (Table α) := ⟨empty⟩

/-! ## Looking up -/

/-- The value under a number, in a list of entries. -/
def lookup (k : Nat) : List (Nat × α) → Option α
  | [] => none
  | (j, a) :: rest => if j = k then some a else lookup k rest

/-- The value under a number. -/
def get? (t : Table α) (k : Nat) : Option α := lookup k t.entries

/-- There is a value under the number. -/
def contains (t : Table α) (k : Nat) : Bool := (t.get? k).isSome

/-- The numbers that have a value. -/
def keys (t : Table α) : List Nat := t.entries.map Prod.fst

/-- The values, in the order of their numbers. -/
def values (t : Table α) : List α := t.entries.map Prod.snd

/-- How many values there are. -/
def size (t : Table α) : Nat := t.entries.length

/-- There are no values. -/
def isEmpty (t : Table α) : Bool := t.entries.isEmpty

/-! ## Changing -/

/-- Put a value under a number, in a list of entries. -/
def put (k : Nat) (a : α) : List (Nat × α) → List (Nat × α)
  | [] => [(k, a)]
  | (j, b) :: rest =>
    if k < j then (k, a) :: (j, b) :: rest
    else if k = j then (k, a) :: rest
    else (j, b) :: put k a rest

theorem lt_of_mem_put {i k : Nat} {a : α} {es : List (Nat × α)} (hk : i < k)
    (h : ∀ e ∈ es, i < e.1) : ∀ e ∈ put k a es, i < e.1 := by
  fun_induction put k a es with
  | case1 => simpa using hk
  | case2 j b rest hlt => simpa [hk] using h
  | case3 b rest hlt =>
    simp only [List.mem_cons, forall_eq_or_imp] at h ⊢
    exact h
  | case4 j b rest hlt hne ih =>
    simp only [List.mem_cons, forall_eq_or_imp] at h ⊢
    exact ⟨h.1, ih h.2⟩

theorem pairwise_put (k : Nat) (a : α) {es : List (Nat × α)}
    (h : es.Pairwise fun a b => a.1 < b.1) : (put k a es).Pairwise fun a b => a.1 < b.1 := by
  fun_induction put k a es with
  | case1 => simp
  | case2 j b rest hlt =>
    obtain ⟨hj, hrest⟩ := List.pairwise_cons.1 h
    refine List.pairwise_cons.2 ⟨?_, h⟩
    simp only [List.mem_cons, forall_eq_or_imp]
    exact ⟨hlt, fun e he => Nat.lt_trans hlt (hj e he)⟩
  | case3 b rest hlt => exact List.pairwise_cons.2 (List.pairwise_cons.1 h)
  | case4 j b rest hlt hne ih =>
    obtain ⟨hj, hrest⟩ := List.pairwise_cons.1 h
    exact List.pairwise_cons.2 ⟨lt_of_mem_put (by omega) hj, ih hrest⟩

/-- The table with a value under a number, in place of one that was there. -/
def insert (t : Table α) (k : Nat) (a : α) : Table α :=
  ⟨put k a t.entries, pairwise_put k a t.ascending⟩

/-- The table without a value under a number. -/
def erase (t : Table α) (k : Nat) : Table α :=
  ⟨t.entries.filter fun e => e.1 ≠ k, t.ascending.filter _⟩

/-- The table with one value replaced, if there is one. -/
def modify (t : Table α) (k : Nat) (f : α → α) : Table α :=
  match t.get? k with
  | some a => t.insert k (f a)
  | none => t

/-! ## What is under which number -/

@[simp] theorem get?_empty (k : Nat) : (empty : Table α).get? k = none := rfl

theorem lookup_put (k i : Nat) (a : α) {es : List (Nat × α)}
    (h : es.Pairwise fun a b => a.1 < b.1) :
    lookup i (put k a es) = if i = k then some a else lookup i es := by
  fun_induction put k a es with
  | case1 => simp only [lookup, eq_comm]
  | case2 j b rest hlt => simp only [lookup, eq_comm]
  | case3 b rest hlt =>
    simp only [lookup, eq_comm]
    split <;> simp_all
  | case4 j b rest hlt hne ih =>
    simp only [lookup, ih (List.pairwise_cons.1 h).2]
    split
    · rename_i hj
      rw [if_neg (by omega)]
    · rfl

theorem get?_insert (t : Table α) (k i : Nat) (a : α) :
    (t.insert k a).get? i = if i = k then some a else t.get? i :=
  lookup_put k i a t.ascending

theorem get?_modify (t : Table α) (k i : Nat) (f : α → α) :
    (t.modify k f).get? i = if i = k then (t.get? k).map f else t.get? i := by
  rw [modify]
  split
  · rename_i a ha
    rw [get?_insert, ha]
    rfl
  · rename_i hnone
    rw [hnone]
    split
    · rename_i heq
      rw [heq, hnone]
      rfl
    · rfl

theorem lookup_filter (k i : Nat) (es : List (Nat × α)) :
    lookup i (es.filter fun e => e.1 ≠ k) = if i = k then none else lookup i es := by
  induction es with
  | nil => simp [lookup]
  | cons e rest ih =>
    obtain ⟨j, b⟩ := e
    by_cases hj : j = k
    · simp only [List.filter_cons, hj, ne_eq, not_true_eq_false, decide_false, Bool.false_eq_true,
        if_false, ih, lookup]
      split
      · rfl
      · rw [if_neg (by omega)]
    · simp only [List.filter_cons, ne_eq, hj, not_false_eq_true, decide_true, if_true, lookup, ih]
      split
      · rw [if_neg (by omega)]
      · rfl

theorem get?_erase (t : Table α) (k i : Nat) :
    (t.erase k).get? i = if i = k then none else t.get? i :=
  lookup_filter k i t.entries

theorem lookup_eq_none {k : Nat} {es : List (Nat × α)} (h : ∀ e ∈ es, k < e.1) :
    lookup k es = none := by
  induction es with
  | nil => rfl
  | cons e rest ih =>
    obtain ⟨j, b⟩ := e
    simp only [List.mem_cons, forall_eq_or_imp] at h
    rw [lookup, if_neg (by omega), ih h.2]

theorem entries_eq_of_lookup {es fs : List (Nat × α)} (he : es.Pairwise fun a b => a.1 < b.1)
    (hf : fs.Pairwise fun a b => a.1 < b.1) (h : ∀ k, lookup k es = lookup k fs) : es = fs := by
  induction es generalizing fs with
  | nil =>
    cases fs with
    | nil => rfl
    | cons f fs => simpa [lookup] using h f.1
  | cons e es ih =>
    obtain ⟨j, a⟩ := e
    cases fs with
    | nil => simpa [lookup] using h j
    | cons f fs =>
      obtain ⟨k, b⟩ := f
      obtain ⟨hj, hes⟩ := List.pairwise_cons.1 he
      obtain ⟨hk, hfs⟩ := List.pairwise_cons.1 hf
      have hjk : j = k := by
        rcases Nat.lt_trichotomy j k with hlt | heq | hlt
        · have := h j
          rw [lookup, if_pos rfl, lookup, if_neg (by omega),
            lookup_eq_none fun e he => Nat.lt_trans hlt (hk e he)] at this
          cases this
        · exact heq
        · have := h k
          rw [lookup, if_neg (by omega), lookup, if_pos rfl,
            lookup_eq_none fun e he => Nat.lt_trans hlt (hj e he)] at this
          cases this
      subst hjk
      have hab : a = b := by simpa [lookup] using h j
      subst hab
      refine congrArg _ (ih hes hfs fun i => ?_)
      by_cases hi : j = i
      · subst hi
        rw [lookup_eq_none hj, lookup_eq_none hk]
      · simpa [lookup, hi] using h i

/-- A table is determined by what it gives. -/
theorem ext_get? {s t : Table α} (h : ∀ k, s.get? k = t.get? k) : s = t := by
  obtain ⟨es, he⟩ := s
  obtain ⟨fs, hf⟩ := t
  obtain rfl : es = fs := entries_eq_of_lookup he hf h
  rfl

/-! ## Entries -/

theorem filter_eq_lookup {k : Nat} {es : List (Nat × α)} (h : es.Pairwise fun a b => a.1 < b.1) :
    es.filter (fun e => e.1 = k) = (lookup k es).toList.map (Prod.mk k) := by
  induction es with
  | nil => rfl
  | cons e es ih =>
    obtain ⟨j, a⟩ := e
    obtain ⟨hj, hes⟩ := List.pairwise_cons.1 h
    rw [lookup]
    split
    · rename_i hjk
      subst hjk
      have hnil : es.filter (fun e => e.1 = j) = [] := by
        refine List.filter_eq_nil_iff.2 fun e he => ?_
        have := hj e he
        simpa using Nat.ne_of_gt this
      rw [List.filter_cons_of_pos (by simp), hnil]
      rfl
    · rename_i hjk
      rw [List.filter_cons_of_neg (by simpa using hjk), ih hes]

/-- Each number has one entry at most. -/
theorem filter_entries (t : Table α) (k : Nat) :
    t.entries.filter (fun e => e.1 = k) = (t.get? k).toList.map (Prod.mk k) :=
  filter_eq_lookup t.ascending

theorem get?_of_mem {t : Table α} {e : Nat × α} (h : e ∈ t.entries) : t.get? e.1 = some e.2 := by
  have hmem : e ∈ t.entries.filter fun e' => e'.1 = e.1 :=
    List.mem_filter.2 ⟨h, decide_eq_true rfl⟩
  rw [t.filter_entries, List.mem_map] at hmem
  obtain ⟨a, ha, he⟩ := hmem
  rw [Option.mem_toList.1 ha, ← he]

theorem mem_of_lookup {k : Nat} {a : α} {es : List (Nat × α)} (h : lookup k es = some a) :
    (k, a) ∈ es := by
  induction es with
  | nil => simp [lookup] at h
  | cons e rest ih =>
    obtain ⟨j, b⟩ := e
    rw [lookup] at h
    split at h
    · simp_all
    · exact List.mem_cons_of_mem _ (ih h)

/-- The values are the one under a number and those that are left without it. -/
theorem values_perm {t : Table α} {k : Nat} {a : α} (h : t.get? k = some a) :
    t.values.Perm (a :: (t.erase k).values) := by
  have hsplit := List.filter_append_perm (fun e => decide (e.1 = k)) t.entries
  rw [t.filter_entries, h] at hsplit
  simpa [values, erase] using (hsplit.map Prod.snd).symm

/-! ## Sizes -/

/-- Erasing a value that is there leaves fewer. -/
theorem size_erase_lt {t : Table α} {k : Nat} {a : α} (h : t.get? k = some a) :
    (t.erase k).size < t.size := by
  refine List.length_filter_lt_length_iff_exists.2 ⟨(k, a), mem_of_lookup h, ?_⟩
  simp

end Table

end Squitter
