import Mathlib.Data.List.Induction
import Squitter.Bridge

/-!
# When a bridge finishes

A bridge keeps count of the halves that are left, but not of which they are. So what a
release is answered depends on how many releases came before it (`Bridge.answer`),
whichever halves they were for.

What is **due** (`Bridge.due`) is that a bridge finishes when both its halves were
released, and not before. The **past** of a bridge (`Bridges.past`) keeps which halves were
released since it was built.

**The result** (`Bridges.release_counted`). After every list of acts a release is answered by the
number of those before it, and leaves the other bridges alone. These answers are what is due as long
as the first two releases of a bridge are for different halves, and only as long: if one half is
released twice, the bridge finishes while the other is still there
(`Bridges.finishes_with_half_left`).
-/

namespace Squitter

variable {ω : Type}

/-! ## Answers to a release -/

/-- Both halves were released. -/
def Half.Gone (released : List Half) : Prop :=
  .send ∈ released ∧ .receive ∈ released

instance (released : List Half) : Decidable (Half.Gone released) :=
  inferInstanceAs (Decidable (_ ∧ _))

theorem Half.gone_append_iff {first second : Half} : Gone [first, second] ↔ first ≠ second := by
  cases first <;> cases second <;> decide

theorem Half.not_gone_singleton (half : Half) : ¬ Gone [half] := by
  cases half <;> decide

namespace Bridge

/-- What a release is answered while the bridge is there: a coupled bridge names the partner. -/
def remaining (b : Bridge ω) (half : Half) : Release ω :=
  .remaining (if b.coupled then some (b.partner half) else none)

/-- What a release is answered after a number of earlier ones. -/
def answer (b : Bridge ω) (earlier : Nat) (half : Half) : Option (Release ω) :=
  match earlier with
  | 0 => some (b.remaining half)
  | 1 => some (.finished b.owner)
  | _ => none

/-- What a release should be answered after others: the bridge finishes at the first moment at which
both halves were released. -/
def due (b : Bridge ω) (earlier : List Half) (half : Half) : Option (Release ω) :=
  if Half.Gone earlier then none
  else if Half.Gone (earlier ++ [half]) then some (.finished b.owner)
  else some (b.remaining half)

/-- What is left of a bridge after a number of releases. -/
def left? (b : Bridge ω) (releases : Nat) : Option (Bridge ω) :=
  if releases < 2 then some { b with held := 2 - releases } else none

end Bridge

namespace Bridges

/-! ## Acts -/

/-- What is done with bridges. -/
inductive Act (ω : Type)
  | allocate
  | build (id : Nat) (owner : Option ω) (send receive : Nat) (coupled : Bool)
  | release (id : Nat) (half : Half)

/-- The bridges after an act. -/
def act (bs : Bridges ω) : Act ω → Bridges ω
  | .allocate => bs.allocate.2
  | .build id owner send receive coupled => bs.build id owner send receive coupled
  | .release id half => (bs.release id half).2

/-- The bridges after acts, of which the first found none. -/
def after (acts : List (Act ω)) : Bridges ω := acts.foldl act empty

theorem after_append_singleton (acts : List (Act ω)) (a : Act ω) :
    after (acts ++ [a]) = (after acts).act a := by
  rw [after, List.foldl_append]
  rfl

/-! ## The past of a bridge -/

/-- Note what an act has to do with the bridge under a number. -/
def note (id : Nat) (past : Option (Bridge ω × List Half)) : Act ω → Option (Bridge ω × List Half)
  | .allocate => past
  | .build id' owner send receive coupled =>
    if id' = id then some (⟨2, owner, send, receive, coupled⟩, []) else past
  | .release id' half =>
    if id' = id then past.map fun (b, released) => (b, released ++ [half]) else past

/-- The bridge under a number as it was built, and the halves that were released since. -/
def past (id : Nat) (acts : List (Act ω)) : Option (Bridge ω × List Half) :=
  acts.foldl (note id) none

theorem past_append_singleton (id : Nat) (acts : List (Act ω)) (a : Act ω) :
    past id (acts ++ [a]) = note id (past id acts) a := by
  rw [past, List.foldl_append]
  rfl

/-- What was released last was released after the rest. -/
theorem exists_release_of_past {id : Nat} {acts : List (Act ω)} {b : Bridge ω}
    {released : List Half} {half : Half} (h : past id acts = some (b, released ++ [half])) :
    ∃ pre, pre ++ [.release id half] <+: acts ∧ past id pre = some (b, released) := by
  induction acts using List.reverseRecOn with
  | nil => cases h
  | append_singleton acts a ih =>
    have hearlier (h' : past id acts = some (b, released ++ [half])) :
        ∃ pre, pre ++ [.release id half] <+: acts ++ [a] ∧ past id pre = some (b, released) := by
      obtain ⟨pre, hpre, hpast⟩ := ih h'
      exact ⟨pre, hpre.trans (List.prefix_append _ _), hpast⟩
    rw [past_append_singleton] at h
    cases a with
    | allocate => exact hearlier h
    | build id' owner send receive coupled =>
      rw [note] at h
      split at h
      · simp at h
      · exact hearlier h
    | release id' half' =>
      rw [note] at h
      split at h
      · rename_i hid
        obtain ⟨⟨b', released'⟩, hpast, heq⟩ := Option.map_eq_some_iff.1 h
        obtain ⟨rfl, hreleased⟩ := Prod.mk.inj heq
        obtain ⟨rfl, hhalf⟩ := List.append_inj' hreleased rfl
        rw [← List.singleton_inj.1 hhalf, ← hid]
        exact ⟨acts, List.prefix_refl _, hid ▸ hpast⟩
      · exact hearlier h

/-- There was a time when only the first of the releases had been made. -/
theorem exists_prefix_of_past {id : Nat} {acts : List (Act ω)} {b : Bridge ω}
    {released later : List Half} (h : past id acts = some (b, released ++ later)) :
    ∃ pre, pre <+: acts ∧ past id pre = some (b, released) := by
  induction later using List.reverseRecOn generalizing acts with
  | nil => exact ⟨acts, List.prefix_refl _, by rw [h, List.append_nil]⟩
  | append_singleton later half ih =>
    rw [← List.append_assoc] at h
    obtain ⟨pre, hpre, hpast⟩ := exists_release_of_past h
    obtain ⟨pre', hpre', hpast'⟩ := ih hpast
    exact ⟨pre', hpre'.trans ((List.prefix_append _ _).trans hpre), hpast'⟩

/-! ## What the count says -/

/-- One release: the answer, and what is left of the bridge. -/
theorem release_of_left {bs : Bridges ω} {id : Nat} {b : Bridge ω} {n : Nat}
    (h : bs.table.get? id = b.left? n) (half : Half) :
    (bs.release id half).1 = b.answer n half ∧
      ∀ other, (bs.release id half).2.table.get? other =
        if other = id then b.left? (n + 1) else bs.table.get? other := by
  match n with
  | 0 =>
    have hget : bs.table.get? id = some { b with held := 2 } := h
    simp only [release, hget]
    exact ⟨rfl, fun other => Table.get?_insert _ _ _ _⟩
  | 1 =>
    have hget : bs.table.get? id = some { b with held := 1 } := h
    simp only [release, hget]
    exact ⟨rfl, fun other => Table.get?_erase _ _ _⟩
  | n + 2 =>
    have hget : bs.table.get? id = none := h
    simp only [release, hget]
    refine ⟨rfl, fun other => ?_⟩
    split
    · rename_i hother
      rw [hother, hget]
      rfl
    · rfl

/-- A bridge that is not there answers nothing. -/
theorem release_of_none {bs : Bridges ω} {id : Nat} (h : bs.table.get? id = none) (half : Half) :
    bs.release id half = (none, bs) := by
  rw [release, h]

/-- A release has nothing to do with other bridges. -/
theorem get?_release_of_ne (bs : Bridges ω) {id other : Nat} (half : Half) (h : other ≠ id) :
    (bs.release id half).2.table.get? other = bs.table.get? other := by
  unfold release
  split
  · rfl
  · split
    · exact (Table.get?_erase _ _ _).trans (if_neg h)
    · exact (Table.get?_insert _ _ _ _).trans (if_neg h)

/-- **An act keeps the count**: the bridge under a number is what its past leaves of it. -/
theorem get?_act {bs : Bridges ω} {id : Nat} {past : Option (Bridge ω × List Half)}
    (h : bs.table.get? id = past.bind fun p => p.1.left? p.2.length) (a : Act ω) :
    (bs.act a).table.get? id = (note id past a).bind fun p => p.1.left? p.2.length := by
  cases a with
  | allocate => exact h
  | build id' owner send receive coupled =>
    refine (Table.get?_insert _ _ _ _).trans ?_
    rw [note]
    by_cases hid : id' = id
    · rw [if_pos hid, if_pos hid.symm]
      rfl
    · rw [if_neg hid, if_neg fun heq => hid heq.symm]
      exact h
  | release id' half =>
    show (bs.release id' half).2.table.get? id = _
    rw [note]
    by_cases hid : id' = id
    · subst hid
      rw [if_pos rfl]
      cases past with
      | none =>
        rw [release_of_none h]
        exact h
      | some p =>
        rw [(release_of_left h half).2, if_pos rfl]
        simp only [Option.map_some, Option.bind_some, List.length_append, List.length_singleton]
    · rw [if_neg hid, get?_release_of_ne bs half fun heq => hid heq.symm]
      exact h

theorem get?_after (acts : List (Act ω)) (id : Nat) :
    (after acts).table.get? id = (past id acts).bind fun p => p.1.left? p.2.length := by
  induction acts using List.reverseRecOn with
  | nil => rfl
  | append_singleton acts a ih =>
    rw [after_append_singleton, past_append_singleton]
    exact get?_act ih a

/-- **Releases are counted.** What one is answered depends on how many there were before. -/
theorem release_after (acts : List (Act ω)) (id : Nat) (half : Half) :
    ((after acts).release id half).1 = (past id acts).bind fun p => p.1.answer p.2.length half := by
  have hget := get?_after acts id
  cases hpast : past id acts with
  | none =>
    rw [hpast] at hget
    rw [release_of_none hget]
    rfl
  | some p =>
    rw [hpast] at hget
    exact (release_of_left hget half).1

/-! ## What is due -/

/-- The releases of the bridge under a number are answered as they should be, all along the acts. -/
def Lawful (id : Nat) (acts : List (Act ω)) : Prop :=
  ∀ pre half, pre ++ [.release id half] <+: acts →
    ((after pre).release id half).1 = (past id pre).bind fun p => p.1.due p.2 half

theorem Lawful.ne {id : Nat} {acts pre : List (Act ω)} {b : Bridge ω} {first second : Half}
    (h : Lawful id acts) (hpre : pre <+: acts) (hpast : past id pre = some (b, [first, second])) :
    first ≠ second := by
  have hlast : past id pre = some (b, [first] ++ [second]) := hpast
  obtain ⟨pre', hpre', hpast'⟩ := exists_release_of_past hlast
  have hlaw := h pre' second (hpre'.trans hpre)
  rw [release_after, hpast'] at hlaw
  refine Half.gone_append_iff.1 ?_
  by_contra hgone
  have hdue : b.due [first] second = some (b.remaining second) := by
    rw [Bridge.due, if_neg (Half.not_gone_singleton first)]
    exact if_neg hgone
  have hanswer : some (.finished b.owner) = b.due [first] second := hlaw
  rw [hdue] at hanswer
  cases hanswer

/-- As long as the first two releases are for different halves, the count answers what is due. -/
theorem answer_eq_due {b : Bridge ω} {released : List Half} {half : Half}
    (h : ∀ first second rest, released ++ [half] = first :: second :: rest → first ≠ second) :
    b.answer released.length half = b.due released half := by
  match released with
  | [] =>
    rw [Bridge.due, if_neg (by decide), List.nil_append, if_neg (Half.not_gone_singleton half)]
    rfl
  | [first] =>
    rw [Bridge.due, if_neg (Half.not_gone_singleton first), List.singleton_append,
      if_pos (Half.gone_append_iff.2 (h first half [] rfl))]
    rfl
  | first :: second :: rest =>
    have hgone := Half.gone_append_iff.2 (h first second (rest ++ [half]) rfl)
    have hmem {x : Half} (hx : x ∈ [first, second]) : x ∈ first :: second :: rest :=
      List.mem_append_left rest hx
    rw [Bridge.due, if_pos ⟨hmem hgone.1, hmem hgone.2⟩]
    rfl

/-- **When a bridge finishes.** After every list of acts, a release is answered by the number of
releases since the bridge was built, and leaves other bridges alone. All along the acts the answers
are what is due if and only if the first two releases of the bridge were never for the same half. -/
theorem release_counted (acts : List (Act ω)) (id : Nat) :
    (∀ half, ((after acts).release id half).1 =
        (past id acts).bind fun p => p.1.answer p.2.length half) ∧
      (∀ half other, other ≠ id →
        ((after acts).release id half).2.table.get? other = (after acts).table.get? other) ∧
      (Lawful id acts ↔ ∀ pre b first second, pre <+: acts →
        past id pre = some (b, [first, second]) → first ≠ second) := by
  refine ⟨release_after acts id, fun half other hother => get?_release_of_ne _ half hother,
    fun h pre b first second => h.ne, fun h pre half hpre => ?_⟩
  rw [release_after]
  cases hpast : past id pre with
  | none => rfl
  | some p =>
    refine answer_eq_due fun first second rest hreleased => ?_
    have hall : past id (pre ++ [.release id half]) = some (p.1, [first, second] ++ rest) := by
      rw [past_append_singleton, hpast, note, if_pos rfl]
      exact congrArg (fun released => some (p.1, released)) hreleased
    obtain ⟨pre', hpre', hpast'⟩ := exists_prefix_of_past hall
    exact h pre' p.1 first second (hpre'.trans hpre) hpast'

/-- The sending half is released twice, and the owner is told although the
receiving half is there. -/
theorem finishes_with_half_left :
    let acts : List (Act Nat) :=
      [.allocate, .build 0 (some 3) 10 11 false, .release 0 .send, .release 0 .send]
    ¬ Lawful 0 acts ∧ ((after (acts.take 3)).release 0 .send).1 = some (.finished (some 3)) ∧
      (past 0 acts).map Prod.snd = some [.send, .send] := by
  intro acts
  have hpast : past 0 acts = some (⟨2, some 3, 10, 11, false⟩, [.send, .send]) := by decide
  exact ⟨fun h => h.ne (List.prefix_refl acts) hpast rfl, by decide, congrArg _ hpast⟩

end Bridges

end Squitter
