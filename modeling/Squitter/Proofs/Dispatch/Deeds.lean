import Squitter.Reactor

/-!
# What can be done to a reactor

Those who use a reactor change it by **deeds** (`Reactor.Deed`): they register, unregister and
schedule, and the loop takes out work that is due. `Reactor.after` is the reactor after some deeds,
and `Reactor.granted` lists the tokens under which they registered something.

**Tokens are never used again** (`granted_ascending`): each is greater than all before it. So what
is registered under a token later is what was registered there before, or nothing
(`Reactor.Dwindles`), and a token that has become free stays free. No token is in both tables at
once (`Reactor.Numbered`).
-/

namespace Squitter.Reactor

variable {ρ ω σ : Type}

/-- What can be done to a reactor. The computer is as it is at that time. -/
inductive Deed (ρ ω σ : Type)
  | tryRegister (handle : Nat) (interest : Interest) (route : ρ) (host : σ)
  | register (handle : Nat) (interest : Interest) (route : ρ) (host : σ)
  | unregister (token : Nat) (host : σ)
  | schedule (delay : Nat) (work : ω) (host : σ)
  | stop
  /-- The earliest work is taken out, if it is due. -/
  | expire (now : Nat)

section

variable [Poller σ]

/-- The reactor after a deed, and the token under which something was registered by it. -/
def deed (r : Reactor ρ ω) : Deed ρ ω σ → Option Nat × Reactor ρ ω
  | .tryRegister handle interest route host =>
    let (token, r, _) := r.tryRegister handle interest route host
    (token.toOption.join, r)
  | .register handle interest route host =>
    let (token, r, _) := r.register handle interest route host
    (token.toOption, r)
  | .unregister token host => (none, (r.unregister token host).1)
  | .schedule delay work host => (none, r.schedule delay work host)
  | .stop => (none, r.stop)
  | .expire now =>
    match r.timers.pop? now with
    | none => (none, r)
    | some (_, timers) => (none, { r with timers })

/-- The reactor after some deeds. -/
def after (r : Reactor ρ ω) (deeds : List (Deed ρ ω σ)) : Reactor ρ ω :=
  deeds.foldl (fun r d => (r.deed d).2) r

/-- The tokens under which something was registered by some deeds. -/
def granted (r : Reactor ρ ω) : List (Deed ρ ω σ) → List Nat
  | [] => []
  | d :: deeds => (r.deed d).1.toList ++ (r.deed d).2.granted deeds

end

/-! ## What a deed can do -/

/-- Only tokens that were given out are in use, each in one table only. -/
structure Numbered (r : Reactor ρ ω) : Prop where
  bounded : ∀ t, r.nextToken ≤ t → r.watched.get? t = none ∧ r.alwaysReady.get? t = none
  apart : ∀ t, r.watched.get? t = none ∨ r.alwaysReady.get? t = none

/-- What was registered before is still registered, or its token is free. -/
structure Dwindles (r r' : Reactor ρ ω) : Prop where
  nextToken : r.nextToken ≤ r'.nextToken
  watched : ∀ t < r.nextToken, r'.watched.get? t = r.watched.get? t ∨ r'.watched.get? t = none
  alwaysReady : ∀ t < r.nextToken,
    r'.alwaysReady.get? t = r.alwaysReady.get? t ∨ r'.alwaysReady.get? t = none

theorem numbered_fresh : (fresh : Reactor ρ ω).Numbered :=
  ⟨fun _ _ => ⟨rfl, rfl⟩, fun _ => .inl rfl⟩

variable {r r' r'' : Reactor ρ ω}

theorem Dwindles.refl (r : Reactor ρ ω) : Dwindles r r :=
  ⟨Nat.le_refl _, fun _ _ => .inl rfl, fun _ _ => .inl rfl⟩

theorem Dwindles.trans (h : Dwindles r r') (h' : Dwindles r' r'') : Dwindles r r'' where
  nextToken := Nat.le_trans h.nextToken h'.nextToken
  watched t ht := by
    rcases h'.watched t (Nat.lt_of_lt_of_le ht h.nextToken) with heq | heq
    · rw [heq]
      exact h.watched t ht
    · exact .inr heq
  alwaysReady t ht := by
    rcases h'.alwaysReady t (Nat.lt_of_lt_of_le ht h.nextToken) with heq | heq
    · rw [heq]
      exact h.alwaysReady t ht
    · exact .inr heq

/-- A token that is in use has been in use, and for the same. -/
theorem Dwindles.route?_eq (h : Dwindles r r') (hr : r.Numbered) {t : Nat} {route : ρ}
    (ht : t < r.nextToken) (hroute : r'.route? t = some route) : r.route? t = some route := by
  rw [route?] at hroute
  cases hw : r'.watched.get? t with
  | some a =>
    rcases h.watched t ht with heq | heq
    · rw [hw, Option.some_or] at hroute
      rw [route?, ← heq, hw, Option.some_or]
      exact hroute
    · rw [heq] at hw
      cases hw
  | none =>
    rw [hw, Option.none_or] at hroute
    rcases h.alwaysReady t ht with heq | heq
    · have hold : r.alwaysReady.get? t = some route := heq ▸ hroute
      have hnone := (hr.apart t).resolve_right (by rw [hold]; exact Option.some_ne_none _)
      rw [route?, hnone, Option.none_or, hold]
    · rw [heq] at hroute
      cases hroute

theorem isRegistered_eq (r : Reactor ρ ω) (t : Nat) : r.isRegistered t = (r.route? t).isSome := by
  rw [isRegistered, route?, Table.contains, Table.contains, Option.isSome_or]
  exact Bool.decide_or _ _ |>.trans (by simp only [Bool.decide_eq_true])

section

variable [Poller σ]

/-- A reactor with a route under a new token, in one of its tables. -/
structure Grants (r r' : Reactor ρ ω) (token : Nat) : Prop where
  le : r.nextToken ≤ token
  next : r'.nextToken = token + 1
  numbered : r.Numbered → r'.Numbered
  dwindles : Dwindles r r'
  registered : r'.isRegistered token = true

theorem get?_insert_of_lt {t : Table ρ} {k token : Nat} {a : ρ} (h : k < token) :
    (t.insert token a).get? k = t.get? k := by
  rw [Table.get?_insert, if_neg (Nat.ne_of_lt h)]

theorem grants_watched (r : Reactor ρ ω) (route : ρ) :
    r.Grants { r with
      nextToken := r.nextToken + 1, watched := r.watched.insert r.nextToken route }
      r.nextToken where
  le := Nat.le_refl _
  next := rfl
  numbered h :=
    { bounded := fun t ht => by
        have hlt : r.nextToken < t := ht
        obtain ⟨hw, ha⟩ := h.bounded t (Nat.le_of_lt hlt)
        exact ⟨by rw [Table.get?_insert, if_neg (Nat.ne_of_gt hlt), hw], ha⟩
      apart := fun t => by
        rw [Table.get?_insert]
        split
        · rename_i heq
          exact .inr (h.bounded t (Nat.le_of_eq heq.symm)).2
        · exact h.apart t }
  dwindles := ⟨Nat.le_succ _, fun t ht => .inl (get?_insert_of_lt ht), fun _ _ => .inl rfl⟩
  registered := by simp [isRegistered, Table.contains, Table.get?_insert]

theorem grants_alwaysReady (r : Reactor ρ ω) (route : ρ) {token : Nat} (hle : r.nextToken ≤ token) :
    r.Grants { r with
      nextToken := token + 1, alwaysReady := r.alwaysReady.insert token route } token where
  le := hle
  next := rfl
  numbered h :=
    { bounded := fun t ht => by
        have hlt : token < t := ht
        obtain ⟨hw, ha⟩ := h.bounded t (Nat.le_trans hle (Nat.le_of_lt hlt))
        exact ⟨hw, by rw [Table.get?_insert, if_neg (Nat.ne_of_gt hlt), ha]⟩
      apart := fun t => by
        rw [Table.get?_insert]
        split
        · rename_i heq
          exact .inl (h.bounded t (heq ▸ hle)).1
        · exact h.apart t }
  dwindles := ⟨Nat.le_succ_of_le hle, fun _ _ => .inl rfl,
    fun t ht => .inl (get?_insert_of_lt (Nat.lt_of_lt_of_le ht hle))⟩
  registered := by simp [isRegistered, Table.contains, Table.get?_insert]

/-- Without a token, tables only lose entries. -/
theorem dwindles_erase (r : Reactor ρ ω) (token : Nat) :
    Dwindles r
      { r with watched := r.watched.erase token, alwaysReady := r.alwaysReady.erase token } where
  nextToken := Nat.le_refl _
  watched t _ := by
    rw [Table.get?_erase]
    split
    · exact .inr rfl
    · exact .inl rfl
  alwaysReady t _ := by
    rw [Table.get?_erase]
    split
    · exact .inr rfl
    · exact .inl rfl

theorem Numbered.erase (h : r.Numbered) (token : Nat) :
    Numbered
      { r with watched := r.watched.erase token, alwaysReady := r.alwaysReady.erase token } where
  bounded t ht := by
    obtain ⟨hw, ha⟩ := h.bounded t ht
    simp only [Table.get?_erase, hw, ha, ite_self, and_self]
  apart t := by
    simp only [Table.get?_erase]
    split
    · exact .inl rfl
    · exact h.apart t

theorem numbered_of_eq (h : r.Numbered) (hnext : r.nextToken ≤ r'.nextToken)
    (hwatched : r'.watched = r.watched) (halways : r'.alwaysReady = r.alwaysReady) :
    r'.Numbered := by
  refine ⟨fun t ht => ?_, fun t => ?_⟩
  · rw [hwatched, halways]
    exact h.bounded t (Nat.le_trans hnext ht)
  · rw [hwatched, halways]
    exact h.apart t

theorem dwindles_of_eq (hnext : r.nextToken ≤ r'.nextToken)
    (hwatched : r'.watched = r.watched) (halways : r'.alwaysReady = r.alwaysReady) :
    Dwindles r r' :=
  ⟨hnext, fun _ _ => .inl (by rw [hwatched]), fun _ _ => .inl (by rw [halways])⟩

/-- **All that a deed can do** about what is registered: something is registered under a new token,
or nothing is and tables only lose entries. -/
theorem deed_cases (r : Reactor ρ ω) (d : Deed ρ ω σ) :
    (∃ token, (r.deed d).1 = some token ∧ r.Grants (r.deed d).2 token) ∨
      ((r.deed d).1 = none ∧ (r.Numbered → (r.deed d).2.Numbered) ∧ Dwindles r (r.deed d).2) := by
  have hkept {r' : Reactor ρ ω} (hnext : r.nextToken ≤ r'.nextToken)
      (hwatched : r'.watched = r.watched) (halways : r'.alwaysReady = r.alwaysReady) :
      (r.Numbered → r'.Numbered) ∧ Dwindles r r' :=
    ⟨fun h => numbered_of_eq h hnext hwatched halways, dwindles_of_eq hnext hwatched halways⟩
  cases d with
  | tryRegister handle interest route host =>
    rcases h : Poller.watch handle interest r.nextToken host with ⟨e | _ | _, host'⟩
    · exact .inr (by simp only [deed, tryRegister, h]; exact ⟨rfl, hkept (Nat.le_succ _) rfl rfl⟩)
    · exact .inr (by simp only [deed, tryRegister, h]; exact ⟨rfl, hkept (Nat.le_succ _) rfl rfl⟩)
    · exact .inl ⟨r.nextToken, by
        simp only [deed, tryRegister, h]; exact ⟨rfl, grants_watched r route⟩⟩
  | register handle interest route host =>
    rcases h : Poller.watch handle interest r.nextToken host with ⟨e | _ | _, host'⟩
    · exact .inr (by
        simp only [deed, register, tryRegister, h]; exact ⟨rfl, hkept (Nat.le_succ _) rfl rfl⟩)
    · exact .inl ⟨r.nextToken + 1, by
        simp only [deed, register, tryRegister, h]
        exact ⟨rfl, grants_alwaysReady r route (Nat.le_succ _)⟩⟩
    · exact .inl ⟨r.nextToken, by
        simp only [deed, register, tryRegister, h]; exact ⟨rfl, grants_watched r route⟩⟩
  | unregister token host => exact .inr ⟨rfl, fun h => h.erase token, dwindles_erase r token⟩
  | schedule delay work host => exact .inr ⟨rfl, hkept (Nat.le_refl _) rfl rfl⟩
  | stop => exact .inr ⟨rfl, hkept (Nat.le_refl _) rfl rfl⟩
  | expire now =>
    rcases h : r.timers.pop? now with _ | ⟨work, timers⟩
    · exact .inr (by simp only [deed, h]; exact ⟨trivial, hkept (Nat.le_refl _) rfl rfl⟩)
    · exact .inr (by simp only [deed, h]; exact ⟨trivial, hkept (Nat.le_refl _) rfl rfl⟩)

theorem numbered_deed (h : r.Numbered) (d : Deed ρ ω σ) : (r.deed d).2.Numbered := by
  rcases deed_cases r d with ⟨_, -, hgrants⟩ | ⟨-, hnumbered, -⟩
  · exact hgrants.numbered h
  · exact hnumbered h

theorem dwindles_deed (r : Reactor ρ ω) (d : Deed ρ ω σ) : Dwindles r (r.deed d).2 := by
  rcases deed_cases r d with ⟨_, -, hgrants⟩ | ⟨-, -, hdwindles⟩
  · exact hgrants.dwindles
  · exact hdwindles

/-! ## Many deeds -/

@[simp] theorem after_nil (r : Reactor ρ ω) : r.after ([] : List (Deed ρ ω σ)) = r := rfl

theorem after_append (r : Reactor ρ ω) (deeds deeds' : List (Deed ρ ω σ)) :
    r.after (deeds ++ deeds') = (r.after deeds).after deeds' := List.foldl_append

theorem numbered_after (h : r.Numbered) (deeds : List (Deed ρ ω σ)) : (r.after deeds).Numbered := by
  induction deeds generalizing r with
  | nil => exact h
  | cons d deeds ih => exact ih (numbered_deed h d)

theorem dwindles_after (r : Reactor ρ ω) (deeds : List (Deed ρ ω σ)) :
    Dwindles r (r.after deeds) := by
  induction deeds generalizing r with
  | nil => exact .refl r
  | cons d deeds ih => exact (dwindles_deed r d).trans (ih _)

/-- What is granted is new. -/
theorem le_of_mem_granted {deeds : List (Deed ρ ω σ)} {t : Nat} (h : t ∈ r.granted deeds) :
    r.nextToken ≤ t := by
  induction deeds generalizing r with
  | nil => cases h
  | cons d deeds ih =>
    rw [granted, List.mem_append, Option.mem_toList] at h
    rcases h with h | h
    · rcases deed_cases r d with ⟨token, htoken, hgrants⟩ | ⟨hnone, -, -⟩
      · obtain rfl : token = t := Option.some.inj (htoken.symm.trans h)
        exact hgrants.le
      · rw [hnone] at h
        cases h
    · exact Nat.le_trans (dwindles_deed r d).nextToken (ih h)

/-- **Tokens are never used again**: each that is granted is greater than those before it. -/
theorem granted_ascending (r : Reactor ρ ω) (deeds : List (Deed ρ ω σ)) :
    (r.granted deeds).Pairwise (· < ·) := by
  induction deeds generalizing r with
  | nil => exact .nil
  | cons d deeds ih =>
    rw [granted]
    rcases deed_cases r d with ⟨token, htoken, hgrants⟩ | ⟨hnone, -, -⟩
    · rw [htoken]
      refine List.pairwise_cons.2 ⟨fun t ht => ?_, ih _⟩
      have hle := le_of_mem_granted ht
      rw [hgrants.next] at hle
      exact hle
    · rw [hnone]
      exact ih _

end

end Squitter.Reactor
