import Squitter.Proofs.Census.Retaining

/-!
# The ledger of transports

A **ledger** (`Station.Ledger`) leads from one state of a station to another and lists which
transports have come and gone on the way (`Station.Entry`). An endpoint brings one; and one goes
only when it is told that it has no stream (`Station.Lost`), because none could be opened or
attached, or because the last peer on it was closed. Even then it goes only if it is final
(`Station.removals`). Whether a file is final is found out when it is opened, and a transport of
any other mechanism never is.

**The count is right on every ledger** (`counted_ledger`). The flow is the census of the transports
that are there (`Bus.census`), so whatever goes has been counted, and nothing is taken from a count
of zero (`Counted.unclamped`). Numbers are not given out twice, so what has gone does not come back,
and no transport goes twice.
-/

namespace Squitter

/-! ## Counting roles -/

namespace Flow

/-- Roles, counted by direction. -/
def ofRoles (roles : List Role) : Flow where
  receive := roles.countP (· matches .receive)
  send := roles.countP (· matches .send _)
  sendReceive := roles.countP (· matches .sendReceive _)

theorem ofRoles_cons (role : Role) (roles : List Role) :
    ofRoles (role :: roles) = (ofRoles roles).add role := by
  cases role <;> simp [ofRoles, add]

theorem ofRoles_perm {roles roles' : List Role} (h : roles.Perm roles') :
    ofRoles roles = ofRoles roles' := by
  simp only [ofRoles, h.countP_eq]

theorem remove_add (f : Flow) (role : Role) : (f.add role).remove role = f := by
  cases role <;> rfl

end Flow

namespace Bus

/-- The roles of the transports. -/
def roles (b : Bus) : Table Role :=
  ⟨b.transports.entries.map fun e => (e.1, e.2.role), List.pairwise_map.2 b.transports.ascending⟩

/-- The transports that are there, counted by direction. -/
def census (b : Bus) : Flow := .ofRoles (b.transports.values.map Transport.role)

theorem values_roles (b : Bus) : b.roles.values = b.transports.values.map Transport.role := by
  simp [roles, Table.values, Function.comp_def]

theorem get?_roles (b : Bus) (id : Nat) :
    b.roles.get? id = (b.transports.get? id).map Transport.role := by
  show Table.lookup id (b.transports.entries.map _) = (Table.lookup id b.transports.entries).map _
  induction b.transports.entries with
  | nil => rfl
  | cons e es ih =>
    rw [List.map_cons, Table.lookup, Table.lookup, ih]
    split <;> rfl

theorem census_eq (b : Bus) : b.census = .ofRoles b.roles.values := by rw [census, values_roles]

end Bus

namespace Station

variable {σ : Type} {s s' s'' : Station σ} {id : Nat} {t : Transport}

/-- The same endpoints are at work. -/
theorem census_congr (h : ∀ id, (s'.transport? id).map Transport.endpoint =
    (s.transport? id).map Transport.endpoint) : s'.state.census = s.state.census := by
  have hroles : s'.state.roles = s.state.roles := Table.ext_get? fun id => by
    have hrole := congrArg (Option.map Endpoint.role) (h id)
    rw [Option.map_map, Option.map_map] at hrole
    rw [Bus.get?_roles, Bus.get?_roles]
    exact hrole
  rw [Bus.census_eq, Bus.census_eq, hroles]

/-- A transport that is there is counted. -/
theorem census_of_erase (h : s.transport? id = some t)
    (h' : ∀ i, (s'.transport? i).map Transport.role =
      if i = id then none else (s.transport? i).map Transport.role) :
    s.state.census = s'.state.census.add t.role := by
  have hget : s.state.roles.get? id = some t.role := by
    rw [Bus.get?_roles]
    exact congrArg (Option.map Transport.role) h
  have herase : s'.state.roles = s.state.roles.erase id := Table.ext_get? fun i => by
    rw [Bus.get?_roles, Table.get?_erase, Bus.get?_roles]
    exact h' i
  rw [Bus.census_eq, Bus.census_eq, herase, ← Flow.ofRoles_cons]
  exact Flow.ofRoles_perm (Table.values_perm hget)

/-! ## Entries -/

/-- What a ledger lists. -/
inductive Entry
  | added (id : Nat) (e : Endpoint)
  | removed (id : Nat) (e : Endpoint)
deriving DecidableEq

/-- A transport for an endpoint is there and counted, and was not started yet. -/
def enrol (s : Station σ) (e : Endpoint) : Station σ :=
  (s.takeId.2.withBus fun b => { b with flow := b.flow.add e.role }).setTransport s.takeId.1
    (.ofEndpoint e)

/-- What goes when a transport is told that it has no stream. -/
def removals (s : Station σ) (id : Nat) : List Entry :=
  match s.transport? id with
  | some t => if t.mechanism.isFinal then [.removed id t.endpoint] else []
  | none => []

/-! ## The count -/

variable {es es' : List Entry}

/-- What the entries since the beginning say about the transports that are there. -/
structure Counted (es : List Entry) (s : Station σ) : Prop where
  /-- The counts are the numbers of transports in their roles. -/
  flow : s.state.flow = s.state.census
  added_lt : ∀ id e, .added id e ∈ es → id < s.state.nextId
  /-- No number is given to two transports. -/
  same : ∀ id e e', .added id e ∈ es → .added id e' ∈ es → e = e'
  /-- What is there has been added, and was not removed. -/
  held : ∀ id t, s.transport? id = some t →
    .added id t.endpoint ∈ es ∧ ∀ e, .removed id e ∉ es
  /-- What has been added and is not there was removed once. -/
  gone : ∀ id e, .added id e ∈ es → s.transport? id = none → es.count (.removed id e) = 1
  /-- What was removed had been added for a file, and is not there. -/
  removed : ∀ id e, .removed id e ∈ es →
    .added id e ∈ es ∧ s.transport? id = none ∧ ∃ source : Source, e.target = source.target

/-- The same endpoints are at work. -/
theorem Counted.congr (h : Counted es s) (hid : s.state.nextId ≤ s'.state.nextId)
    (hflow : s'.state.flow = s.state.flow)
    (hendpoints : ∀ id, (s'.transport? id).map Transport.endpoint =
      (s.transport? id).map Transport.endpoint) : Counted es s' where
  flow := by rw [hflow, h.flow, census_congr hendpoints]
  added_lt id e hmem := Nat.lt_of_lt_of_le (h.added_lt id e hmem) hid
  same := h.same
  held id t ht := by
    obtain ⟨t', ht', hendpoint⟩ := Option.map_eq_some_iff.1
      ((hendpoints id).symm.trans (congrArg (Option.map Transport.endpoint) ht))
    exact hendpoint ▸ h.held id t' ht'
  gone id e hmem hnone := by
    refine h.gone id e hmem (Option.map_eq_none_iff.1 ((hendpoints id).symm.trans ?_))
    rw [hnone]
    rfl
  removed id e hmem := by
    obtain ⟨hadded, hnone, hfile⟩ := h.removed id e hmem
    refine ⟨hadded, Option.map_eq_none_iff.1 ((hendpoints id).trans ?_), hfile⟩
    rw [hnone]
    rfl

theorem Counted.retains (h : Counted es s) (h' : Retains s s') : Counted es s' :=
  h.congr h'.nextId h'.flow h'.endpoints

/-- A number that was not given out yet is not in use. -/
theorem Counted.unused (h : Counted es s) (hle : s.state.nextId ≤ id) :
    s.transport? id = none ∧ ∀ e, .added id e ∉ es := by
  have hnot (e : Endpoint) : .added id e ∉ es := fun hmem =>
    Nat.not_lt.2 hle (h.added_lt id e hmem)
  refine ⟨?_, hnot⟩
  cases ht : s.transport? id with
  | none => rfl
  | some t => exact absurd (h.held id t ht).1 (hnot t.endpoint)

theorem Counted.added (h : Counted es s) (e : Endpoint) :
    Counted (es ++ [.added s.state.nextId e]) (s.enrol e) := by
  obtain ⟨hnone, hnew⟩ := h.unused (Nat.le_refl s.state.nextId)
  have hget (i : Nat) : (s.enrol e).transport? i =
      if i = s.state.nextId then some (.ofEndpoint e) else s.transport? i := Table.get?_insert ..
  have hself : (s.enrol e).transport? s.state.nextId = some (.ofEndpoint e) := by
    rw [hget, if_pos rfl]
  have hremoved (i : Nat) (x : Endpoint) :
      .removed i x ∈ es ++ [.added s.state.nextId e] ↔ .removed i x ∈ es := by
    simp
  have hcensus : (s.enrol e).state.census = s.state.census.add e.role := by
    refine census_of_erase hself fun i => ?_
    rw [hget]
    split
    · rename_i heq
      rw [heq, hnone]
      rfl
    · rfl
  refine
    { flow := ?_
      added_lt := fun i x hmem => ?_
      same := fun i x x' hmem hmem' => ?_
      held := fun i t ht => ?_
      gone := fun i x hmem hgone => ?_
      removed := fun i x hmem => ?_ }
  · show s.state.flow.add e.role = _
    rw [h.flow, hcensus]
  · show i < s.state.nextId + 1
    rcases List.mem_append.1 hmem with hold | hlast
    · exact Nat.lt_succ_of_lt (h.added_lt i x hold)
    · cases List.mem_singleton.1 hlast
      exact Nat.lt_succ_self _
  · rcases List.mem_append.1 hmem with hold | hlast <;>
      rcases List.mem_append.1 hmem' with hold' | hlast'
    · exact h.same i x x' hold hold'
    · cases List.mem_singleton.1 hlast'
      exact absurd hold (hnew x)
    · cases List.mem_singleton.1 hlast
      exact absurd hold' (hnew x')
    · cases List.mem_singleton.1 hlast
      cases List.mem_singleton.1 hlast'
      rfl
  · rw [hget] at ht
    simp only [hremoved]
    split at ht
    · rename_i heq
      cases ht
      rw [Transport.endpoint_ofEndpoint, heq]
      exact ⟨List.mem_append_right _ (List.mem_singleton_self _), fun x hmem =>
        hnew x (h.removed _ x hmem).1⟩
    · exact ⟨List.mem_append_left _ (h.held i t ht).1, (h.held i t ht).2⟩
  · rw [List.count_append, List.count_singleton]
    have hne : i ≠ s.state.nextId := fun heq => by
      rw [heq, hself] at hgone
      cases hgone
    rw [hget, if_neg hne] at hgone
    rcases List.mem_append.1 hmem with hold | hlast
    · exact h.gone i x hold hgone
    · cases List.mem_singleton.1 hlast
      exact absurd rfl hne
  · obtain ⟨hadded, hgone, hfile⟩ := h.removed i x ((hremoved i x).1 hmem)
    have hne : i ≠ s.state.nextId := fun heq => hnew x (heq ▸ hadded)
    exact ⟨List.mem_append_left _ hadded, by rw [hget, if_neg hne, hgone], hfile⟩

variable [Host σ]

/-- A file that is opened is of the same endpoint as before. -/
theorem Counted.opened {source : Source} {reopens : Bool} {stream : Stream} (h : Counted es s)
    (held : s.transport? id = some t) (file : t.mechanism = .file source reopens)
    (opens : s.openSource source t.role = (.ok stream, s')) :
    Counted es (s'.setTransport id ⟨t.role, 0, .file source (opensAgain source stream)⟩) := by
  have hopen : Retains s (s.openSource source t.role).2 := .of_state rfl
  have ht : (s.openSource source t.role).2.transport? id = some t := held
  rw [opens] at hopen ht
  refine (h.retains hopen).congr (Nat.le_refl _) rfl (map_transport?_setTransport ht ?_)
  rw [Transport.endpoint, Transport.endpoint, file]
  rfl

/-- Either nothing goes, or a file that is not opened again. -/
theorem removals_cases (s : Station σ) (id : Nat) :
    (s.removals id = [] ∧ Retains s (s.ownerClosed id)) ∨
      ∃ t source, s.transport? id = some t ∧ t.mechanism = .file source false ∧
        s.removals id = [.removed id t.endpoint] ∧
        (s.ownerClosed id).state.flow = s.state.flow.remove t.role ∧
        (s.ownerClosed id).state.nextId = s.state.nextId ∧
        ∀ i, (s.ownerClosed id).transport? i = if i = id then none else s.transport? i := by
  cases ht : s.transport? id with
  | none =>
    refine .inl ⟨by rw [removals, ht], retains_ownerClosed fun t ht' => ?_⟩
    rw [ht] at ht'
    cases ht'
  | some t =>
    cases hfinal : t.mechanism.isFinal with
    | false =>
      refine .inl ⟨?_, retains_ownerClosed fun t' ht' => ?_⟩
      · simp only [removals, ht, hfinal, Bool.false_eq_true, if_false]
      · obtain rfl : t = t' := Option.some.inj (ht.symm.trans ht')
        exact hfinal
    | true =>
      obtain ⟨source, hfile⟩ := t.mechanism.isFinal_iff.1 hfinal
      have hclosed : s.ownerClosed id = s.withBus fun b =>
          { b with transports := b.transports.erase id, flow := b.flow.remove t.role } := by
        simp only [ownerClosed, ht, hfile, fileClosed, Bool.false_eq_true, if_false]
      refine .inr ⟨t, source, rfl, hfile, ?_, ?_⟩
      · simp only [removals, ht, hfinal, if_true]
      · rw [hclosed]
        exact ⟨rfl, rfl, fun i => Table.get?_erase ..⟩

/-- What goes when a transport is told goes once. -/
theorem Counted.lost (h : Counted es s) (id : Nat) :
    Counted (es ++ s.removals id) (s.ownerClosed id) := by
  rcases removals_cases s id with
    ⟨hnil, hretains⟩ | ⟨t, source, ht, hfile, hentry, hflow, hid, hget⟩
  · rw [hnil, List.append_nil]
    exact h.retains hretains
  obtain ⟨hadded, hnever⟩ := h.held id t ht
  have hmem {x : Entry} : x ∈ es ++ s.removals id ↔ x ∈ es ∨ x = .removed id t.endpoint := by
    rw [hentry, List.mem_append, List.mem_singleton]
  refine
    { flow := ?_
      added_lt := fun i x hi => ?_
      same := fun i x x' hi hi' => ?_
      held := fun i t' hi => ?_
      gone := fun i x hi hnone => ?_
      removed := fun i x hi => ?_ }
  · have hcensus : s.state.census = (s.ownerClosed id).state.census.add t.role :=
      census_of_erase ht fun i => by
        rw [hget]
        split <;> rfl
    rw [hflow, h.flow, hcensus, Flow.remove_add]
  · exact hid ▸ h.added_lt i x ((hmem.1 hi).resolve_right nofun)
  · exact h.same i x x' ((hmem.1 hi).resolve_right nofun) ((hmem.1 hi').resolve_right nofun)
  · rw [hget] at hi
    split at hi
    · cases hi
    · rename_i hne
      refine ⟨hmem.2 (.inl (h.held i t' hi).1), fun x hx => ?_⟩
      rcases hmem.1 hx with hold | hlast
      · exact (h.held i t' hi).2 x hold
      · cases hlast
        exact hne rfl
  · have hbefore : .added i x ∈ es := (hmem.1 hi).resolve_right nofun
    rw [hentry, List.count_append]
    by_cases heq : i = id
    · subst heq
      obtain rfl : x = t.endpoint := h.same i x t.endpoint hbefore hadded
      rw [List.count_eq_zero.2 (hnever t.endpoint), List.count_singleton_self]
    · rw [hget, if_neg heq] at hnone
      have hother : List.count (.removed i x) [Entry.removed id t.endpoint] = 0 :=
        List.count_eq_zero.2 fun hlast => heq (by cases List.mem_singleton.1 hlast; rfl)
      rw [hother, h.gone i x hbefore hnone]
  · rw [hget]
    rcases hmem.1 hi with hold | hlast
    · obtain ⟨hin, hnone, hof⟩ := h.removed i x hold
      exact ⟨hmem.2 (.inl hin), by rw [hnone, ite_self], hof⟩
    · cases hlast
      exact ⟨hmem.2 (.inl hadded), if_pos rfl, source, congrArg Mechanism.target hfile⟩

/-! ## Ledgers -/

/-- Why a transport is told that it has no stream. -/
inductive Lost : Station σ → Nat → Prop
  /-- Its file could not be opened. -/
  | unopened {s s' : Station σ} {id : Nat} {t : Transport} {source : Source} {reopens : Bool}
      {e : IoError} (held : s.transport? id = some t) (file : t.mechanism = .file source reopens)
      (failed : s.openSource source t.role = (.error e, s')) : Lost s' id
  /-- Its stream could not be attached. -/
  | unattached {s s' : Station σ} {id : Nat} {stream : Stream} {role : Role} {e : Error}
      (failed : s.attach stream role (some id) = (.error e, s')) : Lost s' id
  /-- The last peer on its stream was closed. -/
  | closed {s s' : Station σ} {id peer : Nat} {half : Half} {why : Reason} {key : Key}
      (sound : s.Sound) (on : s.stream? half peer = some (key, some id))
      (last : ¬ (s.close half peer why).Open key (some id))
      (told : s.close half peer why = s'.ownerClosed id) : Lost s' id

/-- Changes one after the other, and the transports that have come and gone in them. -/
inductive Ledger : Station σ → List Entry → Station σ → Prop
  | refl (s : Station σ) : Ledger s [] s
  | retains {s s' s'' : Station σ} {es : List Entry} (h : Ledger s es s') (h' : Retains s' s'') :
      Ledger s es s''
  | opened {s s' s'' : Station σ} {es : List Entry} {id : Nat} {t : Transport} {source : Source}
      {reopens : Bool} {stream : Stream} (h : Ledger s es s') (held : s'.transport? id = some t)
      (file : t.mechanism = .file source reopens)
      (opens : s'.openSource source t.role = (.ok stream, s'')) :
      Ledger s es (s''.setTransport id ⟨t.role, 0, .file source (opensAgain source stream)⟩)
  | added {s s' : Station σ} {es : List Entry} (h : Ledger s es s') (e : Endpoint) :
      Ledger s (es ++ [.added s'.state.nextId e]) (s'.enrol e)
  | lost {s s' : Station σ} {es : List Entry} {id : Nat} (h : Ledger s es s') (h' : Lost s' id) :
      Ledger s (es ++ s'.removals id) (s'.ownerClosed id)

theorem Ledger.trans (h : Ledger s es s') (h' : Ledger s' es' s'') : Ledger s (es ++ es') s'' := by
  induction h' with
  | refl => rwa [List.append_nil]
  | retains _ hretains ih => exact ih.retains hretains
  | opened _ held file opens ih => exact ih.opened held file opens
  | added _ e ih =>
    rw [← List.append_assoc]
    exact ih.added e
  | lost _ hlost ih =>
    rw [← List.append_assoc]
    exact ih.lost hlost

end Station

end Squitter
